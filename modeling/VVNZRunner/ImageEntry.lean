import VVNZRunner.BootStub
import VVNZRunner.CallBlock
import VVNZRunner.LoaderWindow

/-!
From `vnzBridgeExecCore` to the entry point of the injected image, through the machine code that
`module_start` left in Venezia's memory.

* `veneziaMemory`: what Venezia sees: its own image, and the injected block from `VRAM_BASE` on.
* `Dispatched`: a core that Venezia starts for a thunk, at the address its thunk table holds.
* `Prepared`, `prepared_run`: the loader and the header of the session are in memory, along a run.
* `exec_enters_image`: an execution makes Venezia call the entry point of the session's image with
  the caller's bytes, whatever was done before.
-/

namespace VVNZRunner

open ByteMemory Machine Mep

variable {w : World} {s : Session}

/-! ### What Venezia sees -/

/-- The image of Venezia: mapped at `VADDR_VENEZIA_IMAGE` here, and there such that the thunk
pointer leads to the stub. -/
def imageWindow : Window 32 :=
  ⟨vaddrVeneziaImage, thunkPtrInjectDst - injectCodeBaseOffset, imageMemsize⟩

/-- The memory of Venezia, for the kernel memory `m`; `rest` is what the plugin does not reach. -/
def veneziaMemory (s : Session) (m rest : Mem) : Mem := imageWindow.view m (s.block.view m rest)

/-- Venezia starts a core for the thunk: at the address that its table holds, with the four words
of the argument, and with a stack that lies neither over the stub nor over the comm heap. -/
structure Dispatched (s : Session) (arg : SceVeneziaThunkArg) (m rest : Mem) (core : Mep.State) :
    Prop where
  mem : core.mem = veneziaMemory s m rest
  pc : core.pc = readWord core.mem (imageWindow.outer + thunkPtrInjectAddr)
  pVThreadProcessingResource : core.regs 1 = arg.pVThreadProcessingResource
  userArg2 : core.regs 2 = arg.userArg2
  userArg3 : core.regs 3 = arg.userArg3
  userArg4 : core.regs 4 = arg.userArg4
  aligned : WordAligned (core.regs sp)
  stackOffStub : ∀ x, InRange core.pc injectCode.length x → ¬ InRange (stubSlot core) 4 x
  stackOffHeap : ∀ x, InRange (vramBase + 256) commHeapSize x → ¬ InRange (stubSlot core) 4 x

/-- The code that the core finds where it starts. -/
def programAt (core : Mep.State) : Program :=
  ⟨core.pc, halfwords (core.mem.read core.pc injectCode.length)⟩

section Memory

variable {m rest : Mem}

/-- The thunk table holds the address of the stub. -/
lemma thunkPointer_veneziaMemory
    (h : m.read (vaddrVeneziaImage + thunkPtrInjectAddr) 4 = wordBytes thunkPtrInjectDst) :
    readWord (veneziaMemory s m rest) (imageWindow.outer + thunkPtrInjectAddr) =
      thunkPtrInjectDst := by
  have hread : (veneziaMemory s m rest).read (imageWindow.outer + BitVec.ofNat 32 0xEADF0) 4 =
      m.read (imageWindow.inner + BitVec.ofNat 32 0xEADF0) 4 :=
    Window.read_view (by decide) (by decide)
  exact readWord_of_read _ (hread.trans h)

/-- At the address of the stub lie its bytes. -/
lemma stub_veneziaMemory
    (h : m.read (vaddrVeneziaImage + injectCodeBaseOffset) injectCode.length = injectCode) :
    (veneziaMemory s m rest).read thunkPtrInjectDst injectCode.length = injectCode := by
  have hread : (veneziaMemory s m rest).read (imageWindow.outer + BitVec.ofNat 32 0xEAE70)
      injectCode.length = m.read (imageWindow.inner + BitVec.ofNat 32 0xEAE70) injectCode.length :=
    Window.read_view (by decide) (by decide)
  exact hread.trans h

/-- A core with a stack at the bottom of memory is one that Venezia may start. -/
lemma exists_dispatched (arg : SceVeneziaThunkArg)
    (h : m.read (vaddrVeneziaImage + thunkPtrInjectAddr) 4 = wordBytes thunkPtrInjectDst) :
    ∃ core, Dispatched s arg m rest core := by
  let core : Mep.State :=
    { mem := veneziaMemory s m rest
      pc := thunkPtrInjectDst
      lp := 0
      regs := fun r => match r with
        | 1 => arg.pVThreadProcessingResource
        | 2 => arg.userArg2
        | 3 => arg.userArg3
        | 4 => arg.userArg4
        | _ => 16 }
  have hslot : ∀ x, InRange (stubSlot core) 4 x → x.toNat < 8 := by
    intro x hx
    have hsp : core.regs sp = 16 := rfl
    have hslot : (16 : Word) + 0xFFFFFFF0 + 4 = 4 := by decide
    rw [stubSlot, hsp, hslot, inRange_iff_of_le (by decide)] at hx
    exact hx.2
  have hpc : thunkPtrInjectDst =
      readWord (veneziaMemory s m rest) (imageWindow.outer + thunkPtrInjectAddr) :=
    (thunkPointer_veneziaMemory h).symm
  refine ⟨core, rfl, hpc, rfl, rfl, rfl, rfl, (by decide : 4 ∣ 16), fun x hx hstack => ?_,
    fun x hx hstack => ?_⟩
  · have hlow := hslot x hstack
    have hstub : thunkPtrInjectDst.toNat = 0x8EAE70 := rfl
    have hx' : InRange thunkPtrInjectDst injectCode.length x := hx
    rw [inRange_iff_of_le (by decide)] at hx'
    omega
  · have hlow := hslot x hstack
    rw [inRange_iff_of_le (by decide)] at hx
    have hheap : (vramBase + 256).toNat = 0x20000100 := rfl
    omega

/-- The start of the block is not hidden behind the image. -/
lemma read_veneziaMemory_block {o k : ℕ} (h : o + k ≤ 768) :
    (veneziaMemory s m rest).read (vramBase + BitVec.ofNat 32 o) k = m.read (s.at o) k := by
  have hblock : (s.block.view m rest).read (vramBase + BitVec.ofNat 32 o) k = m.read (s.at o) k :=
    s.read_block h
  rw [← hblock]
  refine read_congr fun i hi => Window.view_apply_outside ?_
  have haddr : vramBase + BitVec.ofNat 32 o + BitVec.ofNat 32 i =
      imageWindow.outer + BitVec.ofNat 32 (0x1F800000 + o + i) := by
    rw [BitVec.ofNat_add, BitVec.ofNat_add, ← BitVec.add_assoc, ← BitVec.add_assoc]
    rfl
  have hsize : imageWindow.size = 0x400000 := rfl
  rw [haddr, InRange, offset_toNat (by omega), hsize]
  omega

end Memory

/-! ### The stub up to its call -/

/-- Seven steps of the stub lead into `main`. -/
lemma stub_enters {base : Word} (callee : Callee) {core : Mep.State} (hpc : core.pc = base) :
    Mep.run (loaderStub base) callee 7 ⟨core, []⟩ =
      some ⟨callee (mainEntry core), [mainEntry core]⟩ := by
  have hstart : core.pc = (loaderStub base).base + BitVec.ofNat 32 (2 * 0) := by
    rw [hpc]
    simp [loaderStub]
  obtain ⟨hline, hcallpc⟩ : Mep.run (loaderStub base) callee 6 ⟨core, []⟩ =
        some ⟨beforeCall core, []⟩ ∧
      (beforeCall core).pc = (loaderStub base).base + BitVec.ofNat 32 (2 * 7) :=
    run_line codeAt_stubEnter (by decide) hstart (by decide)
  have hcall : (loaderStub base).instrAt (beforeCall core).pc = some (.jsr 0) := by
    rw [hcallpc, Program.instrAt_base (by decide)]
    exact decodeAt_stubCall
  exact run_trans hline (run_one (step_jsr hcall))

/-- What lies off the stub's stack slot is as the stub found it. -/
lemma read_mainEntry {core : Mep.State} (haligned : WordAligned (core.regs sp)) {a : Word} {k : ℕ}
    (hk : k ≤ 2 ^ 32) (hoff : ∀ x, InRange a k x → ¬ InRange (stubSlot core) 4 x) :
    (mainEntry core).mem.read a k = core.mem.read a k := by
  have hmem : (mainEntry core).mem = core.mem.write (stubSlot core) (wordBytes core.lp) := by
    rw [mainEntry, exec, beforeCall_mem haligned]
  rw [hmem]
  exact read_congr_of_inRange hk fun x hx => write_apply_outside (hoff x hx)

/-! ### Along a run -/

/-- What a run leaves in memory for the executions to come. -/
structure Prepared (w : World) (s : Session) : Prop where
  consistent : Consistent w s
  apart : s.Apart
  loader : LoaderIntact w
  header : HeaderInMemory w.mem s

/-- The step leaves alone what an execution relies on: blocks are mapped off Venezia's image,
accepted writes to SPRAM miss it and the header, and so do the programs on Venezia. -/
def SparesPrepared (t : Tracked) (e : Step) : Prop :=
  (ServicesSpareImage e ∧ SpramWriteMisses e) ∧ SparesHeader t e

/-- **Along every run** the loader and the header of the session stay in memory. -/
theorem prepared_run {clock : Word} {mem : Mem} {es : List Step}
    (hok : Admissible Tracked.step SparesPrepared (Tracked.boot clock mem) es)
    (hs : (run Tracked.step (Tracked.boot clock mem) es).session = some s) :
    Prepared (run step (boot clock mem) es) s := by
  obtain ⟨himage, hheader⟩ := admissible_and.mp hok
  have hboot : ImageSpared (Tracked.boot clock mem) :=
    ⟨boot_not_registered clock mem, nofun, nofun, loaderIntact_boot clock mem⟩
  have hspared : ImageSpared (run Tracked.step (Tracked.boot clock mem) es) :=
    (always_of_invariant imageSpared_step hboot himage).last
  obtain ⟨hcons, hmem⟩ := headerInMemory_of_session hheader hs
  have hloader := hspared.loader
  rw [Tracked.run_world] at hloader
  exact ⟨hcons, hspared.apart s hs, hloader, hmem⟩

section Exec

variable {pUserArg n : Word} {useCoreSuspend : Bool} {sv : Services} {rest : Mem}
  {core : Mep.State}

/-- Memory at the RPC, off the argument bytes. -/
lemma afterRequest_mem_apply (h : Consistent w s) (hsize : pUserArg ≠ 0 → n.toNat ≤ 500)
    {x : Word} (hx : ¬ InRange (s.at 268) 500 x) :
    (afterRequest pUserArg n useCoreSuspend sv w).mem x = w.mem x := by
  rw [afterRequest_mem]
  exact afterCopyIn_mem h hsize hx

/-- Setting up the request leaves the loader where it was. -/
lemma Prepared.loader_afterRequest (h : Prepared w s) (hsize : pUserArg ≠ 0 → n.toNat ≤ 500) :
    LoaderIntact (afterRequest pUserArg n useCoreSuspend sv w) :=
  h.loader.of_window fun x hx =>
    afterRequest_mem_apply h.consistent hsize fun hin => h.apart.range (by omega) x hin hx

/-- Setting up the request leaves the header where it was. -/
lemma Prepared.header_afterRequest (h : Prepared w s) (hsize : pUserArg ≠ 0 → n.toNat ≤ 500) :
    HeaderInMemory (afterRequest pUserArg n useCoreSuspend sv w).mem s :=
  h.header.congr fun _ hx =>
    afterRequest_mem_apply h.consistent hsize (not_inRange_args_of_header hx le_rfl)

/-- A core that is started for the RPC finds the stub. -/
lemma Prepared.programAt (h : Prepared w s) (hsize : pUserArg ≠ 0 → n.toNat ≤ 500)
    {arg : SceVeneziaThunkArg}
    (hcore : Dispatched s arg (afterRequest pUserArg n useCoreSuspend sv w).mem rest core) :
    core.mem.read core.pc injectCode.length = injectCode ∧
      programAt core = loaderStub core.pc := by
  have hloader : LoaderIntact (afterRequest pUserArg n useCoreSuspend sv w) :=
    h.loader_afterRequest hsize
  have hpc : core.pc = thunkPtrInjectDst := by
    rw [hcore.pc, hcore.mem]
    exact thunkPointer_veneziaMemory hloader.1
  have hstub : core.mem.read core.pc injectCode.length = injectCode := by
    rw [hpc, hcore.mem]
    exact stub_veneziaMemory hloader.2
  refine ⟨hstub, ?_⟩
  rw [VVNZRunner.programAt, hstub]
  rfl

/-- What `main` finds in the comm heap. -/
lemma Dispatched.read_heap {arg : SceVeneziaThunkArg} {m : Mem}
    (h : Dispatched s arg m rest core) {o k : ℕ} (ho : 256 ≤ o) (hk : o + k ≤ 768) :
    (mainEntry core).mem.read (vramBase + BitVec.ofNat 32 o) k = m.read (s.at o) k := by
  have hheap : ∀ x, InRange (vramBase + BitVec.ofNat 32 o) k x →
      InRange (vramBase + 256) commHeapSize x := by
    intro x hx
    rw [inRange_add (by omega)] at hx
    refine (inRange_add (b := vramBase) (o := 256) (by decide)).mpr ?_
    rw [commHeapSize]
    omega
  rw [read_mainEntry h.aligned (by omega) fun x hx => h.stackOffHeap x (hheap x hx), h.mem]
  exact read_veneziaMemory_block hk

/-- The call that is made on a memory with the header of the session. -/
lemma callOf_dispatched (hcons : Consistent w s) {m : Mem} (hheader : HeaderInMemory m s)
    (hcore : Dispatched s (execThunkArg pUserArg n sv w) m rest core) :
    callOf (mainEntry core) =
      { main := vramBase + s.entry
        pVThreadProcessingResource := sv.sceVeneziaGetVThreadProcessingResource
        pUserArg := if pUserArg ≠ 0 then vramBase + 268 else 0
        userArgSize := n
        pCommParam := vramBase + 256 } := by
  have hcomm : core.regs 4 = vramBase + 256 := hcore.userArg4.trans hcons.commHeapPaddr
  have hread : core.mem.read (vramBase + 256) 12 = s.commParam := by
    rw [hcore.mem]
    exact (read_veneziaMemory_block (o := 256) (by omega)).trans hheader
  obtain ⟨hbase, hentry, -⟩ := readWord_three hread
  have halign : WordAligned (core.regs 4) := by
    rw [hcomm]
    decide
  have hargs : (if pUserArg ≠ 0 then w.commHeapPaddr + 12 else 0) =
      if pUserArg ≠ 0 then vramBase + 268 else 0 := by
    rw [hcons.commHeapPaddr, BitVec.add_assoc]
    rfl
  rw [callOf_mainEntry halign, bootStart, hcomm, hbase, hentry, hcore.pVThreadProcessingResource,
    hcore.userArg2, hcore.userArg3, ← hargs]
  rfl

end Exec

/-- **An execution enters the image of the session**: in every reachable state with a session `s`
the RPC is made with an argument `arg` on a memory `m` such that Venezia can start a core for it,
and every such core finds the stub, and calls the entry point of the image of `s` with the vthread resource, the
caller's bytes or null, their number, and the header of `s`; the stub is still there to return
to. -/
theorem exec_enters_image (clock : Word) (mem : Mem) (es : List Step)
    (hok : Admissible Tracked.step SparesPrepared (Tracked.boot clock mem) es) (s : Session)
    (hs : (run Tracked.step (Tracked.boot clock mem) es).session = some s)
    (pUserArg n : Word) (hsize : pUserArg ≠ 0 → n.toNat ≤ 500) (useCoreSuspend : Bool)
    (sv : Services) (hlock : useCoreSuspend → 0 ≤ sv.sceVeneziaLockProcessSuspend.toInt)
    (user : Mem) (hin : sv.sceKernelCopyFromUser.bytes = user.read pUserArg n.toNat) :
    ∃ arg m, (∀ rpc, (vnzBridgeExecCore pUserArg n useCoreSuspend
          { sv with sceVeneziaRpcCallGenericThunk := rpc } (run step (boot clock mem) es)).1 =
        (rpc arg m).1) ∧
      (∀ rest, ∃ core, Dispatched s arg m rest core) ∧
      ∀ rest core callee, Dispatched s arg m rest core →
        ∃ entry, Mep.run (programAt core) callee 7 ⟨core, []⟩ = some ⟨callee entry, [entry]⟩ ∧
          callOf entry =
            { main := vramBase + s.entry
              pVThreadProcessingResource := sv.sceVeneziaGetVThreadProcessingResource
              pUserArg := if pUserArg ≠ 0 then vramBase + 268 else 0
              userArgSize := n
              pCommParam := vramBase + 256 } ∧
          entry.mem.read (vramBase + 256) 12 = s.commParam ∧
          (pUserArg ≠ 0 →
            entry.mem.read (vramBase + 268) n.toNat = user.read pUserArg n.toNat) ∧
          entry.mem.read core.pc injectCode.length = injectCode := by
  have hprep : Prepared (run step (boot clock mem) es) s := prepared_run hok hs
  generalize run step (boot clock mem) es = w at hprep ⊢
  have hcons := hprep.consistent
  refine ⟨execThunkArg pUserArg n sv w, (afterRequest pUserArg n useCoreSuspend sv w).mem,
    fun rpc => ?_, fun _ => exists_dispatched _ (hprep.loader_afterRequest hsize).1,
    fun rest core callee hcore => ?_⟩
  · have hran : vnzBridgeExecCore pUserArg n useCoreSuspend
        { sv with sceVeneziaRpcCallGenericThunk := rpc } w = _ :=
      vnzBridgeExecCore_ran hcons.registered hsize fun hfail =>
        absurd (hlock hfail.1) (not_le.mpr hfail.2)
    exact congrArg Prod.fst hran
  · have hheader : HeaderInMemory (afterRequest pUserArg n useCoreSuspend sv w).mem s :=
      hprep.header_afterRequest hsize
    obtain ⟨hstub, hprogram⟩ := hprep.programAt hsize hcore
    refine ⟨mainEntry core, hprogram ▸ stub_enters callee rfl, callOf_dispatched hcons hheader hcore,
      (hcore.read_heap le_rfl (by omega)).trans hheader, fun harg => ?_,
      (read_mainEntry hcore.aligned (by decide) hcore.stackOffStub).trans hstub⟩
    have h500 := hsize harg
    have hread : (mainEntry core).mem.read (vramBase + BitVec.ofNat 32 268) n.toNat = _ :=
      hcore.read_heap (by omega) (by omega)
    have hlen : (user.read pUserArg n.toNat).length = n.toNat := read_length _ _ _
    refine hread.trans ?_
    rw [afterRequest_args hcons harg hin, read_write_take hlen.ge (by omega)]
    exact List.take_of_length_le hlen.le

/-- The sample injection is mapped off the image. -/
lemma sparesPrepared_acceptedInject :
    Admissible Tracked.step SparesPrepared (Tracked.boot 166 fun _ => 0) [acceptedInject] := by
  refine ⟨⟨⟨fun _ x hx hwindow => ?_, trivial⟩, trivial⟩, trivial⟩
  rw [inRange_iff_of_le (by decide)] at hx
  rw [InWindow, inRange_iff_of_le (by decide)] at hwindow
  have hpage : acceptingServices.kernelPage.toNat + (0x40000 : Word).toNat ≤
    vaddrVeneziaImage.toNat := by decide
  omega

theorem exec_enters_image_sampleSession :
    ∃ arg m, (∀ rpc, (vnzBridgeExecCore 0x81100000 4 true
          { sampleAnswers with sceVeneziaRpcCallGenericThunk := rpc }
          (run step (boot 166 fun _ => 0) [acceptedInject])).1 = (rpc arg m).1) ∧
      (∀ rest, ∃ core, Dispatched sampleSession arg m rest core) ∧
      ∀ rest core callee, Dispatched sampleSession arg m rest core →
        ∃ entry, Mep.run (programAt core) callee 7 ⟨core, []⟩ = some ⟨callee entry, [entry]⟩ ∧
          callOf entry =
            { main := vramBase + sampleSession.entry
              pVThreadProcessingResource := sampleAnswers.sceVeneziaGetVThreadProcessingResource
              pUserArg := if (0x81100000 : Word) ≠ 0 then vramBase + 268 else 0
              userArgSize := 4
              pCommParam := vramBase + 256 } ∧
          entry.mem.read (vramBase + 256) 12 = sampleSession.commParam ∧
          ((0x81100000 : Word) ≠ 0 → entry.mem.read (vramBase + 268) (4 : Word).toNat =
            sampleUser.read 0x81100000 (4 : Word).toNat) ∧
          entry.mem.read core.pc injectCode.length = injectCode :=
  exec_enters_image 166 (fun _ => 0) [acceptedInject] sparesPrepared_acceptedInject sampleSession
    (by decide) 0x81100000 4 (fun _ => by decide) true sampleAnswers (fun _ => by decide)
    sampleUser (by decide)

end VVNZRunner
