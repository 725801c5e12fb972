import VVNZRunner.CommHeap

/-!
The image of Venezia, which holds the injected loader, and the stores of the plugin.

* `InWindow`: the addresses of the image, `IMAGE_MEMSIZE` bytes from `VADDR_VENEZIA_IMAGE` on.
* `spram_misses_iff`: which writes through `vnzBridgeMemcpyToSpram` miss the image; the bound
  `SPRAM_MEMSIZE` that the function checks is not among the conditions.
* `loader_intact_iff`: along a run no store falls into the image, and the loader stays what
  `module_start` made it, exactly if every accepted write to SPRAM misses the image.
-/

namespace VVNZRunner

open ByteMemory Machine

variable {w w' : World} {s : Session}

/-! ### The window -/

/-- The address belongs to the image of Venezia. -/
def InWindow (x : Word) : Prop := InRange vaddrVeneziaImage imageMemsize x

instance (x : Word) : Decidable (InWindow x) := inferInstanceAs (Decidable (InRange _ _ _))

/-- The thunk pointer and the stub are what `module_start` wrote. -/
def LoaderIntact (w : World) : Prop :=
  w.mem.read (vaddrVeneziaImage + thunkPtrInjectAddr) 4 = wordBytes thunkPtrInjectDst ∧
    w.mem.read (vaddrVeneziaImage + injectCodeBaseOffset) injectCode.length = injectCode

instance (w : World) : Decidable (LoaderIntact w) := inferInstanceAs (Decidable (_ ∧ _))

/-- `module_start` makes the loader what it is meant to be. -/
lemma loaderIntact_boot (clock : Word) (mem : Mem) : LoaderIntact (boot clock mem) := by
  have hmem : (boot clock mem).mem =
      (mem.write (vaddrVeneziaImage + thunkPtrInjectAddr) (wordBytes thunkPtrInjectDst)).write
        (vaddrVeneziaImage + injectCodeBaseOffset) injectCode := rfl
  have hlen : injectCode.length = 24 := rfl
  constructor
  · rw [hmem, read_write_disjoint, ← wordBytes_length thunkPtrInjectDst]
    · exact read_write_self (by simp)
    · intro i hi
      have h4 : i < 4 := hi
      rw [hlen]
      interval_cases i <;> decide
  · rw [hmem]
    exact read_write_self (by decide)

/-- The bytes of the loader lie in the image. -/
lemma LoaderIntact.of_window (h : LoaderIntact w)
    (hw : ∀ x, InWindow x → w'.mem x = w.mem x) : LoaderIntact w' := by
  constructor
  · rw [← h.1]
    refine read_congr fun i hi => hw _ ?_
    have h4 : i < 4 := hi
    interval_cases i <;> decide
  · rw [← h.2]
    refine read_congr fun i hi => hw _ ?_
    have h24 : i < 24 := hi
    interval_cases i <;> decide

/-- The event stores nothing in the image. -/
def Event.MissesWindow (e : Event) : Prop :=
  ∀ r ∈ e.kernelStore, ∀ x, InRange r.1 r.2.length x → ¬ InWindow x

/-- No event of the log stores in the image. -/
def NoStoreInWindow (w : World) : Prop := ∀ e ∈ w.trace, e.MissesWindow

lemma Event.missesWindow_of_none {e : Event} (h : e.kernelStore = none) : e.MissesWindow := by
  intro r hr
  rw [h] at hr
  cases hr

lemma noStoreInWindow_of_logs (h : NoStoreInWindow w) (hlogs : Logs Event.MissesWindow w w') :
    NoStoreInWindow w' := by
  obtain ⟨es, hes, hmiss⟩ := hlogs
  intro e he
  rw [hes] at he
  rcases List.mem_append.mp he with he | he
  · exact hmiss e he
  · exact h e he

/-! ### Writes to SPRAM -/

/-- The bytes from `spramOffset` on that miss the image: they end below it, or they start above
it and do not wrap into it. -/
def SpramMisses (spramOffset : Word) (n : ℕ) : Prop :=
  n = 0 ∨ spramOffset.toNat + n ≤ 0x100000 ∨
    0x500000 ≤ spramOffset.toNat ∧ spramOffset.toNat + n ≤ 2 ^ 32 + 0x100000

instance (spramOffset : Word) (n : ℕ) : Decidable (SpramMisses spramOffset n) :=
  inferInstanceAs (Decidable (_ ∨ _))

/-- The image seen from SPRAM. -/
lemma inWindow_iff (x : Word) :
    InWindow x ↔
      0x100000 ≤ (x - vaddrVeneziaSpram).toNat ∧ (x - vaddrVeneziaSpram).toNat < 0x500000 :=
  inRange_add (b := vaddrVeneziaSpram) (o := 0x100000) (by decide)

/-- `SpramMisses` says exactly that no byte falls into the image. -/
theorem spram_misses_iff (spramOffset : Word) (n : ℕ) (hn : n < 2 ^ 32) :
    (∀ x, InRange (vaddrVeneziaSpram + spramOffset) n x → ¬ InWindow x) ↔
      SpramMisses spramOffset n := by
  have hoff := spramOffset.isLt
  have hin : ∀ x, InRange (vaddrVeneziaSpram + spramOffset) n x ↔
      (x - vaddrVeneziaSpram - spramOffset).toNat < n := by
    intro x
    have hsub : x - (vaddrVeneziaSpram + spramOffset) = x - vaddrVeneziaSpram - spramOffset := by
      grind
    rw [InRange, hsub]
  constructor
  · intro h
    by_contra hmiss
    rw [SpramMisses, not_or, not_or, not_and_or, not_le, not_le, not_le] at hmiss
    obtain ⟨hpos, hlow, hhigh⟩ := hmiss
    -- the first byte of the run that lies at or above the image
    have hwit : ∃ d : Word, (d - spramOffset).toNat < n ∧ 0x100000 ≤ d.toNat ∧
        d.toNat < 0x500000 := by
      by_cases hin : 0x100000 ≤ spramOffset.toNat ∧ spramOffset.toNat < 0x500000
      · refine ⟨spramOffset, ?_, hin⟩
        rw [BitVec.sub_self]
        exact Nat.pos_of_ne_zero hpos
      · refine ⟨0x100000#32, ?_, by decide, by decide⟩
        rw [BitVec.toNat_sub]
        have h1 : (0x100000#32).toNat = 0x100000 := rfl
        omega
    obtain ⟨d, hd, hlo, hhi⟩ := hwit
    refine h (vaddrVeneziaSpram + d) ?_ ?_
    · rw [hin, BitVec.add_comm, BitVec.add_sub_cancel]
      exact hd
    · rw [inWindow_iff, BitVec.add_comm, BitVec.add_sub_cancel]
      exact ⟨hlo, hhi⟩
  · intro hmiss x hx
    rw [hin, BitVec.toNat_sub] at hx
    rw [inWindow_iff]
    have hd := (x - vaddrVeneziaSpram).isLt
    rw [SpramMisses] at hmiss
    omega

/-! ### One step -/

/-- Nothing is stored in the image and nothing there changes. -/
structure SparesWindow (w w' : World) : Prop where
  logs : Logs Event.MissesWindow w w'
  mem : ∀ x, InWindow x → w'.mem x = w.mem x

namespace SparesWindow

lemma refl (w : World) : SparesWindow w w := ⟨.refl w, fun _ _ => rfl⟩

lemma trans {u v w : World} (h : SparesWindow u v) (h' : SparesWindow v w) : SparesWindow u w :=
  ⟨h.logs.trans h'.logs, fun x hx => (h'.mem x hx).trans (h.mem x hx)⟩

/-- A store that misses the image. -/
lemma store {a : Word} {bs : List Byte} (h : ∀ x, InRange a bs.length x → ¬ InWindow x)
    (w : World) : SparesWindow w (w.store a bs) := by
  refine ⟨.single ?_ rfl, fun x hx => write_apply_outside fun hin => h x hin hx⟩
  intro r hr
  cases hr
  exact h

end SparesWindow

lemma LeavesMemory.sparesWindow (h : LeavesMemory w w') : SparesWindow w w' :=
  ⟨h.logs.mono fun _ he => Event.missesWindow_of_none he, fun x _ => congrFun h.mem x⟩

/-- The block of the session lies elsewhere. -/
def Session.Apart (s : Session) : Prop :=
  ∀ x, InRange s.kernelBase s.size.toNat x → ¬ InWindow x

lemma Session.Apart.range (h : s.Apart) {o k : ℕ} (hk : o + k ≤ 2 ^ 18) :
    ∀ x, InRange (s.at o) k x → ¬ InWindow x := by
  intro x hx
  refine h x ?_
  rw [s.inRange_at (by omega)] at hx
  have hsize := s.le_size
  rw [InRange]
  omega

/-- What the services promise about the image: blocks are mapped elsewhere in the kernel, and
the program on Venezia leaves it alone. -/
def ServicesSpareImage : Step → Prop
  | .call _ (.vnzBridgeInject _ size) sv =>
      0 < sv.sceKernelUserMap.uid.toInt →
        ∀ x, InRange sv.kernelPage size.toNat x → ¬ InWindow x
  | .call _ (.vnzBridgeExec ..) sv =>
      ∀ arg m x, InWindow x → (sv.sceVeneziaRpcCallGenericThunk arg m).2 x = m x
  | .call _ (.vnzBridgeExecNoSuspend ..) sv =>
      ∀ arg m x, InWindow x → (sv.sceVeneziaRpcCallGenericThunk arg m).2 x = m x
  | _ => True

lemma Event.InHeap.missesWindow {e : Event} (h : e.InHeap s) (hapart : s.Apart) :
    e.MissesWindow := by
  intro r hr x hx
  obtain ⟨k, hk, hle⟩ := Event.kernelRange_of_kernelStore hr
  have hx' : InRange r.1 k x := lt_of_lt_of_le hx hle
  exact hapart x (h _ hk x hx').2

/-- An execution spares the image. -/
lemma sparesWindow_exec (pUserArg userArgSize : Word) (useCoreSuspend : Bool) {sv : Services}
    (h : Consistent w s) (hapart : s.Apart)
    (hrpc : ∀ arg m x, InWindow x → (sv.sceVeneziaRpcCallGenericThunk arg m).2 x = m x) :
    SparesWindow w (vnzBridgeExecCore pUserArg userArgSize useCoreSuspend sv w).2 := by
  refine ⟨?_, fun x hx => ?_⟩
  · exact (exec_logs pUserArg userArgSize useCoreSuspend sv h).mono
      fun e he => he.1.missesWindow hapart
  · refine exec_mem pUserArg userArgSize useCoreSuspend h ?_ fun m => hrpc _ m x hx
    exact fun hin => hapart.range (by omega) x hin hx

/-- An execution without a session spares the image. -/
lemma sparesWindow_exec_of_free (pUserArg userArgSize : Word) (useCoreSuspend : Bool)
    {sv : Services} (h : ¬ w.Registered) :
    SparesWindow w (vnzBridgeExecCore pUserArg userArgSize useCoreSuspend sv w).2 := by
  rw [vnzBridgeExecCore_of_free h]
  exact .refl w

/-- Mapping a block into the kernel spares the image. -/
lemma sparesWindow_afterUserMap {addr size : Word} {sv : Services}
    (hok : 0 < sv.sceKernelUserMap.uid.toInt →
      ∀ x, InRange sv.kernelPage size.toNat x → ¬ InWindow x) (w : World) :
    SparesWindow w (afterUserMap addr size sv w) := by
  refine ⟨.single (Event.missesWindow_of_none rfl) rfl, fun x hx => ?_⟩
  have hno : ¬ (0 < sv.sceKernelUserMap.uid.toInt ∧ InRange sv.kernelPage size.toNat x) :=
    fun h => hok h.1 x h.2 hx
  exact if_neg hno

/-- Setting up the comm heap of a block that lies elsewhere spares the image. -/
lemma sparesWindow_injectComm (hapart : s.Apart) (entry ret : Word) (pid : Pid) (w : World) :
    SparesWindow w (injectComm s.kernelBase entry ret pid w).2 := by
  have h4 : s.kernelBase + commHeapOffset + 4 = s.at 260 := by
    rw [BitVec.add_assoc]
    rfl
  have h8 : s.kernelBase + commHeapOffset + 8 = s.at 264 := by
    rw [BitVec.add_assoc]
    rfl
  have hl : ∀ v : Word, (wordBytes v).length = 4 := fun _ => rfl
  have hstart : SparesWindow w { w with
      commHeapVaddr := s.kernelBase + commHeapOffset
      commHeapPaddr := w.requestedCodeBase + commHeapOffset } :=
    ⟨⟨[], rfl, by simp⟩, fun _ _ => rfl⟩
  have hbase : ∀ v u, SparesWindow u (u.store (s.kernelBase + commHeapOffset) (wordBytes v)) :=
    fun v u => .store (by rw [hl]; exact hapart.range (o := 256) (by omega)) u
  have hentry : ∀ v u,
      SparesWindow u (u.store (s.kernelBase + commHeapOffset + 4) (wordBytes v)) :=
    fun v u => .store (by rw [hl, h4]; exact hapart.range (by omega)) u
  have hsize : ∀ v u,
      SparesWindow u (u.store (s.kernelBase + commHeapOffset + 8) (wordBytes v)) :=
    fun v u => .store (by rw [hl, h8]; exact hapart.range (by omega)) u
  have hstores := ((hstart.trans (hbase w.requestedCodeBase _)).trans (hentry entry _)).trans
    (hsize w.requestedCodeSize _)
  exact hstores.trans ⟨.single (Event.missesWindow_of_none rfl) rfl, fun _ _ => rfl⟩

/-- An injection spares the image. -/
lemma sparesWindow_inject {addr size : Word} (pid : Pid) {sv : Services}
    (hok : 0 < sv.sceKernelUserMap.uid.toInt →
      ∀ x, InRange sv.kernelPage size.toNat x → ¬ InWindow x) (w : World) :
    SparesWindow w (vnzBridgeInject addr size pid sv w).2 := by
  have hmap : SparesWindow w (afterUserMap addr size sv w) := sparesWindow_afterUserMap hok w
  have hvenezia : SparesWindow w (afterVeneziaMap addr size sv w) :=
    hmap.trans ⟨.single (Event.missesWindow_of_none rfl) rfl, fun _ _ => rfl⟩
  have hout := inject_outcome addr size pid sv w
  generalize vnzBridgeInject addr size pid sv w = r at hout ⊢
  cases hout with
  | badArgument hargs => exact .refl w
  | alreadyRegistered hargs hreg => exact .refl w
  | notMapped hargs hfree huid => exact hmap
  | notExecutable hargs hfree huid himage => exact hmap
  | notMappedToVenezia hargs hfree huid himage hret => exact hvenezia
  | wrongBase hargs hfree huid himage hret hbase =>
      exact hvenezia.trans (leavesMemory_unmap addr size 0 sv _).sparesWindow
  | opened hargs hfree huid himage hret hbase =>
      have hacc : InjectAccepted addr size sv w := ⟨hargs, huid, himage, hret, hbase⟩
      have hapart : (openedSession pid addr size sv w hacc).Apart := hok huid
      refine hvenezia.trans (sparesWindow_injectComm hapart _ _ _ _)

/-- Accepted writes to SPRAM miss the image. -/
def SpramWriteMisses : Step → Prop
  | .call _ (.vnzBridgeMemcpyToSpram _ size off) sv =>
      SpramRangeOk size off →
        SpramMisses off (sv.sceKernelCopyFromUser.bytes.take size.toNat).length
  | _ => True

/-- The bytes a write to SPRAM stores do not outnumber the addresses. -/
lemma take_length_lt (bytes : List Byte) (size : Word) :
    (bytes.take size.toNat).length < 2 ^ 32 := by
  have hsize := size.isLt
  rw [List.length_take]
  omega

/-- A write to SPRAM spares the image if its bytes miss it. -/
lemma sparesWindow_memcpyToSpram (src : Word) {size off : Word} {sv : Services}
    (hmiss : SpramRangeOk size off →
      SpramMisses off (sv.sceKernelCopyFromUser.bytes.take size.toNat).length) (w : World) :
    SparesWindow w (vnzBridgeMemcpyToSpram src size off sv w).2 := by
  rw [vnzBridgeMemcpyToSpram]
  split_ifs with hrange
  · have hrun := (spram_misses_iff off _ (take_length_lt _ size)).mpr (hmiss hrange)
    refine ⟨.single ?_ rfl, fun x hx => write_apply_outside fun hin => hrun x hin hx⟩
    intro r hr
    cases hr
    exact hrun
  · exact .refl w

/-- A write to SPRAM that leaves no store in the image misses it. -/
lemma spramWriteMisses_of_noStore {e : Step} (h : NoStoreInWindow (step w e)) :
    SpramWriteMisses e := by
  cases e with
  | call pid c sv =>
      cases c with
      | vnzBridgeMemcpyToSpram src size off =>
          intro hrange
          have hstep : step w (.call pid (.vnzBridgeMemcpyToSpram src size off) sv) =
              w.sceKernelCopyFromUser (vaddrVeneziaSpram + off) src size sv :=
            congrArg Prod.snd (if_pos hrange)
          rw [hstep] at h
          have hmiss : Event.MissesWindow (.sceKernelCopyFromUser (vaddrVeneziaSpram + off) src
              size sv.sceKernelCopyFromUser) := h _ List.mem_cons_self
          refine (spram_misses_iff off _ (take_length_lt _ size)).mp fun x hx => ?_
          exact hmiss (vaddrVeneziaSpram + off, sv.sceKernelCopyFromUser.bytes.take size.toNat)
            rfl x hx
      | _ => trivial
  | _ => trivial

/-- What is kept along a run: the session lies elsewhere, and nothing was stored in the image. -/
structure ImageSpared (t : Tracked) : Prop where
  refines : Refines t.world t.session
  apart : ∀ s ∈ t.session, s.Apart
  noStore : NoStoreInWindow t.world
  loader : LoaderIntact t.world

/-- A step spares the image if the services do and its write to SPRAM does. -/
lemma sparesWindow_step (t : Tracked) (e : Step) (h : ImageSpared t)
    (hok : ServicesSpareImage e) (hmiss : SpramWriteMisses e) :
    SparesWindow t.world (step t.world e) := by
  have hexec : ∀ pUserArg userArgSize useCoreSuspend sv,
      (∀ arg m x, InWindow x → (sv.sceVeneziaRpcCallGenericThunk arg m).2 x = m x) →
      SparesWindow t.world
        (vnzBridgeExecCore pUserArg userArgSize useCoreSuspend sv t.world).2 := by
    intro pUserArg userArgSize useCoreSuspend sv hrpc
    cases hs : t.session with
    | none =>
        exact sparesWindow_exec_of_free pUserArg userArgSize useCoreSuspend (h.refines.free hs)
    | some s =>
        exact sparesWindow_exec pUserArg userArgSize useCoreSuspend (h.refines.consistent hs)
          (h.apart s hs) hrpc
  rcases memory_cases t.world e with ⟨pUserArg, userArgSize, useCoreSuspend, sv, hstep, hexe⟩ |
    ⟨pid, src, size, off, sv, rfl⟩ | ⟨pid, addr, size, sv, rfl⟩ | hleaves
  · rw [hstep]
    cases hexe with
    | exec pid => exact hexec _ _ _ _ hok
    | execNoSuspend pid => exact hexec _ _ _ _ hok
  · exact sparesWindow_memcpyToSpram src hmiss t.world
  · exact sparesWindow_inject pid hok t.world
  · exact hleaves.sparesWindow

lemma imageSpared_step (t : Tracked) (e : Step) (h : ImageSpared t)
    (hok : ServicesSpareImage e ∧ SpramWriteMisses e) : ImageSpared (t.step e) := by
  have hspares := sparesWindow_step t e h hok.1 hok.2
  refine ⟨refines_step e h.refines, ?_, noStoreInWindow_of_logs h.noStore hspares.logs,
    h.loader.of_window hspares.mem⟩
  intro s hs
  rcases nextSession_eq_some hs with hopen | ⟨-, sv, rfl, hacc, heq⟩
  · exact h.apart s hopen
  · have hblock : sv.kernelPage = s.kernelBase := by rw [heq]; rfl
    have hapart := hok.1 hacc.mapped
    rw [hblock] at hapart
    exact hapart

/-! ### Whole runs -/

/-- **The loader is out of reach along a run exactly if every accepted write to SPRAM misses
the image**: then no store of the plugin falls into the image and the thunk pointer and the
stub stay as `module_start` wrote them. -/
theorem loader_intact_iff (clock : Word) (mem : Mem) (es : List Step)
    (hok : ∀ e ∈ es, ServicesSpareImage e) :
    Always step (fun w => NoStoreInWindow w ∧ LoaderIntact w) (boot clock mem) es ↔
      ∀ e ∈ es, SpramWriteMisses e := by
  constructor
  · intro h
    have hsteps : Admissible step (fun _ e => SpramWriteMisses e) (boot clock mem) es :=
      h.steps.mono fun w e he => spramWriteMisses_of_noStore he.1
    exact admissible_iff_forall.mp hsteps
  · intro h
    have hadm : Admissible Tracked.step (fun _ e => ServicesSpareImage e ∧ SpramWriteMisses e)
        (Tracked.boot clock mem) es :=
      admissible_iff_forall.mpr fun e he => ⟨hok e he, h e he⟩
    have hboot : ImageSpared (Tracked.boot clock mem) := by
      refine ⟨boot_not_registered clock mem, ?_, ?_, loaderIntact_boot clock mem⟩
      · intro s hs
        cases hs
      · intro e he
        cases he
    have hall := always_of_invariant imageSpared_step hboot hadm
    have hworld : Always Tracked.step
        (fun t => NoStoreInWindow t.world ∧ LoaderIntact t.world) (Tracked.boot clock mem) es :=
      hall.mono fun t ht => ⟨ht.noStore, ht.loader⟩
    exact (always_comp (f := Tracked.world) (Q := fun w => NoStoreInWindow w ∧ LoaderIntact w)
      fun _ _ => rfl).mp hworld

/-- Process 1 writes four bytes to SPRAM at the offset of the thunk pointer. -/
def thunkPointerWrite : Step :=
  .call samplePid (.vnzBridgeMemcpyToSpram 0x81000000 4 0x1EADF0)
    { sceKernelCopyFromUser := { ret := 0, bytes := [1, 2, 3, 4] } }

/-- A write to SPRAM that is accepted replaces the thunk pointer. -/
theorem thunk_pointer_replaced :
    ret (boot 166 fun _ => 0) thunkPointerWrite = sceOk ∧
      readWord (step (boot 166 fun _ => 0) thunkPointerWrite).mem
        (vaddrVeneziaImage + thunkPtrInjectAddr) = 0x04030201 ∧
      ¬ Always step (fun w => NoStoreInWindow w ∧ LoaderIntact w) (boot 166 fun _ => 0)
        [thunkPointerWrite] := by
  refine ⟨by decide, by decide, fun h => ?_⟩
  have hlast : LoaderIntact (step (boot 166 fun _ => 0) thunkPointerWrite) := h.last.2
  exact absurd hlast (by decide)

/-- The run that replaces the thunk pointer is one with a write that hits the image. -/
theorem loader_intact_iff_thunkPointerWrite :
    Always step (fun w => NoStoreInWindow w ∧ LoaderIntact w) (boot 166 fun _ => 0)
        [thunkPointerWrite] ↔ ∀ e ∈ [thunkPointerWrite], SpramWriteMisses e :=
  loader_intact_iff 166 (fun _ => 0) [thunkPointerWrite] (by
    intro e he
    rw [List.mem_singleton.mp he]
    trivial)

end VVNZRunner
