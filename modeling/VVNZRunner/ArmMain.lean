import VVNZRunner.ImageBounds
import VVNZRunner.Util

/-!
`init` and `term` of `arm_sample_hello_draw` against the plugin, and what `init` makes of the file
that it loads.

* `Client`: the process of the sample with the plugin. `init`, `term`: the functions.
* `ElfAccepted`: the files whose image is taken, a condition on the bytes of the file alone.
  `imageAccepted_iff`: it is what the checks read wherever the image is mapped.
* `HoldsFile`: a session whose block holds the file.
* `init_opens_iff`: `init` opens a session exactly if the file is one of these and fits, and
  Venezia finds the bytes of the file as long as the steps in between leave them alone.
-/

namespace VVNZRunner

namespace ArmSample

open ByteMemory Machine

/-! ### The functions -/

/-- The process of the sample with the plugin, and its static variables `s_codeMem` and
`s_fbMemory`. -/
structure Client where
  tracked : Tracked
  process : Process
  codeMem : Word := 0
  fbMemory : Fin 2 → Word := fun _ => 0

/-- Call the plugin. -/
def Client.call (e : Step) (t : Client) : Word × Client :=
  (ret t.tracked.world e, { t with tracked := t.tracked.step e })

/-- The kernel mapping of a block of the process shows the memory of the process. -/
def showsUserMemory (user : Mem) (vaddr : Word) (sv : Services) : Services :=
  { sv with
    sceKernelUserMap := { sv.sceKernelUserMap with content := fun x => user (vaddr + x) } }

/-- `init`. What the local `codeMemSize` holds before it is written is a parameter. -/
def init (pid : Pid) (codeMemSize : Word) (ans : SystemAnswers) (sv : Services) (t : Client) :
    Word × Client :=
  let (err, codeMem, size, process) :=
    loadMepElf (some "app0:mep_code.elf") (some t.codeMem) (some codeMemSize) ans t.process
  let t := { t with codeMem := codeMem.getD t.codeMem, process := process }
  if err ≠ sceOk then (err, t)
  else
    t.call (.call pid (.vnzBridgeInject t.codeMem (size.getD codeMemSize))
      (showsUserMemory t.process.user t.codeMem sv))

/-- `term`. -/
def term (pid : Pid) (ans : SystemAnswers) (sv : Services) (t : Client) : Word × Client :=
  let (err, t) := t.call (.call pid .vnzBridgeRestore sv)
  if err ≠ sceOk then (err, t)
  else
    let (err, process) := unloadMepElf t.codeMem ans t.process
    (err, { t with process := process })

/-! ### Images wherever they lie -/

/-- The bytes of a file, and `0` behind them. -/
def fileMem (file : List Byte) : Mem := fun x => file.getD x.toNat 0

/-- `e_ident` matches and some section header has the type `SHT_PROGBITS`. -/
def ElfAccepted (file : List Byte) : Prop :=
  IdentMatches (fileMem file) 0 ∧
    ∃ i < (ehdrShnum (fileMem file) 0).toNat, IsProgbits (fileMem file) 0 i

instance (file : List Byte) : Decidable (ElfAccepted file) :=
  inferInstanceAs (Decidable (_ ∧ _))

/-- `m` shows the first `size` bytes of `m₀` from `hdr` on. -/
def ShowsAt (m m₀ : Mem) (hdr size : Word) : Prop :=
  ∀ o < size.toNat, m (hdr + BitVec.ofNat 32 o) = m₀ (BitVec.ofNat 32 o)

section Relocate

variable {m m₀ : Mem} {hdr size : Word}

lemma ShowsAt.read (h : ShowsAt m m₀ hdr size) {o k : ℕ} (hle : o + k ≤ size.toNat) :
    m.read (hdr + BitVec.ofNat 32 o) k = m₀.read (0 + BitVec.ofNat 32 o) k := by
  refine List.map_congr_left fun i hi => ?_
  have hlt := List.mem_range.mp hi
  have hzero : (0 : Word) + BitVec.ofNat 32 (o + i) = BitVec.ofNat 32 (o + i) := BitVec.zero_add _
  rw [BitVec.add_assoc, BitVec.add_assoc, ← BitVec.ofNat_add, hzero]
  exact h (o + i) (by omega)

lemma ShowsAt.readWord (h : ShowsAt m m₀ hdr size) {o : ℕ} (hle : o + 4 ≤ size.toNat) :
    readWord m (hdr + BitVec.ofNat 32 o) = readWord m₀ (0 + BitVec.ofNat 32 o) :=
  readWord_of_read _ ((h.read hle).trans (wordBytes_readWord _ _).symm)

lemma ShowsAt.readHalf (h : ShowsAt m m₀ hdr size) {o : ℕ} (hle : o + 2 ≤ size.toNat) :
    readHalf m (hdr + BitVec.ofNat 32 o) = readHalf m₀ (0 + BitVec.ofNat 32 o) := by
  have hread := h.read hle
  rw [read_two, read_two] at hread
  simp only [List.cons.injEq, and_true] at hread
  rw [ByteMemory.readHalf, ByteMemory.readHalf, hread.1, hread.2]

/-- The section headers lie at the same distances. -/
lemma ShowsAt.shdrDist (h : ShowsAt m m₀ hdr size) (hsize : 2 ^ 18 ≤ size.toNat) (i : ℕ) :
    shdrDist m hdr i = shdrDist m₀ 0 i := by
  have hoff : ehdrShoff m hdr = ehdrShoff m₀ 0 := h.readWord (o := 32) (by omega)
  have hent : ehdrShentsize m hdr = ehdrShentsize m₀ 0 := h.readHalf (o := 46) (by omega)
  rw [VVNZRunner.shdrDist, VVNZRunner.shdrDist, hoff, hent]

lemma ShowsAt.shnum (h : ShowsAt m m₀ hdr size) (hsize : 2 ^ 18 ≤ size.toNat) :
    ehdrShnum m hdr = ehdrShnum m₀ 0 :=
  h.readHalf (o := 48) (by omega)

/-- A table inside the block is one wherever the image lies. -/
lemma ShowsAt.tableInside (h : ShowsAt m m₀ hdr size) (hsize : 2 ^ 18 ≤ size.toNat) :
    TableInside m hdr size ↔ TableInside m₀ 0 size := by
  have hoff : ehdrShoff m hdr = ehdrShoff m₀ 0 := h.readWord (o := 32) (by omega)
  have hent : ehdrShentsize m hdr = ehdrShentsize m₀ 0 := h.readHalf (o := 46) (by omega)
  rw [TableInside, TableInside, h.shnum hsize, hoff, hent]

/-- The type of a section whose header lies in the block. -/
lemma ShowsAt.isProgbits (h : ShowsAt m m₀ hdr size) (hsize : 2 ^ 18 ≤ size.toNat) {i : ℕ}
    (hinside : (VVNZRunner.shdrDist m₀ 0 i).toNat + 8 ≤ size.toNat) :
    IsProgbits m hdr i ↔ IsProgbits m₀ 0 i := by
  have hdist : ∀ (m : Mem) (hdr : Word), shdrAddr m hdr i + 4 =
      hdr + BitVec.ofNat 32 ((VVNZRunner.shdrDist m hdr i).toNat + 4) := by
    intro m hdr
    rw [BitVec.ofNat_add, BitVec.ofNat_toNat, BitVec.setWidth_eq, shdrAddr_eq, BitVec.add_assoc]
    rfl
  have hword := h.readWord (o := (VVNZRunner.shdrDist m₀ 0 i).toNat + 4) (by omega)
  rw [IsProgbits, IsProgbits, shdrType, shdrType, hdist, hdist, h.shdrDist hsize, hword]

/-- **The checks read the image, wherever it lies**: the image that is mapped at `hdr` passes
exactly if some header of the file has the type `SHT_PROGBITS`. -/
theorem imageAccepted_iff {file : List Byte} (h : ShowsAt m (fileMem file) hdr size)
    (hsize : 2 ^ 18 ≤ size.toNat) (hblock : BlockAt hdr size)
    (htable : TableInside (fileMem file) 0 size) : ImageAccepted m hdr ↔ ElfAccepted file := by
  have hident : IdentMatches m hdr ↔ IdentMatches (fileMem file) 0 := by
    have hread := h.read (o := 0) (k := 7) (by omega)
    rw [BitVec.add_zero, BitVec.add_zero] at hread
    rw [IdentMatches, IdentMatches, hread]
  have htable' : TableInside m hdr size := (h.tableInside hsize).mpr htable
  rw [ImageAccepted, ElfAccepted, hident, findSection_ne_zero_iff hblock htable', h.shnum hsize]
  refine and_congr_right fun _ => exists_congr fun i => and_congr_right fun hi => ?_
  refine h.isProgbits hsize ?_
  have hend := htable i hi
  have hmax := size.isLt
  rw [shdrDist_toNat, Nat.mod_eq_of_lt (by omega)]
  omega

end Relocate

/-! ### What `init` loads -/

/-- The system serves the file: it opens it, tells its length, gives a block, and reads as much as
it is asked for. -/
structure Serves (ans : SystemAnswers) (file : List Byte) : Prop where
  opened : 0 < ans.sceIoOpen.toInt
  length : ans.sceIoLseek .seekEnd = BitVec.ofNat 64 file.length
  base : ans.blockBase ≠ 0
  bytes : ans.sceIoRead = file.take ans.fileSize.toNat

/-- What is read of the file, whose length is cut to 32 bits. -/
def loadedPart (file : List Byte) : List Byte := file.take (file.length % 2 ^ 32)

/-- The size of the block for the file. -/
def blockFor (file : List Byte) : Word := align (BitVec.ofNat 32 file.length) sceKernel256KiB

/-- The kernel maps the block, and Venezia maps it where the plugin asks for it. -/
structure Grants (sv : Services) (size : Word) (w : World) : Prop where
  mapped : 0 < sv.sceKernelUserMap.uid.toInt
  block : BlockAt sv.kernelPage size
  mappedToVenezia : 0 ≤ sv.sceAvcodecMapMemoryToVenezia.ret.toInt
  base : sv.codeBase w.requestedCodeBase = vramBase

@[simp] lemma loadedPart_length (file : List Byte) :
    (loadedPart file).length = file.length % 2 ^ 32 := by
  rw [loadedPart, List.length_take]
  exact min_eq_left (Nat.mod_le _ _)

section Init

variable {ans : SystemAnswers} {file : List Byte} {sv : Services} {w : World} {t : Client}

lemma Serves.fileSize (h : Serves ans file) : ans.fileSize = BitVec.ofNat 32 file.length := by
  rw [SystemAnswers.fileSize, h.length]
  refine BitVec.eq_of_toNat_eq ?_
  rw [BitVec.truncate_eq_setWidth, BitVec.toNat_setWidth, BitVec.toNat_ofNat, BitVec.toNat_ofNat]
  omega

lemma Serves.blockSize (h : Serves ans file) : ans.blockSize = blockFor file := by
  rw [SystemAnswers.blockSize, h.fileSize, blockFor]

lemma Serves.read (h : Serves ans file) :
    ans.sceIoRead.take ans.fileSize.toNat = loadedPart file := by
  rw [h.bytes, h.fileSize, BitVec.toNat_ofNat, List.take_take, min_self, loadedPart]

/-- A file has a block exactly if it is neither empty nor too long. -/
lemma blockFor_ne_zero_iff (file : List Byte) : blockFor file ≠ 0 ↔
    0 < (loadedPart file).length ∧ (loadedPart file).length ≤ 2 ^ 32 - 2 ^ 18 := by
  rw [blockFor, align_ne_zero_iff, BitVec.toNat_ofNat, loadedPart_length]

/-- The load of a file that the system serves. -/
lemma loadMepElf_of_serves (h : Serves ans file) (path : String) (vaddr mbSize : Word)
    (t : Process) :
    loadMepElf (some path) (some vaddr) (some mbSize) ans t =
      (sceOk, some ans.blockBase, some (blockFor file), afterLoad path ans t) := by
  have hout := load_outcome path ans t vaddr mbSize
  rw [← h.blockSize]
  generalize loadMepElf (some path) (some vaddr) (some mbSize) ans t = r at hout ⊢
  cases hout with
  | notOpened hfd => exact absurd h.opened (by omega)
  | noMemory hfd hbase => exact absurd hbase h.base
  | loaded hfd hbase => rfl

/-- The process behind the load of `init`. -/
def loadedProcess (ans : SystemAnswers) (t : Client) : Process :=
  afterLoad "app0:mep_code.elf" ans t.process

/-- The answers of the plugin's services to `init`. -/
def initServices (ans : SystemAnswers) (sv : Services) (t : Client) : Services :=
  showsUserMemory (loadedProcess ans t).user ans.blockBase sv

/-- `init` injects the file that it has loaded. -/
lemma init_of_serves (h : Serves ans file) (pid : Pid) (codeMemSize : Word) (sv : Services)
    (t : Client) :
    init pid codeMemSize ans sv t =
      Client.call (.call pid (.vnzBridgeInject ans.blockBase (blockFor file))
          (initServices ans sv t))
        { t with codeMem := ans.blockBase, process := loadedProcess ans t } := by
  rw [init, loadMepElf_of_serves h]
  rfl

/-- The kernel mapping shows the file, and `0` behind it. -/
lemma showsAt_imageMem (h : Serves ans file) (hgrants : Grants sv (blockFor file) w) (t : Client) :
    ShowsAt (imageMem ans.blockBase (blockFor file) (initServices ans sv t) w)
      (fileMem (loadedPart file)) sv.kernelPage (blockFor file) := by
  intro o ho
  have hsize := (blockFor file).isLt
  have hin : InRange sv.kernelPage (blockFor file).toNat (sv.kernelPage + BitVec.ofNat 32 o) :=
    inRange_offset ho (by omega)
  have hoffset : sv.kernelPage + BitVec.ofNat 32 o - sv.kernelPage = BitVec.ofNat 32 o := by
    rw [BitVec.add_comm, BitVec.add_sub_cancel]
  have hmem : imageMem ans.blockBase (blockFor file) (initServices ans sv t) w
        (sv.kernelPage + BitVec.ofNat 32 o) =
      (loadedProcess ans t).user (ans.blockBase +
        (sv.kernelPage + BitVec.ofNat 32 o - sv.kernelPage)) :=
    if_pos ⟨hgrants.mapped, hin⟩
  rw [hmem, hoffset, loadedProcess, afterLoad_user (by rw [h.blockSize]; exact ho), h.read, fileMem,
    BitVec.toNat_ofNat, Nat.mod_eq_of_lt (by omega)]

/-- **The injection that `init` makes is accepted** exactly if the file is taken and fits. -/
lemma injectAccepted_iff (h : Serves ans file) (hgrants : Grants sv (blockFor file) w)
    (htable : TableInside (fileMem (loadedPart file)) 0 (blockFor file)) (t : Client) :
    InjectAccepted ans.blockBase (blockFor file) (initServices ans sv t) w ↔
      ElfAccepted (loadedPart file) ∧ (loadedPart file).length ≤ 2 ^ 32 - 2 ^ 18 := by
  have hshows := showsAt_imageMem h hgrants t
  constructor
  · intro hacc
    obtain ⟨-, hmax⟩ := (blockFor_ne_zero_iff file).mp hacc.args.2.1
    exact ⟨(imageAccepted_iff hshows (size_bounds hacc.args).1 hgrants.block htable).mp hacc.image,
      hmax⟩
  · rintro ⟨helf, hmax⟩
    have hpos : 0 < (loadedPart file).length := by
      refine List.length_pos_of_ne_nil fun hnil => ?_
      rw [hnil] at helf
      exact absurd helf.1 (by decide)
    have hargs : InjectArgsOk ans.blockBase (blockFor file) :=
      ⟨h.base, (blockFor_ne_zero_iff file).mpr ⟨hpos, hmax⟩, align_aligned _⟩
    exact ⟨hargs, hgrants.mapped,
      (imageAccepted_iff hshows (size_bounds hargs).1 hgrants.block htable).mpr helf,
      hgrants.mappedToVenezia, hgrants.base⟩

end Init

/-! ### What Venezia finds -/

/-- The byte at `x` belongs to the program: it lies in the block, off the comm heap. -/
def ProgramByte (s : Session) (x : Word) : Prop :=
  InRange s.kernelBase s.size.toNat x ∧ ¬ InRange (s.at 256) commHeapSize x

/-- The block of the session holds the file, where Venezia sees it: from `VRAM_BASE` on, with `0`
behind it, but for the comm heap. -/
def HoldsFile (w : World) (s : Session) (file : List Byte) : Prop :=
  ∀ o < s.size.toNat, (o < 256 ∨ 768 ≤ o) → ∀ rest,
    s.block.view w.mem rest (vramBase + BitVec.ofNat 32 o) = file.getD o 0

/-- The step leaves the program of the session alone: it does not end the session, a write to SPRAM
misses the program, and what runs on Venezia does not change it. -/
def SparesProgram (s : Session) (t : Tracked) : Step → Prop
  | .call _ (.vnzBridgeMemcpyToSpram _ size off) sv =>
      SpramRangeOk size off → ∀ x, ProgramByte s x →
        ¬ InRange (vaddrVeneziaSpram + off)
          (sv.sceKernelCopyFromUser.bytes.take size.toNat).length x
  | .call _ (.vnzBridgeExec pUserArg userArgSize) sv
  | .call _ (.vnzBridgeExecNoSuspend pUserArg userArgSize) sv =>
      ∀ x, ProgramByte s x → ∀ m,
        (sv.sceVeneziaRpcCallGenericThunk (execThunkArg pUserArg userArgSize sv t.world) m).2 x =
          m x
  | e => ¬ EndsSession (some s) e

section Program

variable {w : World} {s : Session} {t : Tracked} {e : Step} {file : List Byte}

lemma SparesProgram.not_ends (h : SparesProgram s t e) : ¬ EndsSession (some s) e := by
  cases e with
  | call pid c sv =>
      cases c with
      | vnzBridgeRestore => exact h
      | _ => exact id
  | _ => exact h

lemma SparesProgram.rpc (h : SparesProgram s t e) {pUserArg userArgSize : Word}
    {useCoreSuspend : Bool} {sv : Services} (he : e.IsExec pUserArg userArgSize useCoreSuspend sv)
    {x : Word} (hx : ProgramByte s x) (m : Mem) :
    (sv.sceVeneziaRpcCallGenericThunk (execThunkArg pUserArg userArgSize sv t.world) m).2 x =
      m x := by
  cases he with
  | exec pid => exact h x hx m
  | execNoSuspend pid => exact h x hx m

/-- The argument bytes are no part of the program. -/
lemma ProgramByte.not_args {x : Word} (h : ProgramByte s x) : ¬ InRange (s.at 268) 500 x := by
  have hheap := h.2
  rw [s.inRange_at (by decide)] at hheap ⊢
  rw [commHeapSize] at hheap
  omega

/-- Such a step keeps every byte of the program. -/
lemma programByte_step (hcons : Consistent t.world s) (hok : SparesProgram s t e) {x : Word}
    (hx : ProgramByte s x) : (step t.world e).mem x = t.world.mem x := by
  rcases stays_cases e hcons with ⟨pUserArg, userArgSize, useCoreSuspend, sv, hw, he⟩ |
    ⟨pid, src, size, off, sv, rfl⟩ | hmem
  · rw [hw]
    exact exec_mem pUserArg userArgSize useCoreSuspend hcons hx.not_args (hok.rpc he hx)
  · change (vnzBridgeMemcpyToSpram src size off sv t.world).2.mem x = t.world.mem x
    rw [vnzBridgeMemcpyToSpram]
    split_ifs with hrange
    · exact write_apply_outside (hok hrange x hx)
    · rfl
  · rw [hmem.mem]

lemma programByte_at {o : ℕ} (ho : o < s.size.toNat) (hheap : o < 256 ∨ 768 ≤ o) :
    ProgramByte s (s.at o) := by
  have hsize := s.size.isLt
  refine ⟨inRange_offset ho (by omega), ?_⟩
  have hoffset : (s.at o - s.kernelBase).toNat = o := offset_toNat (by omega)
  rw [s.inRange_at (by decide), hoffset, commHeapSize]
  omega

/-- Byte `o` of the block, as Venezia sees it. -/
lemma view_block {m rest : Mem} {o : ℕ} (ho : o < s.size.toNat) :
    s.block.view m rest (vramBase + BitVec.ofNat 32 o) = m (s.at o) :=
  Window.view_offset (v := s.block) ho s.size.isLt.le

/-- **The program stays the file** while the session is open. -/
theorem holdsFile_run (hcons : Consistent t.world s) (hs : t.session = some s)
    (h : HoldsFile t.world s file) {es : List Step}
    (hok : Admissible Tracked.step (SparesProgram s) t es) :
    HoldsFile (run Tracked.step t es).world s file := by
  have hstep : ∀ t e, (Consistent t.world s ∧ t.session = some s) ∧ HoldsFile t.world s file →
      SparesProgram s t e →
      (Consistent (t.step e).world s ∧ (t.step e).session = some s) ∧
        HoldsFile (t.step e).world s file := by
    rintro t e ⟨⟨hcons, hs⟩, hfile⟩ hspares
    have href : Refines t.world (some s) := hcons
    have hnext : nextSession t.world (some s) e = some s :=
      nextSession_of_not_ends hspares.not_ends
    refine ⟨⟨(refines_step e href).consistent hnext, ?_⟩, fun o ho hheap rest => ?_⟩
    · rw [← hs] at hnext
      exact hnext.trans hs
    · rw [← hfile o ho hheap rest, view_block ho, view_block ho]
      exact programByte_step hcons hspares (programByte_at ho hheap)
  exact (run_invariant hstep ⟨⟨hcons, hs⟩, h⟩ hok).2

/-- An accepted injection stores the header and nothing else. -/
lemma inject_mem_off_header {addr size : Word} (pid : Pid) {sv : Services}
    (hfree : ¬ w.Registered) (h : InjectAccepted addr size sv w) {x : Word}
    (hx : ¬ InRange ((openedSession pid addr size sv w h).at 256) commHeapSize x) :
    (vnzBridgeInject addr size pid sv w).2.mem x = imageMem addr size sv w x := by
  rw [inject_of_accepted pid hfree h]
  generalize hs : openedSession pid addr size sv w h = s at hx
  have hkernel : sv.kernelPage = s.kernelBase := by rw [← hs]; rfl
  have hmem : (injectComm sv.kernelPage (injectEntry addr size sv w)
      sv.sceAvcodecMapMemoryToVenezia.ret pid (afterVeneziaMap addr size sv w)).2.mem =
      (((imageMem addr size sv w).write (s.at 256)
        (wordBytes (sv.codeBase w.requestedCodeBase))).write (s.at 256 + 4)
          (wordBytes (injectEntry addr size sv w))).write (s.at 256 + 8) (wordBytes size) := by
    rw [Session.at, ← hkernel]
    rfl
  have hoff : ∀ o, o ≤ 8 → ¬ InRange (s.at 256 + BitVec.ofNat 32 o) 4 x := by
    intro o ho
    rw [s.at_add, s.inRange_at (by omega)]
    rw [s.inRange_at (by decide), commHeapSize] at hx
    omega
  have h0 := hoff 0 (by omega)
  rw [BitVec.add_zero] at h0
  rw [hmem, write_apply_outside (hoff 8 (by omega)), write_apply_outside (hoff 4 (by omega)),
    write_apply_outside h0]

end Program

/-! ### From the file to Venezia -/

section Opens

variable {ans : SystemAnswers} {file : List Byte} {sv : Services} {t : Client}

/-- `init` opens the session of an injection that is accepted, and no other. -/
lemma init_session (h : Serves ans file) (pid : Pid) (codeMemSize : Word) (sv : Services)
    (hnone : t.tracked.session = none) :
    (init pid codeMemSize ans sv t).2.tracked.session =
      if hacc : InjectAccepted ans.blockBase (blockFor file) (initServices ans sv t)
          t.tracked.world then
        some (openedSession pid ans.blockBase (blockFor file) (initServices ans sv t)
          t.tracked.world hacc)
      else none := by
  rw [init_of_serves h]
  change nextSession t.tracked.world t.tracked.session _ = _
  rw [hnone]
  rfl

/-- `init` returns no error exactly if its injection is accepted. -/
lemma init_ret_iff (h : Serves ans file) (pid : Pid) (codeMemSize : Word) {sv : Services}
    (hfree : ¬ t.tracked.world.Registered) (hmapped : 0 < sv.sceKernelUserMap.uid.toInt) :
    0 ≤ (init pid codeMemSize ans sv t).1.toInt ↔
      InjectAccepted ans.blockBase (blockFor file) (initServices ans sv t) t.tracked.world := by
  have hret : (init pid codeMemSize ans sv t).1 = (vnzBridgeInject ans.blockBase (blockFor file)
      pid (initServices ans sv t) t.tracked.world).1 := by
    rw [init_of_serves h]
    rfl
  rw [hret]
  by_cases hargs : InjectArgsOk ans.blockBase (blockFor file)
  · exact inject_success_iff pid ⟨hargs, hfree, hmapped⟩
  · refine iff_of_false ?_ fun hacc => hargs hacc.args
    have hbad : ans.blockBase = 0 ∨ blockFor file = 0 ∨
        ¬ IsSizeAligned (blockFor file) sceKernel256KiB := by
      by_contra hno
      push Not at hno
      exact hargs hno
    rw [vnzBridgeInject, if_pos hbad]
    have hneg : ¬ 0 ≤ sceErrorErrnoEINVAL.toInt := by decide
    exact hneg

/-- Behind the injection of `init` the block holds the file. -/
lemma holdsFile_init (h : Serves ans file) (pid : Pid) (codeMemSize : Word)
    (hfree : ¬ t.tracked.world.Registered)
    (hgrants : Grants sv (blockFor file) t.tracked.world)
    (hacc : InjectAccepted ans.blockBase (blockFor file) (initServices ans sv t)
      t.tracked.world) :
    HoldsFile (init pid codeMemSize ans sv t).2.tracked.world
      (openedSession pid ans.blockBase (blockFor file) (initServices ans sv t) t.tracked.world hacc)
      (loadedPart file) := by
  intro o ho hheap rest
  have hprogram := programByte_at ho hheap
  have hworld : (init pid codeMemSize ans sv t).2.tracked.world =
      (vnzBridgeInject ans.blockBase (blockFor file) pid (initServices ans sv t)
        t.tracked.world).2 := by
    rw [init_of_serves h]
    rfl
  have hmax := (blockFor file).isLt
  have hlt : o < (blockFor file).toNat := ho
  rw [view_block ho, hworld, inject_mem_off_header pid hfree hacc hprogram.2]
  refine (showsAt_imageMem h hgrants t o ho).trans ?_
  rw [fileMem, BitVec.toNat_ofNat, Nat.mod_eq_of_lt (by omega)]

end Opens

/-- A file with the small image, the system that serves it, and the sample before `init`. -/
def sampleFile : List Byte := smallImage.read 0 72

def servingAnswers : SystemAnswers where
  sceIoOpen := 0x40010001
  sceIoLseek := fun _ => 72
  sceIoRead := sampleFile
  sceKernelAllocMemBlock := 0x40010003
  sceKernelGetMemBlockBase := some 0x81000000

def sampleClient : Client where
  tracked := Tracked.boot 166 fun _ => 0
  process := ⟨fun _ => 0, []⟩

lemma serves_sampleFile : Serves servingAnswers sampleFile :=
  ⟨by decide, by decide, by decide, by decide⟩

lemma grants_sampleFile : Grants acceptingServices (blockFor sampleFile)
    sampleClient.tracked.world :=
  ⟨by decide, ⟨by decide, by decide⟩, by decide, by decide⟩

lemma tableInside_sampleFile :
    TableInside (fileMem (loadedPart sampleFile)) 0 (blockFor sampleFile) := by
  rw [TableInside]
  decide

end ArmSample

end VVNZRunner
