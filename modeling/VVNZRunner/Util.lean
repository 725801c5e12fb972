import VVNZRunner.World
import VVNZRunner.Library.Granule

/-!
`util.c` of `arm_sample_hello_draw`: blocks of graphics memory, and the file that is loaded into
one.

* `SystemAnswers`, `SystemCall`: what the system answers during one call, and the calls that were
  made, newest first. Nothing is assumed of the answers here.
* `freeCdramMemblock`, `allocCdramMemblock`, `loadMepElf`, `unloadMepElf`: the functions.
* `load_outcome`: the exits of `loadMepElf`.
* `openFiles`, `liveBlocks`, `baseOf`: what a log shows open, allocated and where.
-/

namespace VVNZRunner

namespace ArmSample

open ByteMemory Granule

/-! ### What the system is asked and answers -/

def sceErrorErrnoENOMEM : Word := 0x8001000C#32

/-- `SCE_SEEK_SET` and `SCE_SEEK_END`. -/
inductive Whence where
  | seekSet
  | seekEnd
  deriving DecidableEq, Repr

/-- What the system answers during one call: the position behind a seek, the bytes that a read
stores, and the base of a block, if it is written. -/
structure SystemAnswers where
  sceIoOpen : Word := 0
  sceIoLseek : Whence → BitVec 64 := fun _ => 0
  sceIoRead : List Byte := []
  sceKernelAllocMemBlock : Word := 0
  sceKernelGetMemBlockBase : Option Word := none
  sceKernelFindMemBlockByAddr : Word := 0
  sceKernelFreeMemBlock : Word := 0

/-- One call of the system with its answer. Files are opened with `SCE_O_RDONLY` and blocks are of
the type `SCE_KERNEL_MEMBLOCK_TYPE_USER_CDRAM_RW`. -/
inductive SystemCall where
  | sceIoOpen (path : String) (fd : Word)
  | sceIoLseek (fd : Word) (offset : ℤ) (whence : Whence) (ret : BitVec 64)
  | sceIoRead (fd dst size : Word) (bytes : List Byte)
  | sceIoClose (fd : Word)
  | sceKernelAllocMemBlock (name : String) (size uid : Word)
  | sceKernelGetMemBlockBase (uid : Word) (base : Option Word)
  | sceKernelFindMemBlockByAddr (addr size uid : Word)
  | sceKernelFreeMemBlock (uid ret : Word)
  deriving DecidableEq

/-- The process of the sample: its memory and the calls it made. -/
structure Process where
  user : Mem
  trace : List SystemCall := []

namespace Process

/-- Log a call. -/
def emit (c : SystemCall) (t : Process) : Process := { t with trace := c :: t.trace }

/-- `sceClibMemset`. -/
def sceClibMemset (dst : Word) (c : Byte) (size : Word) (t : Process) : Process :=
  { t with user := fun x => if InRange dst size.toNat x then c else t.user x }

/-- Read from a file: the bytes that the system read are stored. -/
def sceIoRead (fd dst size : Word) (ans : SystemAnswers) (t : Process) : Process :=
  { t.emit (.sceIoRead fd dst size ans.sceIoRead) with
    user := t.user.write dst (ans.sceIoRead.take size.toNat) }

end Process

/-! ### The functions -/

/-- `ALIGN`. -/
def align (x a : Word) : Word := (x + (a - 1)) &&& ~~~(a - 1)

/-- `freeCdramMemblock`. -/
def freeCdramMemblock (vaddr : Word) (ans : SystemAnswers) (t : Process) : Word × Process :=
  if vaddr = 0 then (sceErrorErrnoEINVAL, t)
  else
    let mbId := ans.sceKernelFindMemBlockByAddr
    let t := t.emit (.sceKernelFindMemBlockByAddr vaddr 0 mbId)
    (sceOk, t.emit (.sceKernelFreeMemBlock mbId ans.sceKernelFreeMemBlock))

/-- `allocCdramMemblock`. `mem` starts as `NULL` and keeps that value when the system leaves it
unwritten. -/
def allocCdramMemblock (size : Word) (ans : SystemAnswers) (t : Process) : Word × Process :=
  let workMemUID := ans.sceKernelAllocMemBlock
  let t := t.emit (.sceKernelAllocMemBlock "SceVeneziaCdramMemory"
    (align size sceKernel256KiB) workMemUID)
  let t := t.emit (.sceKernelGetMemBlockBase workMemUID ans.sceKernelGetMemBlockBase)
  (ans.sceKernelGetMemBlockBase.getD 0, t)

/-- `loadMepElf`. A `NULL` argument is `none`; `vaddr` and `mbSize` come with what they point to,
and are returned with what they point to then. -/
def loadMepElf (path : Option String) (vaddr mbSize : Option Word) (ans : SystemAnswers)
    (t : Process) : Word × Option Word × Option Word × Process :=
  match path, vaddr, mbSize with
  | some path, some _, some _ =>
    let fd := ans.sceIoOpen
    let t := t.emit (.sceIoOpen path fd)
    if fd.toInt ≤ 0 then (fd, vaddr, mbSize, t)
    else
      let mepCodeFileSize : Word := (ans.sceIoLseek .seekEnd).truncate 32
      let t := t.emit (.sceIoLseek fd 0 .seekEnd (ans.sceIoLseek .seekEnd))
      let t := t.emit (.sceIoLseek fd 0 .seekSet (ans.sceIoLseek .seekSet))
      let size := align mepCodeFileSize sceKernel256KiB
      let (mem, t) := allocCdramMemblock size ans t
      if mem = 0 then (sceErrorErrnoENOMEM, some mem, some size, t.emit (.sceIoClose fd))
      else
        let t := t.sceClibMemset mem 0 size
        let t := t.sceIoRead fd mem mepCodeFileSize ans
        (sceOk, some mem, some size, t.emit (.sceIoClose fd))
  | _, _, _ => (sceErrorErrnoEINVAL, vaddr, mbSize, t)

/-- `unloadMepElf`. -/
def unloadMepElf (vaddr : Word) := freeCdramMemblock vaddr

section Align

variable (x : Word)

/-- The block size wraps to `0` behind the last multiple of 256 KiB. -/
lemma align_toNat : (align x sceKernel256KiB).toNat =
    (x.toNat + (2 ^ 18 - 1)) % 2 ^ 32 / 2 ^ 18 * 2 ^ 18 := by
  have hmask : ∀ y : Word, y &&& ~~~(sceKernel256KiB - 1) = y >>> 18 <<< 18 := by
    intro y
    have hconst : ~~~(sceKernel256KiB - 1) = 0xfffc0000#32 := by decide
    rw [hconst]
    ext i hi
    interval_cases i <;> simp
  rw [align, hmask, toNat_mask, BitVec.toNat_add]
  rfl

/-- A block size is one that `vnzBridgeInject` takes, unless it is `0`. -/
lemma align_aligned : IsSizeAligned (align x sceKernel256KiB) sceKernel256KiB := by
  have hsize : align x sceKernel256KiB &&& (sceKernel256KiB - 1) =
      (x + (sceKernel256KiB - 1)) &&& (~~~(sceKernel256KiB - 1) &&& (sceKernel256KiB - 1)) :=
    BitVec.and_assoc _ _ _
  rw [IsSizeAligned, hsize]
  have hnone : ~~~(sceKernel256KiB - 1) &&& (sceKernel256KiB - 1) = (0 : Word) := by decide
  rw [hnone]
  exact BitVec.and_zero

lemma align_ne_zero_iff :
    align x sceKernel256KiB ≠ 0 ↔ 0 < x.toNat ∧ x.toNat ≤ 2 ^ 32 - 2 ^ 18 := by
  have hsize := align_toNat x
  have hx := x.isLt
  have hzero : align x sceKernel256KiB = 0 ↔ (align x sceKernel256KiB).toNat = 0 :=
    ⟨congrArg BitVec.toNat, fun h => BitVec.eq_of_toNat_eq h⟩
  rw [ne_eq, hzero, hsize]
  omega

end Align

/-! ### What a log shows -/

/-- The descriptors open after the calls of a log. -/
def openFiles : List SystemCall → List Word
  | [] => []
  | .sceIoOpen _ fd :: t => if 0 < fd.toInt then fd :: openFiles t else openFiles t
  | .sceIoClose fd :: t => (openFiles t).erase fd
  | _ :: t => openFiles t

/-- The ids of the blocks alive after the calls of a log. -/
def liveBlocks : List SystemCall → List Word
  | [] => []
  | .sceKernelAllocMemBlock _ _ uid :: t =>
      if 0 < uid.toInt then uid :: liveBlocks t else liveBlocks t
  | .sceKernelFreeMemBlock uid ret :: t =>
      if 0 ≤ ret.toInt then (liveBlocks t).filter (· ≠ uid) else liveBlocks t
  | _ :: t => liveBlocks t

/-- The base of a block, as the system named it last. -/
def baseOf : List SystemCall → Word → Option Word
  | [], _ => none
  | .sceKernelGetMemBlockBase uid' base :: t, uid => if uid' = uid then base else baseOf t uid
  | _ :: t, uid => baseOf t uid

/-- Giving a block back leaves the files alone. -/
lemma openFiles_unloadMepElf (vaddr : Word) (ans : SystemAnswers) (t : Process) :
    openFiles (unloadMepElf vaddr ans t).2.trace = openFiles t.trace := by
  change openFiles (freeCdramMemblock vaddr ans t).2.trace = openFiles t.trace
  rw [freeCdramMemblock]
  split_ifs <;> rfl

/-! ### The exits of `loadMepElf` -/

section Load

variable (path : String) (ans : SystemAnswers) (t : Process)

/-- The size that the file is taken to have. -/
def SystemAnswers.fileSize (ans : SystemAnswers) : Word :=
  (ans.sceIoLseek .seekEnd).truncate 32

/-- The size of the block that is asked for. -/
def SystemAnswers.blockSize (ans : SystemAnswers) : Word := align ans.fileSize sceKernel256KiB

/-- The base of the block, `NULL` without one. -/
def SystemAnswers.blockBase (ans : SystemAnswers) : Word := ans.sceKernelGetMemBlockBase.getD 0

/-- The calls up to the block. -/
def afterAlloc : Process :=
  (allocCdramMemblock ans.blockSize ans
    (((t.emit (.sceIoOpen path ans.sceIoOpen)).emit
      (.sceIoLseek ans.sceIoOpen 0 .seekEnd (ans.sceIoLseek .seekEnd))).emit
        (.sceIoLseek ans.sceIoOpen 0 .seekSet (ans.sceIoLseek .seekSet)))).2

/-- The process behind a load. -/
def afterLoad : Process :=
  (((afterAlloc path ans t).sceClibMemset ans.blockBase 0 ans.blockSize).sceIoRead ans.sceIoOpen
    ans.blockBase ans.fileSize ans).emit (.sceIoClose ans.sceIoOpen)

/-- The exits of `loadMepElf` called with three pointers: the guards passed on the way, and what it
returns and leaves. -/
inductive LoadOutcome (vaddr mbSize : Word) :
    Word × Option Word × Option Word × Process → Prop
  | notOpened (hfd : ans.sceIoOpen.toInt ≤ 0) :
      LoadOutcome vaddr mbSize (ans.sceIoOpen, some vaddr, some mbSize,
        t.emit (.sceIoOpen path ans.sceIoOpen))
  | noMemory (hfd : 0 < ans.sceIoOpen.toInt) (hbase : ans.blockBase = 0) :
      LoadOutcome vaddr mbSize (sceErrorErrnoENOMEM, some 0, some ans.blockSize,
        (afterAlloc path ans t).emit (.sceIoClose ans.sceIoOpen))
  | loaded (hfd : 0 < ans.sceIoOpen.toInt) (hbase : ans.blockBase ≠ 0) :
      LoadOutcome vaddr mbSize (sceOk, some ans.blockBase, some ans.blockSize,
        afterLoad path ans t)

/-- Every call with three pointers leaves by one of the three exits. -/
theorem load_outcome (vaddr mbSize : Word) :
    LoadOutcome path ans t vaddr mbSize
      (loadMepElf (some path) (some vaddr) (some mbSize) ans t) := by
  rw [loadMepElf]
  by_cases hfd : ans.sceIoOpen.toInt ≤ 0
  · rw [if_pos hfd]
    exact .notOpened hfd
  · rw [if_neg hfd]
    rw [not_le] at hfd
    change LoadOutcome path ans t vaddr mbSize
      (if ans.blockBase = 0 then
        (sceErrorErrnoENOMEM, some ans.blockBase, some ans.blockSize,
          (afterAlloc path ans t).emit (.sceIoClose ans.sceIoOpen))
      else (sceOk, some ans.blockBase, some ans.blockSize, afterLoad path ans t))
    by_cases hbase : ans.blockBase = 0
    · rw [if_pos hbase, hbase]
      exact .noMemory hfd hbase
    · rw [if_neg hbase]
      exact .loaded hfd hbase

variable {path ans t}

lemma liveBlocks_afterLoad : liveBlocks (afterLoad path ans t).trace =
    liveBlocks (afterAlloc path ans t).trace := rfl

lemma liveBlocks_afterAlloc : liveBlocks (afterAlloc path ans t).trace =
    if 0 < ans.sceKernelAllocMemBlock.toInt then
      ans.sceKernelAllocMemBlock :: liveBlocks t.trace
    else liveBlocks t.trace := rfl

lemma baseOf_afterLoad (uid : Word) : baseOf (afterLoad path ans t).trace uid =
    if ans.sceKernelAllocMemBlock = uid then ans.sceKernelGetMemBlockBase
    else baseOf t.trace uid := rfl

/-- **Every file that is opened is closed**, on each exit. -/
theorem openFiles_loadMepElf (path : Option String) (vaddr mbSize : Option Word) :
    openFiles (loadMepElf path vaddr mbSize ans t).2.2.2.trace = openFiles t.trace := by
  rcases path with _ | path
  · rfl
  rcases vaddr with _ | vaddr
  · rfl
  rcases mbSize with _ | mbSize
  · rfl
  have hout := load_outcome path ans t vaddr mbSize
  generalize loadMepElf (some path) (some vaddr) (some mbSize) ans t = r at hout ⊢
  have hclosed : 0 < ans.sceIoOpen.toInt →
      (if 0 < ans.sceIoOpen.toInt then ans.sceIoOpen :: openFiles t.trace
        else openFiles t.trace).erase ans.sceIoOpen = openFiles t.trace := by
    intro hfd
    rw [if_pos hfd, List.erase_cons_head]
  cases hout with
  | notOpened hfd =>
      change (if 0 < ans.sceIoOpen.toInt then _ else openFiles t.trace) = openFiles t.trace
      rw [if_neg (by omega)]
  | noMemory hfd hbase => exact hclosed hfd
  | loaded hfd hbase => exact hclosed hfd

/-- **The block holds the file**, and `0` behind it. -/
lemma afterLoad_user {o : ℕ} (ho : o < ans.blockSize.toNat) :
    (afterLoad path ans t).user (ans.blockBase + BitVec.ofNat 32 o) =
      (ans.sceIoRead.take ans.fileSize.toNat).getD o 0 := by
  have hsize := ans.blockSize.isLt
  have hin : InRange ans.blockBase ans.blockSize.toNat (ans.blockBase + BitVec.ofNat 32 o) :=
    inRange_offset ho (by omega)
  change (ans.sceIoRead.take ans.fileSize.toNat).getD
      (ans.blockBase + BitVec.ofNat 32 o - ans.blockBase).toNat
      (if InRange ans.blockBase ans.blockSize.toNat (ans.blockBase + BitVec.ofNat 32 o) then 0
        else _) = _
  rw [if_pos hin, offset_toNat (by omega)]

end Load

end ArmSample

end VVNZRunner
