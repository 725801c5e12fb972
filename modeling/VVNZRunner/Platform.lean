import Mathlib.Tactic
import VVNZRunner.Library.ByteMemory

/-!
The constants of `common.h` and `vnz/errno.h`, the SDK's own values the plugin compares with,
and what the external services are handed and answer.

* `Word`: a 32-bit value, a pointer, an `unsigned int` or an `int`; a negative `int` is a word
  with `toInt < 0`.
* `Services`: what every external service answers during one call, and what uninitialised
  stack slots hold then. Nothing is assumed of it here.
* `Event`: one call of a service with its arguments and its answer, or one store the plugin
  makes itself.
-/

namespace VVNZRunner

open ByteMemory

/-- A 32-bit value of the ARM side. -/
abbrev Word := BitVec 32

/-- The kernel's address space, and Venezia's. -/
abbrev Mem := Memory 32

/-! ### `common.h` -/

def vaddrVeneziaSpram : Word := 0x28100000#32
def vaddrVeneziaImage : Word := 0x28200000#32
def imageMemsize : ℕ := 0x400000
def spramMemsize : Word := 0x2500000#32
def injectCodeBaseOffset : Word := 0xEAE70#32
def commHeapSize : ℕ := 512
def commHeapOffset : Word := 256#32
def thunkCmdId : Word := 8#32
def thunkPtrInjectAddr : Word := 0xEADF0#32
def thunkPtrInjectDst : Word := 0x8EAE70#32

/-- `IS_SIZE_ALIGNED` for a power of two. -/
def IsSizeAligned (sizeToTest powerOfTwo : Word) : Prop :=
  sizeToTest &&& (powerOfTwo - 1) = 0

instance (a b : Word) : Decidable (IsSizeAligned a b) :=
  inferInstanceAs (Decidable (a &&& (b - 1) = 0))

/-- `sizeof(SceVeneziaCommParam)`. -/
def sizeofCommParam : ℕ := 12

/-- The physical address Venezia must report for the injected block. -/
def vramBase : Word := 0x20000000#32

/-! ### `vnz/errno.h` and the SDK -/

def sceOk : Word := 0#32
def sceErrorErrnoEPERM : Word := 0x80010001#32
def sceErrorErrnoE2BIG : Word := 0x80010007#32
def sceErrorErrnoENOEXEC : Word := 0x80010008#32
def sceErrorErrnoEFAULT : Word := 0x8001000E#32
def sceErrorErrnoEINVAL : Word := 0x80010016#32
def sceErrorErrnoERANGE : Word := 0x80010022#32
def sceErrorErrnoEALREADY : Word := 0x80010078#32

def sceUidInvalidUid : Word := 0xFFFFFFFF#32
def sceKernelProcessIdSelf : Word := 0#32
def sceKernel256KiB : Word := 0x40000#32
def sceKernelStartSuccess : Word := 0#32

/-- A process id, never `SCE_UID_INVALID_UID`. -/
structure Pid where
  val : Word
  valid : val ≠ sceUidInvalidUid
  deriving DecidableEq

lemma Pid.val_injective {p q : Pid} (h : p.val = q.val) : p = q := by
  cases p
  cases q
  cases h
  rfl

/-- Some process. -/
def samplePid : Pid := ⟨1, by decide⟩

/-- `SceKernelMemoryRefPerm`, the two classes in use. -/
inductive MemoryRefPerm where
  | kernR
  | kernW
  deriving DecidableEq, Repr

/-! ### `vnz_wrapper.h` -/

/-- The four words handed to the Venezia entry. -/
structure SceVeneziaThunkArg where
  pVThreadProcessingResource : Word
  userArg2 : Word
  userArg3 : Word
  userArg4 : Word
  deriving DecidableEq, Repr

/-- The four address translations of the unmapped memory blocks. -/
inductive UnmapTranslation where
  | paToUserVA
  | userVAtoPA
  | kernelVAtoUserVA
  | userVAtoKernelVA
  deriving DecidableEq, Repr

/-! ### What the services answer -/

/-- The answer of `sceKernelUserMap`: the id or an error, the three out parameters, and the
bytes of the memory block now visible from `kernelPage + kernelOffset` on. -/
structure UserMapReply where
  uid : Word
  kernelPage : Word := 0
  kernelSize : Word := 0
  kernelOffset : Word := 0
  content : Word → Byte := fun _ => 0

/-- The answer of a service with an out parameter it may leave unwritten. -/
structure OutReply where
  ret : Word
  out : Option Word := none
  deriving DecidableEq

/-- The answer of `sceKernelCopyFromUser`: the bytes it stored before it returned. -/
structure CopyFromUserReply where
  ret : Word := 0
  bytes : List Byte := []
  deriving DecidableEq

/-- The answer of `_sceVeneziaGetProcessorLoad`, which may leave the structure unwritten. -/
structure ProcessorLoadReply where
  ret : Word := 0
  out : Option (List Byte) := none
  deriving DecidableEq

/-- The ten fields of an uninitialised `SceCodecEnginePmonProcessorLoadExt`. -/
abbrev ProcessorLoadExt := List Byte

/-- What every external service answers during one exported call or process event, and what
the uninitialised locals of that call hold. -/
structure Services where
  sceKernelUserMap : UserMapReply := { uid := 0 }
  sceAvcodecMapMemoryToVenezia : OutReply := { ret := 0 }
  sceKernelMemRangeReleaseWithPerm : Word := 0
  sceKernelUserUnmap : Word := 0
  sceKernelCopyFromUser : CopyFromUserReply := {}
  sceKernelCopyToUser : Word := 0
  sceVeneziaLockProcessSuspend : Word := 0
  sceVeneziaUnlockProcessSuspend : Word := 0
  sceVeneziaGetVThreadProcessingResource : Word := 0
  sceVeneziaRpcCallGenericThunk : SceVeneziaThunkArg → Mem → Word × Mem := fun _ m => (0, m)
  builtinMrc : Word := 0
  sceVeneziaGetProcessorLoad : ProcessorLoadReply := {}
  sceCodecEngineAllocMemoryFromUnmapMemBlock : Word := 0
  sceCodecEngineFreeMemoryFromUnmapMemBlock : Word := 0
  sceCodecEngineUnmap : UnmapTranslation → OutReply := fun _ => { ret := 0 }
  sceCodecEngineRegisterUnmapMemory : Word := 0
  sceCodecEngineUnregisterUnmapMemory : Word := 0
  sceVeneziaOpenPublicMemory : Word := 0
  sceVeneziaClosePublicMemory : Word := 0
  uninitRes : Word := 0
  uninitKdata : ProcessorLoadExt := []

/-! ### What the plugin asks for and stores -/

/-- Where the bytes handed to `sceKernelCopyToUser` come from. -/
inductive CopySource where
  | kernel (addr : Word)
  | local
  deriving DecidableEq, Repr

/-- One call of an external service with its answer, or one store of the plugin. Pointers to
the plugin's own variables are left out of the arguments. -/
inductive Event where
  | sceKernelUserMap (name : String) (prot : ℕ) (addr size : Word)
      (uid kernelPage kernelOffset : Word)
  | sceKernelUserUnmap (uid : Word) (ret : Word)
  | sceAvcodecMapMemoryToVenezia (vaddr size : Word) (perm : MemoryRefPerm)
      (mode plsAllowVnz : ℕ) (reply : OutReply)
  | sceKernelMemRangeReleaseWithPerm (perm : MemoryRefPerm) (base size : Word) (ret : Word)
  | sceKernelDcacheInvalidateRange (base size : Word)
  | sceKernelDcacheCleanRange (base : Word) (size : ℕ)
  | sceVeneziaEventHandler (resume eventid : Word)
  | builtinMrc (value : Word)
  | builtinMcr (value : Word)
  | sceKernelGetProcessId (pid : Word)
  | sceVeneziaLockProcessSuspend (ret : Word)
  | sceVeneziaUnlockProcessSuspend (ret : Word)
  | sceVeneziaGetVThreadProcessingResource (key : Word) (ret : Word)
  | sceVeneziaRpcCallGenericThunk (id : Word) (arg : SceVeneziaThunkArg)
  | sceKernelCopyFromUser (dst src size : Word) (reply : CopyFromUserReply)
  | sceKernelCopyToUser (dst : Word) (src : CopySource) (bytes : List Byte) (ret : Word)
  | store (addr : Word) (bytes : List Byte)
  | storeExecClockFrequency (clock : Word)
  | sceVeneziaGetProcessorLoad (reply : ProcessorLoadReply)
  | sceCodecEngineAllocMemoryFromUnmapMemBlock (uid size alignment : Word) (ret : Word)
  | sceCodecEngineFreeMemoryFromUnmapMemBlock (uid p : Word) (ret : Word)
  | sceCodecEngineUnmap (kind : UnmapTranslation) (pid arg : Word) (reply : OutReply)
  | sceCodecEngineRegisterUnmapMemory (pid memory size : Word) (ret : Word)
  | sceCodecEngineUnregisterUnmapMemory (pid memory size : Word) (ret : Word)
  | sceVeneziaOpenPublicMemory (paddr size : Word) (ret : Word)
  | sceVeneziaClosePublicMemory (vnzVaddr size : Word) (ret : Word)
  | taiGetModuleInfoForKernel (name : String) (ret : Word)
  | moduleGetOffset (segment : ℕ) (offset : Word)
  | sceKernelRegisterProcEventHandler (name : String)
  deriving DecidableEq

end VVNZRunner
