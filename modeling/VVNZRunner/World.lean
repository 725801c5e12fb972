import VVNZRunner.Platform

/-!
The state of the plugin and the services it calls.

* `Statics`: the static variables of `main.c`; `World` adds the word behind
  `_vnzExecClockFrequency`, the kernel's memory and the log of events, newest first.
* One definition per external service, which logs the call and applies what the service does
  to the memory the plugin sees. User memory is outside: what is copied in comes with the
  services' answers, what is copied out is in the log.
-/

namespace VVNZRunner

open ByteMemory

/-- The static variables of `main.c`, without the prefix `s_`. -/
structure Statics where
  requestedCodeSize : Word := 0
  requestedCodeBaseVaddr : Word := 0
  requestedCodeBase : Word := 0
  blockMapId : Word := sceUidInvalidUid
  commHeapVaddr : Word := 0
  commHeapPaddr : Word := 0
  registeredPid : Word := sceUidInvalidUid
  deriving DecidableEq, Repr

/-- The plugin's state, the clock word `*_vnzExecClockFrequency`, the kernel's memory and the
log of everything the plugin asked for or stored, newest first. -/
structure World extends Statics where
  targetExecClockFrequency : Word := 166
  vnzExecClockFrequency : Word
  mem : Mem
  trace : List Event := []

namespace World

/-- A process holds a session. -/
abbrev Registered (w : World) : Prop := w.registeredPid ≠ sceUidInvalidUid

/-- Log an event. -/
def emit (e : Event) (w : World) : World := { w with trace := e :: w.trace }

/-- A store of the plugin through a kernel pointer. -/
def store (addr : Word) (bytes : List Byte) (w : World) : World :=
  { w.emit (.store addr bytes) with mem := w.mem.write addr bytes }

/-- `*_vnzExecClockFrequency = clock`. -/
def storeExecClockFrequency (clock : Word) (w : World) : World :=
  { w.emit (.storeExecClockFrequency clock) with vnzExecClockFrequency := clock }

/-- Map a user memory block into the kernel: on success its bytes are seen from
`kernelPage + kernelOffset` on. -/
def sceKernelUserMap (name : String) (prot : ℕ) (addr size : Word) (sv : Services) (w : World) :
    World :=
  let r := sv.sceKernelUserMap
  let base := r.kernelPage + r.kernelOffset
  { w.emit (.sceKernelUserMap name prot addr size r.uid r.kernelPage r.kernelOffset) with
    mem := fun x =>
      if 0 < r.uid.toInt ∧ InRange base size.toNat x then r.content (x - base) else w.mem x }

/-- Remove a kernel mapping. -/
def sceKernelUserUnmap (uid : Word) (sv : Services) (w : World) : World :=
  w.emit (.sceKernelUserUnmap uid sv.sceKernelUserUnmap)

/-- Map user memory to Venezia. -/
def sceAvcodecMapMemoryToVenezia (vaddr size : Word) (perm : MemoryRefPerm)
    (mode plsAllowVnz : ℕ) (sv : Services) (w : World) : World :=
  w.emit (.sceAvcodecMapMemoryToVenezia vaddr size perm mode plsAllowVnz
    sv.sceAvcodecMapMemoryToVenezia)

/-- Drop a reference on a range of user memory. -/
def sceKernelMemRangeReleaseWithPerm (perm : MemoryRefPerm) (base size : Word) (sv : Services)
    (w : World) : World :=
  w.emit (.sceKernelMemRangeReleaseWithPerm perm base size sv.sceKernelMemRangeReleaseWithPerm)

/-- Copy user memory to `dst`: the bytes the service could read are stored. -/
def sceKernelCopyFromUser (dst src size : Word) (sv : Services) (w : World) : World :=
  let r := sv.sceKernelCopyFromUser
  { w.emit (.sceKernelCopyFromUser dst src size r) with
    mem := w.mem.write dst (r.bytes.take size.toNat) }

/-- Copy the bytes at the kernel address `src` to user memory. -/
def sceKernelCopyToUser (dst src size : Word) (sv : Services) (w : World) : World :=
  w.emit (.sceKernelCopyToUser dst (.kernel src) (w.mem.read src size.toNat)
    sv.sceKernelCopyToUser)

/-- Copy a local variable to user memory. -/
def sceKernelCopyLocalToUser (dst : Word) (bytes : List Byte) (sv : Services) (w : World) :
    World :=
  w.emit (.sceKernelCopyToUser dst .local bytes sv.sceKernelCopyToUser)

/-- Run a thunk on Venezia, which may change the memory both sides see. -/
def sceVeneziaRpcCallGenericThunk (id : Word) (arg : SceVeneziaThunkArg) (sv : Services)
    (w : World) : Word × World :=
  let r := sv.sceVeneziaRpcCallGenericThunk arg w.mem
  (r.1, { w.emit (.sceVeneziaRpcCallGenericThunk id arg) with mem := r.2 })

/-- `_vnzDoReset`: suspend Venezia and resume it. -/
def vnzDoReset (w : World) : World :=
  (w.emit (.sceVeneziaEventHandler 0 0x400e)).emit (.sceVeneziaEventHandler 1 0x1000e)

section Simp

variable (e : Event) (w : World) (sv : Services)

@[simp] lemma emit_toStatics : (w.emit e).toStatics = w.toStatics := rfl
@[simp] lemma emit_target :
    (w.emit e).targetExecClockFrequency = w.targetExecClockFrequency := rfl
@[simp] lemma emit_clock : (w.emit e).vnzExecClockFrequency = w.vnzExecClockFrequency := rfl
@[simp] lemma emit_mem : (w.emit e).mem = w.mem := rfl
@[simp] lemma emit_trace : (w.emit e).trace = e :: w.trace := rfl

end Simp

end World

end VVNZRunner
