import VVNZRunner.Elf
import VVNZRunner.Memory

/-!
`main.c`: the session, the execution of code on Venezia, the clock and the process events.

* `vnzBridgeInject` is cut where the source comments cut it: the checks of the image, the
  mapping to Venezia and the set-up of the comm heap (`injectImage`, `injectMap`,
  `injectComm`).
* `vnzBridgeExecCore` is cut at the points where another thread can get in between:
  `execCopyIn`, `execRequest`, the RPC, `execReply`, `execCopyOut`.
-/

namespace VVNZRunner

open ByteMemory

/-! ### The session -/

/-- `vnzBridgeRestore`. -/
def vnzBridgeRestore (sv : Services) (w : World) : Word × World :=
  if w.registeredPid = sceUidInvalidUid then (sceErrorErrnoEALREADY, w)
  else
    let w := (vnzBridgeUnmapMemory w.requestedCodeBaseVaddr w.requestedCodeSize 0 sv w).2
    let state := sv.builtinMrc
    let w := w.emit (.builtinMrc state)
    let w := w.emit (.builtinMcr (state <<< 16))
    let w := w.vnzDoReset
    let w := w.emit (.builtinMcr state)
    let w := w.sceKernelUserUnmap w.blockMapId sv
    (sv.sceKernelUserUnmap,
      { w with
        blockMapId := sceUidInvalidUid
        commHeapVaddr := 0
        commHeapPaddr := 0
        registeredPid := sceUidInvalidUid })

/-- The last part of `vnzBridgeInject`: place the comm heap, write `SceVeneziaCommParam` into
it and register the caller. -/
def injectComm (kernelPage requestedCodeOffset ret : Word) (pid : Pid) (w : World) :
    Word × World :=
  let w := { w with
    commHeapVaddr := kernelPage + commHeapOffset
    commHeapPaddr := w.requestedCodeBase + commHeapOffset }
  let w := w.store w.commHeapVaddr (wordBytes w.requestedCodeBase)
  let w := w.store (w.commHeapVaddr + 4) (wordBytes requestedCodeOffset)
  let w := w.store (w.commHeapVaddr + 8) (wordBytes w.requestedCodeSize)
  let w := w.emit (.sceKernelGetProcessId pid.val)
  (ret, { w with registeredPid := pid.val })

/-- The middle part of `vnzBridgeInject`: map the block to Venezia and check the physical
address. `s_requestedCodeBase` keeps its value when the service leaves it unwritten. -/
def injectMap (kernelPage mepElfMemblockAddr mepElfMemblockSize : Word) (pid : Pid)
    (sv : Services) (w : World) : Word × World :=
  let requestedCodeOffset := ehdrEntry w.mem kernelPage
  let w := { w with
    requestedCodeSize := mepElfMemblockSize
    requestedCodeBaseVaddr := mepElfMemblockAddr }
  let w := w.sceAvcodecMapMemoryToVenezia w.requestedCodeBaseVaddr w.requestedCodeSize .kernR 1 1
    sv
  let r := sv.sceAvcodecMapMemoryToVenezia
  let w := { w with requestedCodeBase := r.out.getD w.requestedCodeBase }
  if r.ret.toInt < 0 then (r.ret, w)
  else if w.requestedCodeBase ≠ vramBase then
    (sceErrorErrnoEFAULT,
      (vnzBridgeUnmapMemory w.requestedCodeBaseVaddr w.requestedCodeSize 0 sv w).2)
  else injectComm kernelPage requestedCodeOffset r.ret pid w

/-- The part of `vnzBridgeInject` behind the kernel mapping: the checks of the image. Both
failing exits leave through the label `return_with_unmap`, which unmaps nothing. -/
def injectImage (kernelPage mepElfMemblockAddr mepElfMemblockSize : Word) (pid : Pid)
    (sv : Services) (w : World) : Word × World :=
  if ¬ IdentMatches w.mem kernelPage then (sceErrorErrnoENOEXEC, w)
  else if findSection w.mem kernelPage = 0 then (sceErrorErrnoENOEXEC, w)
  else injectMap kernelPage mepElfMemblockAddr mepElfMemblockSize pid sv w

/-- `vnzBridgeInject`, called by the process `pid`. -/
def vnzBridgeInject (mepElfMemblockAddr mepElfMemblockSize : Word) (pid : Pid) (sv : Services)
    (w : World) : Word × World :=
  if mepElfMemblockAddr = 0 ∨ mepElfMemblockSize = 0 ∨
      ¬ IsSizeAligned mepElfMemblockSize sceKernel256KiB then (sceErrorErrnoEINVAL, w)
  else if w.registeredPid ≠ sceUidInvalidUid then (sceErrorErrnoEALREADY, w)
  else
    let r := sv.sceKernelUserMap
    let w := w.sceKernelUserMap "SceVeneziaMepExec" 3 mepElfMemblockAddr mepElfMemblockSize sv
    let w := { w with blockMapId := r.uid }
    if r.uid.toInt ≤ 0 then (r.uid, w)
    else
      injectImage (r.kernelPage + r.kernelOffset) mepElfMemblockAddr mepElfMemblockSize pid sv w

/-! ### Execution -/

/-- The first part of `vnzBridgeExecCore`: the checks and the copy into the comm heap. It
yields `userArg2`. -/
def execCopyIn (pUserArg userArgSize : Word) (sv : Services) (w : World) :
    Except Word Word × World :=
  if w.registeredPid = sceUidInvalidUid then (.error sceErrorErrnoEPERM, w)
  else if pUserArg ≠ 0 then
    if userArgSize.toNat > commHeapSize - sizeofCommParam then (.error sceErrorErrnoE2BIG, w)
    else
      (.ok (w.commHeapPaddr + 12),
        w.sceKernelCopyFromUser (w.commHeapVaddr + 12) pUserArg userArgSize sv)
  else (.ok 0, w)

/-- The part up to the RPC: take the suspend lock, complete the thunk argument and clean the
cache over the comm heap. -/
def execRequest (userArg2 userArgSize : Word) (useCoreSuspend : Bool) (sv : Services)
    (w : World) : Except Word SceVeneziaThunkArg × World :=
  let lock := sv.sceVeneziaLockProcessSuspend
  let w := if useCoreSuspend then w.emit (.sceVeneziaLockProcessSuspend lock) else w
  if useCoreSuspend ∧ lock.toInt < 0 then (.error lock, w)
  else
    let res := sv.sceVeneziaGetVThreadProcessingResource
    let w := w.emit (.sceVeneziaGetVThreadProcessingResource 0 res)
    let thunkArg : SceVeneziaThunkArg :=
      { pVThreadProcessingResource := res
        userArg2 := userArg2
        userArg3 := userArgSize
        userArg4 := w.commHeapPaddr }
    (.ok thunkArg, w.emit (.sceKernelDcacheCleanRange w.commHeapVaddr commHeapSize))

/-- The part behind the RPC: release the suspend lock. -/
def execReply (useCoreSuspend : Bool) (sv : Services) (w : World) : World :=
  if useCoreSuspend then
    w.emit (.sceVeneziaUnlockProcessSuspend sv.sceVeneziaUnlockProcessSuspend)
  else w

/-- The last part: the copy out of the comm heap, whose address is read again. -/
def execCopyOut (pUserArg userArgSize : Word) (sv : Services) (w : World) : World :=
  if pUserArg ≠ 0 then w.sceKernelCopyToUser pUserArg (w.commHeapVaddr + 12) userArgSize sv
  else w

/-- `vnzBridgeExecCore`. -/
def vnzBridgeExecCore (pUserArg userArgSize : Word) (useCoreSuspend : Bool) (sv : Services)
    (w : World) : Word × World :=
  match execCopyIn pUserArg userArgSize sv w with
  | (.error ret, w) => (ret, w)
  | (.ok userArg2, w) =>
    match execRequest userArg2 userArgSize useCoreSuspend sv w with
    | (.error ret, w) => (ret, w)
    | (.ok thunkArg, w) =>
      let (ret, w) := w.sceVeneziaRpcCallGenericThunk thunkCmdId thunkArg sv
      (ret, execCopyOut pUserArg userArgSize sv (execReply useCoreSuspend sv w))

/-- `vnzBridgeExec`. -/
def vnzBridgeExec (pUserArg userArgSize : Word) := vnzBridgeExecCore pUserArg userArgSize true

/-- `vnzBridgeExecNoSuspend`. -/
def vnzBridgeExecNoSuspend (pUserArg userArgSize : Word) :=
  vnzBridgeExecCore pUserArg userArgSize false

/-- `vnzLockProcessSuspend`. -/
def vnzLockProcessSuspend (sv : Services) (w : World) : Word × World :=
  (sv.sceVeneziaLockProcessSuspend,
    w.emit (.sceVeneziaLockProcessSuspend sv.sceVeneziaLockProcessSuspend))

/-- `vnzUnlockProcessSuspend`. -/
def vnzUnlockProcessSuspend (sv : Services) (w : World) : Word × World :=
  (sv.sceVeneziaUnlockProcessSuspend,
    w.emit (.sceVeneziaUnlockProcessSuspend sv.sceVeneziaUnlockProcessSuspend))

/-! ### The clock and the process events -/

/-- The frequencies `vnzBridgeSetVeneziaExecClockFrequency` accepts. -/
def ClockAccepted (clock : Word) : Prop :=
  clock = 0x6f ∨ clock = 0x37 ∨ clock = 0x53 ∨ clock = 0x29 ∨ clock = 0xde ∨ clock = 0x14d ∨
    clock = 0xa6

instance (clock : Word) : Decidable (ClockAccepted clock) :=
  inferInstanceAs (Decidable (_ ∨ _))

/-- `vnzBridgeGetVeneziaExecClockFrequency`. -/
def vnzBridgeGetVeneziaExecClockFrequency (w : World) : Word × World :=
  (w.vnzExecClockFrequency, w)

/-- `vnzBridgeSetVeneziaExecClockFrequency`. -/
def vnzBridgeSetVeneziaExecClockFrequency (clock : Word) (w : World) : Word × World :=
  if ClockAccepted clock then
    (sceOk, { w with targetExecClockFrequency := clock }.storeExecClockFrequency clock)
  else (sceErrorErrnoEINVAL, w)

/-- `procEvHandler`, registered for stop and start. -/
def procEvHandler (pid eventType : Word) (w : World) : Word × World :=
  if eventType = 0x1000 then
    if w.registeredPid = pid ∧ w.targetExecClockFrequency ≠ 166 then
      (sceOk, w.storeExecClockFrequency 166)
    else (sceOk, w)
  else if eventType = 0x40000 then
    if w.registeredPid = pid ∧ w.targetExecClockFrequency ≠ 166 then
      (sceOk, w.storeExecClockFrequency w.targetExecClockFrequency)
    else (sceOk, w)
  else (sceOk, w)

/-- `procEvExitHandler`, registered for exit and kill. -/
def procEvExitHandler (pid : Word) (sv : Services) (w : World) : Word × World :=
  if w.registeredPid = pid then
    let w :=
      if w.targetExecClockFrequency ≠ 166 then
        { w.storeExecClockFrequency 166 with targetExecClockFrequency := 166 }
      else w
    (sceOk, (vnzBridgeRestore sv w).2)
  else (sceOk, w)

/-! ### Start of the module -/

/-- `s_injectCode`. -/
def injectCode : List Byte :=
  [0xC0, 0x6F, 0x1A, 0x7B, 0x4E, 0xC9, 0x04, 0x00, 0x4E, 0x00, 0x06, 0x4B,
    0x00, 0x99, 0x0F, 0x10, 0x07, 0x4B, 0x40, 0x6F, 0xBE, 0x10, 0x00, 0x00]

/-- `module_start`, with the answers of `taiGetModuleInfoForKernel` for the two modules it
looks up. -/
def moduleStart (codecEngineWrapper avcodec : Word) (w : World) : Word × World :=
  let w := w.emit (.taiGetModuleInfoForKernel "SceCodecEngineWrapper" codecEngineWrapper)
  if codecEngineWrapper.toInt < 0 then (sceKernelStartSuccess, w)
  else
    let w := w.emit (.moduleGetOffset 0 (0x8C ||| 1))
    let w := w.emit (.moduleGetOffset 0 (0x36EC ||| 1))
    let w := w.emit (.moduleGetOffset 1 0xBC)
    let w := w.emit (.moduleGetOffset 0 (0x161FC ||| 1))
    let w := w.emit (.moduleGetOffset 0 (0x162FC ||| 1))
    let w := w.emit (.taiGetModuleInfoForKernel "SceAvcodec" avcodec)
    if avcodec.toInt < 0 then (sceKernelStartSuccess, w)
    else
      let w := w.emit (.moduleGetOffset 0 (0x89C0 ||| 1))
      let w := w.emit (.sceKernelRegisterProcEventHandler "SceVeneziaProcEvHandler")
      let w := w.store (vaddrVeneziaImage + thunkPtrInjectAddr) (wordBytes thunkPtrInjectDst)
      let w := w.store (vaddrVeneziaImage + injectCodeBaseOffset) injectCode
      (sceKernelStartSuccess, w.vnzDoReset)

end VVNZRunner
