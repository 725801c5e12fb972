import VVNZRunner.Main
import VVNZRunner.CodecEngineBridge
import VVNZRunner.Library.Runs

/-!
The plugin as one machine: the functions `lib.emd` exports and the process events.

* `Call`, `Call.perform`: an exported function with its arguments, and what it does.
* `Step`, `step`: an exported call by a process with the answers of the services, or a stop,
  start, exit or kill event.
* `boot`: the state a successful `module_start` leaves behind.
-/

namespace VVNZRunner

open ByteMemory

/-! ### Calls, events and steps -/

/-- The exported functions. -/
inductive Call where
  | vnzBridgeInject (mepElfMemblockAddr mepElfMemblockSize : Word)
  | vnzBridgeRestore
  | vnzBridgeExec (pUserArg userArgSize : Word)
  | vnzBridgeExecNoSuspend (pUserArg userArgSize : Word)
  | vnzLockProcessSuspend
  | vnzUnlockProcessSuspend
  | vnzBridgeGetSpramValue (offset : Word)
  | vnzBridgeMemcpyToSpram (src size spramOffset : Word)
  | vnzBridgeMemcpyFromSpram (dst size spramOffset : Word)
  | vnzBridgeMapMemory (vaddr size vnzPaddr isVnzWritable : Word)
  | vnzBridgeUnmapMemory (vaddr size isVnzWritable : Word)
  | vnzBridgeGetVeneziaExecClockFrequency
  | vnzBridgeSetVeneziaExecClockFrequency (clock : Word)
  | vnzBridgeAllocUnmapMemory (uid size alignment vnzVaddr : Word)
  | vnzBridgeFreeUnmapMemory (uid vnzVaddr size : Word)
  | sceVeneziaOpenPublicMemory (paddr size : Word)
  | sceVeneziaClosePublicMemory (vnzVaddr size : Word)
  | sceCodecEngineUnmapPAtoUserVA (paddr memory : Word)
  | sceCodecEngineUnmapUserVAtoPA (memory paddr : Word)
  | sceCodecEngineUnmapKernelVAtoUserVA (kernelMemory memory : Word)
  | sceCodecEngineUnmapUserVAtoKernelVA (memory kernelMemory : Word)
  | sceCodecEngineRegisterUnmapMemory (memory size : Word)
  | sceCodecEngineUnregisterUnmapMemory (memory size : Word)
  | sceCodecEnginePmonGetProcessorLoadExt (data : Word)
  deriving DecidableEq

/-- Run an exported function for the process `pid`. -/
def Call.perform (pid : Pid) (sv : Services) : Call → World → Word × World
  | .vnzBridgeInject addr size => VVNZRunner.vnzBridgeInject addr size pid sv
  | .vnzBridgeRestore => VVNZRunner.vnzBridgeRestore sv
  | .vnzBridgeExec pUserArg userArgSize => VVNZRunner.vnzBridgeExec pUserArg userArgSize sv
  | .vnzBridgeExecNoSuspend pUserArg userArgSize =>
      VVNZRunner.vnzBridgeExecNoSuspend pUserArg userArgSize sv
  | .vnzLockProcessSuspend => VVNZRunner.vnzLockProcessSuspend sv
  | .vnzUnlockProcessSuspend => VVNZRunner.vnzUnlockProcessSuspend sv
  | .vnzBridgeGetSpramValue offset => VVNZRunner.vnzBridgeGetSpramValue offset
  | .vnzBridgeMemcpyToSpram src size off => VVNZRunner.vnzBridgeMemcpyToSpram src size off sv
  | .vnzBridgeMemcpyFromSpram dst size off =>
      VVNZRunner.vnzBridgeMemcpyFromSpram dst size off sv
  | .vnzBridgeMapMemory vaddr size vnzPaddr wr =>
      VVNZRunner.vnzBridgeMapMemory vaddr size vnzPaddr wr sv
  | .vnzBridgeUnmapMemory vaddr size wr => VVNZRunner.vnzBridgeUnmapMemory vaddr size wr sv
  | .vnzBridgeGetVeneziaExecClockFrequency => VVNZRunner.vnzBridgeGetVeneziaExecClockFrequency
  | .vnzBridgeSetVeneziaExecClockFrequency clock =>
      VVNZRunner.vnzBridgeSetVeneziaExecClockFrequency clock
  | .vnzBridgeAllocUnmapMemory uid size alignment vnzVaddr =>
      VVNZRunner.vnzBridgeAllocUnmapMemory uid size alignment vnzVaddr sv
  | .vnzBridgeFreeUnmapMemory uid vnzVaddr size =>
      VVNZRunner.vnzBridgeFreeUnmapMemory uid vnzVaddr size sv
  | .sceVeneziaOpenPublicMemory paddr size =>
      VVNZRunner.sceVeneziaOpenPublicMemory paddr size sv
  | .sceVeneziaClosePublicMemory vnzVaddr size =>
      VVNZRunner.sceVeneziaClosePublicMemory vnzVaddr size sv
  | .sceCodecEngineUnmapPAtoUserVA paddr memory =>
      VVNZRunner.sceCodecEngineUnmapPAtoUserVA paddr memory sv
  | .sceCodecEngineUnmapUserVAtoPA memory paddr =>
      VVNZRunner.sceCodecEngineUnmapUserVAtoPA memory paddr sv
  | .sceCodecEngineUnmapKernelVAtoUserVA kernelMemory memory =>
      VVNZRunner.sceCodecEngineUnmapKernelVAtoUserVA kernelMemory memory sv
  | .sceCodecEngineUnmapUserVAtoKernelVA memory kernelMemory =>
      VVNZRunner.sceCodecEngineUnmapUserVAtoKernelVA memory kernelMemory sv
  | .sceCodecEngineRegisterUnmapMemory memory size =>
      VVNZRunner.sceCodecEngineRegisterUnmapMemory memory size sv
  | .sceCodecEngineUnregisterUnmapMemory memory size =>
      VVNZRunner.sceCodecEngineUnregisterUnmapMemory memory size sv
  | .sceCodecEnginePmonGetProcessorLoadExt data =>
      VVNZRunner.sceCodecEnginePmonGetProcessorLoadExt data sv

/-- One step of the machine: a call with the answers of the services, or a process event. The
handler `procEvHandler` serves stop and start, `procEvExitHandler` exit and kill. -/
inductive Step where
  | call (pid : Pid) (c : Call) (sv : Services)
  | stop (pid : Pid) (eventType : Word)
  | start (pid : Pid) (eventType : Word)
  | exit (pid : Pid) (sv : Services)
  | kill (pid : Pid) (sv : Services)

/-- The step is an execution, with or without the suspend lock. -/
inductive Step.IsExec : Step → Word → Word → Bool → Services → Prop
  | exec (pid : Pid) {pUserArg userArgSize : Word} {sv : Services} :
      IsExec (.call pid (.vnzBridgeExec pUserArg userArgSize) sv) pUserArg userArgSize true sv
  | execNoSuspend (pid : Pid) {pUserArg userArgSize : Word} {sv : Services} :
      IsExec (.call pid (.vnzBridgeExecNoSuspend pUserArg userArgSize) sv) pUserArg userArgSize
        false sv

/-- The value a step returns and the state it leaves. -/
def Step.result (w : World) : Step → Word × World
  | .call pid c sv => c.perform pid sv w
  | .stop pid eventType => procEvHandler pid.val eventType w
  | .start pid eventType => procEvHandler pid.val eventType w
  | .exit pid sv => procEvExitHandler pid.val sv w
  | .kill pid sv => procEvExitHandler pid.val sv w

/-- The state after a step. -/
def step (w : World) (e : Step) : World := (e.result w).2

/-- The value a step returns. -/
def ret (w : World) (e : Step) : Word := (e.result w).1

/-- The state a successful `module_start` leaves behind, with an empty log: `clock` is the
word behind `_vnzExecClockFrequency`, `mem` the kernel's memory before. -/
def boot (clock : Word) (mem : Mem) : World :=
  { (moduleStart 0 0 { vnzExecClockFrequency := clock, mem := mem }).2 with trace := [] }

end VVNZRunner
