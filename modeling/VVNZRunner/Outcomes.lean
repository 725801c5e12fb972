import VVNZRunner.Machine

/-!
What a call can do, exit by exit. Every invariant is read off these lemmas, none unfolds the
code again.

* `InjectOutcome`, `inject_outcome`: the seven exits of `vnzBridgeInject`, each with its guard
  and the state it leaves.
* `execStart`, `execFinish`: `vnzBridgeExecCore` cut at the RPC in which it blocks.
* `StartOutcome`, `ExecOutcome`, `exec_outcome`: the four exits of the first part and of the
  whole.
* `restored`, `clockReset`: what `vnzBridgeRestore` and the exit handler leave behind.
* `Call.Quiet`: the calls with no effect on the session, the mappings and the clock.
-/

namespace VVNZRunner

open ByteMemory

/-! ### `vnzBridgeInject`, exit by exit -/

/-- The argument check of `vnzBridgeInject`. -/
def InjectArgsOk (addr size : Word) : Prop :=
  addr ≠ 0 ∧ size ≠ 0 ∧ IsSizeAligned size sceKernel256KiB

instance (addr size : Word) : Decidable (InjectArgsOk addr size) :=
  inferInstanceAs (Decidable (_ ∧ _))

/-- `kernelPage + kernelOffset` as `sceKernelUserMap` answers it. -/
def Services.kernelPage (sv : Services) : Word :=
  sv.sceKernelUserMap.kernelPage + sv.sceKernelUserMap.kernelOffset

/-- What `s_requestedCodeBase` holds after `_sceAvcodecMapMemoryToVenezia`, where `old` is its
value before. -/
def Services.codeBase (sv : Services) (old : Word) : Word :=
  sv.sceAvcodecMapMemoryToVenezia.out.getD old

/-- The state behind the kernel mapping. -/
def afterUserMap (addr size : Word) (sv : Services) (w : World) : World :=
  { w.sceKernelUserMap "SceVeneziaMepExec" 3 addr size sv with
    blockMapId := sv.sceKernelUserMap.uid }

/-- The state behind the mapping to Venezia. -/
def afterVeneziaMap (addr size : Word) (sv : Services) (w : World) : World :=
  { ({ afterUserMap addr size sv w with
        requestedCodeSize := size
        requestedCodeBaseVaddr := addr }).sceAvcodecMapMemoryToVenezia addr size .kernR 1 1 sv
    with requestedCodeBase := sv.codeBase w.requestedCodeBase }

/-- The image read through the kernel mapping passes the checks. -/
def InjectImageOk (addr size : Word) (sv : Services) (w : World) : Prop :=
  ImageAccepted (afterUserMap addr size sv w).mem sv.kernelPage

instance (addr size : Word) (sv : Services) (w : World) :
    Decidable (InjectImageOk addr size sv w) :=
  inferInstanceAs (Decidable (ImageAccepted _ _))

/-- The `e_entry` read at injection. -/
def injectEntry (addr size : Word) (sv : Services) (w : World) : Word :=
  ehdrEntry (afterUserMap addr size sv w).mem sv.kernelPage

/-- The mapping to Venezia from the state behind the kernel mapping. -/
lemma injectMap_eq (addr size : Word) (pid : Pid) (sv : Services) (w : World) :
    injectMap sv.kernelPage addr size pid sv (afterUserMap addr size sv w) =
      if sv.sceAvcodecMapMemoryToVenezia.ret.toInt < 0 then
        (sv.sceAvcodecMapMemoryToVenezia.ret, afterVeneziaMap addr size sv w)
      else if sv.codeBase w.requestedCodeBase ≠ vramBase then
        (sceErrorErrnoEFAULT,
          (vnzBridgeUnmapMemory addr size 0 sv (afterVeneziaMap addr size sv w)).2)
      else
        injectComm sv.kernelPage (injectEntry addr size sv w)
          sv.sceAvcodecMapMemoryToVenezia.ret pid (afterVeneziaMap addr size sv w) := rfl

/-- The exits of `vnzBridgeInject`: the guards passed on the way and the value and the state
at the end. -/
inductive InjectOutcome (addr size : Word) (pid : Pid) (sv : Services) (w : World) :
    Word × World → Prop
  | badArgument (hargs : ¬ InjectArgsOk addr size) :
      InjectOutcome addr size pid sv w (sceErrorErrnoEINVAL, w)
  | alreadyRegistered (hargs : InjectArgsOk addr size) (hreg : w.Registered) :
      InjectOutcome addr size pid sv w (sceErrorErrnoEALREADY, w)
  | notMapped (hargs : InjectArgsOk addr size) (hfree : ¬ w.Registered)
      (huid : sv.sceKernelUserMap.uid.toInt ≤ 0) :
      InjectOutcome addr size pid sv w (sv.sceKernelUserMap.uid, afterUserMap addr size sv w)
  | notExecutable (hargs : InjectArgsOk addr size) (hfree : ¬ w.Registered)
      (huid : 0 < sv.sceKernelUserMap.uid.toInt) (himage : ¬ InjectImageOk addr size sv w) :
      InjectOutcome addr size pid sv w (sceErrorErrnoENOEXEC, afterUserMap addr size sv w)
  | notMappedToVenezia (hargs : InjectArgsOk addr size) (hfree : ¬ w.Registered)
      (huid : 0 < sv.sceKernelUserMap.uid.toInt) (himage : InjectImageOk addr size sv w)
      (hret : sv.sceAvcodecMapMemoryToVenezia.ret.toInt < 0) :
      InjectOutcome addr size pid sv w
        (sv.sceAvcodecMapMemoryToVenezia.ret, afterVeneziaMap addr size sv w)
  | wrongBase (hargs : InjectArgsOk addr size) (hfree : ¬ w.Registered)
      (huid : 0 < sv.sceKernelUserMap.uid.toInt) (himage : InjectImageOk addr size sv w)
      (hret : 0 ≤ sv.sceAvcodecMapMemoryToVenezia.ret.toInt)
      (hbase : sv.codeBase w.requestedCodeBase ≠ vramBase) :
      InjectOutcome addr size pid sv w
        (sceErrorErrnoEFAULT,
          (vnzBridgeUnmapMemory addr size 0 sv (afterVeneziaMap addr size sv w)).2)
  | opened (hargs : InjectArgsOk addr size) (hfree : ¬ w.Registered)
      (huid : 0 < sv.sceKernelUserMap.uid.toInt) (himage : InjectImageOk addr size sv w)
      (hret : 0 ≤ sv.sceAvcodecMapMemoryToVenezia.ret.toInt)
      (hbase : sv.codeBase w.requestedCodeBase = vramBase) :
      InjectOutcome addr size pid sv w
        (injectComm sv.kernelPage (injectEntry addr size sv w)
          sv.sceAvcodecMapMemoryToVenezia.ret pid (afterVeneziaMap addr size sv w))

/-- Every call of `vnzBridgeInject` leaves by one of the seven exits. -/
theorem inject_outcome (addr size : Word) (pid : Pid) (sv : Services) (w : World) :
    InjectOutcome addr size pid sv w (vnzBridgeInject addr size pid sv w) := by
  rw [vnzBridgeInject]
  by_cases hargs : InjectArgsOk addr size
  · have hno : ¬ (addr = 0 ∨ size = 0 ∨ ¬ IsSizeAligned size sceKernel256KiB) := by
      rintro (h | h | h)
      exacts [hargs.1 h, hargs.2.1 h, h hargs.2.2]
    rw [if_neg hno]
    by_cases hreg : w.Registered
    · rw [if_pos hreg]
      exact .alreadyRegistered hargs hreg
    · rw [if_neg hreg]
      by_cases huid : sv.sceKernelUserMap.uid.toInt ≤ 0
      · rw [if_pos huid]
        exact .notMapped hargs hreg huid
      · rw [if_neg huid]
        rw [not_le] at huid
        change InjectOutcome addr size pid sv w
          (injectImage sv.kernelPage addr size pid sv (afterUserMap addr size sv w))
        rw [injectImage]
        by_cases hident : IdentMatches (afterUserMap addr size sv w).mem sv.kernelPage
        · rw [if_neg (not_not.mpr hident)]
          by_cases hsec : findSection (afterUserMap addr size sv w).mem sv.kernelPage = 0
          · rw [if_pos hsec]
            exact .notExecutable hargs hreg huid fun h => h.2 hsec
          · rw [if_neg hsec]
            have himage : InjectImageOk addr size sv w := ⟨hident, hsec⟩
            rw [injectMap_eq]
            by_cases hret : sv.sceAvcodecMapMemoryToVenezia.ret.toInt < 0
            · rw [if_pos hret]
              exact .notMappedToVenezia hargs hreg huid himage hret
            · rw [if_neg hret]
              rw [not_lt] at hret
              by_cases hbase : sv.codeBase w.requestedCodeBase = vramBase
              · rw [if_neg (not_not.mpr hbase)]
                exact .opened hargs hreg huid himage hret hbase
              · rw [if_pos hbase]
                exact .wrongBase hargs hreg huid himage hret hbase
        · rw [if_pos hident]
          exact .notExecutable hargs hreg huid fun h => hident h.1
  · have hyes : addr = 0 ∨ size = 0 ∨ ¬ IsSizeAligned size sceKernel256KiB := by
      by_contra hno
      simp only [not_or, not_not] at hno
      exact hargs ⟨hno.1, hno.2.1, hno.2.2⟩
    rw [if_pos hyes]
    exact .badArgument hargs

/-- Services that accept the small image, mapped at `0x500000`. -/
def acceptingServices : Services where
  sceKernelUserMap := { uid := 0x10001, kernelPage := 0x500000, content := smallImage }
  sceAvcodecMapMemoryToVenezia := { ret := 0, out := some vramBase }

/-- The injection of the small image by process 1. -/
def acceptedInject : Step :=
  .call samplePid (.vnzBridgeInject 0x81000000 0x40000) acceptingServices

example : ret (boot 166 fun _ => 0) acceptedInject = sceOk := by decide

/-! ### `vnzBridgeExecCore`, exit by exit -/

section Exec

variable (pUserArg userArgSize : Word) (useCoreSuspend : Bool) (sv : Services) (w : World)

/-- The state behind the copy into the comm heap. -/
def afterCopyIn : World :=
  if pUserArg ≠ 0 then w.sceKernelCopyFromUser (w.commHeapVaddr + 12) pUserArg userArgSize sv
  else w

/-- The state behind the suspend lock, which only `vnzBridgeExec` takes. -/
def afterLock : World :=
  if useCoreSuspend then w.emit (.sceVeneziaLockProcessSuspend sv.sceVeneziaLockProcessSuspend)
  else w

/-- The state in which the RPC is made. -/
def afterRequest : World :=
  ((afterLock useCoreSuspend sv (afterCopyIn pUserArg userArgSize sv w)).emit
    (.sceVeneziaGetVThreadProcessingResource 0 sv.sceVeneziaGetVThreadProcessingResource)).emit
      (.sceKernelDcacheCleanRange w.commHeapVaddr commHeapSize)

/-- The four words of the RPC. -/
def execThunkArg : SceVeneziaThunkArg where
  pVThreadProcessingResource := sv.sceVeneziaGetVThreadProcessingResource
  userArg2 := if pUserArg ≠ 0 then w.commHeapPaddr + 12 else 0
  userArg3 := userArgSize
  userArg4 := w.commHeapPaddr

/-- The answer of the RPC and the state behind it. -/
def afterRpc : Word × World :=
  (afterRequest pUserArg userArgSize useCoreSuspend sv w).sceVeneziaRpcCallGenericThunk
    thunkCmdId (execThunkArg pUserArg userArgSize sv w) sv

/-- The state at the end of an execution that reached Venezia. -/
def afterExec : World :=
  execCopyOut pUserArg userArgSize sv
    (execReply useCoreSuspend sv (afterRpc pUserArg userArgSize useCoreSuspend sv w).2)

@[simp] lemma afterCopyIn_toStatics :
    (afterCopyIn pUserArg userArgSize sv w).toStatics = w.toStatics := by
  rw [afterCopyIn]
  split_ifs <;> rfl

@[simp] lemma afterLock_toStatics : (afterLock useCoreSuspend sv w).toStatics = w.toStatics := by
  rw [afterLock]
  split_ifs <;> rfl

@[simp] lemma afterLock_mem : (afterLock useCoreSuspend sv w).mem = w.mem := by
  rw [afterLock]
  split_ifs <;> rfl

@[simp] lemma afterRequest_toStatics :
    (afterRequest pUserArg userArgSize useCoreSuspend sv w).toStatics = w.toStatics := by
  rw [afterRequest]
  simp

@[simp] lemma afterRequest_mem :
    (afterRequest pUserArg userArgSize useCoreSuspend sv w).mem =
      (afterCopyIn pUserArg userArgSize sv w).mem := by
  rw [afterRequest]
  simp

/-- The suspend lock is asked for and not given. -/
def LockFails (useCoreSuspend : Bool) (sv : Services) : Prop :=
  useCoreSuspend ∧ sv.sceVeneziaLockProcessSuspend.toInt < 0

/-- The state in which the call is blocked in the RPC. -/
def afterCall : World :=
  (afterRequest pUserArg userArgSize useCoreSuspend sv w).emit
    (.sceVeneziaRpcCallGenericThunk thunkCmdId (execThunkArg pUserArg userArgSize sv w))

/-- `vnzBridgeExecCore` up to the RPC: it fails, or blocks in the RPC with these four words. -/
def execStart : Except Word SceVeneziaThunkArg × World :=
  match execCopyIn pUserArg userArgSize sv w with
  | (.error ret, w) => (.error ret, w)
  | (.ok userArg2, w) =>
    match execRequest userArg2 userArgSize useCoreSuspend sv w with
    | (.error ret, w) => (.error ret, w)
    | (.ok thunkArg, w) =>
      (.ok thunkArg, w.emit (.sceVeneziaRpcCallGenericThunk thunkCmdId thunkArg))

/-- `vnzBridgeExecCore` from the answer of the RPC on. -/
def execFinish (thunkArg : SceVeneziaThunkArg) : Word × World :=
  let r := sv.sceVeneziaRpcCallGenericThunk thunkArg w.mem
  (r.1, execCopyOut pUserArg userArgSize sv (execReply useCoreSuspend sv { w with mem := r.2 }))

/-- The two parts make up the whole. -/
theorem vnzBridgeExecCore_eq :
    vnzBridgeExecCore pUserArg userArgSize useCoreSuspend sv w =
      match execStart pUserArg userArgSize useCoreSuspend sv w with
      | (.error ret, w) => (ret, w)
      | (.ok thunkArg, w) => execFinish pUserArg userArgSize useCoreSuspend sv w thunkArg := by
  rw [vnzBridgeExecCore, execStart]
  rcases execCopyIn pUserArg userArgSize sv w with ⟨ret | userArg2, w₁⟩
  · rfl
  · dsimp only
    rcases execRequest userArg2 userArgSize useCoreSuspend sv w₁ with ⟨ret | thunkArg, w₂⟩ <;> rfl

/-- The exits of the first part: the guards passed on the way, the result and the state. -/
inductive StartOutcome : Except Word SceVeneziaThunkArg × World → Prop
  | notRegistered (hfree : ¬ w.Registered) : StartOutcome (.error sceErrorErrnoEPERM, w)
  | tooBig (hreg : w.Registered) (harg : pUserArg ≠ 0) (hsize : 500 < userArgSize.toNat) :
      StartOutcome (.error sceErrorErrnoE2BIG, w)
  | lockFailed (hreg : w.Registered) (hsize : pUserArg ≠ 0 → userArgSize.toNat ≤ 500)
      (hlock : useCoreSuspend ∧ sv.sceVeneziaLockProcessSuspend.toInt < 0) :
      StartOutcome (.error sv.sceVeneziaLockProcessSuspend,
        afterLock useCoreSuspend sv (afterCopyIn pUserArg userArgSize sv w))
  | blocked (hreg : w.Registered) (hsize : pUserArg ≠ 0 → userArgSize.toNat ≤ 500)
      (hlock : ¬ (useCoreSuspend ∧ sv.sceVeneziaLockProcessSuspend.toInt < 0)) :
      StartOutcome (.ok (execThunkArg pUserArg userArgSize sv w),
        afterCall pUserArg userArgSize useCoreSuspend sv w)

/-- The exits of `vnzBridgeExecCore`: the guards passed on the way and the value and the state
at the end. -/
inductive ExecOutcome : Word × World → Prop
  | notRegistered (hfree : ¬ w.Registered) : ExecOutcome (sceErrorErrnoEPERM, w)
  | tooBig (hreg : w.Registered) (harg : pUserArg ≠ 0) (hsize : 500 < userArgSize.toNat) :
      ExecOutcome (sceErrorErrnoE2BIG, w)
  | lockFailed (hreg : w.Registered) (hsize : pUserArg ≠ 0 → userArgSize.toNat ≤ 500)
      (hlock : useCoreSuspend ∧ sv.sceVeneziaLockProcessSuspend.toInt < 0) :
      ExecOutcome (sv.sceVeneziaLockProcessSuspend,
        afterLock useCoreSuspend sv (afterCopyIn pUserArg userArgSize sv w))
  | ran (hreg : w.Registered) (hsize : pUserArg ≠ 0 → userArgSize.toNat ≤ 500)
      (hlock : ¬ (useCoreSuspend ∧ sv.sceVeneziaLockProcessSuspend.toInt < 0)) :
      ExecOutcome ((afterRpc pUserArg userArgSize useCoreSuspend sv w).1,
        afterExec pUserArg userArgSize useCoreSuspend sv w)

variable {pUserArg userArgSize useCoreSuspend sv w}

/-- Without a session nothing is started. -/
lemma execStart_of_free (h : ¬ w.Registered) :
    execStart pUserArg userArgSize useCoreSuspend sv w = (.error sceErrorErrnoEPERM, w) := by
  rw [execStart, execCopyIn, if_pos (not_not.mp h)]

/-- Without a session nothing is executed. -/
lemma vnzBridgeExecCore_of_free (h : ¬ w.Registered) :
    vnzBridgeExecCore pUserArg userArgSize useCoreSuspend sv w = (sceErrorErrnoEPERM, w) := by
  rw [vnzBridgeExecCore_eq, execStart_of_free h]

/-- The copy in of a call that passes the checks. -/
lemma execCopyIn_ok (hreg : w.Registered) (hsize : pUserArg ≠ 0 → userArgSize.toNat ≤ 500) :
    execCopyIn pUserArg userArgSize sv w =
      (.ok (if pUserArg ≠ 0 then w.commHeapPaddr + 12 else 0),
        afterCopyIn pUserArg userArgSize sv w) := by
  rw [execCopyIn, if_neg hreg, afterCopyIn]
  by_cases harg : pUserArg = 0
  · rw [if_neg (not_not.mpr harg), if_neg (not_not.mpr harg), if_neg (not_not.mpr harg)]
  · have hle : ¬ userArgSize.toNat > commHeapSize - sizeofCommParam := by
      rw [commHeapSize, sizeofCommParam]
      have h500 := hsize harg
      omega
    rw [if_pos harg, if_neg hle, if_pos harg, if_pos harg]

/-- The request of a call whose bytes are copied in. -/
lemma execRequest_ok
    (hlock : ¬ (useCoreSuspend ∧ sv.sceVeneziaLockProcessSuspend.toInt < 0)) :
    execRequest (if pUserArg ≠ 0 then w.commHeapPaddr + 12 else 0) userArgSize useCoreSuspend sv
        (afterCopyIn pUserArg userArgSize sv w) =
      (.ok (execThunkArg pUserArg userArgSize sv w),
        afterRequest pUserArg userArgSize useCoreSuspend sv w) := by
  have hstat := afterLock_toStatics useCoreSuspend sv (afterCopyIn pUserArg userArgSize sv w)
  rw [afterCopyIn_toStatics] at hstat
  rw [afterRequest, execThunkArg, ← hstat]
  exact if_neg hlock

/-- Every call of `vnzBridgeExecCore` starts in one of the four ways. -/
theorem start_outcome (pUserArg userArgSize : Word) (useCoreSuspend : Bool) (sv : Services)
    (w : World) :
    StartOutcome pUserArg userArgSize useCoreSuspend sv w
      (execStart pUserArg userArgSize useCoreSuspend sv w) := by
  by_cases hreg : w.Registered
  · by_cases hbig : pUserArg ≠ 0 ∧ 500 < userArgSize.toNat
    · have hin : execCopyIn pUserArg userArgSize sv w = (.error sceErrorErrnoE2BIG, w) := by
        have hgt : userArgSize.toNat > commHeapSize - sizeofCommParam := hbig.2
        rw [execCopyIn, if_neg hreg, if_pos hbig.1, if_pos hgt]
      rw [execStart, hin]
      exact .tooBig hreg hbig.1 hbig.2
    · have hsize : pUserArg ≠ 0 → userArgSize.toNat ≤ 500 := by
        intro harg
        by_contra hgt
        exact hbig ⟨harg, by omega⟩
      rw [execStart, execCopyIn_ok hreg hsize]
      by_cases hlock : useCoreSuspend ∧ sv.sceVeneziaLockProcessSuspend.toInt < 0
      · have hreq : ∀ a w', execRequest a userArgSize useCoreSuspend sv w' =
            (.error sv.sceVeneziaLockProcessSuspend, afterLock useCoreSuspend sv w') := by
          intro a w'
          exact if_pos hlock
        dsimp only
        rw [hreq]
        exact .lockFailed hreg hsize hlock
      · dsimp only
        rw [execRequest_ok hlock]
        exact .blocked hreg hsize hlock
  · rw [execStart_of_free hreg]
    exact .notRegistered hreg

/-- Every call of `vnzBridgeExecCore` leaves by one of the four exits. -/
theorem exec_outcome (pUserArg userArgSize : Word) (useCoreSuspend : Bool) (sv : Services)
    (w : World) :
    ExecOutcome pUserArg userArgSize useCoreSuspend sv w
      (vnzBridgeExecCore pUserArg userArgSize useCoreSuspend sv w) := by
  have hout := start_outcome pUserArg userArgSize useCoreSuspend sv w
  rw [vnzBridgeExecCore_eq]
  generalize execStart pUserArg userArgSize useCoreSuspend sv w = r at hout ⊢
  cases hout with
  | notRegistered hfree => exact .notRegistered hfree
  | tooBig hreg harg hsize => exact .tooBig hreg harg hsize
  | lockFailed hreg hsize hlock => exact .lockFailed hreg hsize hlock
  | blocked hreg hsize hlock => exact .ran hreg hsize hlock

/-- A call that passes the checks runs on Venezia. -/
lemma vnzBridgeExecCore_ran (hreg : w.Registered) (hsize : pUserArg ≠ 0 → userArgSize.toNat ≤ 500)
    (hlock : ¬ (useCoreSuspend ∧ sv.sceVeneziaLockProcessSuspend.toInt < 0)) :
    vnzBridgeExecCore pUserArg userArgSize useCoreSuspend sv w =
      ((afterRpc pUserArg userArgSize useCoreSuspend sv w).1,
        afterExec pUserArg userArgSize useCoreSuspend sv w) := by
  rw [vnzBridgeExecCore_eq, execStart, execCopyIn_ok hreg hsize]
  dsimp only
  rw [execRequest_ok hlock]
  rfl

end Exec

/-! ### `vnzBridgeRestore` and the process events -/

/-- The part of `vnzBridgeRestore` behind the call of `vnzBridgeUnmapMemory`. -/
def closeSession (sv : Services) (w : World) : World :=
  { (((((w.emit (.builtinMrc sv.builtinMrc)).emit (.builtinMcr (sv.builtinMrc <<< 16))).vnzDoReset
      ).emit (.builtinMcr sv.builtinMrc)).sceKernelUserUnmap w.blockMapId sv) with
    blockMapId := sceUidInvalidUid
    commHeapVaddr := 0
    commHeapPaddr := 0
    registeredPid := sceUidInvalidUid }

/-- The state behind a successful `vnzBridgeRestore`. -/
def restored (sv : Services) (w : World) : World :=
  closeSession sv (vnzBridgeUnmapMemory w.requestedCodeBaseVaddr w.requestedCodeSize 0 sv w).2

@[simp] lemma closeSession_target (sv : Services) (w : World) :
    (closeSession sv w).targetExecClockFrequency = w.targetExecClockFrequency := rfl

@[simp] lemma closeSession_clock (sv : Services) (w : World) :
    (closeSession sv w).vnzExecClockFrequency = w.vnzExecClockFrequency := rfl

@[simp] lemma closeSession_mem (sv : Services) (w : World) : (closeSession sv w).mem = w.mem :=
  rfl

lemma closeSession_trace (sv : Services) (w : World) :
    (closeSession sv w).trace =
      [.sceKernelUserUnmap w.blockMapId sv.sceKernelUserUnmap, .builtinMcr sv.builtinMrc,
        .sceVeneziaEventHandler 1 0x1000e, .sceVeneziaEventHandler 0 0x400e,
        .builtinMcr (sv.builtinMrc <<< 16), .builtinMrc sv.builtinMrc] ++ w.trace := rfl

lemma vnzBridgeRestore_of_free {sv : Services} {w : World} (h : ¬ w.Registered) :
    vnzBridgeRestore sv w = (sceErrorErrnoEALREADY, w) := by
  rw [vnzBridgeRestore, if_pos (not_not.mp h)]

lemma vnzBridgeRestore_of_registered {sv : Services} {w : World} (h : w.Registered) :
    vnzBridgeRestore sv w = (sv.sceKernelUserUnmap, restored sv w) := by
  rw [vnzBridgeRestore, if_neg h]
  rfl

/-- The clock part of `procEvExitHandler`. -/
def clockReset (w : World) : World :=
  if w.targetExecClockFrequency ≠ 166 then
    { w.storeExecClockFrequency 166 with targetExecClockFrequency := 166 }
  else w

@[simp] lemma clockReset_toStatics (w : World) : (clockReset w).toStatics = w.toStatics := by
  rw [clockReset]
  split_ifs <;> rfl

lemma procEvExitHandler_of_owner {pid : Pid} {sv : Services} {w : World}
    (h : w.registeredPid = pid.val) :
    procEvExitHandler pid.val sv w = (sceOk, restored sv (clockReset w)) := by
  have hreg : (clockReset w).Registered := by
    rw [World.Registered, clockReset_toStatics, h]
    exact pid.valid
  have hrest : vnzBridgeRestore sv (clockReset w) = _ := vnzBridgeRestore_of_registered hreg
  rw [procEvExitHandler, if_pos h]
  change (sceOk, (vnzBridgeRestore sv (clockReset w)).2) = _
  rw [hrest]

lemma procEvExitHandler_of_not_owner {pid : Pid} {sv : Services} {w : World}
    (h : w.registeredPid ≠ pid.val) : procEvExitHandler pid.val sv w = (sceOk, w) := by
  rw [procEvExitHandler, if_neg h]

/-- `procEvHandler` stores the clock or does nothing. -/
lemma procEvHandler_cases (pid : Pid) (eventType : Word) (w : World) :
    (∃ clock, (procEvHandler pid.val eventType w).2 = w.storeExecClockFrequency clock) ∨
      (procEvHandler pid.val eventType w).2 = w := by
  rw [procEvHandler]
  split_ifs
  · exact Or.inl ⟨_, rfl⟩
  · exact Or.inr rfl
  · exact Or.inl ⟨_, rfl⟩
  · exact Or.inr rfl
  · exact Or.inr rfl

/-- A stop or start event of a process that is not registered does nothing. -/
lemma procEvHandler_of_not_owner {pid : Pid} {w : World} (eventType : Word)
    (h : w.registeredPid ≠ pid.val) :
    procEvHandler pid.val eventType w = (sceOk, w) := by
  have hno : ¬ (w.registeredPid = pid.val ∧ w.targetExecClockFrequency ≠ 166) := fun h' => h h'.1
  rw [procEvHandler]
  split_ifs <;> rfl

/-! ### The quiet calls -/

/-- The exported functions that neither open nor close a session, nor change what is mapped
to Venezia, nor set the clock. -/
def Call.Quiet : Call → Prop
  | .vnzBridgeInject .. => False
  | .vnzBridgeRestore => False
  | .vnzBridgeMapMemory .. => False
  | .vnzBridgeUnmapMemory .. => False
  | .vnzBridgeSetVeneziaExecClockFrequency .. => False
  | _ => True

/-- A call is quiet or one of the five others. -/
lemma Call.quiet_or (c : Call) :
    c.Quiet ∨ (∃ addr size, c = .vnzBridgeInject addr size) ∨ c = .vnzBridgeRestore ∨
      (∃ vaddr size vnzPaddr wr, c = .vnzBridgeMapMemory vaddr size vnzPaddr wr) ∨
      (∃ vaddr size wr, c = .vnzBridgeUnmapMemory vaddr size wr) ∨
      ∃ clock, c = .vnzBridgeSetVeneziaExecClockFrequency clock := by
  cases c with
  | vnzBridgeInject addr size => exact .inr (.inl ⟨_, _, rfl⟩)
  | vnzBridgeRestore => exact .inr (.inr (.inl rfl))
  | vnzBridgeMapMemory vaddr size vnzPaddr wr =>
      exact .inr (.inr (.inr (.inl ⟨_, _, _, _, rfl⟩)))
  | vnzBridgeUnmapMemory vaddr size wr => exact .inr (.inr (.inr (.inr (.inl ⟨_, _, _, rfl⟩))))
  | vnzBridgeSetVeneziaExecClockFrequency clock =>
      exact .inr (.inr (.inr (.inr (.inr ⟨_, rfl⟩))))
  | _ => exact .inl trivial

end VVNZRunner
