import VVNZRunner.Session

/-!
Which services a step calls.

* `Event.Plain`: a call of a service that neither touches the kernel's mappings, memory or cache
  nor the run of Venezia, and does not open a session.
* `StepLog`: the steps by the other services they call. `step_log` goes through the exported
  functions and the process events once.
-/

namespace VVNZRunner

open ByteMemory

/-- The event leaves the kernel's mappings, its memory, the cache and the run of Venezia alone
and is not part of opening a session. -/
def Event.Plain : Event → Prop
  | .sceKernelUserMap .. => False
  | .sceKernelUserUnmap .. => False
  | .sceKernelDcacheInvalidateRange .. => False
  | .sceKernelDcacheCleanRange .. => False
  | .sceVeneziaEventHandler .. => False
  | .builtinMrc _ => False
  | .builtinMcr _ => False
  | .sceKernelGetProcessId _ => False
  | .sceVeneziaLockProcessSuspend _ => False
  | .sceVeneziaUnlockProcessSuspend _ => False
  | .sceVeneziaRpcCallGenericThunk .. => False
  | .sceKernelCopyFromUser .. => False
  | .store .. => False
  | _ => True

section Plain

variable {w u : World} {P : Event → Prop} {sv : Services}

/-- One more event. -/
lemma Logs.emit (h : Logs P w u) {e : Event} (he : P e) : Logs P w (u.emit e) :=
  h.trans (.single he rfl)

lemma ClockOnly.plain (h : ClockOnly w u) : Logs Event.Plain w u := by
  refine h.logs.mono fun e he => ?_
  cases e <;> trivial

lemma plain_map (vaddr size vnzPaddr wr : Word) :
    Logs Event.Plain w (vnzBridgeMapMemory vaddr size vnzPaddr wr sv w).2 := by
  rw [vnzBridgeMapMemory_eq]
  exact ((Logs.refl w).emit (by trivial)).emit (by trivial)

lemma plain_spramRead (dst size off : Word) :
    Logs Event.Plain w (vnzBridgeMemcpyFromSpram dst size off sv w).2 := by
  rw [vnzBridgeMemcpyFromSpram]
  split_ifs
  · exact (Logs.refl w).emit (by trivial)
  · exact .refl w

lemma plain_spramValue (offset : Word) :
    Logs Event.Plain w (vnzBridgeGetSpramValue offset w).2 := by
  rw [vnzBridgeGetSpramValue]
  split_ifs <;> exact .refl w

lemma plain_alloc (uid size alignment vnzVaddr : Word) :
    Logs Event.Plain w (vnzBridgeAllocUnmapMemory uid size alignment vnzVaddr sv w).2 := by
  rw [vnzBridgeAllocUnmapMemory]
  dsimp only
  have halloc : Logs Event.Plain w (w.emit (.sceCodecEngineAllocMemoryFromUnmapMemBlock uid size
      alignment sv.sceCodecEngineAllocMemoryFromUnmapMemBlock)) := (Logs.refl w).emit (by trivial)
  split_ifs
  · exact .refl w
  · exact halloc
  · exact (halloc.emit (by trivial)).emit (by trivial)
  · exact ((halloc.emit (by trivial)).emit (by trivial)).emit (by trivial)
  · exact ((halloc.emit (by trivial)).emit (by trivial)).emit (by trivial)

lemma plain_free (uid vnzVaddr size : Word) :
    Logs Event.Plain w (vnzBridgeFreeUnmapMemory uid vnzVaddr size sv w).2 := by
  rw [vnzBridgeFreeUnmapMemory]
  dsimp only
  have hclose : Logs Event.Plain w (w.emit (.sceVeneziaClosePublicMemory vnzVaddr size
      sv.sceVeneziaClosePublicMemory)) := (Logs.refl w).emit (by trivial)
  split_ifs
  · exact .refl w
  · exact hclose
  · exact hclose.emit (by trivial)
  · exact (hclose.emit (by trivial)).emit (by trivial)

lemma plain_translation (kind : UnmapTranslation) (arg dst : Word) :
    Logs Event.Plain w (unmapTranslationWrapper kind arg dst sv w).2 :=
  ((Logs.refl w).emit (by trivial)).emit (by trivial)

end Plain

/-- The steps by the services they call that are not plain. -/
inductive StepLog (w : World) : Step → Prop
  | plain {e : Step} (hstatics : (step w e).toStatics = w.toStatics)
      (hlogs : Logs Event.Plain w (step w e)) : StepLog w e
  | exec {e : Step} {pUserArg userArgSize : Word} {useCoreSuspend : Bool} {sv : Services}
      (he : e.IsExec pUserArg userArgSize useCoreSuspend sv)
      (hw : step w e = (vnzBridgeExecCore pUserArg userArgSize useCoreSuspend sv w).2) :
      StepLog w e
  | lock (pid : Pid) (sv : Services) : StepLog w (.call pid .vnzLockProcessSuspend sv)
  | unlock (pid : Pid) (sv : Services) : StepLog w (.call pid .vnzUnlockProcessSuspend sv)
  | spramWrite (pid : Pid) (src size off : Word) (sv : Services) :
      StepLog w (.call pid (.vnzBridgeMemcpyToSpram src size off) sv)
  | inject (pid : Pid) (addr size : Word) (sv : Services) :
      StepLog w (.call pid (.vnzBridgeInject addr size) sv)
  | unmap (pid : Pid) (vaddr size wr : Word) (sv : Services) :
      StepLog w (.call pid (.vnzBridgeUnmapMemory vaddr size wr) sv)
  | restore {e : Step} {u : World} {sv : Services} (hreg : w.Registered)
      (hstatics : u.toStatics = w.toStatics) (hlogs : Logs Event.Plain w u)
      (hw : step w e = restored sv u) : StepLog w e

lemma stepLog_exit {w : World} {e : Step} {pid : Pid} {sv : Services}
    (he : step w e = (procEvExitHandler pid.val sv w).2) : StepLog w e := by
  by_cases howner : w.registeredPid = pid.val
  · have hreg : w.Registered := by
      rw [World.Registered, howner]
      exact pid.valid
    have hw : step w e = restored sv (clockReset w) := by
      rw [he, procEvExitHandler_of_owner howner]
    exact .restore hreg (clockReset_toStatics w) (clockOnly_clockReset w).plain hw
  · have hw : step w e = w := by rw [he, procEvExitHandler_of_not_owner howner]
    refine .plain (congrArg _ hw) ?_
    rw [hw]
    exact .refl w

lemma stepLog_clockOnly {w : World} {e : Step} (h : ClockOnly w (step w e)) : StepLog w e :=
  .plain h.statics h.plain

/-- **Every step is one of these.** -/
theorem step_log (w : World) (e : Step) : StepLog w e := by
  cases e with
  | call pid c sv =>
      rcases keepsStatics_or pid c sv w with ⟨addr, size, rfl⟩ | rfl | ⟨hinject, hrestore, hkeeps⟩
      · exact .inject pid addr size sv
      · by_cases hreg : w.Registered
        · have hw : step w (.call pid .vnzBridgeRestore sv) = restored sv w :=
            congrArg Prod.snd (vnzBridgeRestore_of_registered hreg)
          exact .restore hreg rfl (.refl w) hw
        · have hw : step w (.call pid .vnzBridgeRestore sv) = w :=
            congrArg Prod.snd (vnzBridgeRestore_of_free hreg)
          refine .plain (congrArg _ hw) ?_
          rw [hw]
          exact .refl w
      have hstatics : (step w (.call pid c sv)).toStatics = w.toStatics := hkeeps.statics
      cases c with
      | vnzBridgeInject addr size => exact absurd rfl (hinject addr size)
      | vnzBridgeRestore => exact absurd rfl hrestore
      | vnzBridgeExec pUserArg userArgSize => exact .exec (.exec pid) rfl
      | vnzBridgeExecNoSuspend pUserArg userArgSize => exact .exec (.execNoSuspend pid) rfl
      | vnzLockProcessSuspend => exact .lock pid sv
      | vnzUnlockProcessSuspend => exact .unlock pid sv
      | vnzBridgeGetSpramValue offset => exact .plain hstatics (plain_spramValue offset)
      | vnzBridgeMemcpyToSpram src size off => exact .spramWrite pid src size off sv
      | vnzBridgeMemcpyFromSpram dst size off => exact .plain hstatics (plain_spramRead dst size off)
      | vnzBridgeMapMemory vaddr size vnzPaddr wr =>
          exact .plain hstatics (plain_map vaddr size vnzPaddr wr)
      | vnzBridgeUnmapMemory vaddr size wr => exact .unmap pid vaddr size wr sv
      | vnzBridgeGetVeneziaExecClockFrequency => exact .plain hstatics (.refl w)
      | vnzBridgeSetVeneziaExecClockFrequency clock =>
          exact .plain hstatics (clockOnly_setClock clock w).plain
      | vnzBridgeAllocUnmapMemory uid size alignment vnzVaddr =>
          exact .plain hstatics (plain_alloc uid size alignment vnzVaddr)
      | vnzBridgeFreeUnmapMemory uid vnzVaddr size =>
          exact .plain hstatics (plain_free uid vnzVaddr size)
      | sceVeneziaOpenPublicMemory paddr size =>
          exact .plain hstatics ((Logs.refl w).emit (by trivial))
      | sceVeneziaClosePublicMemory vnzVaddr size =>
          exact .plain hstatics ((Logs.refl w).emit (by trivial))
      | sceCodecEngineUnmapPAtoUserVA paddr memory =>
          exact .plain hstatics (plain_translation _ _ _)
      | sceCodecEngineUnmapUserVAtoPA memory paddr =>
          exact .plain hstatics (plain_translation _ _ _)
      | sceCodecEngineUnmapKernelVAtoUserVA kernelMemory memory =>
          exact .plain hstatics (plain_translation _ _ _)
      | sceCodecEngineUnmapUserVAtoKernelVA memory kernelMemory =>
          exact .plain hstatics (plain_translation _ _ _)
      | sceCodecEngineRegisterUnmapMemory memory size =>
          exact .plain hstatics ((Logs.refl w).emit (by trivial))
      | sceCodecEngineUnregisterUnmapMemory memory size =>
          exact .plain hstatics ((Logs.refl w).emit (by trivial))
      | sceCodecEnginePmonGetProcessorLoadExt data =>
          exact .plain hstatics (((Logs.refl w).emit (by trivial)).emit (by trivial))
  | stop pid eventType => exact stepLog_clockOnly (clockOnly_procEvHandler pid eventType w)
  | start pid eventType => exact stepLog_clockOnly (clockOnly_procEvHandler pid eventType w)
  | exit pid sv => exact stepLog_exit rfl
  | kill pid sv => exact stepLog_exit rfl

/-! ### The events of the other steps -/

section Events

variable {w : World} {P : Event → Prop} {sv : Services}

/-- An injection maps, stores, asks for the process and makes plain calls. -/
lemma logs_inject (pid : Pid) (addr size : Word)
    (hpid : P (.sceKernelGetProcessId pid.val))
    (hmap : ∀ name prot addr size uid page offset,
      P (.sceKernelUserMap name prot addr size uid page offset))
    (hstore : ∀ addr bytes, P (.store addr bytes)) (hplain : ∀ e, e.Plain → P e) :
    Logs P w (vnzBridgeInject addr size pid sv w).2 := by
  have huser : Logs P w (afterUserMap addr size sv w) := .single (hmap ..) rfl
  have hvenezia : Logs P w (afterVeneziaMap addr size sv w) :=
    huser.trans (.single (hplain _ (by trivial)) rfl)
  have hout := inject_outcome addr size pid sv w
  generalize vnzBridgeInject addr size pid sv w = r at hout ⊢
  cases hout with
  | badArgument hargs => exact .refl w
  | alreadyRegistered hargs hreg => exact .refl w
  | notMapped hargs hfree huid => exact huser
  | notExecutable hargs hfree huid himage => exact huser
  | notMappedToVenezia hargs hfree huid himage hret => exact hvenezia
  | wrongBase hargs hfree huid himage hret hbase =>
      exact hvenezia.emit (hplain _ (by trivial))
  | opened hargs hfree huid himage hret hbase =>
      have hbasic : Logs P (afterVeneziaMap addr size sv w)
          (injectComm sv.kernelPage (injectEntry addr size sv w)
            sv.sceAvcodecMapMemoryToVenezia.ret pid (afterVeneziaMap addr size sv w)).2 := by
        refine ⟨[_, _, _, _], rfl, ?_⟩
        simp only [List.forall_mem_cons, List.not_mem_nil, false_implies, implies_true, and_true]
        exact ⟨hpid, hstore _ _, hstore _ _, hstore _ _⟩
      exact hvenezia.trans hbasic

/-- A call of `vnzBridgeUnmapMemory` invalidates at most and makes a plain call. -/
lemma logs_unmap (vaddr size wr : Word)
    (hinvalidate : wr ≠ 0 → P (.sceKernelDcacheInvalidateRange (unmapRangeBase vaddr)
      (unmapInvalidateSize vaddr size))) (hplain : ∀ e, e.Plain → P e) :
    Logs P w (vnzBridgeUnmapMemory vaddr size wr sv w).2 := by
  rw [vnzBridgeUnmapMemory]
  dsimp only
  split_ifs with hwr
  · exact (Logs.single (hinvalidate hwr) rfl).trans (.single (hplain _ (by trivial)) rfl)
  · exact .single (hplain _ (by trivial)) rfl

/-- The end of a session resets Venezia, unmaps and makes a plain call. -/
lemma logs_restored (hmrc : ∀ v, P (.builtinMrc v)) (hmcr : ∀ v, P (.builtinMcr v))
    (hhandler : ∀ resume eventid, P (.sceVeneziaEventHandler resume eventid))
    (hunmap : ∀ uid ret, P (.sceKernelUserUnmap uid ret)) (hplain : ∀ e, e.Plain → P e) :
    Logs P w (restored sv w) := by
  have hrelease : Logs P w
      (vnzBridgeUnmapMemory w.requestedCodeBaseVaddr w.requestedCodeSize 0 sv w).2 :=
    logs_unmap _ _ 0 (fun h => absurd rfl h) hplain
  refine hrelease.trans ⟨_, closeSession_trace sv _, ?_⟩
  simp only [List.forall_mem_cons, List.not_mem_nil, false_implies, implies_true, and_true]
  exact ⟨hunmap _ _, hmcr _, hhandler _ _, hhandler _ _, hmcr _, hmrc _⟩

/-- The first part of an execution copies in, takes the suspend lock, cleans the cache over the
comm heap and makes the RPC. -/
lemma logs_execStart {pUserArg userArgSize : Word} {useCoreSuspend : Bool}
    (hcopy : pUserArg ≠ 0 → userArgSize.toNat ≤ 500 →
      P (.sceKernelCopyFromUser (w.commHeapVaddr + 12) pUserArg userArgSize
        sv.sceKernelCopyFromUser))
    (hlock : ∀ r, P (.sceVeneziaLockProcessSuspend r))
    (hclean : P (.sceKernelDcacheCleanRange w.commHeapVaddr commHeapSize))
    (hrpc : w.Registered → P (.sceVeneziaRpcCallGenericThunk thunkCmdId
      (execThunkArg pUserArg userArgSize sv w))) (hplain : ∀ e, e.Plain → P e) :
    Logs P w (execStart pUserArg userArgSize useCoreSuspend sv w).2 := by
  have hafterLock : (pUserArg ≠ 0 → userArgSize.toNat ≤ 500) → Logs P w
      (afterLock useCoreSuspend sv (afterCopyIn pUserArg userArgSize sv w)) := by
    intro hsize
    have hcopied : Logs P w (afterCopyIn pUserArg userArgSize sv w) := by
      rw [afterCopyIn]
      split_ifs with harg
      · exact .single (hcopy harg (hsize harg)) rfl
      · exact .refl w
    rw [afterLock]
    split_ifs
    · exact hcopied.emit (hlock _)
    · exact hcopied
  have hout := start_outcome pUserArg userArgSize useCoreSuspend sv w
  generalize execStart pUserArg userArgSize useCoreSuspend sv w = r at hout ⊢
  cases hout with
  | notRegistered hfree => exact .refl w
  | tooBig hreg harg hsize => exact .refl w
  | lockFailed hreg hsize hlocked => exact hafterLock hsize
  | blocked hreg hsize hlocked =>
      exact (((hafterLock hsize).emit (hplain _ (by trivial))).emit hclean).emit (hrpc hreg)

/-- The second part releases the lock and makes plain calls. -/
lemma logs_execReply {pUserArg userArgSize : Word} {useCoreSuspend : Bool}
    (thunkArg : SceVeneziaThunkArg) (hunlock : ∀ r, P (.sceVeneziaUnlockProcessSuspend r))
    (hplain : ∀ e, e.Plain → P e) :
    Logs P w (execFinish pUserArg userArgSize useCoreSuspend sv w thunkArg).2 := by
  rw [execFinish]
  dsimp only
  generalize hu : { w with mem := (sv.sceVeneziaRpcCallGenericThunk thunkArg w.mem).2 } = u
  have hanswered : Logs P w u := ⟨[], by rw [← hu]; rfl, by simp⟩
  have hreply : Logs P w (execReply useCoreSuspend sv u) := by
    rw [execReply]
    split_ifs
    · exact hanswered.emit (hunlock _)
    · exact hanswered
  rw [execCopyOut]
  split_ifs
  · exact hreply.emit (hplain _ (by trivial))
  · exact hreply

/-- A whole execution. -/
lemma logs_exec {pUserArg userArgSize : Word} {useCoreSuspend : Bool}
    (hcopy : pUserArg ≠ 0 → userArgSize.toNat ≤ 500 →
      P (.sceKernelCopyFromUser (w.commHeapVaddr + 12) pUserArg userArgSize
        sv.sceKernelCopyFromUser))
    (hlock : ∀ r, P (.sceVeneziaLockProcessSuspend r))
    (hclean : P (.sceKernelDcacheCleanRange w.commHeapVaddr commHeapSize))
    (hrpc : w.Registered → P (.sceVeneziaRpcCallGenericThunk thunkCmdId
      (execThunkArg pUserArg userArgSize sv w)))
    (hunlock : ∀ r, P (.sceVeneziaUnlockProcessSuspend r)) (hplain : ∀ e, e.Plain → P e) :
    Logs P w (vnzBridgeExecCore pUserArg userArgSize useCoreSuspend sv w).2 := by
  have hstart : Logs P w (execStart pUserArg userArgSize useCoreSuspend sv w).2 :=
    logs_execStart hcopy hlock hclean hrpc hplain
  rw [vnzBridgeExecCore_eq]
  generalize execStart pUserArg userArgSize useCoreSuspend sv w = r at hstart ⊢
  obtain ⟨ret | thunkArg, u⟩ := r
  · exact hstart
  · exact hstart.trans (logs_execReply thunkArg hunlock hplain)

end Events

end VVNZRunner
