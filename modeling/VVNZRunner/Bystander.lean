import VVNZRunner.FreshStart
import VVNZRunner.Ownership
import VVNZRunner.UnmapMemory
import VVNZRunner.Library.Erasure

/-!
Processes that do not show. Most exported functions leave nothing behind but their own requests;
no function reads what was requested before.

* `World.over`: the state with an older log below its own. `result_over`: every step returns,
  logs and stores the same over any older log.
* `Call.Alters`: the six calls that change what a later step finds. `result_of_bystander`: any
  other call, and any process event of a process without a session, changes the log only.
* `bystanders_invisible`: along every run, the steps of processes that make none of the six calls
  can be taken out, and every other step returns and requests the same.
-/

namespace VVNZRunner

open ByteMemory Machine

/-! ### Nothing reads the log -/

/-- The state with the log `l` below its own. -/
def World.over (w : World) (l : List Event) : World := { w with trace := w.trace ++ l }

section Over

variable (w : World) (l : List Event) (sv : Services)

/-- The result with the log `l` below the one it has. -/
def resultOver {α : Type} (r : α × World) : α × World := (r.1, r.2.over l)

lemma over_toStatics : (w.over l).toStatics = w.toStatics := rfl

lemma vnzBridgeUnmapMemory_over (vaddr size wr : Word) :
    vnzBridgeUnmapMemory vaddr size wr sv (w.over l) =
      resultOver l (vnzBridgeUnmapMemory vaddr size wr sv w) := by
  simp only [vnzBridgeUnmapMemory]
  split_ifs <;> rfl

lemma restored_over : restored sv (w.over l) = (restored sv w).over l := by
  rw [restored, restored, vnzBridgeUnmapMemory_over]
  rfl

lemma vnzBridgeRestore_over :
    vnzBridgeRestore sv (w.over l) = resultOver l (vnzBridgeRestore sv w) := by
  by_cases hreg : w.Registered
  · have hreg' : (w.over l).Registered := hreg
    rw [vnzBridgeRestore_of_registered hreg, vnzBridgeRestore_of_registered hreg', restored_over]
    rfl
  · have hreg' : ¬ (w.over l).Registered := hreg
    rw [vnzBridgeRestore_of_free hreg, vnzBridgeRestore_of_free hreg']
    rfl

/-- An injection, guard by guard. -/
lemma vnzBridgeInject_over (addr size : Word) (pid : Pid) :
    vnzBridgeInject addr size pid sv (w.over l) =
      resultOver l (vnzBridgeInject addr size pid sv w) := by
  by_cases hreg : w.Registered
  · have hreg' : (w.over l).registeredPid ≠ sceUidInvalidUid := hreg
    rw [vnzBridgeInject, vnzBridgeInject, if_pos hreg, if_pos hreg']
    split_ifs <;> rfl
  have hreg' : ¬ (w.over l).Registered := hreg
  have himage : InjectImageOk addr size sv (w.over l) ↔ InjectImageOk addr size sv w := Iff.rfl
  have hbase : sv.codeBase (w.over l).requestedCodeBase = sv.codeBase w.requestedCodeBase := rfl
  rw [vnzBridgeInject_of_free addr size pid sv hreg, vnzBridgeInject_of_free addr size pid sv hreg',
    hbase]
  by_cases hargs : ¬ InjectArgsOk addr size
  · rw [if_pos hargs, if_pos hargs]
    rfl
  rw [if_neg hargs, if_neg hargs]
  by_cases huid : sv.sceKernelUserMap.uid.toInt ≤ 0
  · rw [if_pos huid, if_pos huid]
    rfl
  rw [if_neg huid, if_neg huid]
  by_cases hok : ¬ InjectImageOk addr size sv w
  · rw [if_pos hok, if_pos (mt himage.mp hok)]
    rfl
  rw [if_neg hok, if_neg (mt (mt himage.mpr) hok)]
  by_cases hret : sv.sceAvcodecMapMemoryToVenezia.ret.toInt < 0
  · rw [if_pos hret, if_pos hret]
    rfl
  rw [if_neg hret, if_neg hret]
  have hmap : afterVeneziaMap addr size sv (w.over l) = (afterVeneziaMap addr size sv w).over l :=
    rfl
  by_cases hvram : sv.codeBase w.requestedCodeBase ≠ vramBase
  · rw [if_pos hvram, if_pos hvram, hmap, vnzBridgeUnmapMemory_over]
    rfl
  · rw [if_neg hvram, if_neg hvram, hmap]
    rfl

variable (pUserArg n : Word) (useCoreSuspend : Bool)

lemma execCopyIn_over :
    execCopyIn pUserArg n sv (w.over l) = resultOver l (execCopyIn pUserArg n sv w) := by
  rw [execCopyIn, execCopyIn, over_toStatics]
  split_ifs <;> rfl

lemma execRequest_over (userArg2 : Word) :
    execRequest userArg2 n useCoreSuspend sv (w.over l) =
      resultOver l (execRequest userArg2 n useCoreSuspend sv w) := by
  cases useCoreSuspend <;> simp only [execRequest] <;> split_ifs <;> rfl

lemma vnzBridgeExecCore_over :
    vnzBridgeExecCore pUserArg n useCoreSuspend sv (w.over l) =
      resultOver l (vnzBridgeExecCore pUserArg n useCoreSuspend sv w) := by
  rw [vnzBridgeExecCore, vnzBridgeExecCore, execCopyIn_over]
  rcases execCopyIn pUserArg n sv w with ⟨ret | userArg2, w₁⟩
  · rfl
  dsimp only [resultOver]
  rw [execRequest_over]
  rcases execRequest userArg2 n useCoreSuspend sv w₁ with ⟨ret | thunkArg, w₂⟩
  · rfl
  cases useCoreSuspend <;> simp only [resultOver, execReply, execCopyOut] <;> split_ifs <;> rfl

/-- Every exported function. -/
lemma perform_over (pid : Pid) (c : Call) :
    c.perform pid sv (w.over l) = resultOver l (c.perform pid sv w) := by
  cases c with
  | vnzBridgeInject addr size => exact vnzBridgeInject_over w l sv addr size pid
  | vnzBridgeRestore => exact vnzBridgeRestore_over w l sv
  | vnzBridgeExec pUserArg n => exact vnzBridgeExecCore_over w l sv pUserArg n true
  | vnzBridgeExecNoSuspend pUserArg n => exact vnzBridgeExecCore_over w l sv pUserArg n false
  | vnzBridgeGetSpramValue offset =>
      simp only [Call.perform, vnzBridgeGetSpramValue]
      split_ifs <;> rfl
  | vnzBridgeMemcpyToSpram src size off =>
      simp only [Call.perform, vnzBridgeMemcpyToSpram]
      split_ifs <;> rfl
  | vnzBridgeMemcpyFromSpram dst size off =>
      simp only [Call.perform, vnzBridgeMemcpyFromSpram]
      split_ifs <;> rfl
  | vnzBridgeMapMemory vaddr size vnzPaddr wr =>
      simp only [Call.perform, vnzBridgeMapMemory]
      split_ifs <;> rfl
  | vnzBridgeUnmapMemory vaddr size wr => exact vnzBridgeUnmapMemory_over w l sv vaddr size wr
  | vnzBridgeSetVeneziaExecClockFrequency clock =>
      simp only [Call.perform, vnzBridgeSetVeneziaExecClockFrequency]
      split_ifs <;> rfl
  | vnzBridgeAllocUnmapMemory uid size alignment vnzVaddr =>
      simp only [Call.perform, vnzBridgeAllocUnmapMemory]
      split_ifs <;> rfl
  | vnzBridgeFreeUnmapMemory uid vnzVaddr size =>
      simp only [Call.perform, vnzBridgeFreeUnmapMemory]
      split_ifs <;> rfl
  | _ => rfl

lemma procEvHandler_over (pid eventType : Word) :
    procEvHandler pid eventType (w.over l) = resultOver l (procEvHandler pid eventType w) := by
  by_cases hactive : w.registeredPid = pid ∧ w.targetExecClockFrequency ≠ 166
  · have hactive' : (w.over l).registeredPid = pid ∧ (w.over l).targetExecClockFrequency ≠ 166 :=
      hactive
    simp only [procEvHandler, if_pos hactive, if_pos hactive']
    split_ifs <;> rfl
  · have hactive' : ¬ ((w.over l).registeredPid = pid ∧
        (w.over l).targetExecClockFrequency ≠ 166) := hactive
    simp only [procEvHandler, if_neg hactive, if_neg hactive']
    split_ifs <;> rfl

lemma clockReset_over : clockReset (w.over l) = (clockReset w).over l := by
  by_cases htarget : w.targetExecClockFrequency ≠ 166
  · have htarget' : (w.over l).targetExecClockFrequency ≠ 166 := htarget
    rw [clockReset, clockReset, if_pos htarget, if_pos htarget']
    rfl
  · have htarget' : ¬ (w.over l).targetExecClockFrequency ≠ 166 := htarget
    rw [clockReset, clockReset, if_neg htarget, if_neg htarget']

lemma procEvExitHandler_over (pid : Pid) :
    procEvExitHandler pid.val sv (w.over l) = resultOver l (procEvExitHandler pid.val sv w) := by
  by_cases howner : w.registeredPid = pid.val
  · have howner' : (w.over l).registeredPid = pid.val := howner
    rw [procEvExitHandler_of_owner howner, procEvExitHandler_of_owner howner', clockReset_over,
      restored_over]
    rfl
  · have howner' : (w.over l).registeredPid ≠ pid.val := howner
    rw [procEvExitHandler_of_not_owner howner, procEvExitHandler_of_not_owner howner']
    rfl

end Over

/-- **Nothing reads the log**: over any older log a step returns, logs and stores the same. -/
theorem result_over (w : World) (l : List Event) (e : Step) :
    e.result (w.over l) = resultOver l (e.result w) := by
  cases e with
  | call pid c sv => exact perform_over w l sv pid c
  | stop pid eventType => exact procEvHandler_over w l pid.val eventType
  | start pid eventType => exact procEvHandler_over w l pid.val eventType
  | exit pid sv => exact procEvExitHandler_over w l sv pid
  | kill pid sv => exact procEvExitHandler_over w l sv pid

/-- The state with an empty log. -/
def World.silent (w : World) : World := { w with trace := [] }

/-- Two states that differ in the log at most. -/
def SameButLog (u v : World) : Prop := u.silent = v.silent

section Observe

variable {u v w : World}

/-- What a step returns and logs, and the state but for the log, for any log. -/
lemma result_eq_over (w : World) (e : Step) :
    e.result w = resultOver w.trace (e.result w.silent) :=
  result_over w.silent w.trace e

/-- What a step shows: what it returns and what it logs. -/
def observe (w : World) (e : Step) : Word × List Event := (ret w e, newEvents w e)

lemma observe_silent (w : World) (e : Step) :
    observe w e = (ret w.silent e, (step w.silent e).trace) := by
  have htrace : (step w e).trace = (step w.silent e).trace ++ w.trace :=
    congrArg (fun r => r.2.trace) (result_eq_over w e)
  rw [observe, newEvents_eq htrace, ret, ret, result_eq_over w e]
  rfl

/-- A step shows the same in states that differ in the log. -/
lemma observe_congr (h : SameButLog u v) (e : Step) : observe u e = observe v e := by
  rw [observe_silent, observe_silent, h]

/-- A step leads from states that differ in the log to such states. -/
lemma sameButLog_step (h : SameButLog u v) (e : Step) : SameButLog (step u e) (step v e) := by
  have hsilent : ∀ w, (step w e).silent = (step w.silent e).silent := fun w =>
    congrArg (fun r => r.2.silent) (result_eq_over w e)
  rw [SameButLog, hsilent u, hsilent v, h]

end Observe

/-! ### Steps that do not show -/

/-- The calls that change what a later step finds: the session, Venezia's memory or the clock. -/
def Call.Alters : Call → Prop
  | .vnzBridgeInject .. => True
  | .vnzBridgeRestore => True
  | .vnzBridgeExec .. => True
  | .vnzBridgeExecNoSuspend .. => True
  | .vnzBridgeMemcpyToSpram .. => True
  | .vnzBridgeSetVeneziaExecClockFrequency _ => True
  | _ => False

/-- The process a step is about. -/
def Step.pid : Step → Pid
  | .call pid .. => pid
  | .stop pid _ => pid
  | .start pid _ => pid
  | .exit pid _ => pid
  | .kill pid _ => pid

/-- The step is none of the six calls. -/
def Step.LeavesAll : Step → Prop
  | .call _ c _ => ¬ c.Alters
  | _ => True

/-- Any other call changes the log only. -/
lemma sameButLog_perform (pid : Pid) {c : Call} (hc : ¬ c.Alters) (sv : Services) (w : World) :
    SameButLog (c.perform pid sv w).2 w := by
  by_cases hpassive : c.Passive
  · rw [SameButLog, (passive_call sv w pid hpassive).eq]
    rfl
  cases c with
  | vnzBridgeMapMemory vaddr size vnzPaddr wr =>
      simp only [Call.perform, vnzBridgeMapMemory]
      split_ifs <;> rfl
  | vnzBridgeUnmapMemory vaddr size wr =>
      simp only [Call.perform, vnzBridgeUnmapMemory]
      split_ifs <;> rfl
  | _ => first | exact absurd trivial hc | exact absurd trivial hpassive

/-- **A step of a process without the session** that is none of the six calls changes the log
only. -/
lemma sameButLog_of_leavesAll {e : Step} (h : e.LeavesAll) {w : World}
    (howner : w.registeredPid ≠ e.pid.val) : SameButLog (step w e) w := by
  cases e with
  | call pid c sv => exact sameButLog_perform pid h sv w
  | stop pid eventType =>
      exact congrArg World.silent (congrArg Prod.snd (procEvHandler_of_not_owner eventType howner))
  | start pid eventType =>
      exact congrArg World.silent (congrArg Prod.snd (procEvHandler_of_not_owner eventType howner))
  | exit pid sv =>
      exact congrArg World.silent (congrArg Prod.snd (procEvExitHandler_of_not_owner howner))
  | kill pid sv =>
      exact congrArg World.silent (congrArg Prod.snd (procEvExitHandler_of_not_owner howner))

/-! ### Who is registered -/

/-- An injection registers its caller or leaves the registration as it was. -/
lemma registeredPid_inject (pid : Pid) (addr size : Word) (sv : Services) (w : World) :
    (vnzBridgeInject addr size pid sv w).2.registeredPid = w.registeredPid ∨
      (vnzBridgeInject addr size pid sv w).2.registeredPid = pid.val := by
  have hout := inject_outcome addr size pid sv w
  generalize vnzBridgeInject addr size pid sv w = r at hout ⊢
  cases hout with
  | opened hargs hfree huid himage hret hbase => exact .inr rfl
  | wrongBase hargs hfree huid himage hret hbase =>
      have hkeeps : (vnzBridgeUnmapMemory addr size 0 sv (afterVeneziaMap addr size sv w)).2.toStatics
          = (afterVeneziaMap addr size sv w).toStatics := (keepsStatics_unmap ..).statics
      have hpid : (afterVeneziaMap addr size sv w).registeredPid = w.registeredPid := rfl
      exact .inl ((congrArg Statics.registeredPid hkeeps).trans hpid)
  | _ => exact .inl rfl

/-- A step ends the registration, or registers its own process, or changes nothing there. -/
lemma registeredPid_step (w : World) (e : Step) :
    (step w e).registeredPid = w.registeredPid ∨ (step w e).registeredPid = sceUidInvalidUid ∨
      (step w e).registeredPid = e.pid.val := by
  have hexit : ∀ (pid : Pid) sv,
      (procEvExitHandler pid.val sv w).2.registeredPid = w.registeredPid ∨
        (procEvExitHandler pid.val sv w).2.registeredPid = sceUidInvalidUid := by
    intro pid sv
    by_cases howner : w.registeredPid = pid.val
    · rw [procEvExitHandler_of_owner howner]
      exact .inr rfl
    · rw [procEvExitHandler_of_not_owner howner]
      exact .inl rfl
  cases e with
  | call pid c sv =>
      rcases keepsStatics_or pid c sv w with ⟨addr, size, rfl⟩ | rfl | ⟨-, -, hkeeps⟩
      · exact (registeredPid_inject pid addr size sv w).imp_right .inr
      · change (vnzBridgeRestore sv w).2.registeredPid = _ ∨
          (vnzBridgeRestore sv w).2.registeredPid = _ ∨ _
        by_cases hreg : w.Registered
        · rw [vnzBridgeRestore_of_registered hreg]
          exact .inr (.inl rfl)
        · rw [vnzBridgeRestore_of_free hreg]
          exact .inl rfl
      · exact .inl (congrArg Statics.registeredPid hkeeps.statics)
  | stop pid eventType =>
      exact .inl (congrArg Statics.registeredPid
        (clockOnly_procEvHandler pid eventType w).keepsStatics.statics)
  | start pid eventType =>
      exact .inl (congrArg Statics.registeredPid
        (clockOnly_procEvHandler pid eventType w).keepsStatics.statics)
  | exit pid sv => exact (hexit pid sv).imp_right .inl
  | kill pid sv => exact (hexit pid sv).imp_right .inl

/-! ### Every run -/

section Runs

variable {B : Pid → Prop}

/-- The states differ in the log at most, and no process of `B` has the session. -/
structure Unowned (B : Pid → Prop) (u v : World) : Prop where
  same : SameButLog u v
  unowned : ∀ p, B p → u.registeredPid ≠ p.val

/-- A step of another process keeps `B` without the session. -/
lemma Unowned.kept {u v : World} (h : Unowned B u v) {e : Step} (he : ¬ B e.pid) :
    Unowned B (step u e) (step v e) := by
  refine ⟨sameButLog_step h.same e, fun p hp hown => ?_⟩
  rcases registeredPid_step u e with hkept | hended | hopened
  · exact h.unowned p hp (hkept.symm.trans hown)
  · exact p.valid (hown.symm.trans hended)
  · have hsame : e.pid = p := Pid.val_injective (hopened.symm.trans hown)
    exact he (hsame ▸ hp)

/-- A step of a process of `B` that is none of the six calls. -/
lemma Unowned.erased {u v : World} (h : Unowned B u v) {e : Step} (hleaves : e.LeavesAll)
    (he : B e.pid) : Unowned B (step u e) v := by
  have hsilent : SameButLog (step u e) u := sameButLog_of_leavesAll hleaves (h.unowned e.pid he)
  have hpid : (step u e).silent.registeredPid = u.silent.registeredPid :=
    congrArg (fun w : World => w.registeredPid) hsilent
  exact ⟨hsilent.trans h.same, fun p hp hown => h.unowned p hp (hpid.symm.trans hown)⟩

/-- **Bystanders do not show**: along every run, if the processes of `B` make none of the six calls,
then every step of every other process returns and requests what it does in the run without any
step of theirs, deaths included, and the plugin ends in the same state but for the log. -/
theorem bystanders_invisible (clock : Word) (mem : Mem) (B : Pid → Prop) [DecidablePred B]
    (es : List Step) (hleaves : ∀ e ∈ es, B e.pid → e.LeavesAll) :
    keptOutputs (fun e : Step => ¬ B e.pid) step observe (boot clock mem) es =
        outputs step observe (boot clock mem) (es.filter fun e => ¬ B e.pid) ∧
      SameButLog (run step (boot clock mem) es)
        (run step (boot clock mem) (es.filter fun e => ¬ B e.pid)) := by
  have hok : Admissible step (fun _ e => B e.pid → e.LeavesAll) (boot clock mem) es :=
    admissible_iff_forall.mpr hleaves
  have hboot : Unowned B (boot clock mem) (boot clock mem) := ⟨rfl, fun p _ => p.valid.symm⟩
  have hkept : ∀ u v (e : Step), Unowned B u v → ¬ B e.pid →
      observe u e = observe v e ∧ Unowned B (step u e) (step v e) := fun u v e h he =>
    ⟨observe_congr h.same e, h.kept he⟩
  have herased : ∀ u v (e : Step), Unowned B u v → (B e.pid → e.LeavesAll) → ¬ ¬ B e.pid →
      Unowned B (step u e) v := fun u v e h hleaves he =>
    h.erased (hleaves (not_not.mp he)) (not_not.mp he)
  obtain ⟨hshow, hend⟩ := keptOutputs_eq_outputs hkept herased hboot hok
  exact ⟨hshow, hend.same⟩

/-- Process 2 maps a buffer, takes the suspend lock and dies while process 1 has its session. -/
def dyingBystander : List Step :=
  [acceptedInject, .call otherPid (.vnzBridgeMapMemory 0x82000000 0x1000 0x82001000 1) {},
    .call otherPid .vnzLockProcessSuspend {}, .kill otherPid {},
    .call samplePid (.vnzBridgeExec 0 0) {}]

theorem bystanders_invisible_dyingBystander :
    keptOutputs (fun e : Step => ¬ e.pid = otherPid) step observe (boot 166 fun _ => 0)
        dyingBystander =
      outputs step observe (boot 166 fun _ => 0)
        (dyingBystander.filter fun e => ¬ e.pid = otherPid) ∧
      SameButLog (run step (boot 166 fun _ => 0) dyingBystander)
        (run step (boot 166 fun _ => 0) (dyingBystander.filter fun e => ¬ e.pid = otherPid)) := by
  refine bystanders_invisible 166 (fun _ => 0) (· = otherPid) dyingBystander fun e he hB => ?_
  simp only [dyingBystander, List.mem_cons, List.not_mem_nil, or_false] at he
  rcases he with rfl | rfl | rfl | rfl | rfl
  · exact absurd hB (by decide)
  · exact id
  · exact id
  · trivial
  · exact absurd hB (by decide)

end Runs

end VVNZRunner
