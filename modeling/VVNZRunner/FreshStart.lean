import VVNZRunner.Frame

/-!
A plugin without a session behaves like one that was just started.

* `Agree`: two states a later call cannot tell apart. While no process is registered the other
  statics may differ; once one is, nothing may.
* `perform_withStatics`: the calls that do not depend on the session do not read the statics.
* `agree_inject`: every stale static is overwritten before it is read.
* `free_like_fresh`: from a reachable state without a session, every continuation returns,
  asks for and stores the same as from a fresh start.
-/

namespace VVNZRunner

open ByteMemory Machine

/-- The state with other values in the statics of the session. -/
def World.withStatics (w : World) (st : Statics) : World := { w with toStatics := st }

/-- Two states that no call can tell apart. -/
structure Agree (a b : World) : Prop where
  target : a.targetExecClockFrequency = b.targetExecClockFrequency
  clock : a.vnzExecClockFrequency = b.vnzExecClockFrequency
  mem : a.mem = b.mem
  trace : a.trace = b.trace
  registeredPid : a.registeredPid = b.registeredPid
  statics : a.Registered → a.toStatics = b.toStatics

variable {a b : World}

namespace Agree

lemma refl (a : World) : Agree a a := ⟨rfl, rfl, rfl, rfl, rfl, fun _ => rfl⟩

/-- With a registered process there is no difference. -/
lemma eq (h : Agree a b) (hreg : a.Registered) : a = b := by
  obtain ⟨sa, ta, ca, ma, la⟩ := a
  obtain ⟨sb, tb, cb, mb, lb⟩ := b
  obtain ⟨rfl, rfl, rfl, rfl, -, hstat⟩ := h
  cases hstat hreg
  rfl

/-- The second state is the first with other statics. -/
lemma eq_withStatics (h : Agree a b) : b = a.withStatics b.toStatics := by
  obtain ⟨sa, ta, ca, ma, la⟩ := a
  obtain ⟨sb, tb, cb, mb, lb⟩ := b
  obtain ⟨rfl, rfl, rfl, rfl, -, -⟩ := h
  rfl

lemma free (h : Agree a b) (hfree : ¬ a.Registered) : ¬ b.Registered := by
  rw [World.Registered, ← h.registeredPid]
  exact hfree

end Agree

/-- Two free states that differ in the statics only. -/
lemma agree_withStatics (hfree : ¬ a.Registered) {st : Statics}
    (hst : st.registeredPid = sceUidInvalidUid) : Agree a (a.withStatics st) :=
  ⟨rfl, rfl, rfl, rfl, (not_not.mp hfree).trans hst.symm, fun hreg => absurd hreg hfree⟩

/-! ### The calls that do not read the statics -/

/-- The call depends on the session. -/
def Call.UsesSession : Call → Prop
  | .vnzBridgeInject .. => True
  | .vnzBridgeRestore => True
  | .vnzBridgeExec .. => True
  | .vnzBridgeExecNoSuspend .. => True
  | _ => False

instance (c : Call) : Decidable c.UsesSession := by
  cases c <;> first | exact isTrue trivial | exact isFalse fun h => h

/-- **A call that does not depend on the session neither reads nor writes the statics.** -/
theorem perform_withStatics {c : Call} (hc : ¬ c.UsesSession) (pid : Pid) (sv : Services)
    (w : World) (st : Statics) :
    c.perform pid sv (w.withStatics st) =
      ((c.perform pid sv w).1, (c.perform pid sv w).2.withStatics st) := by
  cases c with
  | vnzBridgeInject addr size => exact absurd trivial hc
  | vnzBridgeRestore => exact absurd trivial hc
  | vnzBridgeExec pUserArg userArgSize => exact absurd trivial hc
  | vnzBridgeExecNoSuspend pUserArg userArgSize => exact absurd trivial hc
  | vnzBridgeGetSpramValue offset =>
      simp only [Call.perform, vnzBridgeGetSpramValue]
      split_ifs <;> rfl
  | vnzBridgeMemcpyToSpram src size off =>
      simp only [Call.perform, vnzBridgeMemcpyToSpram]
      split_ifs <;> rfl
  | vnzBridgeMemcpyFromSpram dst size off =>
      simp only [Call.perform, vnzBridgeMemcpyFromSpram]
      split_ifs <;> rfl
  | vnzBridgeMapMemory vaddr size vnzPaddr wr =>
      simp only [Call.perform, vnzBridgeMapMemory]
      split_ifs <;> rfl
  | vnzBridgeUnmapMemory vaddr size wr =>
      simp only [Call.perform, vnzBridgeUnmapMemory]
      split_ifs <;> rfl
  | vnzBridgeSetVeneziaExecClockFrequency clock =>
      simp only [Call.perform, vnzBridgeSetVeneziaExecClockFrequency]
      split_ifs <;> rfl
  | vnzBridgeAllocUnmapMemory uid size alignment vnzVaddr =>
      simp only [Call.perform, vnzBridgeAllocUnmapMemory]
      split_ifs <;> rfl
  | vnzBridgeFreeUnmapMemory uid vnzVaddr size =>
      simp only [Call.perform, vnzBridgeFreeUnmapMemory]
      split_ifs <;> rfl
  | _ => rfl

/-- The statics of the session do not change in a call that does not depend on it. -/
lemma perform_toStatics {c : Call} (hc : ¬ c.UsesSession) (pid : Pid) (sv : Services)
    (w : World) : (c.perform pid sv w).2.toStatics = w.toStatics := by
  have h := perform_withStatics hc pid sv w w.toStatics
  have hw : w.withStatics w.toStatics = w := rfl
  rw [hw] at h
  have h2 := congrArg (fun r => r.2.toStatics) h
  exact h2

/-- Free states stay indistinguishable in a call that does not depend on the session. -/
lemma agree_call {c : Call} (hc : ¬ c.UsesSession) (pid : Pid) (sv : Services) (h : Agree a b)
    (hfree : ¬ a.Registered) :
    Agree (c.perform pid sv a).2 (c.perform pid sv b).2 ∧
      (c.perform pid sv a).1 = (c.perform pid sv b).1 := by
  have hst : b.toStatics.registeredPid = sceUidInvalidUid := not_not.mp (h.free hfree)
  have hfree' : ¬ (c.perform pid sv a).2.Registered := by
    rw [World.Registered, perform_toStatics hc]
    exact hfree
  rw [h.eq_withStatics, perform_withStatics hc]
  exact ⟨agree_withStatics hfree' hst, rfl⟩

/-! ### `vnzBridgeInject` -/

/-- The exits of an injection without a session, as one chain of guards. -/
lemma vnzBridgeInject_of_free (addr size : Word) (pid : Pid) (sv : Services)
    (hfree : ¬ a.Registered) :
    vnzBridgeInject addr size pid sv a =
      if ¬ InjectArgsOk addr size then (sceErrorErrnoEINVAL, a)
      else if sv.sceKernelUserMap.uid.toInt ≤ 0 then
        (sv.sceKernelUserMap.uid, afterUserMap addr size sv a)
      else if ¬ InjectImageOk addr size sv a then
        (sceErrorErrnoENOEXEC, afterUserMap addr size sv a)
      else if sv.sceAvcodecMapMemoryToVenezia.ret.toInt < 0 then
        (sv.sceAvcodecMapMemoryToVenezia.ret, afterVeneziaMap addr size sv a)
      else if sv.codeBase a.requestedCodeBase ≠ vramBase then
        (sceErrorErrnoEFAULT,
          (vnzBridgeUnmapMemory addr size 0 sv (afterVeneziaMap addr size sv a)).2)
      else
        injectComm sv.kernelPage (injectEntry addr size sv a)
          sv.sceAvcodecMapMemoryToVenezia.ret pid (afterVeneziaMap addr size sv a) := by
  have hout := inject_outcome addr size pid sv a
  generalize vnzBridgeInject addr size pid sv a = r at hout ⊢
  cases hout with
  | badArgument hargs => rw [if_pos hargs]
  | alreadyRegistered hargs hreg => exact absurd hreg hfree
  | notMapped hargs hfree huid => rw [if_neg (not_not.mpr hargs), if_pos huid]
  | notExecutable hargs hfree huid himage =>
      rw [if_neg (not_not.mpr hargs), if_neg (not_le.mpr huid), if_pos himage]
  | notMappedToVenezia hargs hfree huid himage hret =>
      rw [if_neg (not_not.mpr hargs), if_neg (not_le.mpr huid), if_neg (not_not.mpr himage),
        if_pos hret]
  | wrongBase hargs hfree huid himage hret hbase =>
      rw [if_neg (not_not.mpr hargs), if_neg (not_le.mpr huid), if_neg (not_not.mpr himage),
        if_neg (not_lt.mpr hret), if_pos hbase]
  | opened hargs hfree huid himage hret hbase =>
      rw [if_neg (not_not.mpr hargs), if_neg (not_le.mpr huid), if_neg (not_not.mpr himage),
        if_neg (not_lt.mpr hret), if_neg (not_not.mpr hbase)]

/-- A successful mapping to Venezia writes its result. -/
def MapWrites : Step → Prop
  | .call _ (.vnzBridgeInject ..) sv =>
      0 ≤ sv.sceAvcodecMapMemoryToVenezia.ret.toInt →
        sv.sceAvcodecMapMemoryToVenezia.out.isSome
  | _ => True

/-- An injection into free states that differ in the statics only: nothing stale is read. -/
lemma agree_inject {addr size : Word} {pid : Pid} {sv : Services} {st : Statics}
    (hfree : ¬ a.Registered) (hst : st.registeredPid = sceUidInvalidUid)
    (hwrites : MapWrites (.call pid (.vnzBridgeInject addr size) sv)) :
    Agree (vnzBridgeInject addr size pid sv a).2
        (vnzBridgeInject addr size pid sv (a.withStatics st)).2 ∧
      (vnzBridgeInject addr size pid sv a).1 =
        (vnzBridgeInject addr size pid sv (a.withStatics st)).1 := by
  have hfree' : ¬ (a.withStatics st).Registered := fun h => h hst
  have hmap : Agree (afterUserMap addr size sv a) (afterUserMap addr size sv (a.withStatics st)) :=
    ⟨rfl, rfl, rfl, rfl, (not_not.mp hfree).trans hst.symm, fun hreg => absurd hreg hfree⟩
  have hvenezia : Agree (afterVeneziaMap addr size sv a)
      (afterVeneziaMap addr size sv (a.withStatics st)) :=
    ⟨rfl, rfl, rfl, rfl, (not_not.mp hfree).trans hst.symm, fun hreg => absurd hreg hfree⟩
  have himage : InjectImageOk addr size sv (a.withStatics st) ↔ InjectImageOk addr size sv a :=
    Iff.rfl
  rw [vnzBridgeInject_of_free addr size pid sv hfree,
    vnzBridgeInject_of_free addr size pid sv hfree']
  by_cases hargs : InjectArgsOk addr size
  · rw [if_neg (not_not.mpr hargs), if_neg (not_not.mpr hargs)]
    by_cases huid : sv.sceKernelUserMap.uid.toInt ≤ 0
    · rw [if_pos huid, if_pos huid]
      exact ⟨hmap, rfl⟩
    · rw [if_neg huid, if_neg huid]
      by_cases hok : InjectImageOk addr size sv a
      · rw [if_neg (not_not.mpr hok), if_neg (not_not.mpr (himage.mpr hok))]
        by_cases hret : sv.sceAvcodecMapMemoryToVenezia.ret.toInt < 0
        · rw [if_pos hret, if_pos hret]
          exact ⟨hvenezia, rfl⟩
        · rw [if_neg hret, if_neg hret]
          -- the mapping succeeded, so it wrote the base: the stale one is not read
          have hbase : sv.codeBase (a.withStatics st).requestedCodeBase =
              sv.codeBase a.requestedCodeBase := by
            obtain ⟨base, hout⟩ := Option.isSome_iff_exists.mp (hwrites (not_lt.mp hret))
            rw [Services.codeBase, Services.codeBase, hout]
            rfl
          rw [hbase]
          by_cases hvram : sv.codeBase a.requestedCodeBase = vramBase
          · rw [if_neg (not_not.mpr hvram), if_neg (not_not.mpr hvram)]
            have heq : afterVeneziaMap addr size sv (a.withStatics st) =
                { afterVeneziaMap addr size sv a with
                  commHeapVaddr := st.commHeapVaddr
                  commHeapPaddr := st.commHeapPaddr
                  registeredPid := st.registeredPid } := by
              rw [afterVeneziaMap, hbase]
              rfl
            rw [heq]
            exact ⟨.refl _, rfl⟩
          · rw [if_pos hvram, if_pos hvram]
            have hnot : ¬ (Call.vnzBridgeUnmapMemory addr size 0).UsesSession := id
            exact ⟨(agree_call hnot pid sv hvenezia hfree).1, rfl⟩
      · rw [if_pos hok, if_pos (mt himage.mp hok)]
        exact ⟨hmap, rfl⟩
  · rw [if_pos hargs, if_pos hargs]
    exact ⟨agree_withStatics hfree hst, rfl⟩

/-! ### Steps and runs -/

/-- Without a session the registered process is nobody. -/
lemma registeredPid_ne_of_free {w : World} (h : ¬ w.Registered) (pid : Pid) :
    w.registeredPid ≠ pid.val := by
  intro hreg
  exact h (by rw [World.Registered, hreg]; exact pid.valid)

/-- A call into free states keeps them indistinguishable and returns the same. -/
lemma agree_perform (h : Agree a b) (hfree : ¬ a.Registered) (pid : Pid) (c : Call)
    (sv : Services) (hwrites : MapWrites (.call pid c sv)) :
    Agree (c.perform pid sv a).2 (c.perform pid sv b).2 ∧
      (c.perform pid sv a).1 = (c.perform pid sv b).1 := by
  have hfree' : ¬ b.Registered := h.free hfree
  have hexec : ∀ pUserArg userArgSize useCoreSuspend,
      Agree (vnzBridgeExecCore pUserArg userArgSize useCoreSuspend sv a).2
          (vnzBridgeExecCore pUserArg userArgSize useCoreSuspend sv b).2 ∧
        (vnzBridgeExecCore pUserArg userArgSize useCoreSuspend sv a).1 =
          (vnzBridgeExecCore pUserArg userArgSize useCoreSuspend sv b).1 := by
    intro pUserArg userArgSize useCoreSuspend
    rw [vnzBridgeExecCore_of_free hfree, vnzBridgeExecCore_of_free hfree']
    exact ⟨h, rfl⟩
  by_cases hc : c.UsesSession
  · cases c with
    | vnzBridgeInject addr size =>
        rw [h.eq_withStatics]
        exact agree_inject hfree (not_not.mp hfree') hwrites
    | vnzBridgeRestore =>
        change Agree (vnzBridgeRestore sv a).2 (vnzBridgeRestore sv b).2 ∧
          (vnzBridgeRestore sv a).1 = (vnzBridgeRestore sv b).1
        rw [vnzBridgeRestore_of_free hfree, vnzBridgeRestore_of_free hfree']
        exact ⟨h, rfl⟩
    | vnzBridgeExec pUserArg userArgSize => exact hexec pUserArg userArgSize true
    | vnzBridgeExecNoSuspend pUserArg userArgSize => exact hexec pUserArg userArgSize false
    | _ => exact absurd hc id
  · exact agree_call hc pid sv h hfree

/-- **Every step keeps indistinguishable states so** and returns the same from both. -/
theorem agree_step (h : Agree a b) (e : Step) (hwrites : MapWrites e) :
    Agree (step a e) (step b e) ∧ ret a e = ret b e := by
  by_cases hreg : a.Registered
  · rw [h.eq hreg]
    exact ⟨.refl _, rfl⟩
  · have hne := registeredPid_ne_of_free hreg
    have hne' := registeredPid_ne_of_free (h.free hreg)
    cases e with
    | call pid c sv => exact agree_perform h hreg pid c sv hwrites
    | stop pid eventType =>
        simp only [step, ret, Step.result]
        rw [procEvHandler_of_not_owner eventType (hne pid),
          procEvHandler_of_not_owner eventType (hne' pid)]
        exact ⟨h, rfl⟩
    | start pid eventType =>
        simp only [step, ret, Step.result]
        rw [procEvHandler_of_not_owner eventType (hne pid),
          procEvHandler_of_not_owner eventType (hne' pid)]
        exact ⟨h, rfl⟩
    | exit pid sv =>
        simp only [step, ret, Step.result]
        rw [procEvExitHandler_of_not_owner (hne pid), procEvExitHandler_of_not_owner (hne' pid)]
        exact ⟨h, rfl⟩
    | kill pid sv =>
        simp only [step, ret, Step.result]
        rw [procEvExitHandler_of_not_owner (hne pid), procEvExitHandler_of_not_owner (hne' pid)]
        exact ⟨h, rfl⟩

/-- The freshly started plugin, given the clock, the target and the memory of `w`. -/
def freshlyStarted (w : World) : World :=
  { boot w.vnzExecClockFrequency w.mem with
    targetExecClockFrequency := w.targetExecClockFrequency
    mem := w.mem }

/-- What a step shows: the value it returns and the log behind it. -/
def shown (w : World) (e : Step) : Word × List Event := (ret w e, (step w e).trace)

/-- **A state without a session carries nothing over**: after any past that ends without a
session, every continuation returns the same values and asks the services for and stores the
same as from a fresh start. -/
theorem free_like_fresh (clock : Word) (mem : Mem) (past later : List Step)
    (hfree : ¬ (run step (boot clock mem) past).Registered)
    (hwrites : ∀ e ∈ later, MapWrites e) :
    outputs step shown { run step (boot clock mem) past with trace := [] } later =
      outputs step shown (freshlyStarted (run step (boot clock mem) past)) later := by
  have hagree : Agree { run step (boot clock mem) past with trace := [] }
      (freshlyStarted (run step (boot clock mem) past)) :=
    ⟨rfl, rfl, rfl, rfl, not_not.mp hfree, fun hreg => absurd hreg hfree⟩
  have hadm : Admissible step (fun _ e => MapWrites e)
      { run step (boot clock mem) past with trace := [] } later :=
    admissible_iff_forall.mpr hwrites
  refine outputs_eq_of_simulation (R := Agree) (fun a b e h hok => (agree_step h e hok).1) ?_
    hagree hadm
  intro a b e h hok
  obtain ⟨hstep, hret⟩ := agree_step h e hok
  rw [shown, shown, hret, hstep.trace]

/-- Process 1 opens a session and closes it again. -/
def restoredSession : List Step :=
  [acceptedInject, .call samplePid .vnzBridgeRestore {}]

theorem free_like_fresh_restoredSession :
    outputs step shown { run step (boot 166 fun _ => 0) restoredSession with trace := [] }
        [acceptedInject] =
      outputs step shown (freshlyStarted (run step (boot 166 fun _ => 0) restoredSession))
        [acceptedInject] :=
  free_like_fresh 166 (fun _ => 0) restoredSession [acceptedInject] (by decide) (by
    intro e he
    rw [List.mem_singleton.mp he]
    exact fun _ => rfl)

end VVNZRunner
