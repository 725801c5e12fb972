import VVNZRunner.Mappings
import VVNZRunner.References
import VVNZRunner.CallBlock

/-!
Whether a session belongs to the process that opened it.

* `Untouched`: the statics, the comm heap, the kernel mappings and the references are as before.
* `OwnedStep`: a step of another process is refused and leaves the session untouched, and the
  session ends by its owner only.
* `ForeignExecHarmless`, `HarmlessTo`: the condition on a step. The process events compare
  `s_registeredPid` with the process they are for, the calls compare it with
  `SCE_UID_INVALID_UID` only.
* `session_owned_iff`: along a run the session is its owner's exactly if every step meets the
  condition.
-/

namespace VVNZRunner

open ByteMemory Machine

/-! ### What belongs to the owner -/

/-- The comm heap of the session has in `m'` the bytes it has in `m`. -/
def HeapKept (s : Session) (m m' : Mem) : Prop :=
  ∀ x, InRange (s.at 256) commHeapSize x → m' x = m x

/-- What belongs to the session is as before. -/
structure Untouched (s : Session) (w w' : World) : Prop where
  statics : w'.toStatics = w.toStatics
  heap : HeapKept s w.mem w'.mem
  mappings : liveMappings w'.trace = liveMappings w.trace
  refs : heldRefs w'.trace = heldRefs w.trace

/-- The calls that the owner of a session makes. -/
def Call.ForOwner : Call → Prop
  | .vnzBridgeRestore => True
  | .vnzBridgeExec .. => True
  | .vnzBridgeExecNoSuspend .. => True
  | _ => False

/-- The process of a process event. -/
def Step.eventOf : Step → Option Pid
  | .call .. => none
  | .stop pid _ => some pid
  | .start pid _ => some pid
  | .exit pid _ => some pid
  | .kill pid _ => some pid

/-- The owner of the session restores, exits or is killed. -/
def EndsByOwner (s : Session) : Step → Prop
  | .call pid .vnzBridgeRestore _ => pid = s.pid
  | .exit pid _ => pid = s.pid
  | .kill pid _ => pid = s.pid
  | _ => False

/-- While the session `s` is open it is its owner's. -/
structure OwnedBy (s : Session) (w : World) (e : Step) : Prop where
  refused : ∀ pid c sv, e = .call pid c sv → pid ≠ s.pid → c.ForOwner →
    (c.perform pid sv w).1.toInt < 0 ∧ Untouched s w (c.perform pid sv w).2
  ignored : ∀ pid ∈ e.eventOf, pid ≠ s.pid → step w e = w
  ends : ¬ (step w e).Registered → EndsByOwner s e

/-- Whatever session is open, it is its owner's. -/
def OwnedStep (t : Tracked) (e : Step) : Prop := ∀ s ∈ t.session, OwnedBy s t.world e

/-! ### The condition -/

/-- The memory behind the copy of a block into the comm heap. -/
def copiedInMem (pUserArg n : Word) (sv : Services) (w : World) : Mem :=
  if pUserArg ≠ 0 then
    w.mem.write (w.commHeapVaddr + 12) (sv.sceKernelCopyFromUser.bytes.take n.toNat)
  else w.mem

/-- An execution by another process does no harm: its block is too big; or the suspend lock
fails and the bytes copied in were there before; or the program on Venezia answers an error and
leaves the comm heap as it was before the call. -/
def ForeignExecHarmless (s : Session) (w : World) (pUserArg n : Word) (useCoreSuspend : Bool)
    (sv : Services) : Prop :=
  (pUserArg ≠ 0 ∧ 500 < n.toNat) ∨
    (LockFails useCoreSuspend sv ∧ HeapKept s w.mem (copiedInMem pUserArg n sv w)) ∨
    (¬ LockFails useCoreSuspend sv ∧
      (sv.sceVeneziaRpcCallGenericThunk (execThunkArg pUserArg n sv w)
        (copiedInMem pUserArg n sv w)).1.toInt < 0 ∧
      HeapKept s w.mem (sv.sceVeneziaRpcCallGenericThunk (execThunkArg pUserArg n sv w)
        (copiedInMem pUserArg n sv w)).2)

/-- The step is not a restore by another process, nor an execution by another process that does
harm. -/
def HarmlessTo (s : Session) (w : World) : Step → Prop
  | .call pid .vnzBridgeRestore _ => pid = s.pid
  | .call pid (.vnzBridgeExec pUserArg n) sv =>
      pid ≠ s.pid → ForeignExecHarmless s w pUserArg n true sv
  | .call pid (.vnzBridgeExecNoSuspend pUserArg n) sv =>
      pid ≠ s.pid → ForeignExecHarmless s w pUserArg n false sv
  | _ => True

/-- The step does no harm to whatever session is open. -/
def ForeignHarmless (t : Tracked) (e : Step) : Prop := ∀ s ∈ t.session, HarmlessTo s t.world e

/-! ### Executions -/

variable {w : World} {s : Session}

section Exec

variable {pUserArg n : Word} {useCoreSuspend : Bool} {sv : Services}

lemma afterCopyIn_eq_copiedInMem :
    (afterCopyIn pUserArg n sv w).mem = copiedInMem pUserArg n sv w := by
  rw [afterCopyIn, copiedInMem]
  split_ifs <;> rfl

/-- The answer of the RPC and the memory behind it. -/
lemma afterRpc_eq (pUserArg n : Word) (useCoreSuspend : Bool) (sv : Services) (w : World) :
    (afterRpc pUserArg n useCoreSuspend sv w).1 =
        (sv.sceVeneziaRpcCallGenericThunk (execThunkArg pUserArg n sv w)
          (copiedInMem pUserArg n sv w)).1 ∧
      (afterRpc pUserArg n useCoreSuspend sv w).2.mem =
        (sv.sceVeneziaRpcCallGenericThunk (execThunkArg pUserArg n sv w)
          (copiedInMem pUserArg n sv w)).2 := by
  rw [afterRpc, World.sceVeneziaRpcCallGenericThunk, afterRequest_mem,
    afterCopyIn_eq_copiedInMem]
  exact ⟨rfl, rfl⟩

lemma Frame.heldRefs {w' : World} (h : Frame w w') : heldRefs w'.trace = heldRefs w.trace :=
  h.logs.observe heldRefs_quiet

/-- An execution leaves the session untouched as far as it leaves the comm heap. -/
lemma untouched_exec_iff :
    Untouched s w (vnzBridgeExecCore pUserArg n useCoreSuspend sv w).2 ↔
      HeapKept s w.mem (vnzBridgeExecCore pUserArg n useCoreSuspend sv w).2.mem := by
  have hframe := frame_vnzBridgeExecCore sv w pUserArg n useCoreSuspend
  constructor
  · exact fun h => h.heap
  · exact fun h => ⟨hframe.statics, h, hframe.keepsStatics.liveMappings, hframe.heldRefs⟩

/-- **An execution is refused and leaves the session untouched exactly if** it does no harm. -/
lemma exec_refused_iff (h : Consistent w s) :
    ((vnzBridgeExecCore pUserArg n useCoreSuspend sv w).1.toInt < 0 ∧
        Untouched s w (vnzBridgeExecCore pUserArg n useCoreSuspend sv w).2) ↔
      ForeignExecHarmless s w pUserArg n useCoreSuspend sv := by
  rw [untouched_exec_iff, ForeignExecHarmless]
  have hout := exec_outcome pUserArg n useCoreSuspend sv w
  generalize vnzBridgeExecCore pUserArg n useCoreSuspend sv w = r at hout ⊢
  cases hout with
  | notRegistered hfree => exact absurd h.registered hfree
  | tooBig hreg harg hsize =>
      have hneg : sceErrorErrnoE2BIG.toInt < 0 := by decide
      exact iff_of_true ⟨hneg, fun _ _ => rfl⟩ (.inl ⟨harg, hsize⟩)
  | lockFailed hreg hsize hlock =>
      have hbig : ¬ (pUserArg ≠ 0 ∧ 500 < n.toNat) := fun hno => absurd (hsize hno.1) (by omega)
      have hfails : LockFails useCoreSuspend sv := hlock
      rw [afterLock_mem, afterCopyIn_eq_copiedInMem, or_iff_right hbig]
      constructor
      · exact fun hr => .inl ⟨hfails, hr.2⟩
      · rintro (hr | hr)
        · exact ⟨hlock.2, hr.2⟩
        · exact absurd hfails hr.1
  | ran hreg hsize hlock =>
      have hbig : ¬ (pUserArg ≠ 0 ∧ 500 < n.toNat) := fun hno => absurd (hsize hno.1) (by omega)
      have hgiven : ¬ LockFails useCoreSuspend sv := hlock
      obtain ⟨hret, hmem⟩ := afterRpc_eq pUserArg n useCoreSuspend sv w
      rw [(passive_afterExec sv w pUserArg n useCoreSuspend).mem, hret, hmem, or_iff_right hbig]
      constructor
      · exact fun hr => .inr ⟨hgiven, hr.1, hr.2⟩
      · rintro (hr | hr)
        · exact absurd hr.1 hgiven
        · exact ⟨hr.2.1, hr.2.2⟩

end Exec

/-! ### One step -/

/-- Calls other than restores keep a session open. -/
lemma registered_of_call {c : Call} (h : Consistent w s) (pid : Pid) (sv : Services)
    (hc : c ≠ .vnzBridgeRestore) : (c.perform pid sv w).2.Registered := by
  rcases keepsStatics_or pid c sv w with ⟨addr, size, rfl⟩ | rfl | ⟨-, -, hkeeps⟩
  · change (vnzBridgeInject addr size pid sv w).2.Registered
    rw [inject_of_registered addr size pid sv h.registered]
    exact h.registered
  · exact absurd rfl hc
  · rw [World.Registered, hkeeps.statics]
    exact h.registered

/-- A restore in an open session always closes it. -/
lemma not_untouched_restore (h : Consistent w s) (sv : Services) :
    ¬ Untouched s w (vnzBridgeRestore sv w).2 := by
  intro hsame
  have hpid := congrArg Statics.registeredPid hsame.statics
  rw [vnzBridgeRestore_of_registered h.registered] at hpid
  exact h.registered hpid.symm

/-- The session stays with its owner in a call exactly if one that is for the owner is refused to
others, and one that ends the session is the owner's. -/
lemma ownedBy_call_iff {pid : Pid} {c : Call} {sv : Services} :
    OwnedBy s w (.call pid c sv) ↔
      (pid ≠ s.pid → c.ForOwner →
        (c.perform pid sv w).1.toInt < 0 ∧ Untouched s w (c.perform pid sv w).2) ∧
      (¬ (c.perform pid sv w).2.Registered → EndsByOwner s (.call pid c sv)) := by
  constructor
  · exact fun h => ⟨fun hne howner => h.refused pid c sv rfl hne howner, h.ends⟩
  · rintro ⟨hrefused, hends⟩
    refine ⟨?_, ?_, hends⟩
    · intro pid' c' sv' heq hne howner
      cases heq
      exact hrefused hne howner
    · intro pid' hpid
      cases hpid

/-- A call that is not for the owner keeps the session with its owner. -/
lemma ownedBy_of_not_forOwner {c : Call} (h : Consistent w s) (pid : Pid) (sv : Services)
    (hc : ¬ c.ForOwner) : OwnedBy s w (.call pid c sv) := by
  rw [ownedBy_call_iff]
  refine ⟨fun _ howner => absurd howner hc, fun hends => ?_⟩
  refine absurd (registered_of_call h pid sv ?_) hends
  rintro rfl
  exact hc trivial

/-- The session stays with its owner in an execution exactly if one by another process does no
harm. -/
lemma ownedBy_exec_iff {c : Call} {pUserArg n : Word} {useCoreSuspend : Bool} (h : Consistent w s)
    (pid : Pid) (sv : Services) (howner : c.ForOwner) (hrestore : c ≠ .vnzBridgeRestore)
    (hc : c.perform pid sv w = vnzBridgeExecCore pUserArg n useCoreSuspend sv w) :
    OwnedBy s w (.call pid c sv) ↔
      (pid ≠ s.pid → ForeignExecHarmless s w pUserArg n useCoreSuspend sv) := by
  have hreg := registered_of_call h pid sv hrestore
  rw [ownedBy_call_iff, and_iff_left fun hends => absurd hreg hends, hc]
  refine imp_congr_right fun _ => ?_
  rw [imp_iff_right howner]
  exact exec_refused_iff h

/-- The session stays with its owner in a restore exactly if it is the owner's. -/
lemma ownedBy_restore_iff (h : Consistent w s) (pid : Pid) (sv : Services) :
    OwnedBy s w (.call pid .vnzBridgeRestore sv) ↔ pid = s.pid := by
  rw [ownedBy_call_iff]
  constructor
  · rintro ⟨hrefused, -⟩
    by_contra hne
    exact not_untouched_restore h sv (hrefused hne trivial).2
  · exact fun howner => ⟨fun hne => absurd howner hne, fun _ => howner⟩

/-- The process events leave the session of another process alone. -/
lemma ownedBy_event {pid : Pid} {e : Step} (h : Consistent w s) (hevent : e.eventOf = some pid)
    (hother : pid ≠ s.pid → step w e = w)
    (hends : ¬ (step w e).Registered → pid = s.pid → EndsByOwner s e) : OwnedBy s w e where
  refused := by
    rintro pid' c sv rfl
    cases hevent
  ignored := by
    intro pid' hpid hne
    rw [hevent] at hpid
    cases hpid
    exact hother hne
  ends := by
    intro hfree
    by_cases howner : pid = s.pid
    · exact hends hfree howner
    · rw [hother howner] at hfree
      exact absurd h.registered hfree

lemma Consistent.registeredPid_ne {pid : Pid} (h : Consistent w s) (hne : pid ≠ s.pid) :
    w.registeredPid ≠ pid.val := by
  rw [h.registeredPid]
  exact fun heq => hne (Pid.val_injective heq.symm)

/-- The session stays with its owner when a process stops or starts. -/
lemma ownedBy_procEvHandler {pid : Pid} {eventType : Word} {e : Step} (h : Consistent w s)
    (hevent : e.eventOf = some pid) (hstep : step w e = (procEvHandler pid.val eventType w).2) :
    OwnedBy s w e := by
  refine ownedBy_event h hevent (fun hne => ?_) fun hfree => ?_
  · rw [hstep, procEvHandler_of_not_owner eventType (h.registeredPid_ne hne)]
  · rw [hstep, World.Registered, (clockOnly_procEvHandler pid eventType w).statics] at hfree
    exact absurd h.registered hfree

/-- The session stays with its owner when a process ends. -/
lemma ownedBy_procEvExitHandler {pid : Pid} {sv : Services} {e : Step} (h : Consistent w s)
    (hevent : e.eventOf = some pid) (hstep : step w e = (procEvExitHandler pid.val sv w).2)
    (hends : pid = s.pid → EndsByOwner s e) : OwnedBy s w e := by
  refine ownedBy_event h hevent (fun hne => ?_) fun _ => hends
  rw [hstep, procEvExitHandler_of_not_owner (h.registeredPid_ne hne)]

/-- **A step leaves the session to its owner exactly if** it does no harm. -/
theorem ownedBy_iff (h : Consistent w s) (e : Step) : OwnedBy s w e ↔ HarmlessTo s w e := by
  cases e with
  | stop pid eventType => exact iff_of_true (ownedBy_procEvHandler h rfl rfl) trivial
  | start pid eventType => exact iff_of_true (ownedBy_procEvHandler h rfl rfl) trivial
  | exit pid sv => exact iff_of_true (ownedBy_procEvExitHandler h rfl rfl id) trivial
  | kill pid sv => exact iff_of_true (ownedBy_procEvExitHandler h rfl rfl id) trivial
  | call pid c sv =>
      cases c with
      | vnzBridgeRestore => exact ownedBy_restore_iff h pid sv
      | vnzBridgeExec pUserArg n => exact ownedBy_exec_iff h pid sv trivial (by simp) rfl
      | vnzBridgeExecNoSuspend pUserArg n => exact ownedBy_exec_iff h pid sv trivial (by simp) rfl
      | _ => exact iff_of_true (ownedBy_of_not_forOwner h pid sv id) trivial

/-! ### Whole runs -/

/-- **A session belongs to the process that opened it exactly if** no other process restores it
or does it harm by an execution: along every run, whatever processes make it, calls of others
are refused and leave everything of the session as it was, events of others change nothing, and
only the owner ends the session. -/
theorem session_owned_iff (clock : Word) (mem : Mem) (es : List Step) :
    Admissible Tracked.step OwnedStep (Tracked.boot clock mem) es ↔
      Admissible Tracked.step ForeignHarmless (Tracked.boot clock mem) es := by
  have hout : ∀ (t : Tracked) (e : Step), Refines t.world t.session → True →
      (OwnedStep t e ↔ ForeignHarmless t e) := by
    intro t e href _
    exact forall₂_congr fun s hs => ownedBy_iff (href.consistent hs) e
  have hstep : ∀ (t : Tracked) (e : Step), Refines t.world t.session → True →
      ForeignHarmless t e → Refines (Tracked.step t e).world (Tracked.step t e).session :=
    fun t e href _ _ => refines_step e href
  have hboot : Refines (Tracked.boot clock mem).world (Tracked.boot clock mem).session :=
    boot_not_registered clock mem
  exact admissible_iff_admissible (P := fun t : Tracked => Refines t.world t.session) hout hstep
    hboot (admissible_true _ es)

/-- Another process. -/
def otherPid : Pid := ⟨2, by decide⟩

/-- Process 1 opens a session and process 2 restores. -/
def foreignRestore : List Step := [acceptedInject, .call otherPid .vnzBridgeRestore {}]

/-- The restore of another process succeeds and closes the session. -/
theorem foreign_restore_closes :
    ret (run step (boot 166 fun _ => 0) [acceptedInject]) (.call otherPid .vnzBridgeRestore {}) =
        sceOk ∧
      ¬ (run step (boot 166 fun _ => 0) foreignRestore).Registered ∧
      ¬ Admissible Tracked.step OwnedStep (Tracked.boot 166 fun _ => 0) foreignRestore := by
  have hfree : ¬ (run step (boot 166 fun _ => 0) foreignRestore).Registered := by decide
  refine ⟨by decide, hfree, fun h => ?_⟩
  have howned : OwnedBy sampleSession (run step (boot 166 fun _ => 0) [acceptedInject])
      (.call otherPid .vnzBridgeRestore {}) := h.2.1 sampleSession (by decide)
  have howner : otherPid = sampleSession.pid := howned.ends hfree
  exact absurd howner (by decide)

end VVNZRunner
