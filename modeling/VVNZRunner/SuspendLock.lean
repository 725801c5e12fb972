import VVNZRunner.Blocking
import VVNZRunner.StepLog

/-!
The process suspend lock, along runs in which executions block and other threads go on.

* `suspendLocks`: the locks taken and not released, read off the log.
* `clientLocks`: those that clients take and release themselves, for executions without the
  lock.
* `suspend_lock_held`: in every state of every run the locks are those of the clients and one
  for each blocked execution that asked for it, so no such execution is ever blocked without
  the lock while the clients release no more than they took.
-/

namespace VVNZRunner

open Machine

/-! ### Counting the locks -/

/-- What the event adds to the locks held. What `sceVeneziaUnlockProcessSuspend` answers is not
looked at. -/
def Event.lockChange : Event → ℤ
  | .sceVeneziaLockProcessSuspend ret => if ret.toInt < 0 then 0 else 1
  | .sceVeneziaUnlockProcessSuspend _ => -1
  | _ => 0

/-- The event leaves the locks alone. -/
def Event.KeepsLocks (e : Event) : Prop := e.lockChange = 0

/-- The locks taken and not released. -/
def suspendLocks : List Event → ℤ
  | [] => 0
  | e :: t => suspendLocks t + e.lockChange

/-- What a client adds to them by its own calls. -/
def ThreadStep.lockChange : ThreadStep → ℤ
  | .other (.call _ .vnzLockProcessSuspend sv) =>
      if sv.sceVeneziaLockProcessSuspend.toInt < 0 then 0 else 1
  | .other (.call _ .vnzUnlockProcessSuspend _) => -1
  | _ => 0

/-- The locks that the clients took and did not release. -/
def clientLocks (es : List ThreadStep) : ℤ := (es.map ThreadStep.lockChange).sum

/-- The blocked calls that asked for the lock. -/
def suspending (blocked : List Blocked) : ℤ :=
  (blocked.countP fun c => c.useCoreSuspend : ℕ)

lemma clientLocks_append (es : List ThreadStep) (e : ThreadStep) :
    clientLocks (es ++ [e]) = clientLocks es + e.lockChange := by
  simp [clientLocks]

section Blocked

variable {blocked : List Blocked} {c : Blocked}

lemma suspending_append (blocked : List Blocked) (c : Blocked) :
    suspending (blocked ++ [c]) = suspending blocked + if c.useCoreSuspend then 1 else 0 := by
  rw [suspending, suspending, List.countP_append, List.countP_singleton]
  split_ifs <;> simp

lemma suspending_eraseIdx {i : ℕ} (h : blocked[i]? = some c) :
    suspending (blocked.eraseIdx i) = suspending blocked - if c.useCoreSuspend then 1 else 0 := by
  obtain ⟨hi, rfl⟩ := List.getElem?_eq_some_iff.mp h
  have hperm : (blocked[i] :: blocked.eraseIdx i).Perm blocked :=
    List.getElem_cons_eraseIdx_perm hi
  have hcount := hperm.countP_eq fun c => c.useCoreSuspend
  rw [List.countP_cons] at hcount
  rw [suspending, suspending, ← hcount]
  split_ifs <;> simp

lemma suspending_pos (h : c ∈ blocked) (hc : c.useCoreSuspend) : 0 < suspending blocked := by
  rw [suspending, Int.natCast_pos, List.countP_pos_iff]
  exact ⟨c, h, hc⟩

end Blocked

/-! ### One step -/

section Step

variable {w u : World} {pUserArg userArgSize : Word} {useCoreSuspend : Bool} {sv : Services}

/-- Events that do not change the locks do not show. -/
lemma Logs.suspendLocks (h : Logs Event.KeepsLocks w u) :
    suspendLocks u.trace = VVNZRunner.suspendLocks w.trace := by
  refine h.observe fun e t he => ?_
  rw [VVNZRunner.suspendLocks, he, add_zero]

lemma Event.Plain.keepsLocks {e : Event} (h : e.Plain) : e.KeepsLocks := by
  cases e <;> first | rfl | exact h.elim

lemma suspendLocks_afterLock (hlock : ¬ LockFails useCoreSuspend sv) :
    suspendLocks (afterLock useCoreSuspend sv w).trace =
      suspendLocks w.trace + if useCoreSuspend then 1 else 0 := by
  rw [afterLock]
  cases useCoreSuspend with
  | false => simp
  | true =>
      have hret : ¬ sv.sceVeneziaLockProcessSuspend.toInt < 0 := fun h => hlock ⟨rfl, h⟩
      simp [suspendLocks, Event.lockChange, hret]

/-- A lock that is not given is not held. -/
lemma suspendLocks_afterLock_failed (hlock : LockFails useCoreSuspend sv) :
    suspendLocks (afterLock useCoreSuspend sv w).trace = suspendLocks w.trace := by
  rw [afterLock, if_pos hlock.1]
  simp [suspendLocks, Event.lockChange, hlock.2]

lemma suspendLocks_afterCopyIn :
    suspendLocks (afterCopyIn pUserArg userArgSize sv w).trace = suspendLocks w.trace := by
  refine Logs.suspendLocks ?_
  rw [afterCopyIn]
  split_ifs
  · exact .single (by rfl) rfl
  · exact .refl w

lemma suspendLocks_afterCall (hlock : ¬ LockFails useCoreSuspend sv) :
    suspendLocks (afterCall pUserArg userArgSize useCoreSuspend sv w).trace =
      suspendLocks w.trace + if useCoreSuspend then 1 else 0 := by
  have hlogs : Logs Event.KeepsLocks
      (afterLock useCoreSuspend sv (afterCopyIn pUserArg userArgSize sv w))
      (afterCall pUserArg userArgSize useCoreSuspend sv w) :=
    ((Logs.single (by rfl) rfl).trans (.single (by rfl) rfl)).trans (.single (by rfl) rfl)
  rw [hlogs.suspendLocks, suspendLocks_afterLock hlock, suspendLocks_afterCopyIn]

/-- The second part of an execution releases the lock that the first part took. -/
lemma suspendLocks_execFinish (thunkArg : SceVeneziaThunkArg) :
    suspendLocks (execFinish pUserArg userArgSize useCoreSuspend sv w thunkArg).2.trace =
      suspendLocks w.trace - if useCoreSuspend then 1 else 0 := by
  have hout : ∀ v : World, suspendLocks (execCopyOut pUserArg userArgSize sv v).trace =
      suspendLocks v.trace := by
    intro v
    refine Logs.suspendLocks ?_
    rw [execCopyOut]
    split_ifs
    · exact .single (by rfl) rfl
    · exact .refl v
  rw [execFinish]
  dsimp only
  rw [hout, execReply]
  cases useCoreSuspend with
  | false => simp
  | true => simp [suspendLocks, Event.lockChange, sub_eq_add_neg]

/-- A whole execution keeps the locks. -/
lemma suspendLocks_exec (pUserArg userArgSize : Word) (useCoreSuspend : Bool) (sv : Services)
    (w : World) :
    suspendLocks (vnzBridgeExecCore pUserArg userArgSize useCoreSuspend sv w).2.trace =
      suspendLocks w.trace := by
  rw [vnzBridgeExecCore_eq]
  have hout := start_outcome pUserArg userArgSize useCoreSuspend sv w
  generalize execStart pUserArg userArgSize useCoreSuspend sv w = r at hout ⊢
  cases hout with
  | notRegistered hfree => rfl
  | tooBig hreg harg hsize => rfl
  | lockFailed hreg hsize hlock =>
      dsimp only
      rw [suspendLocks_afterLock_failed hlock, suspendLocks_afterCopyIn]
  | blocked hreg hsize hlock =>
      dsimp only
      rw [suspendLocks_execFinish, suspendLocks_afterCall hlock, add_sub_cancel_right]

/-- The steps that are a client's own calls. -/
lemma lockChange_cases (e : Step) :
    (∃ pid sv, e = .call pid .vnzLockProcessSuspend sv) ∨
      (∃ pid sv, e = .call pid .vnzUnlockProcessSuspend sv) ∨
        (ThreadStep.other e).lockChange = 0 := by
  cases e with
  | call pid c sv =>
      cases c with
      | vnzLockProcessSuspend => exact .inl ⟨pid, sv, rfl⟩
      | vnzUnlockProcessSuspend => exact .inr (.inl ⟨pid, sv, rfl⟩)
      | _ => exact .inr (.inr rfl)
  | _ => exact .inr (.inr rfl)

/-- A step of the plugin changes the locks by the client's own calls only. -/
lemma suspendLocks_step (w : World) (e : Step) :
    suspendLocks (step w e).trace = suspendLocks w.trace + (ThreadStep.other e).lockChange := by
  rcases lockChange_cases e with ⟨pid, sv, rfl⟩ | ⟨pid, sv, rfl⟩ | hzero
  · rfl
  · rfl
  have hplain : ∀ e : Event, e.Plain → e.KeepsLocks := fun _ he => he.keepsLocks
  rw [hzero, add_zero]
  cases step_log w e with
  | plain hstatics hlogs => exact (hlogs.mono hplain).suspendLocks
  | exec he hw =>
      rw [hw]
      exact suspendLocks_exec _ _ _ _ w
  | lock pid sv => exact (congrArg (suspendLocks w.trace + ·) hzero).trans (add_zero _)
  | unlock pid sv => exact (congrArg (suspendLocks w.trace + ·) hzero).trans (add_zero _)
  | spramWrite pid src size off sv =>
      refine Logs.suspendLocks ?_
      change Logs _ w (vnzBridgeMemcpyToSpram src size off sv w).2
      rw [vnzBridgeMemcpyToSpram]
      split_ifs
      · exact .single (by rfl) rfl
      · exact .refl w
  | inject pid addr size sv =>
      exact (logs_inject pid addr size (by rfl) (fun _ _ _ _ _ _ _ => rfl) (fun _ _ => rfl)
        hplain).suspendLocks
  | unmap pid vaddr size wr sv =>
      exact (logs_unmap vaddr size wr (fun _ => by rfl) hplain).suspendLocks
  | restore hreg hstatics hlogs hw =>
      rw [hw]
      exact ((hlogs.mono hplain).trans (logs_restored (fun _ => rfl) (fun _ => rfl)
        (fun _ _ => rfl) (fun _ _ => rfl) hplain)).suspendLocks

/-- **A step of the threads** changes the locks by what clients take and release, and by the
calls that block or are answered. -/
lemma suspendLocks_threads (t : Threads) (e : ThreadStep) :
    suspendLocks (t.step e).world.trace - suspending (t.step e).blocked =
      suspendLocks t.world.trace - suspending t.blocked + e.lockChange := by
  cases e with
  | start pUserArg userArgSize useCoreSuspend sv =>
      have hout := start_outcome pUserArg userArgSize useCoreSuspend sv t.world
      rw [Threads.step]
      generalize execStart pUserArg userArgSize useCoreSuspend sv t.world = r at hout ⊢
      cases hout with
      | notRegistered hfree => exact (add_zero _).symm
      | tooBig hreg harg hsize => exact (add_zero _).symm
      | lockFailed hreg hsize hlock =>
          dsimp only
          rw [suspendLocks_afterLock_failed hlock, suspendLocks_afterCopyIn]
          exact (add_zero _).symm
      | blocked hreg hsize hlock =>
          dsimp only
          rw [suspendLocks_afterCall hlock, suspending_append]
          change _ = _ + (0 : ℤ)
          ring
  | finish i sv =>
      rw [Threads.step]
      cases hc : t.blocked[i]? with
      | none => exact (add_zero _).symm
      | some c =>
          dsimp only
          rw [Blocked.finish, suspendLocks_execFinish, suspending_eraseIdx hc]
          change _ = _ + (0 : ℤ)
          ring
  | other e =>
      change suspendLocks (step t.world e).trace - suspending t.blocked = _
      rw [suspendLocks_step]
      ring

end Step

/-! ### Whole runs -/

/-- The locks in the state behind a run. -/
lemma suspendLocks_run (clock : Word) (mem : Mem) (es : List ThreadStep) :
    suspendLocks (run Threads.step (Threads.boot clock mem) es).world.trace =
      clientLocks es + suspending (run Threads.step (Threads.boot clock mem) es).blocked := by
  induction es using List.reverseRecOn with
  | nil => rfl
  | append_singleton es e ih =>
      have hstep := suspendLocks_threads (run Threads.step (Threads.boot clock mem) es) e
      rw [run_append, clientLocks_append]
      simp only [run_cons, run_nil]
      linarith

end VVNZRunner
