import VVNZRunner.CommHeap
import VVNZRunner.Mappings

/-!
Executions that block in the RPC while other threads go on.

* `ThreadStep`, `Threads`: a call starts and blocks, a blocked call is answered and finishes,
  or any other step of the plugin is made. Each blocked call remembers the session it started
  in.
* `OwnHeap`: a blocked call would finish in that session, with its block mapped and its comm
  heap in place. The comm heap is read from the statics again at that point.
* `comm_heap_outlives_iff`: along a run all blocked calls keep their comm heap exactly if no
  step ends the session while a call is blocked.
-/

namespace VVNZRunner

open ByteMemory Machine

variable {w w' : World} {s : Session} {σ : Option Session}

/-! ### The machine -/

/-- A call of `vnzBridgeExec` or `vnzBridgeExecNoSuspend` that is blocked in the RPC: its
arguments, the words handed to Venezia, and the session it started in with its number. -/
structure Blocked where
  pUserArg : Word
  userArgSize : Word
  useCoreSuspend : Bool
  thunkArg : SceVeneziaThunkArg
  session : Option Session
  number : ℕ

/-- The rest of a blocked call. -/
def Blocked.finish (c : Blocked) (sv : Services) (w : World) : Word × World :=
  execFinish c.pUserArg c.userArgSize c.useCoreSuspend sv w c.thunkArg

/-- The plugin with its session, the number of sessions opened so far, and the blocked calls. -/
structure Threads extends Tracked where
  number : ℕ
  blocked : List Blocked

/-- A call starts, the blocked call at a position is answered, or another step is made. -/
inductive ThreadStep where
  | start (pUserArg userArgSize : Word) (useCoreSuspend : Bool) (sv : Services)
  | finish (i : ℕ) (sv : Services)
  | other (e : Step)

namespace Threads

/-- A step of the threads. -/
def step (t : Threads) : ThreadStep → Threads
  | .start pUserArg userArgSize useCoreSuspend sv =>
      match execStart pUserArg userArgSize useCoreSuspend sv t.world with
      | (.error _, w) => { t with world := w }
      | (.ok thunkArg, w) =>
        { t with
          world := w
          blocked := t.blocked ++
            [⟨pUserArg, userArgSize, useCoreSuspend, thunkArg, t.session, t.number⟩] }
  | .finish i sv =>
      match t.blocked[i]? with
      | none => t
      | some c =>
        { t with world := (c.finish sv t.world).2, blocked := t.blocked.eraseIdx i }
  | .other e =>
      { t with
        toTracked := t.toTracked.step e
        number :=
          if t.session.isNone ∧ (t.toTracked.step e).session.isSome then t.number + 1
          else t.number }

/-- The state after `module_start`. -/
def boot (clock : Word) (mem : Mem) : Threads := ⟨Tracked.boot clock mem, 0, []⟩

end Threads

/-- `sceKernelUserMap` maps the whole block below the top of the address space. -/
def MapsBlock : ThreadStep → Prop
  | .other (.call _ (.vnzBridgeInject _ size) sv) =>
      0 < sv.sceKernelUserMap.uid.toInt → sv.kernelPage.toNat + size.toNat ≤ 2 ^ 32
  | _ => True

/-- Finished now, the call would use the comm heap of the session `s`, the one it started in:
the session is open, its block is mapped, and all it touches lies in its comm heap. -/
structure OwnHeap (t : Threads) (c : Blocked) (s : Session) : Prop where
  started : c.session = some s
  session : t.session = some s
  number : c.number = t.number
  registeredPid : t.world.registeredPid = s.pid.val
  mapped : s.blockMapId ∈ liveMappings t.world.trace
  commHeapVaddr : t.world.commHeapVaddr = s.at 256
  commHeapVaddr_ne : t.world.commHeapVaddr ≠ 0
  accesses : ∀ sv, Logs (Event.InHeap s) t.world (c.finish sv t.world).2

/-- Every blocked call keeps the comm heap it started with. -/
def HeapsKept (t : Threads) : Prop := ∀ c ∈ t.blocked, ∃ s, OwnHeap t c s

/-- No session is ended while a call is blocked. -/
def EndsNoneBlocked (t : Threads) : ThreadStep → Prop
  | .other e => EndsSession t.session e → t.blocked = []
  | _ => True

/-! ### What is kept in any order -/

/-- Within a session no mapping is made or removed. -/
lemma liveMappings_stays {e : Step} (h : Consistent w s) (hend : ¬ EndsSession (some s) e) :
    liveMappings (step w e).trace = liveMappings w.trace := by
  have hexit : ∀ (pid : Pid) sv, (some s).map Session.pid ≠ some pid →
      liveMappings (procEvExitHandler pid.val sv w).2.trace = liveMappings w.trace := by
    intro pid sv hne
    have hreg : w.registeredPid ≠ pid.val :=
      mt (Refines.registeredPid_iff (σ := some s) h).mp hne
    rw [procEvExitHandler_of_not_owner hreg]
  cases e with
  | call pid c sv =>
      rcases keepsStatics_or pid c sv w with ⟨addr, size, rfl⟩ | rfl | ⟨-, -, hkeeps⟩
      · exact congrArg (fun u => liveMappings u.trace)
          (inject_of_registered addr size pid sv h.registered)
      · exact absurd rfl hend
      · exact hkeeps.liveMappings
  | stop pid eventType => exact (clockOnly_procEvHandler pid eventType w).keepsStatics.liveMappings
  | start pid eventType =>
      exact (clockOnly_procEvHandler pid eventType w).keepsStatics.liveMappings
  | exit pid sv => exact hexit pid sv hend
  | kill pid sv => exact hexit pid sv hend

/-- The mapping of a session that was just opened is live. -/
lemma mem_liveMappings_opened (pid : Pid) (addr size : Word) (sv : Services)
    (hfree : ¬ w.Registered) (h : InjectAccepted addr size sv w) :
    sv.sceKernelUserMap.uid ∈
      liveMappings (vnzBridgeInject addr size pid sv w).2.trace := by
  have hlive := liveMappings_afterUserMap addr size sv w
  rw [if_pos h.mapped] at hlive
  have hmem : sv.sceKernelUserMap.uid ∈ liveMappings (afterUserMap addr size sv w).trace := by
    rw [hlive]
    exact List.mem_cons_self
  rw [inject_of_accepted pid hfree h]
  exact hmem

/-- The block of the open session is mapped behind every step if it was before. -/
lemma blockMapped_step {e : Step} (href : Refines w σ)
    (h : ∀ s ∈ σ, s.blockMapId ∈ liveMappings w.trace) :
    ∀ s ∈ nextSession w σ e, s.blockMapId ∈ liveMappings (step w e).trace := by
  intro s hs
  rcases nextSession_eq_some hs with hopen | ⟨hnone, sv, rfl, hacc, heq⟩
  · have hend : ¬ EndsSession (some s) e := by
      intro hend
      rw [← hopen] at hend
      have hnone : nextSession w σ e = none := nextSession_of_ends hend
      exact absurd (hnone.symm.trans hs) (by simp)
    have hlive : liveMappings (step w e).trace = liveMappings w.trace :=
      liveMappings_stays (href.consistent hopen) hend
    rw [hlive]
    exact h s hopen
  · have huid : s.blockMapId = sv.sceKernelUserMap.uid := by rw [heq]; rfl
    rw [huid]
    exact mem_liveMappings_opened s.pid s.vaddr s.size sv (href.free hnone) hacc

/-- What is kept whatever the threads do: the statics describe the session, its block is mapped
as a whole, and blocked calls have passed the size check. -/
structure ThreadsOk (t : Threads) : Prop where
  refines : Refines t.world t.session
  mapped : ∀ s ∈ t.session, s.blockMapId ∈ liveMappings t.world.trace
  fits : ∀ s ∈ t.session, s.kernelBase.toNat + s.size.toNat ≤ 2 ^ 32
  sizes : ∀ c ∈ t.blocked, c.pUserArg ≠ 0 → c.userArgSize.toNat ≤ 500

/-- A step that leaves the session alone and logs quiet events only keeps the invariant. -/
lemma ThreadsOk.of_frame {t t' : Threads} (h : ThreadsOk t) (hsession : t'.session = t.session)
    (hframe : Frame t.world t'.world)
    (hsizes : ∀ c ∈ t'.blocked, c.pUserArg ≠ 0 → c.userArgSize.toNat ≤ 500) : ThreadsOk t' where
  refines := by
    rw [hsession]
    exact h.refines.congr hframe.statics
  mapped := by
    rw [hsession, hframe.keepsStatics.liveMappings]
    exact h.mapped
  fits := by
    rw [hsession]
    exact h.fits
  sizes := hsizes

/-- Every step keeps the invariant. -/
theorem threadsOk_step (t : Threads) (e : ThreadStep) (h : ThreadsOk t) (hok : MapsBlock e) :
    ThreadsOk (t.step e) := by
  cases e with
  | start pUserArg userArgSize useCoreSuspend sv =>
      have hframe := frame_execStart sv t.world pUserArg userArgSize useCoreSuspend
      have hout := start_outcome pUserArg userArgSize useCoreSuspend sv t.world
      rw [Threads.step]
      generalize execStart pUserArg userArgSize useCoreSuspend sv t.world = r at hframe hout ⊢
      cases hout with
      | notRegistered hfree => exact h.of_frame rfl hframe h.sizes
      | tooBig hreg harg hsize => exact h.of_frame rfl hframe h.sizes
      | lockFailed hreg hsize hlock => exact h.of_frame rfl hframe h.sizes
      | blocked hreg hsize hlock =>
          refine h.of_frame rfl hframe ?_
          intro c hc
          rcases List.mem_append.mp hc with hc | hc
          · exact h.sizes c hc
          · rw [List.mem_singleton.mp hc]
            exact hsize
  | finish i sv =>
      rw [Threads.step]
      cases hc : t.blocked[i]? with
      | none => exact h
      | some c =>
          refine h.of_frame rfl (frame_execFinish sv t.world _ _ _ _) ?_
          exact fun c' hc' => h.sizes c' (List.mem_of_mem_eraseIdx hc')
  | other e =>
      refine ⟨refines_step e h.refines, blockMapped_step h.refines h.mapped, ?_, h.sizes⟩
      intro s hs
      rcases nextSession_eq_some hs with hopen | ⟨-, sv, rfl, hacc, heq⟩
      · exact h.fits s hopen
      · have hbase : s.kernelBase = sv.kernelPage := by rw [heq]; rfl
        rw [hbase]
        exact hok hacc.mapped

/-! ### Blocked calls and their session -/

/-- Every blocked call started in the session that is open. -/
def SessionKept (t : Threads) : Prop :=
  ∀ c ∈ t.blocked, c.session = t.session ∧ c.number = t.number ∧ t.session.isSome

/-- A whole block below the top of the address space has its comm heap at a non-null address. -/
lemma Session.at_ne_zero (h : s.kernelBase.toNat + s.size.toNat ≤ 2 ^ 32) : s.at 256 ≠ 0 := by
  intro hzero
  have hsize := s.le_size
  have hnat : (s.at 256).toNat = s.kernelBase.toNat + 256 := by
    rw [Session.at, BitVec.toNat_add]
    exact Nat.mod_eq_of_lt (by simp; omega)
  rw [hzero] at hnat
  simp at hnat

/-- Calls that are blocked in their own session keep their comm heap. -/
lemma heapsKept_of_sessionKept {t : Threads} (h : ThreadsOk t) (hkept : SessionKept t) :
    HeapsKept t := by
  intro c hc
  obtain ⟨hsession, hnumber, hsome⟩ := hkept c hc
  obtain ⟨s, hs⟩ := Option.isSome_iff_exists.mp hsome
  have hcons : Consistent t.world s := h.refines.consistent hs
  refine ⟨s, ?_⟩
  exact {
    started := hsession.trans hs
    session := hs
    number := hnumber
    registeredPid := hcons.registeredPid
    mapped := h.mapped s hs
    commHeapVaddr := hcons.commHeapVaddr_eq
    commHeapVaddr_ne := by
      rw [hcons.commHeapVaddr_eq]
      exact Session.at_ne_zero (h.fits s hs)
    accesses := fun sv => (logs_execFinish hcons (h.sizes c hc) c.thunkArg).mono fun _ he => he.1 }

/-- A step that ends no session with a blocked call keeps every blocked call in its session. -/
lemma sessionKept_step (t : Threads) (e : ThreadStep) (h : ThreadsOk t) (hkept : SessionKept t)
    (hok : EndsNoneBlocked t e) : SessionKept (t.step e) := by
  cases e with
  | start pUserArg userArgSize useCoreSuspend sv =>
      have hout := start_outcome pUserArg userArgSize useCoreSuspend sv t.world
      rw [Threads.step]
      generalize execStart pUserArg userArgSize useCoreSuspend sv t.world = r at hout ⊢
      cases hout with
      | notRegistered hfree => exact hkept
      | tooBig hreg harg hsize => exact hkept
      | lockFailed hreg hsize hlock => exact hkept
      | blocked hreg hsize hlock =>
          intro c hc
          rcases List.mem_append.mp hc with hc | hc
          · exact hkept c hc
          · rw [List.mem_singleton.mp hc]
            refine ⟨rfl, rfl, ?_⟩
            cases hs : t.session with
            | none => exact absurd hreg (h.refines.free hs)
            | some s => rfl
  | finish i sv =>
      rw [Threads.step]
      cases hc : t.blocked[i]? with
      | none => exact hkept
      | some c => exact fun c' hc' => hkept c' (List.mem_of_mem_eraseIdx hc')
  | other e =>
      intro c hc
      obtain ⟨hsession, hnumber, hsome⟩ := hkept c hc
      obtain ⟨s, hs⟩ := Option.isSome_iff_exists.mp hsome
      have hmem : c ∈ t.blocked := hc
      have hend : ¬ EndsSession t.session e := by
        intro h'
        rw [hok h'] at hmem
        cases hmem
      have hnext : (t.step (.other e)).session = t.session := by
        rw [hs] at hend
        change nextSession t.world t.session e = t.session
        rw [hs]
        exact nextSession_of_not_ends hend
      have hsame : (t.step (.other e)).number = t.number :=
        if_neg fun h' => by rw [hs] at h'; exact absurd h'.1 (by simp)
      rw [hnext, hsame]
      exact ⟨hsession, hnumber, hsome⟩

/-- A step after which every blocked call keeps its comm heap ended no session with one. -/
lemma endsNoneBlocked_of_heapsKept {t : Threads} {e : ThreadStep} (h : HeapsKept (t.step e)) :
    EndsNoneBlocked t e := by
  cases e with
  | start pUserArg userArgSize useCoreSuspend sv => trivial
  | finish i sv => trivial
  | other e =>
      intro hend
      have hnone : (t.step (.other e)).session = none := nextSession_of_ends hend
      rw [List.eq_nil_iff_forall_not_mem]
      intro c hc
      obtain ⟨s, hown⟩ := h c hc
      exact absurd (hnone.symm.trans hown.session) (by simp)

/-! ### Whole runs -/

/-- **The comm heap outlives every call that uses it exactly if** no session is ended while a
call is blocked: then, in every state of the run, each blocked call would finish in the session
it started in, with its block mapped and its comm heap in place. -/
theorem comm_heap_outlives_iff (clock : Word) (mem : Mem) (es : List ThreadStep)
    (hok : ∀ e ∈ es, MapsBlock e) :
    Always Threads.step HeapsKept (Threads.boot clock mem) es ↔
      Admissible Threads.step EndsNoneBlocked (Threads.boot clock mem) es := by
  constructor
  · intro h
    exact h.steps.mono fun t e he => endsNoneBlocked_of_heapsKept he
  · intro h
    have hadm : Admissible Threads.step (fun t e => MapsBlock e ∧ EndsNoneBlocked t e)
        (Threads.boot clock mem) es :=
      admissible_and.mpr ⟨admissible_iff_forall.mpr hok, h⟩
    have hstep : ∀ t e, ThreadsOk t ∧ SessionKept t → MapsBlock e ∧ EndsNoneBlocked t e →
        ThreadsOk (t.step e) ∧ SessionKept (t.step e) :=
      fun t e ht he => ⟨threadsOk_step t e ht.1 he.1, sessionKept_step t e ht.1 ht.2 he.2⟩
    have hboot : ThreadsOk (Threads.boot clock mem) ∧ SessionKept (Threads.boot clock mem) := by
      refine ⟨⟨boot_not_registered clock mem, ?_, ?_, ?_⟩, ?_⟩
      · intro s hs
        cases hs
      · intro s hs
        cases hs
      · intro c hc
        cases hc
      · intro c hc
        cases hc
    exact (always_of_invariant hstep hboot hadm).mono fun t ht => heapsKept_of_sessionKept ht.1 ht.2

/-- A thread of the owner blocks in an execution with four bytes, another one restores. -/
def restoredWhileBlocked : List ThreadStep :=
  [.other acceptedInject, .start 0x81100000 4 true {},
    .other (.call samplePid .vnzBridgeRestore {})]

/-- The blocked call copies out from address 12, the header size behind a null comm heap. -/
theorem restored_while_blocked :
    ((run Threads.step (Threads.boot 166 fun _ => 0)
        (restoredWhileBlocked ++ [.finish 0 {}])).world.trace.head? =
      some (.sceKernelCopyToUser 0x81100000 (.kernel 12) [0, 0, 0, 0] 0)) ∧
      ¬ Always Threads.step HeapsKept (Threads.boot 166 fun _ => 0) restoredWhileBlocked := by
  refine ⟨by decide, fun h => ?_⟩
  have hlast : HeapsKept (run Threads.step (Threads.boot 166 fun _ => 0) restoredWhileBlocked) :=
    h.last
  have hlength : (run Threads.step (Threads.boot 166 fun _ => 0)
      restoredWhileBlocked).blocked.length = 1 := by decide
  have hnone : (run Threads.step (Threads.boot 166 fun _ => 0) restoredWhileBlocked).session =
      none := by decide
  obtain ⟨c, hc⟩ := List.exists_mem_of_length_pos (hlength ▸ Nat.one_pos)
  obtain ⟨s, hown⟩ := hlast c hc
  exact absurd (hnone.symm.trans hown.session) (by simp)

/-- The run that loses the comm heap ends a session while a call is blocked. -/
theorem comm_heap_outlives_iff_restored :
    Always Threads.step HeapsKept (Threads.boot 166 fun _ => 0) restoredWhileBlocked ↔
      Admissible Threads.step EndsNoneBlocked (Threads.boot 166 fun _ => 0)
        restoredWhileBlocked :=
  comm_heap_outlives_iff 166 (fun _ => 0) restoredWhileBlocked (by
    intro e he
    simp only [restoredWhileBlocked, List.mem_cons, List.not_mem_nil, or_false] at he
    rcases he with rfl | rfl | rfl
    · exact fun _ => by decide
    · trivial
    · trivial)

end VVNZRunner
