import VVNZRunner.Frame

/-!
The session: what the globals of `main.c` are for.

* `Session`: a block that a process has injected, with the arguments and the answers of that
  injection. `nextSession` says which steps open and close one; nothing in it reads the
  plugin's statics but the stale `s_requestedCodeBase`.
* `Consistent`: the statics describe the session.
* `run_refines`: along every run, whatever the services answer, the statics describe the
  session of the abstract machine, and `s_registeredPid` is valid exactly while there is one.
-/

namespace VVNZRunner

open ByteMemory Machine

/-- An injected block: who injected it and with which arguments, the id and the address of its
kernel mapping, the address Venezia was said to see it at, and the `e_entry` read. -/
structure Session where
  pid : Pid
  vaddr : Word
  size : Word
  blockMapId : Word
  kernelBase : Word
  veneziaBase : Option Word
  entry : Word
  size_ne_zero : size ≠ 0
  size_aligned : IsSizeAligned size sceKernel256KiB
  veneziaBase_eq : ∀ base ∈ veneziaBase, base = vramBase
  deriving DecidableEq

/-- An injection into a plugin without a session is accepted. -/
structure InjectAccepted (addr size : Word) (sv : Services) (w : World) : Prop where
  args : InjectArgsOk addr size
  mapped : 0 < sv.sceKernelUserMap.uid.toInt
  image : InjectImageOk addr size sv w
  mappedToVenezia : 0 ≤ sv.sceAvcodecMapMemoryToVenezia.ret.toInt
  base : sv.codeBase w.requestedCodeBase = vramBase

instance (addr size : Word) (sv : Services) (w : World) :
    Decidable (InjectAccepted addr size sv w) :=
  decidable_of_iff
    (InjectArgsOk addr size ∧ 0 < sv.sceKernelUserMap.uid.toInt ∧ InjectImageOk addr size sv w ∧
      0 ≤ sv.sceAvcodecMapMemoryToVenezia.ret.toInt ∧
      sv.codeBase w.requestedCodeBase = vramBase)
    ⟨fun ⟨h1, h2, h3, h4, h5⟩ => ⟨h1, h2, h3, h4, h5⟩,
      fun ⟨h1, h2, h3, h4, h5⟩ => ⟨h1, h2, h3, h4, h5⟩⟩

/-- The session an accepted injection opens. -/
def openedSession (pid : Pid) (addr size : Word) (sv : Services) (w : World)
    (h : InjectAccepted addr size sv w) : Session where
  pid := pid
  vaddr := addr
  size := size
  blockMapId := sv.sceKernelUserMap.uid
  kernelBase := sv.kernelPage
  veneziaBase := sv.sceAvcodecMapMemoryToVenezia.out
  entry := injectEntry addr size sv w
  size_ne_zero := h.args.2.1
  size_aligned := h.args.2.2
  veneziaBase_eq := by
    intro base hout
    have hbase := h.base
    rw [Services.codeBase, Option.mem_def.mp hout] at hbase
    exact hbase

/-- The session after a step: an accepted injection opens one, a restore by anybody and the
end of the owner close it. -/
def nextSession (w : World) : Option Session → Step → Option Session
  | none, .call pid (.vnzBridgeInject addr size) sv =>
      if h : InjectAccepted addr size sv w then some (openedSession pid addr size sv w h)
      else none
  | some _, .call _ .vnzBridgeRestore _ => none
  | some s, .exit pid _ => if s.pid = pid then none else some s
  | some s, .kill pid _ => if s.pid = pid then none else some s
  | s, _ => s

/-- The plugin together with the session the abstract machine has. -/
structure Tracked where
  world : World
  session : Option Session

namespace Tracked

/-- A step of both machines. -/
def step (t : Tracked) (e : Step) : Tracked :=
  ⟨VVNZRunner.step t.world e, nextSession t.world t.session e⟩

/-- The state after `module_start`. -/
def boot (clock : Word) (mem : Mem) : Tracked := ⟨VVNZRunner.boot clock mem, none⟩

/-- The tracked run is the run of the plugin. -/
lemma run_world (t : Tracked) (es : List Step) :
    (run step t es).world = run VVNZRunner.step t.world es :=
  run_comp (f := Tracked.world) (fun _ _ => rfl) t es

end Tracked

/-- The statics describe the session `s`. -/
structure Consistent (w : World) (s : Session) : Prop where
  registeredPid : w.registeredPid = s.pid.val
  blockMapId : w.blockMapId = s.blockMapId
  requestedCodeBaseVaddr : w.requestedCodeBaseVaddr = s.vaddr
  requestedCodeSize : w.requestedCodeSize = s.size
  requestedCodeBase : w.requestedCodeBase = vramBase
  commHeapVaddr : w.commHeapVaddr = s.kernelBase + commHeapOffset
  commHeapPaddr : w.commHeapPaddr = vramBase + commHeapOffset

/-- The statics describe the session, or there is none and no process is registered. -/
def Refines (w : World) : Option Session → Prop
  | none => ¬ w.Registered
  | some s => Consistent w s

variable {w w' : World} {s : Session} {σ : Option Session}

lemma Consistent.registered (h : Consistent w s) : w.Registered := by
  rw [World.Registered, h.registeredPid]
  exact s.pid.valid

/-- The statics describe the session that is open. -/
lemma Refines.consistent (h : Refines w σ) (hs : σ = some s) : Consistent w s := by
  rw [hs] at h
  exact h

/-- No process is registered while no session is open. -/
lemma Refines.free (h : Refines w σ) (hs : σ = none) : ¬ w.Registered := by
  rw [hs] at h
  exact h

/-- Two states with the same statics refine the same sessions. -/
lemma Refines.congr (h : Refines w σ) (hs : w'.toStatics = w.toStatics) : Refines w' σ := by
  obtain ⟨⟨⟩, _, _, _, _⟩ := w
  obtain ⟨⟨⟩, _, _, _, _⟩ := w'
  cases hs
  cases σ with
  | none => exact h
  | some s => exact ⟨h.1, h.2, h.3, h.4, h.5, h.6, h.7⟩

/-- The registered process is the owner of the session. -/
lemma Refines.registeredPid_iff {pid : Pid} (h : Refines w σ) :
    w.registeredPid = pid.val ↔ σ.map Session.pid = some pid := by
  cases σ with
  | none =>
      refine iff_of_false ?_ (by simp)
      intro hreg
      exact h (by rw [World.Registered, hreg]; exact pid.valid)
  | some s =>
      rw [Consistent.registeredPid h, Option.map_some, Option.some_inj]
      exact ⟨Pid.val_injective, congrArg Pid.val⟩

lemma refines_restored (sv : Services) (w : World) : Refines (restored sv w) none :=
  fun h => h rfl

/-- The state an accepted injection leaves is the one its session asks for. -/
lemma consistent_opened (pid : Pid) (addr size : Word) (sv : Services)
    (h : InjectAccepted addr size sv w) :
    Consistent (injectComm sv.kernelPage (injectEntry addr size sv w)
      sv.sceAvcodecMapMemoryToVenezia.ret pid (afterVeneziaMap addr size sv w)).2
      (openedSession pid addr size sv w h) where
  registeredPid := rfl
  blockMapId := rfl
  requestedCodeBaseVaddr := rfl
  requestedCodeSize := rfl
  requestedCodeBase := h.base
  commHeapVaddr := rfl
  commHeapPaddr := congrArg (· + commHeapOffset) h.base

/-- An accepted injection leaves by the last exit. -/
lemma inject_of_accepted {addr size : Word} (pid : Pid) {sv : Services} (hfree : ¬ w.Registered)
    (h : InjectAccepted addr size sv w) :
    vnzBridgeInject addr size pid sv w =
      injectComm sv.kernelPage (injectEntry addr size sv w)
        sv.sceAvcodecMapMemoryToVenezia.ret pid (afterVeneziaMap addr size sv w) := by
  have hout := inject_outcome addr size pid sv w
  generalize vnzBridgeInject addr size pid sv w = r at hout ⊢
  cases hout with
  | badArgument hargs => exact absurd h.args hargs
  | alreadyRegistered hargs hreg => exact absurd hreg hfree
  | notMapped hargs hfree huid => exact absurd h.mapped (by omega)
  | notExecutable hargs hfree huid himage => exact absurd h.image himage
  | notMappedToVenezia hargs hfree huid himage hret => exact absurd h.mappedToVenezia (by omega)
  | wrongBase hargs hfree huid himage hret hbase => exact absurd h.base hbase
  | opened hargs hfree huid himage hret hbase => rfl

/-- Behind an accepted injection the statics describe the session it opens. -/
lemma consistent_inject {addr size : Word} (pid : Pid) {sv : Services} (hfree : ¬ w.Registered)
    (h : InjectAccepted addr size sv w) :
    Consistent (vnzBridgeInject addr size pid sv w).2 (openedSession pid addr size sv w h) := by
  rw [inject_of_accepted pid hfree h]
  exact consistent_opened pid addr size sv h

/-- An injection during a session changes nothing. -/
lemma inject_of_registered (addr size : Word) (pid : Pid) (sv : Services) (h : w.Registered) :
    (vnzBridgeInject addr size pid sv w).2 = w := by
  have hout := inject_outcome addr size pid sv w
  generalize vnzBridgeInject addr size pid sv w = r at hout ⊢
  cases hout with
  | badArgument hargs => rfl
  | alreadyRegistered hargs hreg => rfl
  | notMapped hargs hfree huid => exact absurd h hfree
  | notExecutable hargs hfree huid himage => exact absurd h hfree
  | notMappedToVenezia hargs hfree huid himage hret => exact absurd h hfree
  | wrongBase hargs hfree huid himage hret hbase => exact absurd h hfree
  | opened hargs hfree huid himage hret hbase => exact absurd h hfree

/-- `vnzBridgeInject` opens the session the abstract machine opens. -/
lemma refines_inject (pid : Pid) (addr size : Word) (sv : Services) (h : Refines w σ) :
    Refines (vnzBridgeInject addr size pid sv w).2
      (nextSession w σ (.call pid (.vnzBridgeInject addr size) sv)) := by
  cases σ with
  | some s =>
      rw [inject_of_registered addr size pid sv (Consistent.registered h)]
      exact h
  | none =>
      have hout := inject_outcome addr size pid sv w
      rw [nextSession]
      generalize vnzBridgeInject addr size pid sv w = r at hout ⊢
      cases hout with
      | badArgument hargs =>
          rw [dif_neg fun h' => hargs h'.args]
          exact h
      | alreadyRegistered hargs hreg => exact absurd hreg h
      | notMapped hargs hfree huid =>
          rw [dif_neg fun h' => absurd h'.mapped (by omega)]
          exact h
      | notExecutable hargs hfree huid himage =>
          rw [dif_neg fun h' => himage h'.image]
          exact h
      | notMappedToVenezia hargs hfree huid himage hret =>
          rw [dif_neg fun h' => absurd h'.mappedToVenezia (by omega)]
          exact h
      | wrongBase hargs hfree huid himage hret hbase =>
          rw [dif_neg fun h' => hbase h'.base]
          exact h
      | opened hargs hfree huid himage hret hbase =>
          have hacc : InjectAccepted addr size sv w := ⟨hargs, huid, himage, hret, hbase⟩
          rw [dif_pos hacc]
          exact consistent_opened pid addr size sv hacc

lemma refines_restore (pid : Pid) (sv : Services) (h : Refines w σ) :
    Refines (vnzBridgeRestore sv w).2 (nextSession w σ (.call pid .vnzBridgeRestore sv)) := by
  cases σ with
  | none =>
      rw [vnzBridgeRestore_of_free h]
      exact h
  | some s =>
      rw [vnzBridgeRestore_of_registered (Consistent.registered h)]
      exact refines_restored sv w

lemma refines_procEvHandler (pid : Pid) (eventType : Word) (h : Refines w σ) :
    Refines (procEvHandler pid.val eventType w).2 σ :=
  h.congr (clockOnly_procEvHandler pid eventType w).statics

/-- The end of a process that holds no session leaves the session alone. -/
lemma nextSession_exit_of_ne {pid : Pid} {sv : Services} (h : σ.map Session.pid ≠ some pid) :
    nextSession w σ (.exit pid sv) = σ := by
  cases σ with
  | none => rfl
  | some s =>
      have hne : s.pid ≠ pid := fun h' => h (congrArg some h')
      rw [nextSession, if_neg hne]

/-- The end of the owner closes the session, the end of another process does not. -/
lemma refines_exit (pid : Pid) (sv : Services) (h : Refines w σ) :
    Refines (procEvExitHandler pid.val sv w).2 (nextSession w σ (.exit pid sv)) := by
  by_cases howner : w.registeredPid = pid.val
  · obtain ⟨s, rfl, hpid⟩ := Option.map_eq_some_iff.mp (h.registeredPid_iff.mp howner)
    rw [nextSession, if_pos hpid, procEvExitHandler_of_owner howner]
    exact refines_restored sv _
  · rw [nextSession_exit_of_ne (mt h.registeredPid_iff.mpr howner),
      procEvExitHandler_of_not_owner howner]
    exact h

/-- A call that neither opens nor closes a session keeps it. -/
lemma nextSession_call {pid : Pid} {c : Call} {sv : Services}
    (hinject : ∀ addr size, c ≠ .vnzBridgeInject addr size) (hrestore : c ≠ .vnzBridgeRestore) :
    nextSession w σ (.call pid c sv) = σ := by
  cases σ with
  | none =>
      cases c with
      | vnzBridgeInject addr size => exact absurd rfl (hinject addr size)
      | _ => rfl
  | some s =>
      cases c with
      | vnzBridgeRestore => exact absurd rfl hrestore
      | _ => rfl

lemma Call.Quiet.nextSession {pid : Pid} {c : Call} {sv : Services} (hc : c.Quiet) :
    nextSession w σ (.call pid c sv) = σ :=
  nextSession_call (fun _ _ h => by rw [h] at hc; exact hc) (fun h => by rw [h] at hc; exact hc)

@[simp] lemma nextSession_stop (pid : Pid) (eventType : Word) :
    nextSession w σ (.stop pid eventType) = σ := by
  cases σ <;> rfl

@[simp] lemma nextSession_start (pid : Pid) (eventType : Word) :
    nextSession w σ (.start pid eventType) = σ := by
  cases σ <;> rfl

/-- To the session the end of a process is the same either way. -/
@[simp] lemma nextSession_kill (pid : Pid) (sv : Services) :
    nextSession w σ (.kill pid sv) = nextSession w σ (.exit pid sv) := by
  cases σ <;> rfl

/-! ### Steps and runs -/

/-- One call keeps the statics in step with the session. -/
lemma refines_call (pid : Pid) (c : Call) (sv : Services) (h : Refines w σ) :
    Refines (c.perform pid sv w).2 (nextSession w σ (.call pid c sv)) := by
  rcases keepsStatics_or pid c sv w with ⟨addr, size, rfl⟩ | rfl | ⟨hinject, hrestore, hkeeps⟩
  · exact refines_inject pid addr size sv h
  · exact refines_restore pid sv h
  · rw [nextSession_call hinject hrestore]
    exact h.congr hkeeps.statics

/-- Every step keeps the statics in step with the session. -/
theorem refines_step (e : Step) (h : Refines w σ) : Refines (step w e) (nextSession w σ e) := by
  cases e with
  | call pid c sv => exact refines_call pid c sv h
  | stop pid eventType =>
      rw [nextSession_stop]
      exact refines_procEvHandler pid eventType h
  | start pid eventType =>
      rw [nextSession_start]
      exact refines_procEvHandler pid eventType h
  | exit pid sv => exact refines_exit pid sv h
  | kill pid sv =>
      rw [nextSession_kill]
      exact refines_exit pid sv h

lemma boot_not_registered (clock : Word) (mem : Mem) : ¬ (boot clock mem).Registered :=
  fun h => h rfl

/-- **The statics describe the session along every run**: whatever is called, whatever the
image and whatever the services answer. -/
theorem run_refines (clock : Word) (mem : Mem) (es : List Step) :
    Refines (run Tracked.step (Tracked.boot clock mem) es).world
      (run Tracked.step (Tracked.boot clock mem) es).session := by
  have hstep : ∀ (t : Tracked) (e : Step), Refines t.world t.session → True →
      Refines (Tracked.step t e).world (Tracked.step t e).session :=
    fun t e h _ => refines_step e h
  have hok : Admissible Tracked.step (fun _ _ => True) (Tracked.boot clock mem) es :=
    admissible_true _ _
  exact run_invariant hstep (boot_not_registered clock mem) hok

/-- Where a run leaves a session open the statics describe it. -/
lemma consistent_of_session {clock : Word} {mem : Mem} {es : List Step}
    (hs : (run Tracked.step (Tracked.boot clock mem) es).session = some s) :
    Consistent (run step (boot clock mem) es) s := by
  have href := run_refines clock mem es
  rw [Tracked.run_world] at href
  exact href.consistent hs

/-- What every step keeps while the statics describe the session holds after a run. -/
lemma run_session_invariant {P : Tracked → Prop} {ok : Tracked → Step → Prop}
    (hstep : ∀ t e, Refines t.world t.session → P t → ok t e → P (Tracked.step t e))
    {clock : Word} {mem : Mem} {es : List Step} (hboot : P (Tracked.boot clock mem))
    (hok : Admissible Tracked.step ok (Tracked.boot clock mem) es) :
    P (run Tracked.step (Tracked.boot clock mem) es) := by
  have hboth : ∀ t e, Refines t.world t.session ∧ P t → ok t e →
      Refines (Tracked.step t e).world (Tracked.step t e).session ∧ P (Tracked.step t e) :=
    fun t e ht he => ⟨refines_step e ht.1, hstep t e ht.1 ht.2 he⟩
  have hfree : Refines (Tracked.boot clock mem).world (Tracked.boot clock mem).session :=
    boot_not_registered clock mem
  exact (run_invariant hboth ⟨hfree, hboot⟩ hok).2

/-! ### The end of a session -/

/-- The step ends the open session: a restore by anybody, or the end of the owner. -/
def EndsSession (σ : Option Session) : Step → Prop
  | .call _ .vnzBridgeRestore _ => σ.isSome
  | .exit pid _ => σ.map Session.pid = some pid
  | .kill pid _ => σ.map Session.pid = some pid
  | _ => False

lemma nextSession_of_ends {e : Step} (h : EndsSession σ e) : nextSession w σ e = none := by
  cases σ with
  | none =>
      cases e with
      | call pid c sv =>
          cases c with
          | vnzBridgeRestore => rfl
          | _ => exact h.elim
      | stop pid eventType => exact h.elim
      | start pid eventType => exact h.elim
      | exit pid sv => rfl
      | kill pid sv => rfl
  | some s =>
      cases e with
      | call pid c sv =>
          cases c with
          | vnzBridgeRestore => rfl
          | _ => exact h.elim
      | stop pid eventType => exact h.elim
      | start pid eventType => exact h.elim
      | exit pid sv => exact if_pos (Option.some.inj h)
      | kill pid sv => exact if_pos (Option.some.inj h)

lemma nextSession_of_not_ends {e : Step} (h : ¬ EndsSession (some s) e) :
    nextSession w (some s) e = some s := by
  cases e with
  | call pid c sv =>
      cases c with
      | vnzBridgeRestore => exact absurd rfl h
      | _ => rfl
  | stop pid eventType => rfl
  | start pid eventType => rfl
  | exit pid sv => exact if_neg fun hp => h (congrArg some hp)
  | kill pid sv => exact if_neg fun hp => h (congrArg some hp)

/-! ### Steps within a session -/

/-- Within a session memory changes by executions and writes to SPRAM only. -/
theorem stays_cases (e : Step) (h : Consistent w s) :
    (∃ pUserArg userArgSize useCoreSuspend sv,
      step w e = (vnzBridgeExecCore pUserArg userArgSize useCoreSuspend sv w).2 ∧
        e.IsExec pUserArg userArgSize useCoreSuspend sv) ∨
      (∃ pid src size off sv, e = .call pid (.vnzBridgeMemcpyToSpram src size off) sv) ∨
      LeavesMemory w (step w e) := by
  rcases memory_cases w e with hexec | hspram | ⟨pid, addr, size, sv, rfl⟩ | hleaves
  · exact .inl hexec
  · exact .inr (.inl hspram)
  · refine .inr (.inr ?_)
    change LeavesMemory w (vnzBridgeInject addr size pid sv w).2
    rw [inject_of_registered addr size pid sv h.registered]
    exact .refl w
  · exact .inr (.inr hleaves)

/-! ### How a session came about -/

/-- The run `es` contains the injection that opened `s`, and `s` has been open since. -/
def OpenedBy (t : Tracked) (es : List Step) (s : Session) : Prop :=
  ∃ pre sv post, es = pre ++ .call s.pid (.vnzBridgeInject s.vaddr s.size) sv :: post ∧
    (run Tracked.step t pre).session = none ∧
    (∃ h : InjectAccepted s.vaddr s.size sv (run Tracked.step t pre).world,
      s = openedSession s.pid s.vaddr s.size sv (run Tracked.step t pre).world h) ∧
    Always Tracked.step (fun t => t.session = some s)
      (Tracked.step (run Tracked.step t pre)
        (.call s.pid (.vnzBridgeInject s.vaddr s.size) sv)) post

/-- A step that leaves `s` open found it open or is the accepted injection that opened it. -/
lemma nextSession_eq_some {e : Step} (h : nextSession w σ e = some s) :
    σ = some s ∨ σ = none ∧ ∃ sv, e = .call s.pid (.vnzBridgeInject s.vaddr s.size) sv ∧
      ∃ h : InjectAccepted s.vaddr s.size sv w,
        s = openedSession s.pid s.vaddr s.size sv w h := by
  cases σ with
  | none =>
      cases e with
      | call pid c sv =>
          cases c with
          | vnzBridgeInject addr size =>
              rw [nextSession] at h
              by_cases hacc : InjectAccepted addr size sv w
              · rw [dif_pos hacc] at h
                cases h
                exact .inr ⟨rfl, sv, rfl, hacc, rfl⟩
              · rw [dif_neg hacc] at h
                cases h
          | _ => cases h
      | _ => cases h
  | some s' =>
      left
      cases e with
      | call pid c sv =>
          cases c with
          | vnzBridgeRestore => cases h
          | _ => exact h
      | stop pid eventType => exact h
      | start pid eventType => exact h
      | exit pid sv =>
          rw [nextSession] at h
          split_ifs at h
          exact h
      | kill pid sv =>
          rw [nextSession] at h
          split_ifs at h
          exact h

/-- **Every session was opened by one accepted injection** and has stayed open since. -/
theorem openedBy_of_session {t : Tracked} (ht : t.session = none) {es : List Step}
    (h : (run Tracked.step t es).session = some s) : OpenedBy t es s := by
  induction es using List.reverseRecOn with
  | nil =>
      rw [run_nil, ht] at h
      cases h
  | append_singleton es e ih =>
      rw [run_append] at h
      rcases nextSession_eq_some h with hopen | ⟨hnone, sv, rfl, hacc, heq⟩
      · obtain ⟨pre, sv, post, rfl, hpre, hacc, hpost⟩ := ih hopen
        refine ⟨pre, sv, post ++ [e], by simp, hpre, hacc, ?_⟩
        rw [run_append, run_cons] at h hopen
        refine always_append.mpr ⟨hpost, hpost.last, h⟩
      · refine ⟨es, sv, [], rfl, hnone, ⟨hacc, heq⟩, ?_⟩
        exact h

end VVNZRunner
