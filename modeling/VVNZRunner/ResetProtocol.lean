import VVNZRunner.Blocking
import VVNZRunner.Library.Monitor
import VVNZRunner.StepLog

/-!
What Venezia sees of the plugin, along runs in which executions block and other threads go on.

* `Phase`: the life of an image. It is mapped, announced, called any number of times, and taken
  away by a reset that nothing interrupts, behind which its block is unmapped.
  `Phase.next` is the automaton that reads the plugin's log.
* `World.phase`: where the plugin's variables put it.
* `resetEvents`: the reset that takes an image away.
* `venezia_protocol`: the log of every run is read to its end, and between the announcements of
  two images there is a whole reset.
-/

namespace VVNZRunner

open Machine Monitor

/-! ### The protocol -/

/-- The life of an image; `uid` is its kernel mapping and `state` the word the thread register
held before the reset. -/
inductive Phase where
  | idle (uid : Word)
  | running (pid uid : Word)
  | saved (uid state : Word)
  | raised (uid state : Word)
  | suspended (uid state : Word)
  | resumed (uid state : Word)
  | reset (uid : Word)
  deriving DecidableEq

/-- The request is for the loader, with the comm heap of the block or with no argument. -/
def RequestOk (id : Word) (arg : SceVeneziaThunkArg) : Prop :=
  id = thunkCmdId ∧ arg.userArg4 = vramBase + commHeapOffset ∧
    (arg.userArg2 = 0 ∨ arg.userArg2 = vramBase + commHeapOffset + 12)

instance (id : Word) (arg : SceVeneziaThunkArg) : Decidable (RequestOk id arg) :=
  inferInstanceAs (Decidable (_ ∧ _ ∧ _))

/-- The event is part of the life of an image. -/
def Event.guided : Event → Bool
  | .sceKernelUserMap .. => true
  | .sceKernelUserUnmap .. => true
  | .sceKernelGetProcessId _ => true
  | .sceVeneziaRpcCallGenericThunk .. => true
  | .builtinMrc _ => true
  | .builtinMcr _ => true
  | .sceVeneziaEventHandler .. => true
  | _ => false

/-- What one event makes of the phase; `none` if it may not occur there. -/
def Phase.next : Phase → Event → Option Phase
  | .idle _, .sceKernelUserMap _ _ _ _ uid _ _ => some (.idle uid)
  | .idle uid, .sceKernelGetProcessId pid =>
      if 0 < uid.toInt then some (.running pid uid) else none
  | .running pid uid, .sceVeneziaRpcCallGenericThunk id arg =>
      if RequestOk id arg then some (.running pid uid) else none
  | .running _ uid, .builtinMrc state => some (.saved uid state)
  | .saved uid state, .builtinMcr value =>
      if value = state <<< 16 then some (.raised uid state) else none
  | .raised uid state, .sceVeneziaEventHandler resume eventid =>
      if resume = 0 ∧ eventid = 0x400e then some (.suspended uid state) else none
  | .suspended uid state, .sceVeneziaEventHandler resume eventid =>
      if resume = 1 ∧ eventid = 0x1000e then some (.resumed uid state) else none
  | .resumed uid state, .builtinMcr value => if value = state then some (.reset uid) else none
  | .reset uid, .sceKernelUserUnmap id _ =>
      if id = uid then some (.idle sceUidInvalidUid) else none
  | .idle uid, e => if e.guided then none else some (.idle uid)
  | .running pid uid, e => if e.guided then none else some (.running pid uid)
  | _, _ => none

/-- The events of a reset, and the unmapping of the block behind it. -/
def resetEvents (uid state ret : Word) : List Event :=
  [.builtinMrc state, .builtinMcr (state <<< 16), .sceVeneziaEventHandler 0 0x400e,
    .sceVeneziaEventHandler 1 0x1000e, .builtinMcr state, .sceKernelUserUnmap uid ret]

/-- Where the plugin's variables put the life of its image. -/
def World.phase (w : World) : Phase :=
  if w.Registered then .running w.registeredPid w.blockMapId else .idle w.blockMapId

/-- What is logged between the two states follows the protocol. -/
def Tells (w w' : World) : Prop := Monitored Phase.next w.phase w'.phase w.trace w'.trace

/-! ### One step -/

section Step

variable {w u w' : World} {s : Session} {σ : Option Session} {pUserArg userArgSize : Word}
  {useCoreSuspend : Bool} {sv : Services}

lemma phase_of_registered (h : w.Registered) : w.phase = .running w.registeredPid w.blockMapId :=
  if_pos h

lemma phase_of_free (h : ¬ w.Registered) : w.phase = .idle w.blockMapId := if_neg h

lemma phase_congr (hpid : w'.registeredPid = w.registeredPid)
    (huid : w'.blockMapId = w.blockMapId) : w'.phase = w.phase := by
  simp only [World.phase, World.Registered, hpid, huid]

/-- An event that is no part of the protocol. -/
lemma next_of_not_guided (w : World) {e : Event} (he : e.guided = false) :
    w.phase.next e = some w.phase := by
  by_cases hreg : w.Registered
  · rw [phase_of_registered hreg]
    cases e <;> first | rfl | cases he
  · rw [phase_of_free hreg]
    cases e <;> first | rfl | cases he

lemma Event.Plain.not_guided {e : Event} (h : e.Plain) : e.guided = false := by
  cases e <;> first | rfl | exact h.elim

lemma Tells.trans (h : Tells w u) (h' : Tells u w') : Tells w w' := Monitored.trans h h'

/-- Events that leave the phase alone. -/
lemma tells_of_logs (hpid : w'.registeredPid = w.registeredPid)
    (huid : w'.blockMapId = w.blockMapId)
    (h : Logs (fun e => w.phase.next e = some w.phase) w w') : Tells w w' := by
  obtain ⟨es, htrace, hes⟩ := h
  refine ⟨es, htrace, ?_⟩
  rw [phase_congr hpid huid]
  exact reads_of_stays fun e he => hes e (List.mem_reverse.mp he)

lemma tells_of_statics (hs : w'.toStatics = w.toStatics)
    (h : Logs (fun e => w.phase.next e = some w.phase) w w') : Tells w w' :=
  tells_of_logs (congrArg Statics.registeredPid hs) (congrArg Statics.blockMapId hs) h

/-- The header is stored and the image announced. -/
lemma reads_announce {uid : Word} (pid a b c : Word) (x y z : List ByteMemory.Byte)
    (huid : 0 < uid.toInt) :
    reads Phase.next (.idle uid)
      [.store a x, .store b y, .store c z, .sceKernelGetProcessId pid] =
        some (.running pid uid) := by
  simp [Phase.next, Event.guided, huid]

/-- A whole reset takes the image away. -/
lemma reads_resetEvents (pid uid state ret : Word) :
    reads Phase.next (.running pid uid) (resetEvents uid state ret) =
      some (.idle sceUidInvalidUid) := by
  simp [resetEvents, Phase.next]

/-- An injection maps the block, and announces the image behind its last check. -/
lemma tells_inject (pid : Pid) (addr size : Word) :
    Tells w (vnzBridgeInject addr size pid sv w).2 := by
  have hmapped : ¬ w.Registered → Tells w (afterUserMap addr size sv w) := by
    intro hfree
    have hfree' : ¬ (afterUserMap addr size sv w).Registered := hfree
    refine ⟨[_], rfl, ?_⟩
    rw [phase_of_free hfree, phase_of_free hfree']
    rfl
  have hvenezia : Tells (afterUserMap addr size sv w) (afterVeneziaMap addr size sv w) :=
    tells_of_logs rfl rfl (.single (next_of_not_guided _ rfl) rfl)
  have hout := inject_outcome addr size pid sv w
  generalize vnzBridgeInject addr size pid sv w = r at hout ⊢
  cases hout with
  | badArgument hargs => exact .refl _ _
  | alreadyRegistered hargs hreg => exact .refl _ _
  | notMapped hargs hfree huid => exact hmapped hfree
  | notExecutable hargs hfree huid himage => exact hmapped hfree
  | notMappedToVenezia hargs hfree huid himage hret => exact (hmapped hfree).trans hvenezia
  | wrongBase hargs hfree huid himage hret hbase =>
      exact ((hmapped hfree).trans hvenezia).trans
        (tells_of_logs rfl rfl (.single (next_of_not_guided _ rfl) rfl))
  | opened hargs hfree huid himage hret hbase =>
      refine ((hmapped hfree).trans hvenezia).trans ⟨[_, _, _, _], rfl, ?_⟩
      have hfree' : ¬ (afterVeneziaMap addr size sv w).Registered := hfree
      have hreg : (injectComm sv.kernelPage (injectEntry addr size sv w)
          sv.sceAvcodecMapMemoryToVenezia.ret pid (afterVeneziaMap addr size sv w)).2.Registered :=
        pid.valid
      rw [phase_of_free hfree', phase_of_registered hreg]
      exact reads_announce pid.val _ _ _ _ _ _ huid

/-- The end of a session resets Venezia and then unmaps the block. -/
lemma tells_restored (hreg : w.Registered) : Tells w (restored sv w) := by
  generalize hv : (vnzBridgeUnmapMemory w.requestedCodeBaseVaddr w.requestedCodeSize 0 sv w).2 = v
  have hstatics : v.toStatics = w.toStatics := by
    rw [← hv]
    exact (keepsStatics_unmap _ _ _ sv w).statics
  have hlogs : Logs (fun e => w.phase.next e = some w.phase) w v := by
    rw [← hv]
    exact logs_unmap _ _ 0 (fun h => absurd rfl h) fun _ he => next_of_not_guided w he.not_guided
  have hregv : v.Registered := by
    rw [World.Registered, hstatics]
    exact hreg
  have hclosed : Tells v (closeSession sv v) := by
    refine ⟨_, closeSession_trace sv v, ?_⟩
    have hfree : ¬ (closeSession sv v).Registered := fun h => h rfl
    rw [phase_of_registered hregv, phase_of_free hfree]
    exact reads_resetEvents _ _ sv.builtinMrc sv.sceKernelUserUnmap
  rw [restored, hv]
  exact (tells_of_statics hstatics hlogs).trans hclosed

/-- The request of a registered session is for its own comm heap. -/
lemma next_request (h : Refines w σ) (hreg : w.Registered) :
    w.phase.next (.sceVeneziaRpcCallGenericThunk thunkCmdId
      (execThunkArg pUserArg userArgSize sv w)) = some w.phase := by
  obtain ⟨s, rfl⟩ : ∃ s, σ = some s := Option.ne_none_iff_exists'.mp fun hnone => h.free hnone hreg
  have hpaddr : w.commHeapPaddr = vramBase + commHeapOffset := Consistent.commHeapPaddr h
  have hok : RequestOk thunkCmdId (execThunkArg pUserArg userArgSize sv w) := by
    refine ⟨rfl, hpaddr, ?_⟩
    by_cases harg : pUserArg = 0
    · exact .inl (if_neg (not_not.mpr harg))
    · refine .inr ((if_pos harg).trans ?_)
      rw [hpaddr]
  rw [phase_of_registered hreg]
  exact if_pos hok

/-- The first part of an execution. -/
lemma tells_execStart (h : Refines w σ) :
    Tells w (execStart pUserArg userArgSize useCoreSuspend sv w).2 :=
  tells_of_statics (frame_execStart sv w _ _ _).statics <|
    logs_execStart (fun _ _ => next_of_not_guided w rfl) (fun _ => next_of_not_guided w rfl)
      (next_of_not_guided w rfl) (next_request h) fun _ he => next_of_not_guided w he.not_guided

/-- The second part. -/
lemma tells_execFinish (thunkArg : SceVeneziaThunkArg) :
    Tells w (execFinish pUserArg userArgSize useCoreSuspend sv w thunkArg).2 :=
  tells_of_statics (frame_execFinish sv w _ _ _ _).statics <|
    logs_execReply thunkArg (fun _ => next_of_not_guided w rfl)
      fun _ he => next_of_not_guided w he.not_guided

/-- **A step of the plugin follows the protocol.** -/
theorem tells_step (e : Step) (h : Refines w σ) : Tells w (step w e) := by
  have hplain : ∀ e : Event, e.Plain → w.phase.next e = some w.phase :=
    fun _ he => next_of_not_guided w he.not_guided
  cases step_log w e with
  | plain hstatics hlogs => exact tells_of_statics hstatics (hlogs.mono hplain)
  | exec he hw =>
      rw [hw]
      exact tells_of_statics (frame_vnzBridgeExecCore _ w _ _ _).statics <|
        logs_exec (fun _ _ => next_of_not_guided w rfl) (fun _ => next_of_not_guided w rfl)
          (next_of_not_guided w rfl) (next_request h) (fun _ => next_of_not_guided w rfl) hplain
  | lock pid sv => exact tells_of_logs rfl rfl (.single (next_of_not_guided w rfl) rfl)
  | unlock pid sv => exact tells_of_logs rfl rfl (.single (next_of_not_guided w rfl) rfl)
  | spramWrite pid src size off sv =>
      refine tells_of_statics (frame_vnzBridgeMemcpyToSpram sv w src size off).statics ?_
      change Logs _ w (vnzBridgeMemcpyToSpram src size off sv w).2
      rw [vnzBridgeMemcpyToSpram]
      split_ifs
      · exact .single (next_of_not_guided w rfl) rfl
      · exact .refl w
  | inject pid addr size sv => exact tells_inject pid addr size
  | unmap pid vaddr size wr sv =>
      exact tells_of_statics (keepsStatics_unmap vaddr size wr sv w).statics
        (logs_unmap vaddr size wr (fun _ => next_of_not_guided w rfl) hplain)
  | restore hreg hstatics hlogs hw =>
      rw [hw]
      refine (tells_of_statics hstatics (hlogs.mono hplain)).trans (tells_restored ?_)
      rw [World.Registered, hstatics]
      exact hreg

/-- **A step of the threads follows the protocol**, and keeps the variables in step with the
session. -/
theorem tells_threads (t : Threads) (e : ThreadStep) (h : Refines t.world t.session) :
    Tells t.world (t.step e).world ∧ Refines (t.step e).world (t.step e).session := by
  cases e with
  | start pUserArg userArgSize useCoreSuspend sv =>
      have hstart : Tells t.world (execStart pUserArg userArgSize useCoreSuspend sv t.world).2 :=
        tells_execStart h
      have hframe := frame_execStart sv t.world pUserArg userArgSize useCoreSuspend
      rw [Threads.step]
      generalize execStart pUserArg userArgSize useCoreSuspend sv t.world = r at hstart hframe ⊢
      obtain ⟨ret | thunkArg, u⟩ := r
      · exact ⟨hstart, h.congr hframe.statics⟩
      · exact ⟨hstart, h.congr hframe.statics⟩
  | finish i sv =>
      rw [Threads.step]
      cases t.blocked[i]? with
      | none => exact ⟨.refl _ _, h⟩
      | some c =>
          exact ⟨tells_execFinish c.thunkArg, h.congr (frame_execFinish sv t.world _ _ _ _).statics⟩
  | other e => exact ⟨tells_step e h, refines_step e h⟩

end Step

/-! ### What the protocol says about resets -/

section Reset

variable {uid state pid pid' : Word} {p q : Phase} {e : Event} {mid : List Event}

/-! The one way on from each phase of a reset. -/

lemma next_saved (h : (Phase.saved uid state).next e = some q) :
    e = .builtinMcr (state <<< 16) ∧ .raised uid state = q := by
  cases e <;> simp_all [Phase.next]

lemma next_raised (h : (Phase.raised uid state).next e = some q) :
    e = .sceVeneziaEventHandler 0 0x400e ∧ .suspended uid state = q := by
  cases e <;> simp_all [Phase.next]

lemma next_suspended (h : (Phase.suspended uid state).next e = some q) :
    e = .sceVeneziaEventHandler 1 0x1000e ∧ .resumed uid state = q := by
  cases e <;> simp_all [Phase.next]

lemma next_resumed (h : (Phase.resumed uid state).next e = some q) :
    e = .builtinMcr state ∧ .reset uid = q := by
  cases e <;> simp_all [Phase.next]

lemma next_reset (h : (Phase.reset uid).next e = some q) :
    (∃ ret, e = .sceKernelUserUnmap uid ret) ∧ .idle sceUidInvalidUid = q := by
  cases e <;> simp_all [Phase.next]

/-- Once the thread register is saved, the reset goes through to the unmapping of the block before
the next image is announced. -/
lemma reset_of_saved
    (h : reads Phase.next (.saved uid state) (mid ++ [.sceKernelGetProcessId pid]) = some q) :
    ∃ ret rest, .builtinMrc state :: mid = resetEvents uid state ret ++ rest := by
  obtain ⟨_, rest₁, rfl, rfl, h₁⟩ := reads_forced (fun _ _ => next_saved) (by simp) h
  obtain ⟨_, rest₂, rfl, rfl, h₂⟩ := reads_forced (fun _ _ => next_raised) (by simp) h₁
  obtain ⟨_, rest₃, rfl, rfl, h₃⟩ := reads_forced (fun _ _ => next_suspended) (by simp) h₂
  obtain ⟨_, rest₄, rfl, rfl, h₄⟩ := reads_forced (fun _ _ => next_resumed) (by simp) h₃
  obtain ⟨_, rest, ⟨ret, rfl⟩, rfl, -⟩ := reads_forced (fun _ _ => next_reset) (by simp) h₄
  exact ⟨ret, rest, rfl⟩

/-- What may happen to a running image. -/
lemma next_running (h : (Phase.running pid uid).next e = some q) :
    (∃ state, e = .builtinMrc state ∧ q = .saved uid state) ∨
      q = .running pid uid ∧ ∀ pid', e ≠ .sceKernelGetProcessId pid' := by
  cases e <;> simp_all [Phase.next, Event.guided]

/-- An image that is announced runs. -/
lemma next_announced (h : p.next (.sceKernelGetProcessId pid) = some q) :
    ∃ uid, q = .running pid uid := by
  cases p with
  | idle uid =>
      obtain ⟨-, hq⟩ := Option.ite_none_right_eq_some.mp h
      exact ⟨uid, (Option.some.inj hq).symm⟩
  | _ => cases h

/-- Behind a running image the next one is announced after a whole reset. -/
lemma reset_of_running
    (h : reads Phase.next (.running pid uid) (mid ++ [.sceKernelGetProcessId pid']) = some q) :
    ∃ state ret, resetEvents uid state ret <:+: mid := by
  induction mid with
  | nil =>
      obtain ⟨p, hp, -⟩ := reads_cons_eq_some.mp h
      obtain ⟨state, he, -⟩ | ⟨-, hne⟩ := next_running hp
      · exact absurd he (by simp)
      · exact absurd rfl (hne pid')
  | cons e mid ih =>
      obtain ⟨p, hp, hrest⟩ := reads_cons_eq_some.mp h
      obtain ⟨state, rfl, rfl⟩ | ⟨rfl, -⟩ := next_running hp
      · obtain ⟨ret, rest, heq⟩ := reset_of_saved hrest
        exact ⟨state, ret, [], rest, heq.symm⟩
      · obtain ⟨state, ret, hin⟩ := ih hrest
        exact ⟨state, ret, hin.trans (List.suffix_cons e mid).isInfix⟩

end Reset

/-! ### Every run -/

/-- The log of a run is read to its end, in whatever order calls block and are answered. -/
lemma reads_run (clock : Word) (mem : Mem) (es : List ThreadStep) :
    reads Phase.next (.idle sceUidInvalidUid)
        (run Threads.step (Threads.boot clock mem) es).world.trace.reverse =
      some (run Threads.step (Threads.boot clock mem) es).world.phase ∧
    Refines (run Threads.step (Threads.boot clock mem) es).world
      (run Threads.step (Threads.boot clock mem) es).session := by
  induction es using List.reverseRecOn with
  | nil => exact ⟨rfl, boot_not_registered clock mem⟩
  | append_singleton es e ih =>
      obtain ⟨hreads, href⟩ := ih
      obtain ⟨htells, hnext⟩ := tells_threads _ e href
      rw [run_append]
      exact ⟨htells.reads hreads, hnext⟩

/-- **Venezia never runs two images without a reset between them**: along every run, in whatever
order executions block and are answered, the log follows the protocol. Between the announcements
of two images stands a whole reset of the first, which nothing interrupts, which restores the
thread register and behind which the block is unmapped. -/
theorem venezia_protocol (clock : Word) (mem : Mem) (es : List ThreadStep) :
    let w := (run Threads.step (Threads.boot clock mem) es).world
    reads Phase.next (.idle sceUidInvalidUid) w.trace.reverse = some w.phase ∧
      ∀ pre pid mid pid' post, w.trace.reverse =
          pre ++ .sceKernelGetProcessId pid :: (mid ++ .sceKernelGetProcessId pid' :: post) →
        ∃ uid state ret, resetEvents uid state ret <:+: mid := by
  intro w
  have hreads := (reads_run clock mem es).1
  refine ⟨hreads, fun pre pid mid pid' post hlog => ?_⟩
  change reads _ _ w.trace.reverse = _ at hreads
  rw [hlog] at hreads
  obtain ⟨p, -, hannounce⟩ := reads_append_eq_some.mp hreads
  obtain ⟨p', hp, hmid⟩ := reads_cons_eq_some.mp hannounce
  obtain ⟨uid, rfl⟩ := next_announced hp
  rw [List.append_cons] at hmid
  obtain ⟨q, hsecond, -⟩ := reads_append_eq_some.mp hmid
  obtain ⟨state, ret, hin⟩ := reset_of_running hsecond
  exact ⟨uid, state, ret, hin⟩

end VVNZRunner
