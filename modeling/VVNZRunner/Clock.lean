import VVNZRunner.Session

/-!
The clock of Venezia: the word behind `_vnzExecClockFrequency` and the static
`s_targetExecClockFrequency`, which together encode whether the owner is stopped.

* `Usage`: who uses the plugin, who is stopped, and the frequency last accepted. It reads
  neither of the two variables.
* `clock_refines`: while processes use the plugin one after another, the word is 166 exactly
  while the owner is stopped and the accepted frequency otherwise.
* `clock_default_iff`: the end of a process resets the clock exactly if the process still
  holds the session or there is nothing to reset.
-/

namespace VVNZRunner

open ByteMemory Machine

variable {w w' : World} {s : Session} {σ : Option Session}

/-! ### What a step does to the clock -/

/-- Neither the clock nor the target differs. -/
structure KeepsClock (w w' : World) : Prop where
  target : w'.targetExecClockFrequency = w.targetExecClockFrequency
  clock : w'.vnzExecClockFrequency = w.vnzExecClockFrequency

namespace KeepsClock

lemma refl (w : World) : KeepsClock w w := ⟨rfl, rfl⟩

lemma trans {u v w : World} (h : KeepsClock u v) (h' : KeepsClock v w) : KeepsClock u w :=
  ⟨h'.target.trans h.target, h'.clock.trans h.clock⟩

end KeepsClock

lemma Frame.keepsClock (h : Frame w w') : KeepsClock w w' := ⟨h.target, h.clock⟩

lemma keepsClock_unmap (vaddr size wr : Word) (sv : Services) (w : World) :
    KeepsClock w (vnzBridgeUnmapMemory vaddr size wr sv w).2 := by
  obtain ⟨w', hw', heq⟩ := vnzBridgeUnmapMemory_cases vaddr size wr sv w
  rw [heq]
  rcases hw' with rfl | rfl <;> exact ⟨rfl, rfl⟩

lemma keepsClock_inject (addr size : Word) (pid : Pid) (sv : Services) (w : World) :
    KeepsClock w (vnzBridgeInject addr size pid sv w).2 := by
  have hout := inject_outcome addr size pid sv w
  generalize vnzBridgeInject addr size pid sv w = r at hout ⊢
  cases hout with
  | badArgument hargs => exact .refl w
  | alreadyRegistered hargs hreg => exact .refl w
  | notMapped hargs hfree huid => exact ⟨rfl, rfl⟩
  | notExecutable hargs hfree huid himage => exact ⟨rfl, rfl⟩
  | notMappedToVenezia hargs hfree huid himage hret => exact ⟨rfl, rfl⟩
  | wrongBase hargs hfree huid himage hret hbase =>
      have hafter : KeepsClock w (afterVeneziaMap addr size sv w) := ⟨rfl, rfl⟩
      exact hafter.trans (keepsClock_unmap addr size 0 sv _)
  | opened hargs hfree huid himage hret hbase => exact ⟨rfl, rfl⟩

lemma keepsClock_restored (sv : Services) (w : World) : KeepsClock w (restored sv w) :=
  (keepsClock_unmap w.requestedCodeBaseVaddr w.requestedCodeSize 0 sv w).trans
    ⟨closeSession_target sv _, closeSession_clock sv _⟩

lemma keepsClock_restore (sv : Services) (w : World) :
    KeepsClock w (vnzBridgeRestore sv w).2 := by
  by_cases hreg : w.Registered
  · rw [vnzBridgeRestore_of_registered hreg]
    exact keepsClock_restored sv w
  · rw [vnzBridgeRestore_of_free hreg]
    exact .refl w

/-- Only `vnzBridgeSetVeneziaExecClockFrequency` touches the clock. -/
lemma keepsClock_call {c : Call} (pid : Pid) (sv : Services) (w : World)
    (hc : ∀ clock, c ≠ .vnzBridgeSetVeneziaExecClockFrequency clock) :
    KeepsClock w (c.perform pid sv w).2 := by
  rcases c.quiet_or with hq | ⟨addr, size, rfl⟩ | rfl | ⟨vaddr, size, vnzPaddr, wr, rfl⟩ |
    ⟨vaddr, size, wr, rfl⟩ | ⟨clock, rfl⟩
  · exact (quiet_frame sv w pid hq).keepsClock
  · exact keepsClock_inject addr size pid sv w
  · exact keepsClock_restore sv w
  · change KeepsClock w (vnzBridgeMapMemory vaddr size vnzPaddr wr sv w).2
    rw [vnzBridgeMapMemory_eq]
    exact ⟨rfl, rfl⟩
  · exact keepsClock_unmap vaddr size wr sv w
  · exact absurd rfl (hc clock)

/-- The frequency after a call: that of an accepted set, else the one before. -/
def acceptedFrequency (old : Word) : Call → Word
  | .vnzBridgeSetVeneziaExecClockFrequency clock => if ClockAccepted clock then clock else old
  | _ => old

/-- A call gives the target and the clock the frequency it sets. -/
lemma clock_call (pid : Pid) (c : Call) (sv : Services) (w : World) :
    (c.perform pid sv w).2.targetExecClockFrequency =
        acceptedFrequency w.targetExecClockFrequency c ∧
      (c.perform pid sv w).2.vnzExecClockFrequency =
        acceptedFrequency w.vnzExecClockFrequency c := by
  by_cases hset : ∃ clock, c = .vnzBridgeSetVeneziaExecClockFrequency clock
  · obtain ⟨clock, rfl⟩ := hset
    change (vnzBridgeSetVeneziaExecClockFrequency clock w).2.targetExecClockFrequency = _ ∧
      (vnzBridgeSetVeneziaExecClockFrequency clock w).2.vnzExecClockFrequency = _
    rw [vnzBridgeSetVeneziaExecClockFrequency, acceptedFrequency, acceptedFrequency]
    split_ifs <;> exact ⟨rfl, rfl⟩
  · have hne : ∀ clock, c ≠ .vnzBridgeSetVeneziaExecClockFrequency clock :=
      fun clock h => hset ⟨clock, h⟩
    have hkeep := keepsClock_call pid sv w hne
    have hold : ∀ old, acceptedFrequency old c = old := by
      intro old
      cases c <;> first | rfl | exact absurd rfl (hne _)
    rw [hkeep.target, hkeep.clock, hold, hold]
    exact ⟨rfl, rfl⟩

/-- The stop of the owner leaves the clock at 166, if it was at 166 or at the target. -/
lemma procEvHandler_stop {pid : Pid} (h : w.registeredPid = pid.val)
    (hclock : w.vnzExecClockFrequency = 166 ∨
      w.vnzExecClockFrequency = w.targetExecClockFrequency) :
    (procEvHandler pid.val 0x1000 w).2.vnzExecClockFrequency = 166 ∧
      (procEvHandler pid.val 0x1000 w).2.targetExecClockFrequency =
        w.targetExecClockFrequency := by
  rw [procEvHandler, if_pos rfl]
  by_cases htarget : w.targetExecClockFrequency = 166
  · rw [if_neg fun h' => h'.2 htarget]
    rw [htarget] at hclock
    exact ⟨or_self_iff.mp hclock, rfl⟩
  · rw [if_pos ⟨h, htarget⟩]
    exact ⟨rfl, rfl⟩

/-- The start of the owner leaves the clock at the target, if it was at 166 or there. -/
lemma procEvHandler_start {pid : Pid} (h : w.registeredPid = pid.val)
    (hclock : w.vnzExecClockFrequency = 166 ∨
      w.vnzExecClockFrequency = w.targetExecClockFrequency) :
    (procEvHandler pid.val 0x40000 w).2.vnzExecClockFrequency = w.targetExecClockFrequency ∧
      (procEvHandler pid.val 0x40000 w).2.targetExecClockFrequency =
        w.targetExecClockFrequency := by
  rw [procEvHandler, if_neg (by decide), if_pos rfl]
  by_cases htarget : w.targetExecClockFrequency = 166
  · rw [if_neg fun h' => h'.2 htarget]
    rw [htarget] at hclock ⊢
    exact ⟨or_self_iff.mp hclock, rfl⟩
  · rw [if_pos ⟨h, htarget⟩]
    exact ⟨rfl, rfl⟩

/-- The clock and the target are 166. -/
def ClockDefault (w : World) : Prop :=
  w.vnzExecClockFrequency = 166 ∧ w.targetExecClockFrequency = 166

instance (w : World) : Decidable (ClockDefault w) := inferInstanceAs (Decidable (_ ∧ _))

/-- The end of the owner resets the clock, if it was at 166 or at the target. -/
lemma clockDefault_exit {pid : Pid} (sv : Services) (h : w.registeredPid = pid.val)
    (hclock : w.vnzExecClockFrequency = 166 ∨
      w.vnzExecClockFrequency = w.targetExecClockFrequency) :
    ClockDefault (procEvExitHandler pid.val sv w).2 := by
  have hreset : ClockDefault (clockReset w) := by
    rw [clockReset]
    by_cases htarget : w.targetExecClockFrequency = 166
    · rw [if_neg (not_not.mpr htarget)]
      rw [htarget] at hclock
      exact ⟨or_self_iff.mp hclock, htarget⟩
    · rw [if_pos htarget]
      exact ⟨rfl, rfl⟩
  have hkeep := keepsClock_restored sv (clockReset w)
  rw [procEvExitHandler_of_owner h, ClockDefault, hkeep.clock, hkeep.target]
  exact hreset

/-! ### The specification -/

/-- The plugin with its session, the process that made the last call, the stopped processes
and the frequency accepted last since the end of an owner. -/
structure Usage extends Tracked where
  user : Option Pid
  stopped : Pid → Bool
  accepted : Word

namespace Usage

/-- The process that holds the session. -/
def owner (u : Usage) : Option Pid := u.session.map Session.pid

/-- The process that made the last call holds the session and is stopped. -/
def paused (u : Usage) : Bool := u.user.any fun p => decide (u.owner = some p) && u.stopped p

/-- What the clock is meant to be. -/
def clock (u : Usage) : Word := if u.paused then 166 else u.accepted

/-- The accepted frequency after a step; the end of the owner resets it. -/
def nextAccepted (u : Usage) : Step → Word
  | .call _ c _ => acceptedFrequency u.accepted c
  | .exit pid _ => if u.owner = some pid then 166 else u.accepted
  | .kill pid _ => if u.owner = some pid then 166 else u.accepted
  | _ => u.accepted

/-- The stopped processes after a step. -/
def nextStopped (u : Usage) : Step → Pid → Bool
  | .call .. => u.stopped
  | .stop pid _ => Function.update u.stopped pid true
  | .start pid _ => Function.update u.stopped pid false
  | .exit pid _ => Function.update u.stopped pid false
  | .kill pid _ => Function.update u.stopped pid false

/-- The process that made the last call after a step. -/
def nextUser (u : Usage) : Step → Option Pid
  | .call pid .. => some pid
  | _ => u.user

/-- A step of the plugin and of the specification. -/
def step (u : Usage) (e : Step) : Usage where
  toTracked := u.toTracked.step e
  user := u.nextUser e
  stopped := u.nextStopped e
  accepted := u.nextAccepted e

/-- The state after `module_start`, with the clock at 166. -/
def boot (mem : Mem) : Usage where
  toTracked := Tracked.boot 166 mem
  user := none
  stopped := fun _ => false
  accepted := 166

/-- Processes use the plugin one after another: a stopped process makes no call, and while a
session is open only its owner does. A stop carries `0x1000`, a start `0x40000`. -/
def OneAfterAnother (u : Usage) : Step → Prop
  | .call pid _ _ => u.stopped pid = false ∧ ∀ s ∈ u.session, s.pid = pid
  | .stop _ eventType => eventType = 0x1000
  | .start _ eventType => eventType = 0x40000
  | _ => True

/-- The end of a process is the same either way. -/
lemma step_kill (u : Usage) (pid : Pid) (sv : Services) :
    u.step (.kill pid sv) = u.step (.exit pid sv) := by
  rw [step, step, Tracked.step, Tracked.step, nextSession_kill]
  rfl

/-- The specification runs along with the plugin. -/
lemma run_world (u : Usage) (es : List Step) :
    (run step u es).world = run VVNZRunner.step u.world es :=
  run_comp (f := fun u => u.world) (fun _ _ => rfl) u es

end Usage

/-! ### The refinement -/

/-- The plugin is where the specification says, and the owner made the last call. -/
structure ClockSim (u : Usage) : Prop where
  refines : Refines u.world u.session
  user : ∀ s ∈ u.session, u.user = some s.pid
  target : u.world.targetExecClockFrequency = u.accepted
  clock : u.world.vnzExecClockFrequency = u.clock

lemma paused_none {u : Usage} (h : u.session = none) : u.paused = false := by
  rw [Usage.paused, Usage.owner, h]
  cases u.user <;> simp

lemma paused_some {u : Usage} (h : u.session = some s) (huser : u.user = some s.pid) :
    u.paused = u.stopped s.pid := by
  rw [Usage.paused, Usage.owner, h, huser]
  simp

/-- In a state of the simulation the clock is at 166 or at the target. -/
lemma ClockSim.clock_or {u : Usage} (h : ClockSim u) :
    u.world.vnzExecClockFrequency = 166 ∨
      u.world.vnzExecClockFrequency = u.world.targetExecClockFrequency := by
  rw [h.clock, h.target, Usage.clock]
  split_ifs
  · exact .inl rfl
  · exact .inr rfl

/-- A call by a process that is not stopped keeps the simulation. -/
lemma clockSim_call {u : Usage} (h : ClockSim u) (pid : Pid) (c : Call) (sv : Services)
    (hok : u.OneAfterAnother (.call pid c sv)) : ClockSim (u.step (.call pid c sv)) := by
  obtain ⟨hrun, howner⟩ := hok
  have hpaused : u.paused = false := by
    cases hs : u.session with
    | none => exact paused_none hs
    | some s =>
        rw [paused_some hs (h.user s hs), howner s hs]
        exact hrun
  have hclock := h.clock
  rw [Usage.clock, hpaused] at hclock
  have huser : ∀ s ∈ (u.step (.call pid c sv)).session,
      (u.step (.call pid c sv)).user = some s.pid := by
    intro s hs
    rcases nextSession_eq_some hs with hopen | ⟨-, sv', heq, -, -⟩
    · rw [howner s hopen]
      rfl
    · cases heq
      rfl
  have hpaused' : (u.step (.call pid c sv)).paused = false := by
    cases hs : (u.step (.call pid c sv)).session with
    | none => exact paused_none hs
    | some s =>
        have hpid : some pid = some s.pid := huser s hs
        rw [paused_some hs (huser s hs), ← Option.some.inj hpid]
        exact hrun
  obtain ⟨htarget', hclock'⟩ := clock_call pid c sv u.world
  refine ⟨refines_step _ h.refines, huser, ?_, ?_⟩
  · rw [h.target] at htarget'
    exact htarget'
  · rw [hclock] at hclock'
    rw [Usage.clock, hpaused']
    exact hclock'

/-- Without a change for the owner the specification asks for the same clock. -/
lemma clock_of_not_owner {u : Usage} {pid : Pid} {b : Bool} (h : u.owner ≠ some pid) :
    ({ u with stopped := Function.update u.stopped pid b } : Usage).clock = u.clock := by
  have hpaused : ({ u with stopped := Function.update u.stopped pid b } : Usage).paused =
      u.paused := by
    rw [Usage.paused, Usage.paused]
    cases hu : u.user with
    | none => rfl
    | some p =>
        rw [Option.any_some, Option.any_some]
        change (decide (u.owner = some p) && Function.update u.stopped pid b p) = _
        by_cases hp : u.owner = some p
        · have hne : p ≠ pid := fun h' => h (h' ▸ hp)
          rw [Function.update_of_ne hne]
        · rw [decide_eq_false hp, Bool.false_and, Bool.false_and]
  rw [Usage.clock, Usage.clock, hpaused]

/-- The owner is registered and made the last call. -/
lemma ClockSim.registeredPid {u : Usage} {pid : Pid} (h : ClockSim u) (ho : u.owner = some pid) :
    u.world.registeredPid = pid.val ∧ u.user = some pid ∧
      ∃ s, u.session = some s ∧ s.pid = pid := by
  have hreg := h.refines.registeredPid_iff.mpr ho
  obtain ⟨s, hs, rfl⟩ := Option.map_eq_some_iff.mp ho
  exact ⟨hreg, h.user s hs, s, hs, rfl⟩

/-- An event of a process that does not hold the session keeps the simulation. -/
lemma clockSim_of_not_owner {u u' : Usage} {pid : Pid} {b : Bool} (h : ClockSim u)
    (ho : u.owner ≠ some pid) (htracked : u'.toTracked = u.toTracked) (huser : u'.user = u.user)
    (haccepted : u'.accepted = u.accepted)
    (hstopped : u'.stopped = Function.update u.stopped pid b) : ClockSim u' := by
  have heq : u' = { u with stopped := Function.update u.stopped pid b } := by
    obtain ⟨t', user', stopped', accepted'⟩ := u'
    cases htracked
    cases huser
    cases haccepted
    cases hstopped
    rfl
  rw [heq]
  exact ⟨h.refines, h.user, h.target, h.clock.trans (clock_of_not_owner ho).symm⟩

/-- A stop or a start leaves a session of the owner open and its owner the user. -/
lemma clockSim_of_owner {u : Usage} {e : Step} {pid : Pid} {b : Bool} (h : ClockSim u)
    (ho : u.owner = some pid) (hnext : nextSession u.world u.session e = u.session)
    (huser : (u.step e).user = u.user) (haccepted : (u.step e).accepted = u.accepted)
    (hstopped : (u.step e).stopped = Function.update u.stopped pid b)
    (htarget : (step u.world e).targetExecClockFrequency = u.world.targetExecClockFrequency)
    (hclock : (step u.world e).vnzExecClockFrequency =
      if b then 166 else u.world.targetExecClockFrequency) : ClockSim (u.step e) := by
  obtain ⟨-, hup, s, hs, hpid⟩ := h.registeredPid ho
  have hs' : (u.step e).session = some s := hnext.trans hs
  have huser' : (u.step e).user = some s.pid := by rw [huser, hup, hpid]
  refine ⟨refines_step _ h.refines, ?_, ?_, ?_⟩
  · intro s' hs''
    rw [hs'] at hs''
    cases hs''
    exact huser'
  · rw [haccepted]
    exact htarget.trans h.target
  · rw [Usage.clock, paused_some hs' huser', hstopped, hpid, Function.update_self, haccepted,
      ← h.target]
    exact hclock

/-- A stop keeps the simulation. -/
lemma clockSim_stop {u : Usage} (h : ClockSim u) (pid : Pid) :
    ClockSim (u.step (.stop pid 0x1000)) := by
  by_cases ho : u.owner = some pid
  · obtain ⟨hclock, htarget⟩ := procEvHandler_stop (h.registeredPid ho).1 h.clock_or
    exact clockSim_of_owner h ho (nextSession_stop pid 0x1000) rfl rfl rfl htarget hclock
  · have hworld := procEvHandler_of_not_owner 0x1000 (mt h.refines.registeredPid_iff.mp ho)
    refine clockSim_of_not_owner h ho ?_ rfl rfl rfl
    change Tracked.mk (procEvHandler pid.val 0x1000 u.world).2 _ = u.toTracked
    rw [hworld, nextSession_stop]

/-- A start keeps the simulation. -/
lemma clockSim_start {u : Usage} (h : ClockSim u) (pid : Pid) :
    ClockSim (u.step (.start pid 0x40000)) := by
  by_cases ho : u.owner = some pid
  · obtain ⟨hclock, htarget⟩ := procEvHandler_start (h.registeredPid ho).1 h.clock_or
    exact clockSim_of_owner h ho (nextSession_start pid 0x40000) rfl rfl rfl htarget hclock
  · have hworld := procEvHandler_of_not_owner 0x40000 (mt h.refines.registeredPid_iff.mp ho)
    refine clockSim_of_not_owner h ho ?_ rfl rfl rfl
    change Tracked.mk (procEvHandler pid.val 0x40000 u.world).2 _ = u.toTracked
    rw [hworld, nextSession_start]

/-- The end of a process keeps the simulation. -/
lemma clockSim_exit {u : Usage} (h : ClockSim u) (pid : Pid) (sv : Services) :
    ClockSim (u.step (.exit pid sv)) := by
  by_cases ho : u.owner = some pid
  · obtain ⟨hreg, -, s, hs, hpid⟩ := h.registeredPid ho
    obtain ⟨hclock, htarget⟩ := clockDefault_exit sv hreg h.clock_or
    have hs' : (u.step (.exit pid sv)).session = none := by
      change nextSession u.world u.session (.exit pid sv) = none
      rw [hs, nextSession, if_pos hpid]
    have haccepted : (u.step (.exit pid sv)).accepted = 166 := if_pos ho
    refine ⟨refines_step _ h.refines, ?_, ?_, ?_⟩
    · intro s' hs''
      rw [hs'] at hs''
      cases hs''
    · rw [haccepted]
      exact htarget
    · rw [Usage.clock, paused_none hs', haccepted]
      exact hclock
  · have hworld : procEvExitHandler pid.val sv u.world = (sceOk, u.world) :=
      procEvExitHandler_of_not_owner (mt h.refines.registeredPid_iff.mp ho)
    refine clockSim_of_not_owner h ho ?_ rfl (if_neg ho) rfl
    change Tracked.mk (procEvExitHandler pid.val sv u.world).2 _ = u.toTracked
    rw [hworld, nextSession_exit_of_ne ho]

/-- Every step of one process after another keeps the simulation. -/
theorem clockSim_step (u : Usage) (e : Step) (h : ClockSim u) (hok : u.OneAfterAnother e) :
    ClockSim (u.step e) := by
  cases e with
  | call pid c sv => exact clockSim_call h pid c sv hok
  | stop pid eventType =>
      rw [show eventType = 0x1000 from hok]
      exact clockSim_stop h pid
  | start pid eventType =>
      rw [show eventType = 0x40000 from hok]
      exact clockSim_start h pid
  | exit pid sv => exact clockSim_exit h pid sv
  | kill pid sv =>
      rw [Usage.step_kill]
      exact clockSim_exit h pid sv

lemma clockSim_boot (mem : Mem) : ClockSim (Usage.boot mem) where
  refines := boot_not_registered 166 mem
  user := by
    intro s hs
    cases hs
  target := rfl
  clock := rfl

/-- **The clock refines its specification**: while processes use the plugin one after another,
the clock is 166 exactly while the process that uses it is registered and stopped, it is the
target otherwise, and the target is the frequency accepted last since the end of an owner. -/
theorem clock_refines (mem : Mem) (es : List Step)
    (hok : Admissible Usage.step Usage.OneAfterAnother (Usage.boot mem) es) :
    (run step (boot 166 mem) es).vnzExecClockFrequency =
        (if (run Usage.step (Usage.boot mem) es).paused then 166
          else (run step (boot 166 mem) es).targetExecClockFrequency) ∧
      (run step (boot 166 mem) es).targetExecClockFrequency =
        (run Usage.step (Usage.boot mem) es).accepted := by
  have hsim : ClockSim (run Usage.step (Usage.boot mem) es) :=
    run_invariant clockSim_step (clockSim_boot mem) hok
  have hworld : (run Usage.step (Usage.boot mem) es).world = run step (boot 166 mem) es :=
    Usage.run_world _ es
  have htarget := hsim.target
  have hclock := hsim.clock
  rw [hworld] at htarget hclock
  rw [hclock, htarget, Usage.clock]
  exact ⟨rfl, rfl⟩

/-- Process 1 opens a session, raises the clock and is stopped. -/
def stoppedWithClock : List Step :=
  [acceptedInject,
    .call samplePid (.vnzBridgeSetVeneziaExecClockFrequency 0x14d) {},
    .stop samplePid 0x1000]

lemma owner_of_eq {u : Usage} {pid : Pid} (h : u.owner = some pid) :
    ∀ s ∈ u.session, s.pid = pid := by
  intro s hs
  rw [Usage.owner, Option.mem_def.mp hs] at h
  exact Option.some.inj h

theorem clock_refines_stoppedWithClock :
    (run step (boot 166 fun _ => 0) stoppedWithClock).vnzExecClockFrequency =
        (if (run Usage.step (Usage.boot fun _ => 0) stoppedWithClock).paused then 166
          else (run step (boot 166 fun _ => 0) stoppedWithClock).targetExecClockFrequency) ∧
      (run step (boot 166 fun _ => 0) stoppedWithClock).targetExecClockFrequency =
        (run Usage.step (Usage.boot fun _ => 0) stoppedWithClock).accepted := by
  have howner : ((Usage.boot fun _ => 0).step acceptedInject).owner = some samplePid := by
    decide
  exact clock_refines (fun _ => 0) stoppedWithClock
    ⟨⟨rfl, fun s hs => by cases hs⟩, ⟨rfl, owner_of_eq howner⟩, rfl, trivial⟩

/-! ### The end of a process -/

/-- A call sets the frequency or keeps it. -/
lemma acceptedFrequency_cases (c : Call) :
    (∀ old, acceptedFrequency old c = old) ∨ ∃ clock, ∀ old, acceptedFrequency old c = clock := by
  cases c with
  | vnzBridgeSetVeneziaExecClockFrequency clock =>
      by_cases h : ClockAccepted clock
      · exact .inr ⟨clock, fun old => if_pos h⟩
      · exact .inl fun old => if_neg h
  | _ => exact .inl fun _ => rfl

/-- In any order of calls and events: the target is the accepted frequency, the clock is at 166
or there. -/
structure TargetSim (u : Usage) : Prop where
  refines : Refines u.world u.session
  target : u.world.targetExecClockFrequency = u.accepted
  clock_or : u.world.vnzExecClockFrequency = 166 ∨
    u.world.vnzExecClockFrequency = u.world.targetExecClockFrequency

/-- A stop or a start event puts the clock at 166, at the target, or leaves it. -/
lemma procEvHandler_clock (pid : Pid) (eventType : Word) (w : World) :
    (procEvHandler pid.val eventType w).2.targetExecClockFrequency =
        w.targetExecClockFrequency ∧
      ((procEvHandler pid.val eventType w).2.vnzExecClockFrequency = 166 ∨
        (procEvHandler pid.val eventType w).2.vnzExecClockFrequency =
          w.targetExecClockFrequency ∨
        (procEvHandler pid.val eventType w).2.vnzExecClockFrequency =
          w.vnzExecClockFrequency) := by
  rw [procEvHandler]
  split_ifs
  · exact ⟨rfl, .inl rfl⟩
  · exact ⟨rfl, .inr (.inr rfl)⟩
  · exact ⟨rfl, .inr (.inl rfl)⟩
  · exact ⟨rfl, .inr (.inr rfl)⟩
  · exact ⟨rfl, .inr (.inr rfl)⟩

lemma targetSim_procEv {u : Usage} {e : Step} {pid : Pid} {eventType : Word} (h : TargetSim u)
    (he : step u.world e = (procEvHandler pid.val eventType u.world).2)
    (haccepted : u.nextAccepted e = u.accepted) : TargetSim (u.step e) := by
  obtain ⟨htarget, hclock⟩ := procEvHandler_clock pid eventType u.world
  rw [← he] at htarget hclock
  refine ⟨refines_step e h.refines, ?_, ?_⟩
  · exact (htarget.trans h.target).trans haccepted.symm
  · change (step u.world e).vnzExecClockFrequency = 166 ∨
      (step u.world e).vnzExecClockFrequency = (step u.world e).targetExecClockFrequency
    rw [htarget]
    rcases hclock with hc | hc | hc
    · exact .inl hc
    · exact .inr hc
    · rw [hc]
      exact h.clock_or

lemma targetSim_exit {u : Usage} (h : TargetSim u) (pid : Pid) (sv : Services) :
    TargetSim (u.step (.exit pid sv)) := by
  by_cases howner : u.world.registeredPid = pid.val
  · obtain ⟨hclock, htarget⟩ := clockDefault_exit sv howner h.clock_or
    have haccepted : (u.step (.exit pid sv)).accepted = 166 :=
      if_pos (h.refines.registeredPid_iff.mp howner)
    exact ⟨refines_step _ h.refines, htarget.trans haccepted.symm, .inl hclock⟩
  · have hworld : (u.step (.exit pid sv)).world = u.world :=
      congrArg Prod.snd (procEvExitHandler_of_not_owner howner)
    have haccepted : (u.step (.exit pid sv)).accepted = u.accepted :=
      if_neg (mt h.refines.registeredPid_iff.mpr howner)
    refine ⟨refines_step _ h.refines, ?_, ?_⟩
    · rw [hworld, haccepted]
      exact h.target
    · rw [hworld]
      exact h.clock_or

/-- Every step keeps the target at the accepted frequency. -/
theorem targetSim_step (u : Usage) (e : Step) (h : TargetSim u) : TargetSim (u.step e) := by
  cases e with
  | call pid c sv =>
      obtain ⟨htarget, hclock⟩ := clock_call pid c sv u.world
      refine ⟨refines_step _ h.refines, ?_, ?_⟩
      · rw [h.target] at htarget
        exact htarget
      · change (c.perform pid sv u.world).2.vnzExecClockFrequency = 166 ∨
          (c.perform pid sv u.world).2.vnzExecClockFrequency =
            (c.perform pid sv u.world).2.targetExecClockFrequency
        rw [htarget, hclock]
        rcases acceptedFrequency_cases c with hold | ⟨clock, hset⟩
        · rw [hold, hold]
          exact h.clock_or
        · rw [hset, hset]
          exact .inr rfl
  | stop pid eventType => exact targetSim_procEv h rfl rfl
  | start pid eventType => exact targetSim_procEv h rfl rfl
  | exit pid sv => exact targetSim_exit h pid sv
  | kill pid sv =>
      rw [Usage.step_kill]
      exact targetSim_exit h pid sv

lemma targetSim_run (mem : Mem) (es : List Step) :
    TargetSim (run Usage.step (Usage.boot mem) es) := by
  have hboot : TargetSim (Usage.boot mem) := ⟨boot_not_registered 166 mem, rfl, .inl rfl⟩
  have hok : Admissible Usage.step (fun _ _ => True) (Usage.boot mem) es := admissible_true _ _
  exact run_invariant (fun u e h _ => targetSim_step u e h) hboot hok

/-- **The end of a process resets the clock exactly if** the process holds the session or the
frequency accepted last since the end of an owner is 166. -/
theorem clock_default_iff (mem : Mem) (es : List Step) (pid : Pid) (sv : Services) :
    (ClockDefault (step (run step (boot 166 mem) es) (.exit pid sv)) ↔
        (run step (boot 166 mem) es).registeredPid = pid.val ∨
          (run Usage.step (Usage.boot mem) es).accepted = 166) ∧
      (ClockDefault (step (run step (boot 166 mem) es) (.kill pid sv)) ↔
        (run step (boot 166 mem) es).registeredPid = pid.val ∨
          (run Usage.step (Usage.boot mem) es).accepted = 166) := by
  have hsim := targetSim_run mem es
  have hworld : (run Usage.step (Usage.boot mem) es).world = run step (boot 166 mem) es :=
    Usage.run_world _ es
  have htarget := hsim.target
  have hclock := hsim.clock_or
  rw [hworld] at htarget hclock
  have hend : ClockDefault (procEvExitHandler pid.val sv (run step (boot 166 mem) es)).2 ↔
      (run step (boot 166 mem) es).registeredPid = pid.val ∨
        (run Usage.step (Usage.boot mem) es).accepted = 166 := by
    by_cases howner : (run step (boot 166 mem) es).registeredPid = pid.val
    · exact iff_of_true (clockDefault_exit sv howner hclock) (.inl howner)
    · rw [procEvExitHandler_of_not_owner howner, ClockDefault, ← htarget]
      constructor
      · intro h
        exact .inr h.2
      · rintro (h | h)
        · exact absurd h howner
        · rw [h] at hclock
          exact ⟨or_self_iff.mp hclock, h⟩
  exact ⟨hend, hend⟩

/-- Nobody but `pid` sets the clock. -/
def SetOnlyBy (pid : Pid) : Step → Prop
  | .call p (.vnzBridgeSetVeneziaExecClockFrequency _) _ => p = pid
  | _ => True

/-- Process 1 opens a session, raises the clock and ends the session itself. -/
def restoredWithClock : List Step :=
  [acceptedInject,
    .call samplePid (.vnzBridgeSetVeneziaExecClockFrequency 0x14d) {},
    .call samplePid .vnzBridgeRestore {}]

/-- The clock outlives the process that raised it. -/
theorem clock_outlives_process :
    (∀ e ∈ restoredWithClock, SetOnlyBy samplePid e) ∧
      (step (run step (boot 166 fun _ => 0) restoredWithClock)
        (.exit samplePid {})).vnzExecClockFrequency = 333 ∧
      ¬ ClockDefault (step (run step (boot 166 fun _ => 0) restoredWithClock)
        (.exit samplePid {})) := by
  refine ⟨?_, by decide, by decide⟩
  simp [restoredWithClock, SetOnlyBy, acceptedInject]

end VVNZRunner
