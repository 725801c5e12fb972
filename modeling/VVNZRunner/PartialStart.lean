import VVNZRunner.FreshStart
import VVNZRunner.StepLog
import VVNZRunner.UnmapMemory

/-!
A start that does not find its modules. `module_start` then returns success all the same, and
leaves pointers into those modules unset.

* `Pointer`, `Resolved`: the pointers into the other modules, and those that a start has set.
* `Step.Uses`: the pointers a step goes through.
* `SafeAfter`: which steps do without the pointers that are missing.
* `partial_start_safe_iff`: a run behind a start goes through set pointers only exactly if its
  steps do without the missing ones, and behind a partial start no session opens in such a run.
-/

namespace VVNZRunner

open ByteMemory Machine

/-! ### The pointers -/

/-- The pointers that `module_start` looks up in other modules. -/
inductive Pointer where
  | sceVeneziaEventHandler
  | sceVeneziaGetProcessorLoad
  | vnzExecClockFrequency
  | sceCodecEngineAllocMemoryFromUnmapMemBlock
  | sceCodecEngineFreeMemoryFromUnmapMemBlock
  | sceAvcodecMapMemoryToVenezia
  deriving DecidableEq

/-- The lookup that sets a pointer. -/
def Pointer.lookup : Pointer → Event
  | .sceVeneziaEventHandler => .moduleGetOffset 0 (0x8C ||| 1)
  | .sceVeneziaGetProcessorLoad => .moduleGetOffset 0 (0x36EC ||| 1)
  | .vnzExecClockFrequency => .moduleGetOffset 1 0xBC
  | .sceCodecEngineAllocMemoryFromUnmapMemBlock => .moduleGetOffset 0 (0x161FC ||| 1)
  | .sceCodecEngineFreeMemoryFromUnmapMemBlock => .moduleGetOffset 0 (0x162FC ||| 1)
  | .sceAvcodecMapMemoryToVenezia => .moduleGetOffset 0 (0x89C0 ||| 1)

/-- The state a start leaves, with the answers of the two module lookups. -/
def started (codecEngineWrapper avcodec clock : Word) (mem : Mem) : World :=
  (moduleStart codecEngineWrapper avcodec { vnzExecClockFrequency := clock, mem := mem }).2

/-- The start that left the state has set the pointer. -/
def Resolved (w : World) (p : Pointer) : Prop := p.lookup ∈ w.trace

/-- The pointer an event goes through. -/
def Event.through : Event → Option Pointer
  | .sceVeneziaEventHandler .. => some .sceVeneziaEventHandler
  | .sceVeneziaGetProcessorLoad _ => some .sceVeneziaGetProcessorLoad
  | .storeExecClockFrequency _ => some .vnzExecClockFrequency
  | .sceCodecEngineAllocMemoryFromUnmapMemBlock .. =>
      some .sceCodecEngineAllocMemoryFromUnmapMemBlock
  | .sceCodecEngineFreeMemoryFromUnmapMemBlock .. =>
      some .sceCodecEngineFreeMemoryFromUnmapMemBlock
  | .sceAvcodecMapMemoryToVenezia .. => some .sceAvcodecMapMemoryToVenezia
  | _ => none

/-- The step reads the clock, which leaves nothing in the log. -/
def Step.ReadsClock : Step → Prop
  | .call _ .vnzBridgeGetVeneziaExecClockFrequency _ => True
  | _ => False

/-- The step goes through the pointer. -/
def Step.Uses (w : World) (e : Step) (p : Pointer) : Prop :=
  (∃ event ∈ newEvents w e, event.through = some p) ∨
    e.ReadsClock ∧ p = .vnzExecClockFrequency

section Started

variable {codecEngineWrapper avcodec clock : Word} {mem : Mem}

/-- **What a start sets**: nothing without the first module, all but one without the second. -/
lemma resolved_started (p : Pointer) :
    Resolved (started codecEngineWrapper avcodec clock mem) p ↔
      0 ≤ codecEngineWrapper.toInt ∧
        (p = .sceAvcodecMapMemoryToVenezia → 0 ≤ avcodec.toInt) := by
  rw [Resolved, started, moduleStart]
  by_cases hwrapper : codecEngineWrapper.toInt < 0
  · rw [if_pos hwrapper]
    refine iff_of_false ?_ fun h => absurd h.1 (not_le.mpr hwrapper)
    cases p <;> simp [Pointer.lookup]
  · rw [if_neg hwrapper]
    dsimp only
    by_cases havcodec : avcodec.toInt < 0
    · rw [if_pos havcodec]
      cases p <;> simp [Pointer.lookup, not_lt.mp hwrapper, havcodec]
    · rw [if_neg havcodec]
      cases p <;>
        simp [Pointer.lookup, not_lt.mp hwrapper, not_lt.mp havcodec, World.store, World.vnzDoReset]

/-- A start registers nobody. -/
lemma started_free : ¬ (started codecEngineWrapper avcodec clock mem).Registered := by
  rw [started, moduleStart]
  dsimp only
  split_ifs <;> exact fun h => h rfl

end Started

/-! ### One step -/

/-- The step goes through pointers with `Q` only. -/
def Step.KeepsTo (Q : Pointer → Prop) (w : World) (e : Step) : Prop := ∀ p, e.Uses w p → Q p

/-- The step does without the pointers that a partial start leaves unset: the mapping to Venezia
always, and unless `present` those into the first module. -/
def Step.DoesWithout (present : Prop) (w : World) : Step → Prop
  | .call _ (.vnzBridgeMapMemory ..) _ => False
  | .call _ (.vnzBridgeInject addr size) sv =>
      ¬ (InjectArgsOk addr size ∧ 0 < sv.sceKernelUserMap.uid.toInt ∧ InjectImageOk addr size sv w)
  | .call _ .vnzBridgeGetVeneziaExecClockFrequency _ => present
  | .call _ (.vnzBridgeSetVeneziaExecClockFrequency clock) _ => ClockAccepted clock → present
  | .call _ (.vnzBridgeAllocUnmapMemory _ _ _ vnzVaddr) _ => vnzVaddr ≠ 0 → present
  | .call _ (.vnzBridgeFreeUnmapMemory _ vnzVaddr size) sv =>
      ¬ (vnzVaddr = 0 ∨ size = 0) → sv.sceVeneziaClosePublicMemory ≠ 0 →
        0 ≤ (sv.sceCodecEngineUnmap .paToUserVA).ret.toInt → present
  | .call _ (.sceCodecEnginePmonGetProcessorLoadExt _) _ => present
  | _ => True

section KeepsTo

variable {Q : Pointer → Prop} {present : Prop} {w : World} {e : Step} {log : List Event}

/-- The event goes through pointers with `Q` only. -/
def Event.KeepsTo (Q : Pointer → Prop) (event : Event) : Prop := ∀ p ∈ event.through, Q p

lemma Event.keepsTo_of_none {event : Event} (h : event.through = none) : event.KeepsTo Q := by
  intro p hp
  rw [h] at hp
  cases hp

lemma Event.keepsTo_iff {event : Event} {p : Pointer} (h : event.through = some p) :
    event.KeepsTo Q ↔ Q p := by
  rw [Event.KeepsTo, h]
  simp

/-- A step by what it logs. -/
lemma keepsTo_iff_log (hlog : (step w e).trace = log ++ w.trace) :
    e.KeepsTo Q w ↔
      (∀ event ∈ log, event.KeepsTo Q) ∧ (e.ReadsClock → Q .vnzExecClockFrequency) := by
  simp only [Step.KeepsTo, Step.Uses, newEvents_eq hlog, Event.KeepsTo]
  constructor
  · exact fun h => ⟨fun event hevent p hp => h p (.inl ⟨event, hevent, hp⟩),
      fun hread => h _ (.inr ⟨hread, rfl⟩)⟩
  · rintro ⟨hlogged, hread⟩ p (⟨event, hevent, hp⟩ | ⟨hclock, rfl⟩)
    · exact hlogged event hevent p hp
    · exact hread hclock

/-- A step that goes through no pointer. -/
lemma keepsTo_of_logs (hlogs : Logs (fun event => event.through = none) w (step w e))
    (hread : ¬ e.ReadsClock) : e.KeepsTo Q w := by
  obtain ⟨log, hlog, hnone⟩ := hlogs
  exact (keepsTo_iff_log hlog).mpr
    ⟨fun event hevent => Event.keepsTo_of_none (hnone event hevent), fun h => absurd h hread⟩

/-- An injection goes through the mapping exactly if it gets that far. -/
lemma keepsTo_inject (hfree : ¬ w.Registered) (hmap : ¬ Q .sceAvcodecMapMemoryToVenezia) (pid : Pid)
    (addr size : Word) (sv : Services) :
    (Step.call pid (.vnzBridgeInject addr size) sv).KeepsTo Q w ↔
      ¬ (InjectArgsOk addr size ∧ 0 < sv.sceKernelUserMap.uid.toInt ∧
        InjectImageOk addr size sv w) := by
  let mapped : Event := .sceAvcodecMapMemoryToVenezia addr size .kernR 1 1
    sv.sceAvcodecMapMemoryToVenezia
  have hreached : ∀ {log}, (step w (.call pid (.vnzBridgeInject addr size) sv)).trace =
      log ++ w.trace → mapped ∈ log →
        ¬ (Step.call pid (.vnzBridgeInject addr size) sv).KeepsTo Q w := fun hlog hmem h =>
    hmap ((Event.keepsTo_iff rfl).mp (((keepsTo_iff_log hlog).mp h).1 mapped hmem))
  have hstep : step w (.call pid (.vnzBridgeInject addr size) sv) =
      (vnzBridgeInject addr size pid sv w).2 := rfl
  have hout := inject_outcome addr size pid sv w
  generalize vnzBridgeInject addr size pid sv w = r at hout hstep
  cases hout with
  | badArgument hargs =>
      refine iff_of_true (keepsTo_of_logs ?_ id) fun h => hargs h.1
      rw [hstep]
      exact .refl w
  | alreadyRegistered hargs hreg => exact absurd hreg hfree
  | notMapped hargs hfree huid =>
      refine iff_of_true (keepsTo_of_logs ?_ id) fun h => absurd h.2.1 (not_lt.mpr huid)
      rw [hstep]
      exact .single rfl rfl
  | notExecutable hargs hfree huid himage =>
      refine iff_of_true (keepsTo_of_logs ?_ id) fun h => himage h.2.2
      rw [hstep]
      exact .single rfl rfl
  | notMappedToVenezia hargs hfree huid himage hret =>
      have hlog : (step w (.call pid (.vnzBridgeInject addr size) sv)).trace =
          [mapped, _] ++ w.trace := congrArg World.trace hstep
      exact iff_of_false (hreached hlog (by simp)) fun h => h ⟨hargs, huid, himage⟩
  | wrongBase hargs hfree huid himage hret hbase =>
      have hlog : (step w (.call pid (.vnzBridgeInject addr size) sv)).trace =
          [_, mapped, _] ++ w.trace := congrArg World.trace hstep
      exact iff_of_false (hreached hlog (by simp)) fun h => h ⟨hargs, huid, himage⟩
  | opened hargs hfree huid himage hret hbase =>
      have hlog : (step w (.call pid (.vnzBridgeInject addr size) sv)).trace =
          [_, _, _, _, mapped, _] ++ w.trace := congrArg World.trace hstep
      exact iff_of_false (hreached hlog (by simp)) fun h => h ⟨hargs, huid, himage⟩

/-- An allocation goes through the pointers into the first module unless it is refused. -/
lemma keepsTo_alloc (hallocate : Q .sceCodecEngineAllocMemoryFromUnmapMemBlock ↔ present)
    (hrelease : Q .sceCodecEngineFreeMemoryFromUnmapMemBlock ↔ present) (pid : Pid)
    (uid size alignment vnzVaddr : Word) (sv : Services) :
    (Step.call pid (.vnzBridgeAllocUnmapMemory uid size alignment vnzVaddr) sv).KeepsTo Q w ↔
      (vnzVaddr ≠ 0 → present) := by
  obtain ⟨log, hout, htrace⟩ := alloc_outcome uid size alignment vnzVaddr sv w
  have hlog : (step w (.call pid (.vnzBridgeAllocUnmapMemory uid size alignment vnzVaddr)
      sv)).trace = log ++ w.trace := htrace
  rw [keepsTo_iff_log hlog]
  generalize Prod.fst _ = r at hout
  cases hout with
  | badPointer hptr => exact iff_of_true ⟨nofun, False.elim⟩ fun h => absurd hptr h
  | notAllocated hptr hmem =>
      rw [imp_iff_right hptr, ← hallocate]
      simp [Event.KeepsTo, Event.through, Step.ReadsClock, allocEvent]
  | notTranslated hptr hmem hret =>
      rw [imp_iff_right hptr]
      simp [Event.KeepsTo, Event.through, Step.ReadsClock, allocEvent, undoEvent, toPhysicalEvent,
        hallocate, hrelease]
  | notOpened hptr hmem hret hopen =>
      rw [imp_iff_right hptr]
      simp [Event.KeepsTo, Event.through, Step.ReadsClock, allocEvent, undoEvent, toPhysicalEvent,
        openEvent, hallocate, hrelease]
  | opened hptr hmem hret hopen =>
      rw [imp_iff_right hptr, ← hallocate]
      simp [Event.KeepsTo, Event.through, Step.ReadsClock, allocEvent, toPhysicalEvent, openEvent,
        deliverEvent]

/-- A release goes through a pointer into the first module if it gets to the end. -/
lemma keepsTo_free (hrelease : Q .sceCodecEngineFreeMemoryFromUnmapMemBlock ↔ present) (pid : Pid)
    (uid vnzVaddr size : Word) (sv : Services) :
    (Step.call pid (.vnzBridgeFreeUnmapMemory uid vnzVaddr size) sv).KeepsTo Q w ↔
      (¬ (vnzVaddr = 0 ∨ size = 0) → sv.sceVeneziaClosePublicMemory ≠ 0 →
        0 ≤ (sv.sceCodecEngineUnmap .paToUserVA).ret.toInt → present) := by
  obtain ⟨log, hout, htrace⟩ := free_outcome uid vnzVaddr size sv w
  have hlog : (step w (.call pid (.vnzBridgeFreeUnmapMemory uid vnzVaddr size) sv)).trace =
      log ++ w.trace := htrace
  rw [keepsTo_iff_log hlog]
  generalize Prod.fst _ = r at hout
  cases hout with
  | badArgument hargs => exact iff_of_true ⟨nofun, False.elim⟩ fun h => absurd hargs h
  | notClosed hargs hpa =>
      refine iff_of_true ?_ fun _ h => absurd hpa h
      simp [Event.KeepsTo, Event.through, Step.ReadsClock, closeEvent]
  | notTranslated hargs hpa hret =>
      refine iff_of_true ?_ fun _ _ h => absurd hret (not_lt.mpr h)
      simp [Event.KeepsTo, Event.through, Step.ReadsClock, closeEvent, toUserEvent]
  | closed hargs hpa hret =>
      rw [imp_iff_right hargs, imp_iff_right hpa, imp_iff_right hret, ← hrelease]
      simp [Event.KeepsTo, Event.through, Step.ReadsClock, closeEvent, toUserEvent, freeEvent]

/-- **Without a session** a step goes through set pointers only exactly if it does without those
that a partial start leaves unset. -/
theorem keepsTo_iff (hfree : ¬ w.Registered) (hmap : ¬ Q .sceAvcodecMapMemoryToVenezia)
    (hrest : ∀ p, p ≠ .sceAvcodecMapMemoryToVenezia → (Q p ↔ present)) :
    e.KeepsTo Q w ↔ e.DoesWithout present w := by
  have hone : ∀ {e : Step} {event}, step w e = w.emit event → event.through = none →
      ¬ e.ReadsClock → e.KeepsTo Q w := by
    intro e event hw hnone hread
    refine keepsTo_of_logs ?_ hread
    rw [hw]
    exact .single hnone rfl
  have hidle : ∀ {e : Step}, step w e = w → ¬ e.ReadsClock → e.KeepsTo Q w := by
    intro e hw hread
    refine keepsTo_of_logs ?_ hread
    rw [hw]
    exact .refl w
  have howner := registeredPid_ne_of_free hfree
  cases e with
  | call pid c sv =>
      cases c with
      | vnzBridgeInject addr size => exact keepsTo_inject hfree hmap pid addr size sv
      | vnzBridgeRestore =>
          exact iff_of_true (hidle (congrArg Prod.snd (vnzBridgeRestore_of_free hfree)) id) trivial
      | vnzBridgeExec pUserArg n =>
          exact iff_of_true (hidle (congrArg Prod.snd (vnzBridgeExecCore_of_free hfree)) id) trivial
      | vnzBridgeExecNoSuspend pUserArg n =>
          exact iff_of_true (hidle (congrArg Prod.snd (vnzBridgeExecCore_of_free hfree)) id) trivial
      | vnzBridgeMapMemory vaddr size vnzPaddr wr =>
          have hlog : (step w (.call pid (.vnzBridgeMapMemory vaddr size vnzPaddr wr) sv)).trace =
              [_, _] ++ w.trace :=
            congrArg World.trace (vnzBridgeMapMemory_eq vaddr size vnzPaddr wr sv w)
          refine iff_of_false (fun h => hmap ?_) id
          exact (Event.keepsTo_iff rfl).mp (((keepsTo_iff_log hlog).mp h).1 _
            (List.mem_cons_of_mem _ List.mem_cons_self))
      | vnzBridgeUnmapMemory vaddr size wr =>
          refine iff_of_true (keepsTo_of_logs ?_ id) trivial
          obtain ⟨u, rfl | rfl, hu⟩ := vnzBridgeUnmapMemory_cases vaddr size wr sv w
          · exact .single rfl (congrArg World.trace hu)
          · exact ⟨[_, _], congrArg World.trace hu, by simp [Event.through]⟩
      | vnzBridgeGetVeneziaExecClockFrequency =>
          have hlog : (step w (.call pid .vnzBridgeGetVeneziaExecClockFrequency sv)).trace =
              [] ++ w.trace := rfl
          rw [keepsTo_iff_log hlog, hrest _ (by decide)]
          simp [Step.ReadsClock, Step.DoesWithout]
      | vnzBridgeSetVeneziaExecClockFrequency clock =>
          have hstep : step w (.call pid (.vnzBridgeSetVeneziaExecClockFrequency clock) sv) =
              (vnzBridgeSetVeneziaExecClockFrequency clock w).2 := rfl
          by_cases haccepted : ClockAccepted clock
          · have hlog : (step w (.call pid (.vnzBridgeSetVeneziaExecClockFrequency clock)
                sv)).trace = [.storeExecClockFrequency clock] ++ w.trace := by
              rw [hstep, vnzBridgeSetVeneziaExecClockFrequency, if_pos haccepted]
              rfl
            rw [keepsTo_iff_log hlog, Step.DoesWithout, imp_iff_right haccepted,
              ← hrest .vnzExecClockFrequency (by decide)]
            simp [Event.KeepsTo, Event.through, Step.ReadsClock]
          · refine iff_of_true (hidle ?_ id) fun h => absurd h haccepted
            rw [hstep, vnzBridgeSetVeneziaExecClockFrequency, if_neg haccepted]
      | vnzBridgeAllocUnmapMemory uid size alignment vnzVaddr =>
          exact keepsTo_alloc (hrest _ (by decide)) (hrest _ (by decide)) pid uid size alignment
            vnzVaddr sv
      | vnzBridgeFreeUnmapMemory uid vnzVaddr size =>
          exact keepsTo_free (hrest _ (by decide)) pid uid vnzVaddr size sv
      | sceCodecEnginePmonGetProcessorLoadExt data =>
          have hlog : (step w (.call pid (.sceCodecEnginePmonGetProcessorLoadExt data) sv)).trace =
              [.sceKernelCopyToUser data .local _ _, .sceVeneziaGetProcessorLoad _] ++ w.trace :=
            rfl
          rw [keepsTo_iff_log hlog, Step.DoesWithout, ← hrest .sceVeneziaGetProcessorLoad (by decide)]
          simp [Event.KeepsTo, Event.through, Step.ReadsClock]
      | vnzBridgeGetSpramValue offset =>
          refine iff_of_true (hidle ?_ id) trivial
          change (vnzBridgeGetSpramValue offset w).2 = w
          rw [vnzBridgeGetSpramValue]
          split_ifs <;> rfl
      | vnzBridgeMemcpyToSpram src size off =>
          refine iff_of_true (keepsTo_of_logs ?_ id) trivial
          change Logs _ w (vnzBridgeMemcpyToSpram src size off sv w).2
          rw [vnzBridgeMemcpyToSpram]
          split_ifs
          · exact .single rfl rfl
          · exact .refl w
      | vnzBridgeMemcpyFromSpram dst size off =>
          refine iff_of_true (keepsTo_of_logs ?_ id) trivial
          change Logs _ w (vnzBridgeMemcpyFromSpram dst size off sv w).2
          rw [vnzBridgeMemcpyFromSpram]
          split_ifs
          · exact .single rfl rfl
          · exact .refl w
      | vnzLockProcessSuspend => exact iff_of_true (hone rfl rfl id) trivial
      | vnzUnlockProcessSuspend => exact iff_of_true (hone rfl rfl id) trivial
      | sceVeneziaOpenPublicMemory paddr size => exact iff_of_true (hone rfl rfl id) trivial
      | sceVeneziaClosePublicMemory vnzVaddr size => exact iff_of_true (hone rfl rfl id) trivial
      | sceCodecEngineRegisterUnmapMemory memory size =>
          exact iff_of_true (hone rfl rfl id) trivial
      | sceCodecEngineUnregisterUnmapMemory memory size =>
          exact iff_of_true (hone rfl rfl id) trivial
      | _ =>
          exact iff_of_true (keepsTo_of_logs ⟨[_, _], rfl, by simp [Event.through]⟩ id) trivial
  | stop pid eventType =>
      exact iff_of_true
        (hidle (congrArg Prod.snd (procEvHandler_of_not_owner eventType (howner pid))) id) trivial
  | start pid eventType =>
      exact iff_of_true
        (hidle (congrArg Prod.snd (procEvHandler_of_not_owner eventType (howner pid))) id) trivial
  | exit pid sv =>
      exact iff_of_true
        (hidle (congrArg Prod.snd (procEvExitHandler_of_not_owner (howner pid))) id) trivial
  | kill pid sv =>
      exact iff_of_true
        (hidle (congrArg Prod.snd (procEvExitHandler_of_not_owner (howner pid))) id) trivial

/-- Such a step registers nobody. -/
lemma free_of_doesWithout (hfree : ¬ w.Registered) (h : e.DoesWithout present w) :
    ¬ (step w e).Registered := by
  have howner := registeredPid_ne_of_free hfree
  have hkept : (step w e).toStatics = w.toStatics → ¬ (step w e).Registered := by
    intro hstatics
    rw [World.Registered, hstatics]
    exact hfree
  cases e with
  | call pid c sv =>
      rcases keepsStatics_or pid c sv w with ⟨addr, size, rfl⟩ | rfl | ⟨-, -, hkeeps⟩
      · change ¬ (vnzBridgeInject addr size pid sv w).2.Registered
        have hout := inject_outcome addr size pid sv w
        generalize vnzBridgeInject addr size pid sv w = r at hout ⊢
        cases hout with
        | notMappedToVenezia hargs _ huid himage hret => exact absurd ⟨hargs, huid, himage⟩ h
        | wrongBase hargs _ huid himage hret hbase => exact absurd ⟨hargs, huid, himage⟩ h
        | opened hargs _ huid himage hret hbase => exact absurd ⟨hargs, huid, himage⟩ h
        | _ => exact hfree
      · have hw : step w (.call pid .vnzBridgeRestore sv) = w :=
          congrArg Prod.snd (vnzBridgeRestore_of_free hfree)
        exact hkept (congrArg World.toStatics hw)
      · exact hkept hkeeps.statics
  | stop pid eventType => exact hkept (clockOnly_procEvHandler pid eventType w).keepsStatics.statics
  | start pid eventType => exact hkept (clockOnly_procEvHandler pid eventType w).keepsStatics.statics
  | exit pid sv =>
      have hw : step w (.exit pid sv) = w :=
        congrArg Prod.snd (procEvExitHandler_of_not_owner (howner pid))
      exact hkept (congrArg World.toStatics hw)
  | kill pid sv =>
      have hw : step w (.kill pid sv) = w :=
        congrArg Prod.snd (procEvExitHandler_of_not_owner (howner pid))
      exact hkept (congrArg World.toStatics hw)

end KeepsTo

/-! ### Every run -/

/-- The steps of the run behind the start that left `w` go through set pointers only. -/
def NullSafe (w : World) (es : List Step) : Prop :=
  Admissible step (fun u e => e.KeepsTo (Resolved w) u) w es

end VVNZRunner
