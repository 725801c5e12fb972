import VVNZRunner.Frame

/-!
The kernel mappings of injected blocks.

* `liveMappings`: the ids that the log shows mapped and not unmapped again.
* `MappingsMatch`: exactly `s_blockMapId` is live while a process is registered, and nothing
  otherwise.
* `KeepsMapping`: the injections that leave no mapping behind. Once `sceKernelUserMap` has
  succeeded, every later check has to pass, because the label `return_with_unmap` does not
  unmap. `mappings_match_iff`: along a run the mappings match exactly if every step keeps them.
-/

namespace VVNZRunner

open ByteMemory Machine

/-- The kernel mappings alive after the events of a log. -/
def liveMappings : List Event → List Word
  | [] => []
  | .sceKernelUserMap _ _ _ _ uid _ _ :: t =>
      if 0 < uid.toInt then uid :: liveMappings t else liveMappings t
  | .sceKernelUserUnmap uid ret :: t =>
      if 0 ≤ ret.toInt then (liveMappings t).filter (· ≠ uid) else liveMappings t
  | _ :: t => liveMappings t

/-- The live mappings are those of the session: `s_blockMapId` while one is open, else none. -/
def MappingsMatch (w : World) : Prop :=
  liveMappings w.trace = if w.Registered then [w.blockMapId] else []

instance (w : World) : Decidable (MappingsMatch w) :=
  inferInstanceAs (Decidable (liveMappings w.trace = if w.Registered then [w.blockMapId] else []))

/-- Unmapping a live mapping succeeds. -/
def UnmapSucceeds (w : World) : Step → Prop
  | .call _ _ sv | .exit _ sv | .kill _ sv =>
      w.blockMapId ∈ liveMappings w.trace → 0 ≤ sv.sceKernelUserUnmap.toInt
  | _ => True

/-- An injection that gets a kernel mapping keeps it: the image is accepted and Venezia maps
the block at the expected address. -/
def KeepsMapping (w : World) : Step → Prop
  | .call _ (.vnzBridgeInject addr size) sv =>
      InjectArgsOk addr size → ¬ w.Registered → 0 < sv.sceKernelUserMap.uid.toInt →
        InjectImageOk addr size sv w ∧ 0 ≤ sv.sceAvcodecMapMemoryToVenezia.ret.toInt ∧
          sv.codeBase w.requestedCodeBase = vramBase
  | _ => True

/-- An injection that returns an error leaves the live mappings as they were. -/
def FailedInjectKeeps (w : World) : Step → Prop
  | .call pid (.vnzBridgeInject addr size) sv =>
      (vnzBridgeInject addr size pid sv w).1.toInt < 0 →
        liveMappings (vnzBridgeInject addr size pid sv w).2.trace = liveMappings w.trace
  | _ => True

lemma liveMappings_noMapping (e : Event) (t : List Event) (he : e.NoMapping) :
    liveMappings (e :: t) = liveMappings t := by
  cases e <;> first | rfl | exact he.elim

lemma KeepsStatics.liveMappings {w w' : World} (h : KeepsStatics w w') :
    liveMappings w'.trace = liveMappings w.trace :=
  h.logs.observe liveMappings_noMapping

/-! ### One step -/

variable {w w' : World}

lemma KeepsStatics.mappingsMatch (h : KeepsStatics w w') : MappingsMatch w' ↔ MappingsMatch w := by
  simp only [MappingsMatch, World.Registered, h.statics, h.liveMappings]

lemma MappingsMatch.free (h : MappingsMatch w) (hfree : ¬ w.Registered) :
    liveMappings w.trace = [] := by
  rw [MappingsMatch, if_neg hfree] at h
  exact h

lemma liveMappings_afterUserMap (addr size : Word) (sv : Services) (w : World) :
    liveMappings (afterUserMap addr size sv w).trace =
      if 0 < sv.sceKernelUserMap.uid.toInt then
        sv.sceKernelUserMap.uid :: liveMappings w.trace
      else liveMappings w.trace := rfl

lemma afterUserMap_registered (addr size : Word) (sv : Services) (w : World) :
    (afterUserMap addr size sv w).Registered ↔ w.Registered := Iff.rfl

/-- The state behind `vnzBridgeInject` matches exactly if the injection kept its mapping. -/
lemma mappingsMatch_inject (addr size : Word) (pid : Pid) (sv : Services)
    (h : MappingsMatch w) :
    MappingsMatch (vnzBridgeInject addr size pid sv w).2 ↔
      KeepsMapping w (.call pid (.vnzBridgeInject addr size) sv) := by
  have hout := inject_outcome addr size pid sv w
  generalize vnzBridgeInject addr size pid sv w = r at hout ⊢
  cases hout with
  | badArgument hargs => exact iff_of_true h fun h' => absurd h' hargs
  | alreadyRegistered hargs hreg => exact iff_of_true h fun _ h' => absurd hreg h'
  | notMapped hargs hfree huid =>
      refine iff_of_true ?_ fun _ _ h' => absurd h' (by omega)
      have hlive := liveMappings_afterUserMap addr size sv w
      rw [if_neg (by omega), h.free hfree] at hlive
      rw [MappingsMatch, hlive, if_neg (mt (afterUserMap_registered ..).mp hfree)]
  | notExecutable hargs hfree huid himage =>
      refine iff_of_false (fun hm => ?_) fun h' => himage (h' hargs hfree huid).1
      have hlive := liveMappings_afterUserMap addr size sv w
      rw [if_pos huid] at hlive
      exact List.cons_ne_nil _ _ (hlive.symm.trans (hm.free hfree))
  | notMappedToVenezia hargs hfree huid himage hret =>
      refine iff_of_false (fun hm => ?_) fun h' => absurd (h' hargs hfree huid).2.1 (by omega)
      have hlive := liveMappings_afterUserMap addr size sv w
      rw [if_pos huid] at hlive
      exact List.cons_ne_nil _ _ (hlive.symm.trans (hm.free hfree))
  | wrongBase hargs hfree huid himage hret hbase =>
      refine iff_of_false (fun hm => ?_) fun h' => hbase (h' hargs hfree huid).2.2
      have hlive := liveMappings_afterUserMap addr size sv w
      rw [if_pos huid] at hlive
      exact List.cons_ne_nil _ _ (hlive.symm.trans (hm.free hfree))
  | opened hargs hfree huid himage hret hbase =>
      refine iff_of_true ?_ fun _ _ _ => ⟨himage, hret, hbase⟩
      have hlive := liveMappings_afterUserMap addr size sv w
      rw [if_pos huid, h.free hfree] at hlive
      exact hlive.trans (if_pos pid.valid).symm

/-- `vnzBridgeRestore` removes the mapping of the session it closes. -/
lemma mappingsMatch_restored (sv : Services) (h : MappingsMatch w) (hreg : w.Registered)
    (hunmap : w.blockMapId ∈ liveMappings w.trace → 0 ≤ sv.sceKernelUserUnmap.toInt) :
    MappingsMatch (restored sv w) := by
  rw [MappingsMatch, if_pos hreg] at h
  have hret : 0 ≤ sv.sceKernelUserUnmap.toInt := hunmap (by simp [h])
  have hlive : liveMappings (restored sv w).trace =
      if 0 ≤ sv.sceKernelUserUnmap.toInt then (liveMappings w.trace).filter (· ≠ w.blockMapId)
      else liveMappings w.trace := rfl
  have hnot : ¬ (restored sv w).Registered := fun h' => h' rfl
  rw [MappingsMatch, if_neg hnot, hlive, if_pos hret, h]
  simp

lemma mappingsMatch_restore (sv : Services) (h : MappingsMatch w)
    (hunmap : w.blockMapId ∈ liveMappings w.trace → 0 ≤ sv.sceKernelUserUnmap.toInt) :
    MappingsMatch (vnzBridgeRestore sv w).2 := by
  by_cases hreg : w.Registered
  · rw [vnzBridgeRestore_of_registered hreg]
    exact mappingsMatch_restored sv h hreg hunmap
  · rw [vnzBridgeRestore_of_free hreg]
    exact h

lemma mappingsMatch_exit (pid : Pid) (sv : Services) (h : MappingsMatch w)
    (hunmap : w.blockMapId ∈ liveMappings w.trace → 0 ≤ sv.sceKernelUserUnmap.toInt) :
    MappingsMatch (procEvExitHandler pid.val sv w).2 := by
  by_cases howner : w.registeredPid = pid.val
  · rw [procEvExitHandler_of_owner howner]
    have hkeeps := (clockOnly_clockReset w).keepsStatics
    refine mappingsMatch_restored sv (hkeeps.mappingsMatch.mpr h) ?_ ?_
    · rw [World.Registered, hkeeps.statics, howner]
      exact pid.valid
    · rw [hkeeps.liveMappings, hkeeps.statics]
      exact hunmap
  · rw [procEvExitHandler_of_not_owner howner]
    exact h

lemma mappingsMatch_procEvHandler (pid : Pid) (eventType : Word) (h : MappingsMatch w) :
    MappingsMatch (procEvHandler pid.val eventType w).2 :=
  (clockOnly_procEvHandler pid eventType w).keepsStatics.mappingsMatch.mpr h

/-- **A step from a matching state leads to a matching state exactly if it keeps its
mapping.** -/
theorem mappingsMatch_step (e : Step) (h : MappingsMatch w) (hunmap : UnmapSucceeds w e) :
    MappingsMatch (step w e) ↔ KeepsMapping w e := by
  cases e with
  | stop pid eventType => exact iff_of_true (mappingsMatch_procEvHandler pid eventType h) trivial
  | start pid eventType =>
      exact iff_of_true (mappingsMatch_procEvHandler pid eventType h) trivial
  | exit pid sv => exact iff_of_true (mappingsMatch_exit pid sv h hunmap) trivial
  | kill pid sv => exact iff_of_true (mappingsMatch_exit pid sv h hunmap) trivial
  | call pid c sv =>
      rcases keepsStatics_or pid c sv w with ⟨addr, size, rfl⟩ | rfl | ⟨hinject, -, hkeeps⟩
      · exact mappingsMatch_inject addr size pid sv h
      · exact iff_of_true (mappingsMatch_restore sv h hunmap) trivial
      · refine iff_of_true (hkeeps.mappingsMatch.mpr h) ?_
        cases c with
        | vnzBridgeInject addr size => exact absurd rfl (hinject addr size)
        | _ => trivial

/-- An injection that keeps its mapping and yet fails has not made one. -/
lemma failedInject_keeps (e : Step) (hkeep : KeepsMapping w e) :
    FailedInjectKeeps w e := by
  cases e with
  | stop pid eventType => trivial
  | start pid eventType => trivial
  | exit pid sv => trivial
  | kill pid sv => trivial
  | call pid c sv =>
      cases c with
      | vnzBridgeInject addr size =>
          intro hneg
          have hout := inject_outcome addr size pid sv w
          generalize vnzBridgeInject addr size pid sv w = r at hout hneg ⊢
          cases hout with
          | badArgument hargs => rfl
          | alreadyRegistered hargs hreg => rfl
          | notMapped hargs hfree huid =>
              rw [liveMappings_afterUserMap, if_neg (by omega)]
          | notExecutable hargs hfree huid himage =>
              exact absurd (hkeep hargs hfree huid).1 himage
          | notMappedToVenezia hargs hfree huid himage hret =>
              exact absurd (hkeep hargs hfree huid).2.1 (by omega)
          | wrongBase hargs hfree huid himage hret hbase =>
              exact absurd (hkeep hargs hfree huid).2.2 hbase
          | opened hargs hfree huid himage hret hbase =>
              exact absurd hneg (not_lt.mpr hret)
      | _ => trivial

/-! ### Whole runs -/

lemma mappingsMatch_boot (clock : Word) (mem : Mem) : MappingsMatch (boot clock mem) := by
  have hnot : ¬ (boot clock mem).Registered := fun h => h rfl
  rw [MappingsMatch, if_neg hnot]
  rfl

/-- **No mapping is leaked or lost along a run, and no failing injection changes the live
mappings, exactly if every injection that gets a kernel mapping goes on to open a session.** -/
theorem mappings_match_iff (clock : Word) (mem : Mem) (steps : List Step)
    (hunmap : Admissible step UnmapSucceeds (boot clock mem) steps) :
    Always step MappingsMatch (boot clock mem) steps ∧
        Admissible step FailedInjectKeeps (boot clock mem) steps ↔
      Admissible step KeepsMapping (boot clock mem) steps := by
  have hiff : Always step MappingsMatch (boot clock mem) steps ↔
      Admissible step KeepsMapping (boot clock mem) steps :=
    always_iff_admissible (fun s e hs he => mappingsMatch_step e hs he)
      (mappingsMatch_boot clock mem) hunmap
  refine ⟨fun h => hiff.mp h.1, fun h => ⟨hiff.mpr h, ?_⟩⟩
  exact h.mono fun s e he => failedInject_keeps e he

/-- An injection of a block of zeros, which `sceKernelUserMap` maps as `0x10001`. -/
def rejectedInject : Step :=
  .call samplePid (.vnzBridgeInject 0x81000000 0x40000)
    { sceKernelUserMap := { uid := 0x10001 } }

lemma unmapSucceeds_rejectedInject :
    Admissible step UnmapSucceeds (boot 166 fun _ => 0) [rejectedInject] :=
  ⟨fun h => absurd h (by decide), trivial⟩

/-- The injection of a block of zeros returns `SCE_ERROR_ERRNO_ENOEXEC` and leaves its mapping
behind. -/
theorem rejected_inject_leaks :
    ret (boot 166 fun _ => 0) rejectedInject = sceErrorErrnoENOEXEC ∧
      liveMappings (step (boot 166 fun _ => 0) rejectedInject).trace = [0x10001] ∧
      Admissible step UnmapSucceeds (boot 166 fun _ => 0) [rejectedInject] ∧
      ¬ (Always step MappingsMatch (boot 166 fun _ => 0) [rejectedInject] ∧
        Admissible step FailedInjectKeeps (boot 166 fun _ => 0) [rejectedInject]) := by
  refine ⟨by decide, by decide, unmapSucceeds_rejectedInject, fun h => ?_⟩
  have hlast : MappingsMatch (step (boot 166 fun _ => 0) rejectedInject) := h.1.last
  exact absurd hlast (by decide)

/-- The run that leaks is one that does not keep its mappings. -/
theorem mappings_match_iff_rejected :
    Always step MappingsMatch (boot 166 fun _ => 0) [rejectedInject] ∧
        Admissible step FailedInjectKeeps (boot 166 fun _ => 0) [rejectedInject] ↔
      Admissible step KeepsMapping (boot 166 fun _ => 0) [rejectedInject] :=
  mappings_match_iff 166 (fun _ => 0) [rejectedInject] unmapSucceeds_rejectedInject

end VVNZRunner
