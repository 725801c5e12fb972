import VVNZRunner.Mappings

/-!
Injections of several threads at once. Nothing in `vnzBridgeInject` keeps a second caller out
between the check of `s_registeredPid` and the end.

* `injectStart`, `Injecting`: an injection up to its kernel mapping, and one that got it.
  `vnzBridgeInject_eq`: the two parts make up the whole.
* `Race`, `RaceStep`: injections start and finish in any order, and other steps are made.
* `Race.MappingsKept`: the live mappings are those of the session and of the calls in progress.
* `inject_race_iff`: along a run this is so exactly if each call that finishes is accepted, finds
  no session and still finds its own id in `s_blockMapId`; only the call that was mapped last can.
* `inject_in_turn_iff`: if the callers take turns, nothing but the acceptance is left to ask for.
-/

namespace VVNZRunner

open ByteMemory Machine

/-! ### The two parts of an injection -/

/-- `vnzBridgeInject` up to the kernel mapping: an error, or `kernelPage`. -/
def injectStart (mepElfMemblockAddr mepElfMemblockSize : Word) (sv : Services) (w : World) :
    Except Word Word × World :=
  if ¬ InjectArgsOk mepElfMemblockAddr mepElfMemblockSize then (.error sceErrorErrnoEINVAL, w)
  else if w.Registered then (.error sceErrorErrnoEALREADY, w)
  else if sv.sceKernelUserMap.uid.toInt ≤ 0 then
    (.error sv.sceKernelUserMap.uid, afterUserMap mepElfMemblockAddr mepElfMemblockSize sv w)
  else (.ok sv.kernelPage, afterUserMap mepElfMemblockAddr mepElfMemblockSize sv w)

/-- A call of `vnzBridgeInject` that got its kernel mapping: its caller and arguments, its local
`kernelPage`, and the id of the mapping, which it only keeps in `s_blockMapId`. -/
structure Injecting where
  pid : Pid
  addr : Word
  size : Word
  kernelPage : Word
  blockMapId : Word

/-- The rest of the call. -/
def Injecting.finish (c : Injecting) (sv : Services) (w : World) : Word × World :=
  injectImage c.kernelPage c.addr c.size c.pid sv w

/-- The rest of the call ends well. -/
def Injecting.Accepted (c : Injecting) (sv : Services) (w : World) : Prop :=
  ImageAccepted w.mem c.kernelPage ∧ 0 ≤ sv.sceAvcodecMapMemoryToVenezia.ret.toInt ∧
    sv.codeBase w.requestedCodeBase = vramBase

instance (c : Injecting) (sv : Services) (w : World) : Decidable (c.Accepted sv w) :=
  inferInstanceAs (Decidable (_ ∧ _ ∧ _))

section Parts

variable {w : World} {addr size : Word} {sv : Services}

/-- **The two parts make up the whole.** -/
theorem vnzBridgeInject_eq (pid : Pid) :
    vnzBridgeInject addr size pid sv w =
      match injectStart addr size sv w with
      | (.error ret, w) => (ret, w)
      | (.ok kernelPage, w) => injectImage kernelPage addr size pid sv w := by
  have hargs : (addr = 0 ∨ size = 0 ∨ ¬ IsSizeAligned size sceKernel256KiB) ↔
      ¬ InjectArgsOk addr size := by
    rw [InjectArgsOk]
    tauto
  rw [vnzBridgeInject, injectStart, if_congr hargs rfl rfl]
  by_cases hbad : ¬ InjectArgsOk addr size
  · rw [if_pos hbad, if_pos hbad]
  rw [if_neg hbad, if_neg hbad]
  by_cases hreg : w.Registered
  · rw [if_pos hreg, if_pos hreg]
  rw [if_neg hreg, if_neg hreg]
  by_cases huid : sv.sceKernelUserMap.uid.toInt ≤ 0
  · rw [if_pos huid, if_pos huid]
    rfl
  · rw [if_neg huid, if_neg huid]
    rfl

variable {c : Injecting}

/-- The state behind the mapping to Venezia. -/
def Injecting.afterMap (c : Injecting) (sv : Services) (w : World) : World :=
  { ({ w with
        requestedCodeSize := c.size
        requestedCodeBaseVaddr := c.addr }).sceAvcodecMapMemoryToVenezia c.addr c.size .kernR 1 1 sv
    with requestedCodeBase := sv.codeBase w.requestedCodeBase }

/-- The rest of the call from the image's last check on. -/
lemma Injecting.injectMap_eq (c : Injecting) (sv : Services) (w : World) :
    injectMap c.kernelPage c.addr c.size c.pid sv w =
      if sv.sceAvcodecMapMemoryToVenezia.ret.toInt < 0 then
        (sv.sceAvcodecMapMemoryToVenezia.ret, c.afterMap sv w)
      else if sv.codeBase w.requestedCodeBase ≠ vramBase then
        (sceErrorErrnoEFAULT, (vnzBridgeUnmapMemory c.addr c.size 0 sv (c.afterMap sv w)).2)
      else
        injectComm c.kernelPage (ehdrEntry w.mem c.kernelPage)
          sv.sceAvcodecMapMemoryToVenezia.ret c.pid (c.afterMap sv w) := rfl

/-- A call that ends well registers its caller; `s_blockMapId` is what it was. -/
lemma finish_of_accepted (h : c.Accepted sv w) :
    (c.finish sv w).2.registeredPid = c.pid.val ∧ (c.finish sv w).2.blockMapId = w.blockMapId ∧
      liveMappings (c.finish sv w).2.trace = liveMappings w.trace := by
  obtain ⟨⟨hident, hsection⟩, hret, hbase⟩ := h
  rw [Injecting.finish, injectImage, if_neg (not_not.mpr hident), if_neg hsection,
    c.injectMap_eq, if_neg (not_lt.mpr hret), if_neg (not_not.mpr hbase)]
  exact ⟨rfl, rfl, rfl⟩

/-- Any other call leaves the session and the mappings as they were. -/
lemma finish_of_not_accepted (h : ¬ c.Accepted sv w) :
    (c.finish sv w).2.registeredPid = w.registeredPid ∧
      (c.finish sv w).2.blockMapId = w.blockMapId ∧
        liveMappings (c.finish sv w).2.trace = liveMappings w.trace := by
  rw [Injecting.finish, injectImage]
  by_cases hident : ¬ IdentMatches w.mem c.kernelPage
  · rw [if_pos hident]
    exact ⟨rfl, rfl, rfl⟩
  rw [if_neg hident]
  by_cases hsection : findSection w.mem c.kernelPage = 0
  · rw [if_pos hsection]
    exact ⟨rfl, rfl, rfl⟩
  rw [if_neg hsection, c.injectMap_eq]
  by_cases hret : sv.sceAvcodecMapMemoryToVenezia.ret.toInt < 0
  · rw [if_pos hret]
    exact ⟨rfl, rfl, rfl⟩
  have hbase : sv.codeBase w.requestedCodeBase ≠ vramBase :=
    fun hbase => h ⟨⟨not_not.mp hident, hsection⟩, not_lt.mp hret, hbase⟩
  rw [if_neg hret, if_pos hbase]
  have hkeeps := keepsStatics_unmap c.addr c.size 0 sv (c.afterMap sv w)
  have hpid : (vnzBridgeUnmapMemory c.addr c.size 0 sv (c.afterMap sv w)).2.registeredPid =
      (c.afterMap sv w).registeredPid := congrArg Statics.registeredPid hkeeps.statics
  have huid : (vnzBridgeUnmapMemory c.addr c.size 0 sv (c.afterMap sv w)).2.blockMapId =
      (c.afterMap sv w).blockMapId := congrArg Statics.blockMapId hkeeps.statics
  exact ⟨hpid, huid, hkeeps.liveMappings⟩

end Parts

/-! ### The machine -/

/-- The plugin with the injections that are between their kernel mapping and the rest, in the
order in which they were mapped. -/
structure Race where
  world : World
  injecting : List Injecting

/-- The step is an injection. -/
def Step.IsInject : Step → Prop
  | .call _ (.vnzBridgeInject _ _) _ => True
  | _ => False

/-- An injection starts, one of those in progress finishes, or another step is made. -/
inductive RaceStep where
  | start (pid : Pid) (addr size : Word) (sv : Services)
  | finish (i : ℕ) (sv : Services)
  | other (e : Step) (he : ¬ e.IsInject)

namespace Race

/-- A step of the race. -/
def step (t : Race) : RaceStep → Race
  | .start pid addr size sv =>
      match injectStart addr size sv t.world with
      | (.error _, w) => { t with world := w }
      | (.ok kernelPage, w) =>
        { world := w
          injecting := t.injecting ++ [⟨pid, addr, size, kernelPage, sv.sceKernelUserMap.uid⟩] }
  | .finish i sv =>
      match t.injecting[i]? with
      | none => t
      | some c => { world := (c.finish sv t.world).2, injecting := t.injecting.eraseIdx i }
  | .other e _ => { t with world := VVNZRunner.step t.world e }

/-- The state after `module_start`. -/
def boot (clock : Word) (mem : Mem) : Race := ⟨VVNZRunner.boot clock mem, []⟩

/-- The mapping of the session. -/
def sessionMapping (w : World) : List Word := if w.Registered then [w.blockMapId] else []

/-- The live mappings are those of the session and of the calls in progress, each once. -/
def MappingsKept (t : Race) : Prop :=
  (liveMappings t.world.trace).Perm
      (sessionMapping t.world ++ t.injecting.map Injecting.blockMapId) ∧
    (liveMappings t.world.trace).Nodup

end Race

/-- `sceKernelUserMap` gives new ids, and unmapping a live mapping succeeds. -/
def RaceStep.Documented (t : Race) : RaceStep → Prop
  | .start _ _ _ sv =>
      0 < sv.sceKernelUserMap.uid.toInt → sv.sceKernelUserMap.uid ∉ liveMappings t.world.trace
  | .finish _ _ => True
  | .other e _ => UnmapSucceeds t.world e

/-- A call that finishes is accepted, finds no session and its own id in `s_blockMapId`. -/
def RaceStep.Clean (t : Race) : RaceStep → Prop
  | .finish i sv =>
      ∀ c ∈ t.injecting[i]?, c.Accepted sv t.world ∧ ¬ t.world.Registered ∧
        t.world.blockMapId = c.blockMapId
  | _ => True

/-- Only the call that was mapped last finishes. -/
def RaceStep.FinishesLast (t : Race) : RaceStep → Prop
  | .finish i _ => i < t.injecting.length → i + 1 = t.injecting.length
  | _ => True

/-- A call starts only while no other is in progress. -/
def RaceStep.TakesTurns (t : Race) : RaceStep → Prop
  | .start _ _ _ _ => t.injecting = []
  | _ => True

/-- A call that finishes is accepted. -/
def RaceStep.Accepts (t : Race) : RaceStep → Prop
  | .finish i sv => ∀ c ∈ t.injecting[i]?, c.Accepted sv t.world
  | _ => True

/-! ### One step -/

section Step

variable {w u : World} {e : Step} {t : Race}

lemma sessionMapping_of_registered (h : w.Registered) :
    Race.sessionMapping w = [w.blockMapId] := if_pos h

lemma sessionMapping_of_free (h : ¬ w.Registered) : Race.sessionMapping w = [] := if_neg h

lemma sessionMapping_congr (hpid : u.registeredPid = w.registeredPid)
    (huid : u.blockMapId = w.blockMapId) : Race.sessionMapping u = Race.sessionMapping w := by
  simp only [Race.sessionMapping, World.Registered, hpid, huid]

/-- Any step but an injection keeps the statics and the mappings, or it closes the session. -/
lemma other_cases (he : ¬ e.IsInject) (hunmap : UnmapSucceeds w e) :
    KeepsStatics w (step w e) ∨ ∃ sv u, KeepsStatics w u ∧ w.Registered ∧
      step w e = restored sv u ∧
        (w.blockMapId ∈ liveMappings w.trace → 0 ≤ sv.sceKernelUserUnmap.toInt) := by
  have hexit : ∀ (pid : Pid) sv,
      KeepsStatics w (procEvExitHandler pid.val sv w).2 ∨ ∃ u, KeepsStatics w u ∧ w.Registered ∧
        (procEvExitHandler pid.val sv w).2 = restored sv u := by
    intro pid sv
    by_cases howner : w.registeredPid = pid.val
    · have hreg : w.Registered := by
        rw [World.Registered, howner]
        exact pid.valid
      refine .inr ⟨_, (clockOnly_clockReset w).keepsStatics, hreg, ?_⟩
      rw [procEvExitHandler_of_owner howner]
    · rw [procEvExitHandler_of_not_owner howner]
      exact .inl (ClockOnly.refl w).keepsStatics
  cases e with
  | call pid c sv =>
      rcases keepsStatics_or pid c sv w with ⟨addr, size, rfl⟩ | rfl | ⟨-, -, hkeeps⟩
      · exact absurd trivial he
      · by_cases hreg : w.Registered
        · exact .inr ⟨sv, w, (ClockOnly.refl w).keepsStatics, hreg,
            congrArg Prod.snd (vnzBridgeRestore_of_registered hreg), hunmap⟩
        · have hw : step w (.call pid .vnzBridgeRestore sv) = w :=
            congrArg Prod.snd (vnzBridgeRestore_of_free hreg)
          rw [hw]
          exact .inl (ClockOnly.refl w).keepsStatics
      · exact .inl hkeeps
  | stop pid eventType => exact .inl (clockOnly_procEvHandler pid eventType w).keepsStatics
  | start pid eventType => exact .inl (clockOnly_procEvHandler pid eventType w).keepsStatics
  | exit pid sv =>
      rcases hexit pid sv with h | ⟨u, hkeeps, hreg, hw⟩
      · exact .inl h
      · exact .inr ⟨sv, u, hkeeps, hreg, hw, hunmap⟩
  | kill pid sv =>
      rcases hexit pid sv with h | ⟨u, hkeeps, hreg, hw⟩
      · exact .inl h
      · exact .inr ⟨sv, u, hkeeps, hreg, hw, hunmap⟩

/-- The end of a session removes its mapping and no other. -/
lemma mappingsKept_restored {sv : Services} (h : t.MappingsKept) (hkeeps : KeepsStatics t.world u)
    (hreg : t.world.Registered)
    (hunmap : t.world.blockMapId ∈ liveMappings t.world.trace →
      0 ≤ sv.sceKernelUserUnmap.toInt) :
    Race.MappingsKept { t with world := restored sv u } := by
  obtain ⟨hperm, hnodup⟩ := h
  rw [sessionMapping_of_registered hreg] at hperm
  have hret : 0 ≤ sv.sceKernelUserUnmap.toInt := hunmap (hperm.symm.subset List.mem_cons_self)
  have hlive : liveMappings (restored sv u).trace =
      (liveMappings t.world.trace).filter (· ≠ t.world.blockMapId) := by
    have hrestored : liveMappings (restored sv u).trace =
        if 0 ≤ sv.sceKernelUserUnmap.toInt then (liveMappings u.trace).filter (· ≠ u.blockMapId)
        else liveMappings u.trace := rfl
    rw [hrestored, if_pos hret, hkeeps.liveMappings, congrArg Statics.blockMapId hkeeps.statics]
  have hfree : ¬ (restored sv u).Registered := fun h => h rfl
  have hnotMem : t.world.blockMapId ∉ t.injecting.map Injecting.blockMapId :=
    (List.nodup_cons.mp (hperm.nodup_iff.mp hnodup)).1
  constructor
  · change (liveMappings (restored sv u).trace).Perm (Race.sessionMapping (restored sv u) ++ _)
    rw [hlive, sessionMapping_of_free hfree, List.nil_append]
    refine (hperm.filter _).trans ?_
    rw [List.singleton_append, List.filter_cons_of_neg (by simp), List.filter_eq_self.mpr]
    intro uid huid
    simp only [decide_not, Bool.not_eq_eq_eq_not, Bool.not_true, decide_eq_false_iff_not]
    rintro rfl
    exact hnotMem huid
  · change (liveMappings (restored sv u).trace).Nodup
    rw [hlive]
    exact hnodup.filter _

/-- What a start leaves behind: an error, or a kernel mapping that is only noted in
`s_blockMapId`. -/
lemma start_cases (pid : Pid) (addr size : Word) (sv : Services) (t : Race) :
    t.step (.start pid addr size sv) = t ∨
      ¬ t.world.Registered ∧ (sv.sceKernelUserMap.uid.toInt ≤ 0 ∧
          t.step (.start pid addr size sv) = { t with world := afterUserMap addr size sv t.world } ∨
        0 < sv.sceKernelUserMap.uid.toInt ∧ t.step (.start pid addr size sv) =
          { world := afterUserMap addr size sv t.world
            injecting := t.injecting ++
              [⟨pid, addr, size, sv.kernelPage, sv.sceKernelUserMap.uid⟩] }) := by
  rw [Race.step, injectStart]
  by_cases hbad : ¬ InjectArgsOk addr size
  · rw [if_pos hbad]
    exact .inl rfl
  rw [if_neg hbad]
  by_cases hreg : t.world.Registered
  · rw [if_pos hreg]
    exact .inl rfl
  rw [if_neg hreg]
  by_cases huid : sv.sceKernelUserMap.uid.toInt ≤ 0
  · rw [if_pos huid]
    exact .inr ⟨hreg, .inl ⟨huid, rfl⟩⟩
  · rw [if_neg huid]
    exact .inr ⟨hreg, .inr ⟨not_le.mp huid, rfl⟩⟩

/-- A start with a new id keeps the mappings. -/
lemma mappingsKept_start {pid : Pid} {addr size : Word} {sv : Services} (h : t.MappingsKept)
    (hnew : 0 < sv.sceKernelUserMap.uid.toInt →
      sv.sceKernelUserMap.uid ∉ liveMappings t.world.trace) :
    (t.step (.start pid addr size sv)).MappingsKept := by
  obtain ⟨hperm, hnodup⟩ := h
  have hlive := liveMappings_afterUserMap addr size sv t.world
  rcases start_cases pid addr size sv t with heq | ⟨hfree, ⟨huid, heq⟩ | ⟨huid, heq⟩⟩
  · rw [heq]
    exact ⟨hperm, hnodup⟩
  · rw [if_neg (not_lt.mpr huid)] at hlive
    have hfree' : ¬ (afterUserMap addr size sv t.world).Registered := hfree
    rw [heq, Race.MappingsKept, hlive, sessionMapping_of_free hfree',
      ← sessionMapping_of_free hfree]
    exact ⟨hperm, hnodup⟩
  · rw [if_pos huid] at hlive
    have hfree' : ¬ (afterUserMap addr size sv t.world).Registered := hfree
    rw [sessionMapping_of_free hfree] at hperm
    rw [heq, Race.MappingsKept, hlive, sessionMapping_of_free hfree', List.map_append]
    exact ⟨(hperm.cons _).trans (List.perm_append_singleton _ _).symm,
      List.nodup_cons.mpr ⟨hnew huid, hnodup⟩⟩

/-- **A call that finishes** keeps the mappings exactly if it finishes clean. -/
lemma mappingsKept_finish {c : Injecting} {i : ℕ} {sv : Services} (h : t.MappingsKept)
    (hc : t.injecting[i]? = some c) :
    Race.MappingsKept { world := (c.finish sv t.world).2, injecting := t.injecting.eraseIdx i } ↔
      c.Accepted sv t.world ∧ ¬ t.world.Registered ∧ t.world.blockMapId = c.blockMapId := by
  obtain ⟨hperm, hnodup⟩ := h
  obtain ⟨hi, rfl⟩ := List.getElem?_eq_some_iff.mp hc
  have herase : (t.injecting.map Injecting.blockMapId).Perm
      (t.injecting[i].blockMapId :: (t.injecting.eraseIdx i).map Injecting.blockMapId) :=
    (List.getElem_cons_eraseIdx_perm hi).symm.map _
  generalize hrest : (t.injecting.eraseIdx i).map Injecting.blockMapId = rest at herase
  rw [Race.MappingsKept, hrest]
  by_cases hacc : t.injecting[i].Accepted sv t.world
  · obtain ⟨hpid, huid, hlive⟩ := finish_of_accepted hacc
    have hreg : (t.injecting[i].finish sv t.world).2.Registered := by
      rw [World.Registered, hpid]
      exact t.injecting[i].pid.valid
    rw [hlive, sessionMapping_of_registered hreg, huid]
    constructor
    · rintro ⟨hafter, -⟩
      have hperms : (Race.sessionMapping t.world ++ t.injecting.map Injecting.blockMapId).Perm
          ([t.world.blockMapId] ++ rest) := hperm.symm.trans hafter
      have hlen := hperms.length_eq
      have hlen' := herase.length_eq
      simp only [List.length_append, List.length_cons, List.length_nil] at hlen hlen'
      have hfree : ¬ t.world.Registered := by
        intro hreg
        rw [sessionMapping_of_registered hreg] at hlen
        simp only [List.length_cons, List.length_nil] at hlen
        omega
      refine ⟨hacc, hfree, ?_⟩
      rw [sessionMapping_of_free hfree] at hperms
      have hcons : (t.injecting[i].blockMapId :: rest).Perm (t.world.blockMapId :: rest) :=
        herase.symm.trans hperms
      exact (Multiset.cons_inj_left (rest : Multiset Word)).mp (Multiset.coe_eq_coe.mpr hcons.symm)
    · rintro ⟨-, hfree, hid⟩
      rw [sessionMapping_of_free hfree] at hperm
      rw [hid]
      exact ⟨hperm.trans herase, hnodup⟩
  · obtain ⟨hpid, huid, hlive⟩ := finish_of_not_accepted hacc
    refine iff_of_false ?_ fun hclean => hacc hclean.1
    rintro ⟨hafter, -⟩
    rw [hlive, sessionMapping_congr hpid huid] at hafter
    have hlen := (hperm.symm.trans hafter).length_eq
    have hlen' := herase.length_eq
    simp only [List.length_append, List.length_cons] at hlen hlen'
    omega

/-- **A step keeps the mappings exactly if it is clean.** -/
theorem mappingsKept_step (t : Race) (e : RaceStep) (h : t.MappingsKept) (hok : e.Documented t) :
    (t.step e).MappingsKept ↔ e.Clean t := by
  cases e with
  | start pid addr size sv => exact iff_of_true (mappingsKept_start h hok) trivial
  | finish i sv =>
      rw [Race.step, RaceStep.Clean]
      cases hc : t.injecting[i]? with
      | none => exact iff_of_true h (by simp)
      | some c =>
          simp only [Option.mem_def, Option.some.injEq, forall_eq']
          exact mappingsKept_finish h hc
  | other e he =>
      refine iff_of_true ?_ trivial
      change Race.MappingsKept { t with world := step t.world e }
      rcases other_cases he hok with hkeeps | ⟨sv, u, hkeeps, hreg, hw, hunmap⟩
      · rw [Race.MappingsKept, hkeeps.liveMappings,
          sessionMapping_congr (congrArg Statics.registeredPid hkeeps.statics)
            (congrArg Statics.blockMapId hkeeps.statics)]
        exact h
      · rw [hw]
        exact mappingsKept_restored h hkeeps hreg hunmap

/-! ### Which calls can finish -/

/-- The ids of the calls in progress are positive, and `s_blockMapId` is none of those that
another call was mapped behind. -/
structure Race.Overwritten (t : Race) : Prop where
  pos : ∀ c ∈ t.injecting, 0 < c.blockMapId.toInt
  earlier : ∀ i c, t.injecting[i]? = some c → i + 1 < t.injecting.length →
    t.world.blockMapId ≠ c.blockMapId

lemma Race.Overwritten.of_nonpos (h : t.Overwritten) (hid : u.blockMapId.toInt ≤ 0) :
    Race.Overwritten { t with world := u } := by
  refine ⟨h.pos, fun i c hc _ heq => ?_⟩
  have hpos := h.pos c (List.mem_of_getElem? hc)
  rw [← heq] at hpos
  exact absurd hid (not_le.mpr hpos)

lemma Race.Overwritten.congr (h : t.Overwritten) (hid : u.blockMapId = t.world.blockMapId) :
    Race.Overwritten { t with world := u } := by
  refine ⟨h.pos, fun i c hc hi => ?_⟩
  change u.blockMapId ≠ c.blockMapId
  rw [hid]
  exact h.earlier i c hc hi

/-- Another call that is mapped overwrites `s_blockMapId`. -/
lemma Race.Overwritten.append (h : t.Overwritten) (hkept : t.MappingsKept) {c : Injecting}
    (hpos : 0 < c.blockMapId.toInt) (hid : u.blockMapId = c.blockMapId)
    (hnew : c.blockMapId ∉ liveMappings t.world.trace) :
    Race.Overwritten { world := u, injecting := t.injecting ++ [c] } := by
  refine ⟨?_, fun i d hd hi heq => ?_⟩
  · intro d hd
    rcases List.mem_append.mp hd with hd | hd
    · exact h.pos d hd
    · rw [List.mem_singleton.mp hd]
      exact hpos
  · have hlt : i < t.injecting.length := by
      simp only [List.length_append, List.length_singleton] at hi
      omega
    have hd' : t.injecting[i]? = some d := (List.getElem?_append_left hlt).symm.trans hd
    have hlive : d.blockMapId ∈ liveMappings t.world.trace :=
      hkept.1.symm.subset (List.mem_append_right _
        (List.mem_map_of_mem (List.mem_of_getElem? hd')))
    exact hnew (hid ▸ heq ▸ hlive)

/-- A call that finishes leaves the others as they were. -/
lemma Race.Overwritten.erase (h : t.Overwritten) (hid : u.blockMapId = t.world.blockMapId) (k : ℕ) :
    Race.Overwritten { world := u, injecting := t.injecting.eraseIdx k } := by
  refine ⟨fun c hc => h.pos c (List.mem_of_mem_eraseIdx hc), fun i c hc hi => ?_⟩
  change u.blockMapId ≠ c.blockMapId
  rw [hid]
  change (t.injecting.eraseIdx k)[i]? = some c at hc
  change i + 1 < (t.injecting.eraseIdx k).length at hi
  rw [List.length_eraseIdx] at hi
  rw [List.getElem?_eraseIdx] at hc
  split_ifs at hc hi with hik hk
  · exact h.earlier i c hc (by omega)
  · exact h.earlier i c hc hi
  · exact h.earlier (i + 1) c hc (by omega)
  · exact h.earlier (i + 1) c hc (by omega)

/-- Every step keeps this. -/
lemma overwritten_step (t : Race) (e : RaceStep) (h : t.Overwritten) (hkept : t.MappingsKept)
    (hok : e.Documented t) : (t.step e).Overwritten := by
  cases e with
  | start pid addr size sv =>
      rcases start_cases pid addr size sv t with heq | ⟨-, ⟨huid, heq⟩ | ⟨huid, heq⟩⟩
      · rw [heq]
        exact h
      · rw [heq]
        exact h.of_nonpos huid
      · rw [heq]
        exact h.append hkept huid rfl (hok huid)
  | finish i sv =>
      rw [Race.step]
      cases hc : t.injecting[i]? with
      | none => exact h
      | some c =>
          refine h.erase ?_ i
          by_cases hacc : c.Accepted sv t.world
          · exact (finish_of_accepted hacc).2.1
          · exact (finish_of_not_accepted hacc).2.1
  | other e he =>
      change Race.Overwritten { t with world := step t.world e }
      rcases other_cases he hok with hkeeps | ⟨sv, u, -, -, hw, -⟩
      · exact h.congr (congrArg Statics.blockMapId hkeeps.statics)
      · rw [hw]
        exact h.of_nonpos (by decide : (sceUidInvalidUid).toInt ≤ 0)

/-- Only the call that was mapped last finishes clean. -/
lemma finishesLast_of_clean {e : RaceStep} (h : t.Overwritten) (hclean : e.Clean t) :
    e.FinishesLast t := by
  cases e with
  | start pid addr size sv => trivial
  | other e he => trivial
  | finish i sv =>
      intro hi
      by_contra hlast
      obtain ⟨-, -, hid⟩ := hclean _ (List.getElem?_eq_getElem hi)
      exact h.earlier i _ (List.getElem?_eq_getElem hi) (by omega) hid

/-- At most one call is in progress, with no session and its id in `s_blockMapId`. -/
def Race.Alone (t : Race) : Prop :=
  t.injecting = [] ∨
    ∃ c, t.injecting = [c] ∧ ¬ t.world.Registered ∧ t.world.blockMapId = c.blockMapId

/-- Callers that take turns stay alone. -/
lemma alone_step (t : Race) (e : RaceStep) (h : t.Alone)
    (hok : e.Documented t ∧ e.TakesTurns t) : (t.step e).Alone := by
  obtain ⟨hdoc, hturn⟩ := hok
  cases e with
  | start pid addr size sv =>
      have hnil : t.injecting = [] := hturn
      rcases start_cases pid addr size sv t with heq | ⟨hfree, ⟨-, heq⟩ | ⟨-, heq⟩⟩
      · rw [heq]
        exact h
      · rw [heq]
        exact .inl hnil
      · rw [heq, hnil]
        exact .inr ⟨_, rfl, hfree, rfl⟩
  | finish i sv =>
      rw [Race.step]
      rcases h with hnil | ⟨c, hc, hfree, hid⟩
      · rw [hnil]
        exact .inl hnil
      · rw [hc]
        cases i with
        | zero => exact .inl rfl
        | succ i => exact .inr ⟨c, hc, hfree, hid⟩
  | other e he =>
      rcases h with hnil | ⟨c, hc, hfree, hid⟩
      · exact .inl hnil
      · refine .inr ⟨c, hc, ?_⟩
        change ¬ (step t.world e).Registered ∧ (step t.world e).blockMapId = c.blockMapId
        rcases other_cases he hdoc with hkeeps | ⟨sv, u, -, hreg, -, -⟩
        · rw [World.Registered, hkeeps.statics]
          exact ⟨hfree, hid⟩
        · exact absurd hreg hfree

/-- A call that is alone finishes clean exactly if it is accepted. -/
lemma clean_iff_accepts {e : RaceStep} (h : t.Alone) : e.Clean t ↔ e.Accepts t := by
  cases e with
  | start pid addr size sv => exact Iff.rfl
  | other e he => exact Iff.rfl
  | finish i sv =>
      refine forall₂_congr fun c hc => and_iff_left ?_
      rcases h with hnil | ⟨d, hd, hfree, hid⟩
      · rw [hnil] at hc
        cases hc
      · rw [hd, Option.mem_def, List.getElem?_eq_some_iff] at hc
        obtain ⟨hi, rfl⟩ := hc
        have hzero : i = 0 := by simpa using hi
        subst hzero
        exact ⟨hfree, hid⟩

end Step

/-! ### Every run -/

lemma mappingsKept_raceBoot (clock : Word) (mem : Mem) : (Race.boot clock mem).MappingsKept := by
  have hfree : ¬ (boot clock mem).Registered := fun h => h rfl
  constructor
  · change List.Perm (liveMappings (boot clock mem).trace)
      (Race.sessionMapping (boot clock mem) ++ [])
    rw [sessionMapping_of_free hfree]
    exact .refl []
  · exact List.nodup_nil

/-- **Injections of several threads at once**: in whatever order they start and finish and
whatever steps are made in between, no kernel mapping is lost exactly if every call that finishes
is accepted, finds no session and still finds its own id in `s_blockMapId`. Of calls that overlap
only the one that was mapped last can. -/
theorem inject_race_iff (clock : Word) (mem : Mem) (es : List RaceStep)
    (hdoc : Admissible Race.step (fun t e => e.Documented t) (Race.boot clock mem) es) :
    (Always Race.step Race.MappingsKept (Race.boot clock mem) es ↔
        Admissible Race.step (fun t e => e.Clean t) (Race.boot clock mem) es) ∧
      (Always Race.step Race.MappingsKept (Race.boot clock mem) es →
        Admissible Race.step (fun t e => e.FinishesLast t) (Race.boot clock mem) es) := by
  have hkept := mappingsKept_raceBoot clock mem
  have hiff := always_iff_admissible mappingsKept_step hkept hdoc
  refine ⟨hiff, fun halways => ?_⟩
  have hclean := hiff.mp halways
  have hover : (Race.boot clock mem).Overwritten := ⟨nofun, nofun⟩
  have hok : Admissible Race.step (fun t e => (t.MappingsKept ∧ e.Documented t) ∧ e.Clean t)
      (Race.boot clock mem) es :=
    admissible_and.mpr ⟨admissible_and.mpr ⟨halways.admissible, hdoc⟩, hclean⟩
  have hinv : Always Race.step Race.Overwritten (Race.boot clock mem) es :=
    always_of_invariant (fun t e h hok => overwritten_step t e h hok.1.1 hok.1.2) hover hok
  exact (admissible_and.mpr ⟨hinv.admissible, hclean⟩).mono
    fun t e h => finishesLast_of_clean h.1 h.2

/-- **Callers that take turns** lose no mapping exactly if each call that finishes is accepted. -/
theorem inject_in_turn_iff (clock : Word) (mem : Mem) (es : List RaceStep)
    (hdoc : Admissible Race.step (fun t e => e.Documented t) (Race.boot clock mem) es)
    (hturns : Admissible Race.step (fun t e => e.TakesTurns t) (Race.boot clock mem) es) :
    Always Race.step Race.MappingsKept (Race.boot clock mem) es ↔
      Admissible Race.step (fun t e => e.Accepts t) (Race.boot clock mem) es := by
  have halone : (Race.boot clock mem).Alone := .inl rfl
  rw [always_iff_admissible mappingsKept_step (mappingsKept_raceBoot clock mem) hdoc]
  exact admissible_iff_admissible (P := Race.Alone) (fun t e h _ => clean_iff_accepts h)
    (fun t e h hok _ => alone_step t e h hok) halone (admissible_and.mpr ⟨hdoc, hturns⟩)

/-- A process that injects meanwhile. -/
def rivalPid : Pid := ⟨3, by decide⟩

/-- Two processes inject the small image at once; the second call is mapped while the first is in
progress, and both finish. -/
def overlappingInjects : List RaceStep :=
  [.start samplePid 0x81000000 0x40000 acceptingServices,
    .start rivalPid 0x82000000 0x40000
      { acceptingServices with
        sceKernelUserMap := { uid := 0x10002, kernelPage := 0x600000, content := smallImage } },
    .finish 1 acceptingServices, .finish 0 acceptingServices]

theorem inject_race_iff_overlapping :
    (Always Race.step Race.MappingsKept (Race.boot 166 fun _ => 0) overlappingInjects ↔
        Admissible Race.step (fun t e => e.Clean t) (Race.boot 166 fun _ => 0)
          overlappingInjects) ∧
      (Always Race.step Race.MappingsKept (Race.boot 166 fun _ => 0) overlappingInjects →
        Admissible Race.step (fun t e => e.FinishesLast t) (Race.boot 166 fun _ => 0)
          overlappingInjects) :=
  inject_race_iff 166 (fun _ => 0) overlappingInjects
    ⟨fun _ => by decide, fun _ => by decide, trivial, trivial, trivial⟩

/-- The first of them alone. -/
theorem inject_in_turn_iff_first :
    Always Race.step Race.MappingsKept (Race.boot 166 fun _ => 0)
        [.start samplePid 0x81000000 0x40000 acceptingServices, .finish 0 acceptingServices] ↔
      Admissible Race.step (fun t e => e.Accepts t) (Race.boot 166 fun _ => 0)
        [.start samplePid 0x81000000 0x40000 acceptingServices, .finish 0 acceptingServices] :=
  inject_in_turn_iff 166 (fun _ => 0)
    [.start samplePid 0x81000000 0x40000 acceptingServices, .finish 0 acceptingServices]
    ⟨fun _ => by decide, trivial, trivial⟩ ⟨rfl, trivial, trivial⟩

end VVNZRunner
