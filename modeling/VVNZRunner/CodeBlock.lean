import VVNZRunner.ArmMain

/-!
The block of graphics memory that `init` loads the file into and `term` gives back.

* `ClientStep`: `init`, `term`, or a step of the plugin that the sample has no part in.
* `Client.ownSession`, `Client.BlockKept`: the session of the sample, and that exactly its block is
  alive: `s_codeMem` while there is a session, nothing otherwise.
* `code_block_kept_iff`: along a run no block is lost exactly if each `init` that gets a block is
  accepted, none runs out of memory within a session, each `term` removes the kernel mapping and
  nobody else ends the session; the file is closed in any case.
-/

namespace VVNZRunner

namespace ArmSample

open ByteMemory Machine

/-! ### The machine -/

/-- A step of the sample, or one of the plugin. -/
inductive ClientStep where
  | init (codeMemSize : Word) (ans : SystemAnswers) (sv : Services)
  | term (ans : SystemAnswers) (sv : Services)
  | other (e : Step)

namespace Client

/-- The state behind a step. -/
def step (pid : Pid) (t : Client) : ClientStep → Client
  | .init codeMemSize ans sv => (ArmSample.init pid codeMemSize ans sv t).2
  | .term ans sv => (ArmSample.term pid ans sv t).2
  | .other e => (t.call e).2

/-- The sample before `init`, the plugin behind `module_start`. -/
def boot (clock : Word) (mem user : Mem) : Client where
  tracked := Tracked.boot clock mem
  process := ⟨user, []⟩

/-- The session that the process of the sample holds. -/
def ownSession (pid : Pid) (t : Client) : Option Session :=
  t.tracked.session.filter fun s => s.pid = pid

/-- The ids of the blocks of the sample that are alive. -/
def blocks (t : Client) : List Word := liveBlocks t.process.trace

/-- The block at `s_codeMem` is the only one alive. -/
def OneBlock (t : Client) : Prop :=
  t.codeMem ≠ 0 ∧ ∃ uid, t.blocks = [uid] ∧ baseOf t.process.trace uid = some t.codeMem

/-- The blocks alive are those of the own session: one, at `s_codeMem`, while it is open, and none
otherwise. -/
def BlockKept (pid : Pid) (t : Client) : Prop :=
  match t.ownSession pid with
  | some s => s.vaddr = t.codeMem ∧ t.OneBlock
  | none => t.blocks = []

end Client

/-- The process opens and ends its session by `init` and `term` alone. -/
def Step.NotBy (pid : Pid) : Step → Prop
  | .call p (.vnzBridgeInject _ _) _ | .call p .vnzBridgeRestore _ => p ≠ pid
  | .exit p _ | .kill p _ => p ≠ pid
  | _ => True

/-- The system answers as documented: a descriptor is not `0`, a block has a base and what is no
block has none, and the block at an address is found and freed. -/
def ClientStep.Documented (pid : Pid) (t : Client) : ClientStep → Prop
  | .init _ ans _ =>
      ans.sceIoOpen ≠ 0 ∧ (0 < ans.sceKernelAllocMemBlock.toInt ↔ ans.blockBase ≠ 0)
  | .term ans _ =>
      ∀ uid ∈ t.blocks, baseOf t.process.trace uid = some t.codeMem →
        ans.sceKernelFindMemBlockByAddr = uid ∧ 0 ≤ ans.sceKernelFreeMemBlock.toInt
  | .other e => Step.NotBy pid e

/-- The step loses no block: an `init` that gets one is accepted by a plugin without a session, one
that gets none finds no session of its own, a `term` of the own session removes the kernel mapping,
and nobody else ends it. -/
def ClientStep.Clean (pid : Pid) (t : Client) : ClientStep → Prop
  | .init _ ans sv =>
      0 < ans.sceIoOpen.toInt →
        if ans.blockBase ≠ 0 then
          t.tracked.session = none ∧
            InjectAccepted ans.blockBase ans.blockSize (initServices ans sv t) t.tracked.world
        else t.ownSession pid = none
  | .term _ sv => t.ownSession pid ≠ none → sv.sceKernelUserUnmap = sceOk
  | .other e => ∀ s ∈ t.ownSession pid, ¬ EndsSession (some s) e

section Own

variable {pid : Pid} {t t' : Client} {s : Session} {ans : SystemAnswers} {sv : Services}

lemma ownSession_eq_some : t.ownSession pid = some s ↔
    t.tracked.session = some s ∧ s.pid = pid := by
  rw [Client.ownSession, Option.filter_eq_some_iff, decide_eq_true_iff]

lemma ownSession_of_none (h : t.tracked.session = none) : t.ownSession pid = none := by
  rw [Client.ownSession, h]
  rfl

lemma blockKept_of_some (h : t.ownSession pid = some s) :
    t.BlockKept pid ↔ s.vaddr = t.codeMem ∧ t.OneBlock := by
  rw [Client.BlockKept, h]

lemma blockKept_of_none (h : t.ownSession pid = none) : t.BlockKept pid ↔ t.blocks = [] := by
  rw [Client.BlockKept, h]

/-- A step that keeps the session, `s_codeMem` and the blocks keeps the block. -/
lemma BlockKept.congr (hs : t'.ownSession pid = t.ownSession pid) (hmem : t'.codeMem = t.codeMem)
    (hlog : liveBlocks t'.process.trace = liveBlocks t.process.trace)
    (hbase : ∀ uid, baseOf t'.process.trace uid = baseOf t.process.trace uid) :
    t'.BlockKept pid ↔ t.BlockKept pid := by
  rw [Client.BlockKept, Client.BlockKept, hs, Client.OneBlock, Client.OneBlock, Client.blocks,
    Client.blocks, hmem, hlog]
  simp only [hbase]

end Own

/-! ### One step -/

section Init

variable {pid : Pid} {codeMemSize : Word} {ans : SystemAnswers} {sv : Services} {t : Client}

/-- The sample behind the injection of `init`. -/
def injected (pid : Pid) (ans : SystemAnswers) (sv : Services) (t : Client) : Client :=
  (Client.call (.call pid (.vnzBridgeInject ans.blockBase ans.blockSize) (initServices ans sv t))
    { t with codeMem := ans.blockBase, process := loadedProcess ans t }).2

/-- The exits of `init` on a system whose descriptors are not `0`: the file is not opened, there is
no block for it, or it is injected. -/
inductive InitOutcome (pid : Pid) (ans : SystemAnswers) (sv : Services) (t : Client) :
    Client → Prop
  | notOpened (hfd : ans.sceIoOpen.toInt ≤ 0) :
      InitOutcome pid ans sv t
        { t with process := t.process.emit (.sceIoOpen "app0:mep_code.elf" ans.sceIoOpen) }
  | noMemory (hfd : 0 < ans.sceIoOpen.toInt) (hbase : ans.blockBase = 0) :
      InitOutcome pid ans sv t
        { t with
          codeMem := 0
          process := (afterAlloc "app0:mep_code.elf" ans t.process).emit
            (.sceIoClose ans.sceIoOpen) }
  | injected (hfd : 0 < ans.sceIoOpen.toInt) (hbase : ans.blockBase ≠ 0) :
      InitOutcome pid ans sv t (injected pid ans sv t)

/-- Every call of `init` leaves by one of them. -/
theorem init_outcome (pid : Pid) (codeMemSize : Word) (sv : Services) (t : Client)
    (hfd : ans.sceIoOpen ≠ 0) :
    InitOutcome pid ans sv t (init pid codeMemSize ans sv t).2 := by
  have hout := load_outcome "app0:mep_code.elf" ans t.process t.codeMem codeMemSize
  rw [init]
  generalize loadMepElf (some "app0:mep_code.elf") (some t.codeMem) (some codeMemSize) ans
    t.process = r at hout ⊢
  cases hout with
  | notOpened hneg =>
      have herr : ans.sceIoOpen ≠ sceOk := hfd
      dsimp only
      rw [if_pos herr]
      exact .notOpened hneg
  | noMemory hpos hbase =>
      have herr : sceErrorErrnoENOMEM ≠ sceOk := by decide
      dsimp only
      rw [if_pos herr]
      exact .noMemory hpos hbase
  | loaded hpos hbase =>
      dsimp only
      rw [if_neg (not_not.mpr rfl)]
      exact .injected hpos hbase

/-- An injection that is not accepted, or comes during a session, leaves the session as it is. -/
lemma nextSession_inject {w : World} {σ : Option Session} {addr size : Word}
    (h : ¬ (σ = none ∧ InjectAccepted addr size sv w)) :
    nextSession w σ (.call pid (.vnzBridgeInject addr size) sv) = σ := by
  cases σ with
  | some s => rfl
  | none => exact dif_neg fun hacc => h ⟨rfl, hacc⟩

/-- An injection that gets its block keeps it exactly if it is accepted and finds no session. -/
lemma blockKept_injected (h : t.BlockKept pid)
    (halloc : 0 < ans.sceKernelAllocMemBlock.toInt) (hbase : ans.blockBase ≠ 0) :
    (injected pid ans sv t).BlockKept pid ↔
      t.tracked.session = none ∧
        InjectAccepted ans.blockBase ans.blockSize (initServices ans sv t) t.tracked.world := by
  have hblocks : (injected pid ans sv t).blocks = ans.sceKernelAllocMemBlock :: t.blocks := by
    change liveBlocks (loadedProcess ans t).trace = _
    rw [loadedProcess, liveBlocks_afterLoad, liveBlocks_afterAlloc, if_pos halloc]
    rfl
  by_cases hyes : t.tracked.session = none ∧
      InjectAccepted ans.blockBase ans.blockSize (initServices ans sv t) t.tracked.world
  · refine iff_of_true ?_ hyes
    obtain ⟨hnone, hacc⟩ := hyes
    rw [blockKept_of_none (ownSession_of_none hnone)] at h
    rw [h] at hblocks
    have hsession : (injected pid ans sv t).tracked.session = some (openedSession pid ans.blockBase
        ans.blockSize (initServices ans sv t) t.tracked.world hacc) := by
      change nextSession t.tracked.world t.tracked.session _ = _
      rw [hnone]
      exact dif_pos hacc
    have hout : ans.sceKernelGetMemBlockBase = some ans.blockBase := by
      rw [SystemAnswers.blockBase] at hbase ⊢
      generalize ans.sceKernelGetMemBlockBase = out at hbase ⊢
      cases out with
      | none => exact absurd rfl hbase
      | some base => rfl
    refine (blockKept_of_some (ownSession_eq_some.mpr ⟨hsession, rfl⟩)).mpr
      ⟨rfl, hbase, ans.sceKernelAllocMemBlock, hblocks, ?_⟩
    change baseOf (loadedProcess ans t).trace _ = some ans.blockBase
    rw [loadedProcess, baseOf_afterLoad, if_pos rfl, hout]
  · refine iff_of_false (fun hkept => ?_) hyes
    have hown : (injected pid ans sv t).ownSession pid = t.ownSession pid :=
      congrArg (Option.filter fun s : Session => decide (s.pid = pid)) (nextSession_inject hyes)
    rcases hcase : t.ownSession pid with _ | s
    · rw [hcase] at hown
      exact List.cons_ne_nil _ _ (hblocks.symm.trans ((blockKept_of_none hown).mp hkept))
    · rw [hcase] at hown
      obtain ⟨-, -, uid, hone, -⟩ := (blockKept_of_some hcase).mp h
      obtain ⟨-, -, uid', hone', -⟩ := (blockKept_of_some hown).mp hkept
      rw [hone, hone'] at hblocks
      cases hblocks

/-- **`init` keeps the block exactly if it is clean.** -/
lemma blockKept_init (codeMemSize : Word) (h : t.BlockKept pid)
    (hdoc : (ClientStep.init codeMemSize ans sv).Documented pid t) :
    (init pid codeMemSize ans sv t).2.BlockKept pid ↔
      (ClientStep.init codeMemSize ans sv).Clean pid t := by
  obtain ⟨hzero, halloc⟩ := hdoc
  have hout := init_outcome pid codeMemSize sv t hzero
  rw [ClientStep.Clean]
  generalize (init pid codeMemSize ans sv t).2 = t' at hout ⊢
  cases hout with
  | notOpened hfd =>
      exact iff_of_true ((BlockKept.congr rfl rfl rfl fun _ => rfl).mpr h)
        fun hpos => absurd hpos (by omega)
  | noMemory hfd hbase =>
      have huid : ¬ 0 < ans.sceKernelAllocMemBlock.toInt := fun hpos => halloc.mp hpos hbase
      rw [if_neg (not_not.mpr hbase)]
      rcases hown : t.ownSession pid with _ | s
      · refine iff_of_true ?_ fun _ => rfl
        rw [blockKept_of_none hown] at h
        refine (blockKept_of_none ?_).mpr ?_
        · exact hown
        · change liveBlocks (afterAlloc "app0:mep_code.elf" ans t.process).trace = []
          rw [liveBlocks_afterAlloc, if_neg huid]
          exact h
      · refine iff_of_false (fun hkept => ?_) fun hno => by cases hno hfd
        have hone := (blockKept_of_some (s := s) ?_).mp hkept
        · exact hone.2.1 rfl
        · exact hown
  | injected hfd hbase =>
      rw [blockKept_injected h (halloc.mpr hbase) hbase, if_pos hbase]
      exact (imp_iff_right hfd).symm

end Init

section Term

variable {pid : Pid} {ans : SystemAnswers} {sv : Services} {t : Client}

/-- Giving back the only block leaves none, and giving back what is no block changes nothing. -/
lemma blocks_unload (h : t.blocks = [] ∨ t.OneBlock)
    (hdoc : (ClientStep.term ans sv).Documented pid t) :
    liveBlocks (unloadMepElf t.codeMem ans t.process).2.trace = [] := by
  rw [unloadMepElf, freeCdramMemblock]
  rcases h with hnil | ⟨hmem, uid, hone, hbase⟩
  · split_ifs
    · exact hnil
    · change (if 0 ≤ ans.sceKernelFreeMemBlock.toInt then t.blocks.filter _ else t.blocks) = []
      rw [hnil, List.filter_nil, ite_self]
  · obtain ⟨hfind, hfree⟩ := hdoc uid (by rw [hone]; exact List.mem_singleton_self uid) hbase
    rw [if_neg hmem]
    change (if 0 ≤ ans.sceKernelFreeMemBlock.toInt then
      t.blocks.filter (· ≠ ans.sceKernelFindMemBlockByAddr) else t.blocks) = []
    rw [if_pos hfree, hone, hfind]
    simp

/-- The block is given back if the kernel mapping was removed. -/
lemma blocks_term : (term pid ans sv t).2.blocks =
    if (vnzBridgeRestore sv t.tracked.world).1 ≠ sceOk then t.blocks
    else liveBlocks (unloadMepElf t.codeMem ans t.process).2.trace := by
  have hterm : term pid ans sv t =
      if (vnzBridgeRestore sv t.tracked.world).1 ≠ sceOk then
        t.call (.call pid .vnzBridgeRestore sv)
      else
        ((unloadMepElf t.codeMem ans t.process).1,
          { (t.call (.call pid .vnzBridgeRestore sv)).2 with
            process := (unloadMepElf t.codeMem ans t.process).2 }) := rfl
  rw [hterm]
  split_ifs <;> rfl

lemma term_tracked :
    (term pid ans sv t).2.tracked = t.tracked.step (.call pid .vnzBridgeRestore sv) := by
  rw [term, Client.call]
  dsimp only
  split_ifs <;> rfl

/-- Behind `term` no session is open. -/
lemma ownSession_term : (term pid ans sv t).2.ownSession pid = none := by
  refine ownSession_of_none ?_
  have hnone : nextSession t.tracked.world t.tracked.session (.call pid .vnzBridgeRestore sv) =
      none := by
    rcases t.tracked.session with _ | s <;> rfl
  rw [term_tracked]
  exact hnone

/-- **`term` gives the block back exactly if it removes the kernel mapping of its session.** -/
lemma blockKept_term (href : Refines t.tracked.world t.tracked.session) (h : t.BlockKept pid)
    (hdoc : (ClientStep.term ans sv).Documented pid t) :
    (term pid ans sv t).2.BlockKept pid ↔ (ClientStep.term ans sv).Clean pid t := by
  rw [blockKept_of_none ownSession_term, blocks_term, ClientStep.Clean]
  rcases hown : t.ownSession pid with _ | s
  · have hnil : t.blocks = [] := (blockKept_of_none hown).mp h
    refine iff_of_true ?_ fun hne => absurd rfl hne
    rw [blocks_unload (.inl hnil) hdoc, hnil, ite_self]
  · have hone : t.OneBlock := ((blockKept_of_some hown).mp h).2
    have hreg : t.tracked.world.Registered :=
      (href.consistent (ownSession_eq_some.mp hown).1).registered
    rw [vnzBridgeRestore_of_registered hreg, blocks_unload (.inr hone) hdoc]
    by_cases hunmap : sv.sceKernelUserUnmap = sceOk
    · rw [if_neg (not_not.mpr hunmap)]
      exact iff_of_true rfl fun _ => hunmap
    · rw [if_pos hunmap]
      obtain ⟨-, uid, hblocks, -⟩ := hone
      rw [hblocks]
      exact iff_of_false (List.cons_ne_nil uid []) fun hclean => hunmap (hclean nofun)

end Term

section Step

variable {pid : Pid} {t : Client}

/-- Nobody else opens a session of the sample. -/
lemma ownSession_other {e : Step} (hnot : Step.NotBy pid e) (h : t.ownSession pid = none) :
    (t.call e).2.ownSession pid = none := by
  refine Option.eq_none_iff_forall_not_mem.mpr fun s hs => ?_
  obtain ⟨hnext, hpid⟩ := ownSession_eq_some.mp hs
  rcases nextSession_eq_some hnext with hopen | ⟨-, sv, rfl, -⟩
  · rw [ownSession_eq_some.mpr ⟨hopen, hpid⟩] at h
    cases h
  · exact hnot hpid

/-- **A step that the sample has no part in keeps its block exactly if it does not end its
session.** -/
lemma blockKept_other {e : Step} (h : t.BlockKept pid) (hnot : Step.NotBy pid e) :
    (t.call e).2.BlockKept pid ↔ (ClientStep.other e).Clean pid t := by
  rw [ClientStep.Clean]
  rcases hown : t.ownSession pid with _ | s
  · rw [blockKept_of_none hown] at h
    exact iff_of_true ((blockKept_of_none (ownSession_other hnot hown)).mpr h) nofun
  · obtain ⟨hsession, hpid⟩ := ownSession_eq_some.mp hown
    have hcond : (∀ s' ∈ some s, ¬ EndsSession (some s') e) ↔ ¬ EndsSession (some s) e := by
      simp only [Option.mem_some_iff, forall_eq']
    rw [hcond]
    by_cases hends : EndsSession (some s) e
    · refine iff_of_false (fun hkept => ?_) (not_not.mpr hends)
      have hnone : (t.call e).2.tracked.session = none := by
        change nextSession t.tracked.world t.tracked.session e = none
        rw [hsession]
        exact nextSession_of_ends hends
      obtain ⟨-, -, uid, hone, -⟩ := (blockKept_of_some hown).mp h
      have hnil : t.blocks = [] := (blockKept_of_none (ownSession_of_none hnone)).mp hkept
      rw [hone] at hnil
      cases hnil
    · have hstays : (t.call e).2.ownSession pid = some s := by
        refine ownSession_eq_some.mpr ⟨?_, hpid⟩
        change nextSession t.tracked.world t.tracked.session e = some s
        rw [hsession]
        exact nextSession_of_not_ends hends
      exact iff_of_true ((blockKept_of_some hstays).mpr ((blockKept_of_some hown).mp h)) hends

/-- A step keeps the block exactly if it is clean. -/
theorem blockKept_step (t : Client) (e : ClientStep) (h : t.BlockKept pid)
    (hok : Refines t.tracked.world t.tracked.session ∧ e.Documented pid t) :
    (t.step pid e).BlockKept pid ↔ e.Clean pid t := by
  obtain ⟨href, hdoc⟩ := hok
  cases e with
  | init codeMemSize ans sv => exact blockKept_init codeMemSize h hdoc
  | term ans sv => exact blockKept_term href h hdoc
  | other e => exact blockKept_other h hdoc

/-- The statics describe the session behind every step of the sample. -/
lemma refines_clientStep (t : Client) (e : ClientStep)
    (h : Refines t.tracked.world t.tracked.session) :
    Refines (t.step pid e).tracked.world (t.step pid e).tracked.session := by
  cases e with
  | init codeMemSize ans sv =>
      change Refines (init pid codeMemSize ans sv t).2.tracked.world _
      rw [Client.step, init]
      dsimp only
      split_ifs
      · exact h
      · exact refines_step _ h
  | term ans sv =>
      rw [Client.step, term_tracked]
      exact refines_step _ h
  | other e => exact refines_step e h

/-- No step leaves a file open. -/
lemma openFiles_step (t : Client) (e : ClientStep) :
    openFiles (t.step pid e).process.trace = openFiles t.process.trace := by
  cases e with
  | init codeMemSize ans sv =>
      have hload : openFiles (loadMepElf (some "app0:mep_code.elf") (some t.codeMem)
          (some codeMemSize) ans t.process).2.2.2.trace = openFiles t.process.trace :=
        openFiles_loadMepElf _ _ _
      rw [Client.step, init]
      dsimp only
      split_ifs
      · exact hload
      · exact hload
  | term ans sv =>
      rw [Client.step, term]
      dsimp only
      split_ifs
      · rfl
      · exact openFiles_unloadMepElf _ _ _
  | other e => rfl

end Step

/-! ### Every run -/

/-- **The block of `init` is kept until `term`**: along every run of the two functions, whatever
others do in between, exactly the block of the session of the sample is alive if and only if every
step is clean. Every file is closed in any case. -/
theorem code_block_kept_iff (clock : Word) (mem user : Mem) (pid : Pid) (es : List ClientStep)
    (hdoc : Admissible (Client.step pid) (fun t e => e.Documented pid t)
      (Client.boot clock mem user) es) :
    (Always (Client.step pid) (Client.BlockKept pid) (Client.boot clock mem user) es ↔
        Admissible (Client.step pid) (fun t e => e.Clean pid t) (Client.boot clock mem user) es) ∧
      Always (Client.step pid) (fun t => openFiles t.process.trace = [])
        (Client.boot clock mem user) es := by
  have hall : Admissible (Client.step pid) (fun _ _ => True) (Client.boot clock mem user) es :=
    admissible_true _ _
  have hfree : Refines (Client.boot clock mem user).tracked.world
      (Client.boot clock mem user).tracked.session := boot_not_registered clock mem
  have href : Always (Client.step pid) (fun t => Refines t.tracked.world t.tracked.session)
      (Client.boot clock mem user) es :=
    always_of_invariant (fun t e h _ => refines_clientStep t e h) hfree hall
  have hkept : (Client.boot clock mem user).BlockKept pid :=
    (blockKept_of_none (ownSession_of_none rfl)).mpr rfl
  refine ⟨always_iff_admissible blockKept_step hkept (admissible_and.mpr ⟨href.admissible, hdoc⟩),
    ?_⟩
  exact always_of_invariant (fun t e h _ => (openFiles_step t e).trans h) rfl hall

/-- A session in which the process is stopped for a while, and the answers to `term`. -/
def sampleLifetime : List ClientStep :=
  [.init 0 servingAnswers acceptingServices,
    .other (.stop samplePid 0x1000),
    .term { sceKernelFindMemBlockByAddr := 0x40010003 } {}]

theorem code_block_kept_iff_sampleLifetime :
    (Always (Client.step samplePid) (Client.BlockKept samplePid)
          (Client.boot 166 (fun _ => 0) fun _ => 0) sampleLifetime ↔
        Admissible (Client.step samplePid) (fun t e => e.Clean samplePid t)
          (Client.boot 166 (fun _ => 0) fun _ => 0) sampleLifetime) ∧
      Always (Client.step samplePid) (fun t => openFiles t.process.trace = [])
        (Client.boot 166 (fun _ => 0) fun _ => 0) sampleLifetime := by
  refine code_block_kept_iff 166 (fun _ => 0) (fun _ => 0) samplePid sampleLifetime
    ⟨⟨by decide, by decide⟩, trivial, fun uid huid _ => ?_, trivial⟩
  have hblocks : liveBlocks (run (Client.step samplePid)
      (Client.boot 166 (fun _ => 0) fun _ => 0)
      [.init 0 servingAnswers acceptingServices,
        .other (.stop samplePid 0x1000)]).process.trace =
      [0x40010003] := by decide
  have huid' : uid ∈ [0x40010003#32] := hblocks ▸ huid
  rw [List.mem_singleton] at huid'
  exact ⟨huid'.symm, by decide⟩

end ArmSample

end VVNZRunner
