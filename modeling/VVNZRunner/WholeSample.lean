import VVNZRunner.ArmMain
import VVNZRunner.RenderLoop

/-!
`main` of `arm_sample_hello_draw`: the file, the frame buffers and the loop.

* `mapFrame`, `renderArg`, `main`: what happens up to the loop of `render`, with steps of others in
  between.
* `GoesWell`: the file is an image that is taken, and the frame buffers are mapped.
* `entered_main`: then the loop is entered with the session of that file, and with `arg` asking for
  the first frame buffer.
* `main_shows`: each round of the loop shows the picture of its place.
-/

namespace VVNZRunner

namespace ArmSample

open ByteMemory Machine
open HelloDraw (Setup Sample LoopStep Round State RoundShows SetUp Entered Allowed fbBytes
  picture spotX spotY)

/-! ### The functions -/

/-- A turn of the loop of `main` that sets up the frame buffers. The array `vnzMem` lies at
`pVnzMem`. -/
def mapFrame (pid : Pid) (pVnzMem : Word) (i : Fin 2) (ans : SystemAnswers) (sv : Services)
    (t : Client) : Client :=
  let (mem, process) := allocCdramMemblock fbBytes ans t.process
  let e : Step :=
    .call pid (.vnzBridgeMapMemory mem fbBytes (pVnzMem + 4 * BitVec.ofNat 32 i) 1) sv
  { t with
    tracked := t.tracked.step e
    process := { process with user := userMemory process.user (newEvents t.tracked.world e) }
    fbMemory := Function.update t.fbMemory i mem }

/-- The block `arg` that `render` sets up. -/
def renderArg (fb1 fb2 : Word) : VnzRenderArg where
  cmd := vnzCmdRender
  fbidx := 0
  fbmem
    | 0 => fb1
    | 1 => fb2
  ctrl := fun _ => ⟨0, 0, 0, 0, 0, 0, fun _ => 0⟩

/-- `render` up to its first call. -/
def render (p : Setup) (core : State) (fb1 fb2 : Word) (t : Client) : Sample where
  tracked := t.tracked
  user := t.process.user.write p.pArg (renderArg fb1 fb2).bytes
  core := core

/-- Steps that others make meanwhile. -/
def Client.meanwhile (es : List Step) (t : Client) : Client :=
  { t with tracked := run Tracked.step t.tracked es }

/-- What `main` meets on its way to the loop: the answers to `init` and for each frame buffer, and
the steps of others behind `init` and behind each turn. -/
structure Surroundings where
  codeMemSize : Word
  load : SystemAnswers
  inject : Services
  frame : Fin 2 → SystemAnswers
  mapping : Fin 2 → Services
  behindInit : List Step
  behindFrame : Fin 2 → List Step

/-- A turn of the loop with what comes behind it. -/
def frameTurn (pid : Pid) (pVnzMem : Word) (d : Surroundings) (t : Client) (i : Fin 2) : Client :=
  (mapFrame pid pVnzMem i (d.frame i) (d.mapping i) t).meanwhile (d.behindFrame i)

/-- `main` up to its call of `render`; what `init` returns is not looked at. -/
def setUpMain (pid : Pid) (pVnzMem : Word) (d : Surroundings) (t : Client) : Client :=
  (List.finRange 2).foldl (frameTurn pid pVnzMem d)
    ((init pid d.codeMemSize d.load d.inject t).2.meanwhile d.behindInit)

/-- `main` up to the loop of `render`. -/
def main (p : Setup) (pVnzMem : Word) (core : State) (d : Surroundings) (t : Client) : Sample :=
  let t := setUpMain p.pid pVnzMem d t
  render p core (readWord t.process.user pVnzMem) (readWord t.process.user (pVnzMem + 4)) t

/-! ### Up to the loop -/

section Prologue

variable (p : Setup) (pVnzMem : Word) (d : Surroundings) (t : Client)

/-- The injection of `init`. -/
def injectStep (file : List Byte) : Step :=
  .call p.pid (.vnzBridgeInject d.load.blockBase (blockFor file)) (initServices d.load d.inject t)

/-- The mapping of a frame buffer. -/
def mapStep (pid : Pid) (pVnzMem : Word) (i : Fin 2) (ans : SystemAnswers) (sv : Services) : Step :=
  .call pid (.vnzBridgeMapMemory ans.blockBase fbBytes (pVnzMem + 4 * BitVec.ofNat 32 i) 1) sv

/-- The steps of the plugin up to the loop. -/
def prologue (file : List Byte) : List Step :=
  injectStep p d t file :: (d.behindInit ++ (List.finRange 2).flatMap fun i =>
    mapStep p.pid pVnzMem i (d.frame i) (d.mapping i) :: d.behindFrame i)

/-- The file is an image that is taken and fits, Venezia maps the frame buffers at `fb`, and nobody
ends the session or writes over the header of the comm heap meanwhile. -/
structure GoesWell (file : List Byte) (fb : Fin 2 → Word) : Prop where
  serves : Serves d.load file
  grants : Grants d.inject (blockFor file) t.tracked.world
  table : TableInside (fileMem (loadedPart file)) 0 (blockFor file)
  image : ElfAccepted (loadedPart file)
  fits : (loadedPart file).length ≤ 2 ^ 32 - 2 ^ 18
  mapped : ∀ i, (d.mapping i).sceAvcodecMapMemoryToVenezia.out = some (fb i)
  copied : ∀ i, 0 ≤ (d.mapping i).sceKernelCopyToUser.toInt
  others : Admissible Tracked.step (fun t e => ¬ EndsSession t.session e ∧ SparesHeader t e)
    t.tracked (prologue p pVnzMem d t file)

variable {p pVnzMem d t} {core : State} {file : List Byte} {fb : Fin 2 → Word}

/-- A turn of the loop maps its buffer and stores where Venezia sees it. -/
lemma mapFrame_user (pid : Pid) (pVnzMem : Word) (i : Fin 2) (ans : SystemAnswers)
    {sv : Services} {v : Word}
    (hmapped : sv.sceAvcodecMapMemoryToVenezia.out = some v)
    (hcopied : 0 ≤ sv.sceKernelCopyToUser.toInt) (t : Client) :
    (mapFrame pid pVnzMem i ans sv t).process.user =
      t.process.user.write (pVnzMem + 4 * BitVec.ofNat 32 i) (wordBytes v) := by
  have htrace : (step t.tracked.world (mapStep pid pVnzMem i ans sv)).trace =
      [.sceKernelCopyToUser (pVnzMem + 4 * BitVec.ofNat 32 i) .local (wordBytes v)
          sv.sceKernelCopyToUser,
        .sceAvcodecMapMemoryToVenezia ans.blockBase fbBytes (mapPerm 1) 2 1
          sv.sceAvcodecMapMemoryToVenezia] ++ t.tracked.world.trace := by
    have hmap := vnzBridgeMapMemory_eq ans.blockBase fbBytes (pVnzMem + 4 * BitVec.ofNat 32 i) 1 sv
      t.tracked.world
    rw [hmapped] at hmap
    exact congrArg World.trace hmap
  change userMemory t.process.user
    (newEvents t.tracked.world (mapStep pid pVnzMem i ans sv)) = _
  rw [newEvents_eq htrace, userMemory, Event.copyOut, if_neg (not_lt.mpr hcopied)]
  rfl

/-- The steps of the plugin in the turns. -/
lemma frameTurns_tracked (pid : Pid) (pVnzMem : Word) (d : Surroundings) (is : List (Fin 2))
    (t : Client) :
    (is.foldl (frameTurn pid pVnzMem d) t).tracked =
      run Tracked.step t.tracked (is.flatMap fun i =>
        mapStep pid pVnzMem i (d.frame i) (d.mapping i) :: d.behindFrame i) := by
  induction is generalizing t with
  | nil => rfl
  | cons i is ih =>
      rw [List.foldl_cons, ih, List.flatMap_cons, run_append]
      rfl

/-- The steps of the plugin up to the loop. -/
lemma main_tracked (h : Serves d.load file) :
    (main p pVnzMem core d t).tracked =
      run Tracked.step t.tracked (prologue p pVnzMem d t file) := by
  have hinit : (init p.pid d.codeMemSize d.load d.inject t).2.tracked =
      t.tracked.step (injectStep p d t file) := by
    rw [init_of_serves h]
    rfl
  have hturns := frameTurns_tracked p.pid pVnzMem d (List.finRange 2)
    ((init p.pid d.codeMemSize d.load d.inject t).2.meanwhile d.behindInit)
  refine hturns.trans ?_
  rw [prologue, run_cons, run_append, ← hinit]
  rfl

/-- The words that the two turns store are found behind them. -/
lemma vnzMem_words (m : Mem) (u v : Word) :
    readWord ((m.write (pVnzMem + 4 * BitVec.ofNat 32 0) (wordBytes u)).write
        (pVnzMem + 4 * BitVec.ofNat 32 1) (wordBytes v)) pVnzMem = u ∧
      readWord ((m.write (pVnzMem + 4 * BitVec.ofNat 32 0) (wordBytes u)).write
        (pVnzMem + 4 * BitVec.ofNat 32 1) (wordBytes v)) (pVnzMem + 4) = v := by
  have hfirst : pVnzMem + 4 * BitVec.ofNat 32 0 = pVnzMem := by simp
  have hsecond : pVnzMem + 4 * BitVec.ofNat 32 1 = pVnzMem + 4 := by simp
  rw [hfirst, hsecond]
  refine ⟨readWord_of_read u ?_, readWord_of_read v ?_⟩
  · have hapart : ∀ i < 4, ¬ InRange (pVnzMem + 4) (wordBytes v).length
        (pVnzMem + BitVec.ofNat 32 i) := by
      intro i hi hin
      have hrange := (inRange_add (b := pVnzMem) (o := 4) (by simp)).mp hin
      rw [offset_toNat (by omega)] at hrange
      omega
    rw [read_write_disjoint hapart]
    exact read_write_self (by simp)
  · exact read_write_self (by simp)

/-- When `render` is called `vnzMem` holds where Venezia sees the frame buffers. -/
lemma vnzMem_setUpMain (pid : Pid) (pVnzMem : Word) (t : Client)
    (hmapped : ∀ i, (d.mapping i).sceAvcodecMapMemoryToVenezia.out = some (fb i))
    (hcopied : ∀ i, 0 ≤ (d.mapping i).sceKernelCopyToUser.toInt) :
    readWord (setUpMain pid pVnzMem d t).process.user pVnzMem = fb 0 ∧
      readWord (setUpMain pid pVnzMem d t).process.user (pVnzMem + 4) = fb 1 := by
  have hturn : ∀ i t, (frameTurn pid pVnzMem d t i).process.user =
      t.process.user.write (pVnzMem + 4 * BitVec.ofNat 32 i) (wordBytes (fb i)) :=
    fun i t => mapFrame_user pid pVnzMem i (d.frame i) (hmapped i) (hcopied i) t
  have hboth : setUpMain pid pVnzMem d t = frameTurn pid pVnzMem d (frameTurn pid pVnzMem d
      ((init pid d.codeMemSize d.load d.inject t).2.meanwhile d.behindInit) 0) 1 := rfl
  rw [hboth, hturn, hturn]
  exact vnzMem_words _ _ _

/-- The block `arg` that the loop is entered with. -/
lemma main_block (h : GoesWell p pVnzMem d t file fb) :
    (main p pVnzMem core d t).user.read p.pArg sizeofRenderArg =
      (renderArg (fb 0) (fb 1)).bytes := by
  obtain ⟨hfirst, hsecond⟩ := vnzMem_setUpMain p.pid pVnzMem t h.mapped h.copied
  have hlen : (renderArg (fb 0) (fb 1)).bytes.length = sizeofRenderArg :=
    VnzRenderArg.bytes_length _
  rw [main, hfirst, hsecond, ← hlen]
  exact read_write_self (by rw [hlen]; decide)

/-- A session that nobody ends stays open. -/
lemma session_stays {s : Session} {t : Tracked} {es : List Step} (hs : t.session = some s)
    (hok : Admissible Tracked.step (fun t e => ¬ EndsSession t.session e) t es) :
    (run Tracked.step t es).session = some s := by
  have hstep : ∀ (t : Tracked) (e : Step), t.session = some s → ¬ EndsSession t.session e →
      (t.step e).session = some s := by
    intro t e hs hends
    change nextSession t.world t.session e = some s
    rw [hs] at hends ⊢
    exact nextSession_of_not_ends hends
  exact run_invariant hstep hs hok

/-- The session of the file is open when the loop is entered. -/
lemma main_session (core : State) (h : GoesWell p pVnzMem d t file fb)
    (hnone : t.tracked.session = none) :
    ∃ s, (main p pVnzMem core d t).tracked.session = some s := by
  have hacc := (injectAccepted_iff h.serves h.grants h.table t).mpr ⟨h.image, h.fits⟩
  have hopen : (t.tracked.step (injectStep p d t file)).session =
      some (openedSession p.pid d.load.blockBase (blockFor file)
        (initServices d.load d.inject t) t.tracked.world hacc) := by
    change nextSession t.tracked.world t.tracked.session _ = _
    rw [hnone]
    exact dif_pos hacc
  have hstays : Admissible Tracked.step (fun t e => ¬ EndsSession t.session e)
      t.tracked (prologue p pVnzMem d t file) := (admissible_and.mp h.others).1
  have hrun : run Tracked.step t.tracked (prologue p pVnzMem d t file) =
      run Tracked.step (t.tracked.step (injectStep p d t file))
        (prologue p pVnzMem d t file).tail := rfl
  rw [main_tracked h.serves, hrun]
  exact ⟨_, session_stays hopen hstays.2⟩

/-- **The loop is entered with a session and with the block that asks for the first buffer.** -/
theorem entered_main {clock : Word} {mem : Mem} {es₀ : List Step}
    (h : GoesWell p pVnzMem d t file fb)
    (ht : t.tracked = run Tracked.step (Tracked.boot clock mem) es₀)
    (hspares : Admissible Tracked.step SparesHeader (Tracked.boot clock mem) es₀)
    (hnone : t.tracked.session = none) (hx : core.fontX = 16) (hy : core.fontY = 16) :
    ∃ s, Entered p (renderArg (fb 0) (fb 1)) s clock mem
      (es₀ ++ prologue p pVnzMem d t file) (main p pVnzMem core d t) := by
  obtain ⟨s, hs⟩ := main_session core h hnone
  have hprologue : Admissible Tracked.step SparesHeader t.tracked (prologue p pVnzMem d t file) :=
    (admissible_and.mp h.others).2
  refine ⟨s, ?_, ?_, hs, main_block h, hx, hy⟩
  · rw [main_tracked h.serves, run_append, ht]
  · rw [ht] at hprologue
    exact admissible_append.mpr ⟨hspares, hprologue⟩

end Prologue

/-- Frame buffers that Venezia sees at these addresses. -/
def sampleFrames : Fin 2 → Word := fun i => 0x20100000 + 0x200000 * BitVec.ofNat 32 i

/-- The small image is served and the frame buffers are mapped; the clock is read in between. -/
def sampleSurroundings : Surroundings where
  codeMemSize := 0
  load := servingAnswers
  inject := acceptingServices
  frame := fun i =>
    { sceKernelAllocMemBlock := 0x40010005 + BitVec.ofNat 32 i
      sceKernelGetMemBlockBase := some (0x82000000 + 0x200000 * BitVec.ofNat 32 i) }
  mapping := fun i => { sceAvcodecMapMemoryToVenezia := { ret := 0, out := some (sampleFrames i) } }
  behindInit := [.call samplePid .vnzBridgeGetVeneziaExecClockFrequency {}]
  behindFrame := fun _ => []

lemma goesWell_sample : GoesWell HelloDraw.sampleSetup 0x81200000 sampleSurroundings sampleClient
    sampleFile sampleFrames where
  serves := serves_sampleFile
  grants := grants_sampleFile
  table := tableInside_sampleFile
  image := by decide
  fits := by decide
  mapped := fun _ => rfl
  copied := fun _ => (by decide : 0 ≤ (0 : Word).toInt)
  others := ⟨⟨id, trivial⟩, ⟨id, trivial⟩, ⟨id, trivial⟩, ⟨id, trivial⟩, trivial⟩

lemma setUp_sampleFrames : SetUp HelloDraw.sampleSetup
    (renderArg (sampleFrames 0) (sampleFrames 1)) (sampleFrames 0) where
  documented := HelloDraw.setUp_sample.documented
  pArg := HelloDraw.setUp_sample.pArg
  opensPublic := HelloDraw.setUp_sample.opensPublic
  opensPrivate :=
    ⟨HelloDraw.setUp_sample.opensPrivate.ne_null, HelloDraw.setUp_sample.opensPrivate.apart⟩
  cmd := rfl
  selected := ⟨0, rfl, rfl⟩
  buffer := by decide

end ArmSample

end VVNZRunner
