import VVNZRunner.CallBlock
import VVNZRunner.CallRegion
import VVNZRunner.HelloDraw
import VVNZRunner.UnmapMemory

/-!
The loop `render` of `arm_sample_hello_draw` against the plugin and the program on Venezia.

* `Setup`, `Sample`, `LoopStep`: the routines both sides use, the state of the plugin, of the
  caller's memory and of the program, and a round of the loop or a step of somebody else.
* `handedView`: what `_start` hands to `main`, which the state behind a round is read off.
* `spot`: the place of the text, from the buttons of the rounds that ran.
* `render_loop_shows`: along every run each round shows the picture of its place, whatever
  other processes do in between.
-/

namespace VVNZRunner

open ByteMemory Machine

/-- What `_start` hands to `main`, which it calls once the view is open. -/
def handedView (vnzMemoryOpenPublic : VnzMemory → Word) (arg : SceVeneziaThunkArg)
    (z : Venezia) : Option MainView :=
  (mainPointer vnzMemoryOpenPublic arg).map fun pUserArg =>
    (entered vnzMemoryOpenPublic arg z).mainView arg.pVThreadProcessingResource pUserArg
      arg.userArg3

/-- `_start` returns what `main` makes of that view. -/
lemma start_ret_eq (vnzMemoryOpenPublic : VnzMemory → Word) (arg : SceVeneziaThunkArg)
    (z : Venezia) (main : VeneziaMain) :
    (start vnzMemoryOpenPublic main arg z).1 =
      ((handedView vnzMemoryOpenPublic arg z).map fun v => (main.run v).1).getD
        sceErrorErrnoEINVAL := by
  rw [start_eq, handedView]
  cases mainPointer vnzMemoryOpenPublic arg <;> rfl

namespace HelloDraw

/-! ### The two sides as one system -/

/-- What stays the same: the routines and the font of the program, the core around the block,
`vnzMemoryOpenPublic`, the process of the sample and the address of its local `arg`. -/
structure Setup where
  routines : Routines
  font : Font
  idle : Venezia
  vnzMemoryOpenPublic : VnzMemory → Word
  pid : Pid
  pArg : Word

/-- The plugin with its session, the caller's memory and the program. -/
structure Sample where
  tracked : Tracked
  user : Mem
  core : State

/-- A round of the loop: what `sceCtrlPeekBufferPositive` stores, and the answers of the services
to `vnzBridgeExec`. -/
structure Round where
  ctrl : SceCtrlData
  sv : Services

/-- A round, or a step of the plugin that the sample has no part in. -/
inductive LoopStep where
  | round (rd : Round)
  | other (e : Step)

section Model

variable (p : Setup) (t : Sample) (rd : Round)

/-- The caller's memory when the round makes its call: `arg.ctrl[0]` is new. -/
def peeked : Mem := t.user.write (p.pArg + 16) rd.ctrl.bytes

/-- The answers to the call: the bytes copied in are the caller's, and the RPC runs the program
over the block of the session. -/
def roundServices : Services :=
  { rd.sv with
    sceKernelCopyFromUser := { ret := 0, bytes := (peeked p t rd).read p.pArg sizeofRenderArg }
    sceVeneziaRpcCallGenericThunk :=
      match t.tracked.session with
      | none => rd.sv.sceVeneziaRpcCallGenericThunk
      | some s => crt0Rpc s p.idle p.vnzMemoryOpenPublic (program p.routines p.font t.core) }

/-- `vnzBridgeExec(&arg, sizeof(VnzRenderArg))`. -/
def roundCall : Step :=
  .call p.pid (.vnzBridgeExec p.pArg (BitVec.ofNat 32 sizeofRenderArg)) (roundServices p t rd)

/-- The program behind the call: as before if the call does not reach `main`. -/
def coreAfter : State :=
  match t.tracked.session, execStart p.pArg (BitVec.ofNat 32 sizeofRenderArg) true
      (roundServices p t rd) t.tracked.world with
  | some s, (.ok arg, w) =>
      match handedView p.vnzMemoryOpenPublic arg
          { p.idle with physical := s.block.view w.mem p.idle.physical } with
      | some v => (served p.routines p.font v t.core).2
      | none => t.core
  | _, _ => t.core

/-- What the call of a round returns. -/
def roundRet : Word := ret t.tracked.world (roundCall p t rd)

/-- The state behind a step. A round ends with the bytes that the call copies out. -/
def Sample.step : LoopStep → Sample
  | .round rd =>
      { tracked := t.tracked.step (roundCall p t rd)
        user := userMemory (peeked p t rd) (newEvents t.tracked.world (roundCall p t rd))
        core := coreAfter p t rd }
  | .other e => { t with tracked := t.tracked.step e }

end Model

/-- The round gets the suspend lock and a V-thread. -/
def Round.Runs (p : Setup) (rd : Round) : Prop :=
  0 ≤ rd.sv.sceVeneziaLockProcessSuspend.toInt ∧
    p.routines.vnzVThreadCreateContext 1 rd.sv.sceVeneziaGetVThreadProcessingResource ≠ 0

instance (p : Setup) (rd : Round) : Decidable (rd.Runs p) :=
  inferInstanceAs (Decidable (_ ∧ _))

/-- The sample's block can be written, the text stays on the screen, and others neither end the
session, execute anything nor write over the header of the comm heap. -/
def Allowed (p : Setup) (t : Sample) : LoopStep → Prop
  | .round rd =>
      0 ≤ rd.sv.sceKernelCopyToUser.toInt ∧
        (rd.Runs p → OnScreen (moveX rd.ctrl.buttons t.core.fontX)
          (moveY rd.ctrl.buttons t.core.fontY))
  | .other e =>
      ¬ EndsSession t.tracked.session e ∧ SparesHeader t.tracked e ∧
        ∀ pUserArg userArgSize useCoreSuspend sv,
          ¬ e.IsExec pUserArg userArgSize useCoreSuspend sv

/-! ### The place of the text -/

/-- The step is a round that runs with these buttons pressed. -/
def LoopStep.Presses (p : Setup) (mask : Word) : LoopStep → Prop
  | .round rd => rd.Runs p ∧ Pressed rd.ctrl.buttons mask
  | .other _ => False

instance (p : Setup) (mask : Word) : DecidablePred (LoopStep.Presses p mask)
  | .round _ => inferInstanceAs (Decidable (_ ∧ _))
  | .other _ => inferInstanceAs (Decidable False)

/-- How many rounds ran with these buttons pressed. -/
def presses (p : Setup) (mask : Word) (es : List LoopStep) : Word :=
  BitVec.ofNat 32 (es.countP fun e => e.Presses p mask)

/-- The column and the line of the text: from `(16, 16)` on, one pixel for each round that ran
with a direction pressed. -/
def spotX (p : Setup) (es : List LoopStep) : Word :=
  16 + presses p sceCtrlRight es - presses p sceCtrlLeft es

def spotY (p : Setup) (es : List LoopStep) : Word :=
  16 + presses p sceCtrlDown es - presses p sceCtrlUp es

@[simp] lemma presses_nil (p : Setup) (mask : Word) : presses p mask [] = 0 := rfl

lemma presses_append (p : Setup) (mask : Word) (es : List LoopStep) (e : LoopStep) :
    presses p mask (es ++ [e]) = presses p mask es + if e.Presses p mask then 1 else 0 := by
  rw [presses, presses, List.countP_append, BitVec.ofNat_add, List.countP_singleton]
  by_cases h : e.Presses p mask <;> simp [h]

section Spot

variable {p : Setup} {rd : Round}

/-- A round that runs moves the text by its buttons. -/
lemma spot_runs (es : List LoopStep) (h : rd.Runs p) :
    spotX p (es ++ [.round rd]) = moveX rd.ctrl.buttons (spotX p es) ∧
      spotY p (es ++ [.round rd]) = moveY rd.ctrl.buttons (spotY p es) := by
  have hpress : ∀ mask, (LoopStep.round rd).Presses p mask ↔ Pressed rd.ctrl.buttons mask :=
    fun _ => and_iff_right h
  constructor
  · simp only [spotX, presses_append, hpress, moveX]
    split_ifs <;> grind
  · simp only [spotY, presses_append, hpress, moveY]
    split_ifs <;> grind

/-- Any other step leaves it where it is. -/
lemma spot_stays (es : List LoopStep) {e : LoopStep} (h : ∀ mask, ¬ e.Presses p mask) :
    spotX p (es ++ [e]) = spotX p es ∧ spotY p (es ++ [e]) = spotY p es := by
  constructor
  · rw [spotX, spotX, presses_append, presses_append, if_neg (h _), if_neg (h _)]
    simp
  · rw [spotY, spotY, presses_append, presses_append, if_neg (h _), if_neg (h _)]
    simp

end Spot

/-! ### One round -/

/-- The pad data lies in the block. -/
lemma peeked_bytes {p : Setup} {t : Sample} (rd : Round) {arg : VnzRenderArg}
    (h : t.user.read p.pArg sizeofRenderArg = arg.bytes) :
    (peeked p t rd).read p.pArg sizeofRenderArg = (arg.withCtrl rd.ctrl).bytes := by
  have hparts : ∀ a : VnzRenderArg, a.bytes = (wordBytes a.cmd ++ (wordBytes a.fbidx ++
      (wordBytes (a.fbmem 0) ++ wordBytes (a.fbmem 1)))) ++ ((a.ctrl 0).bytes ++
        (a.ctrl 1).bytes) := by
    intro a
    simp [VnzRenderArg.bytes]
  rw [hparts] at h
  have hread := read_write_part rd.ctrl.bytes (by decide) h (by simp)
  rw [hparts, arg.withCtrl_fst, arg.withCtrl_snd]
  exact hread

section Handed

variable {w : World} {s : Session} {pUserArg n : Word} {useCoreSuspend : Bool} {sv : Services}
  {user : Mem} {vnzMemoryOpenPublic : VnzMemory → Word}

/-- What an execution hands to `main`. -/
lemma handedView_exec (h : Consistent w s) (hheader : HeaderInMemory w.mem s) (harg : pUserArg ≠ 0)
    (hpos : 1 ≤ n.toNat) (hle : n.toNat ≤ 500)
    (hin : sv.sceKernelCopyFromUser.bytes = user.read pUserArg n.toNat) (idle : Venezia)
    (hopen : vnzMemoryOpenPublic (vnzMemoryCreate (vramBase + 256) (12 + n)) ≠ 0) :
    handedView vnzMemoryOpenPublic (execThunkArg pUserArg n sv w)
        { idle with
          physical := s.block.view (afterCall pUserArg n useCoreSuspend sv w).mem idle.physical } =
      some (execView vnzMemoryOpenPublic s pUserArg n sv w (user.read pUserArg n.toNat)) := by
  have hne : n ≠ 0 := by
    intro h0
    rw [h0] at hpos
    exact absurd hpos (by decide)
  have hlen : (user.read pUserArg n.toNat).length = n.toNat := read_length _ _ _
  have hmem : (afterCall pUserArg n useCoreSuspend sv w).mem =
      w.mem.write (s.at 268) (user.read pUserArg n.toNat) := afterRequest_args h harg hin
  have hcomm : (execThunkArg pUserArg n sv w).userArg4 = vramBase + BitVec.ofNat 32 256 :=
    h.commHeapPaddr
  have hpointer : mainPointer vnzMemoryOpenPublic (execThunkArg pUserArg n sv w) =
      some (vnzMemoryOpenPublic (argMem (execThunkArg pUserArg n sv w)) + BitVec.ofNat 32 12) := by
    have hargs : (execThunkArg pUserArg n sv w).userArg3 ≠ 0 := hne
    rw [mainPointer, argMem_execThunkArg h, if_neg hopen, if_pos hargs]
    rfl
  have hhead : (s.block.view (w.mem.write (s.at 268) (user.read pUserArg n.toNat))
      idle.physical).read (execThunkArg pUserArg n sv w).userArg4 12 =
        wordBytes vramBase ++ wordBytes s.entry ++ wordBytes s.size := by
    rw [hcomm, Session.read_block (by omega)]
    exact hheader.write (hlen.trans_le hle)
  have hargs : (w.mem.write (s.at 268) (user.read pUserArg n.toNat)).read (s.at 268) n.toNat =
      user.read pUserArg n.toNat := by
    rw [read_write_take hlen.ge (by omega), List.take_of_length_le hlen.le]
  have hview : (entered vnzMemoryOpenPublic (execThunkArg pUserArg n sv w)
      { idle with physical := s.block.view (w.mem.write (s.at 268)
          (user.read pUserArg n.toNat)) idle.physical }).mainView
        (execThunkArg pUserArg n sv w).pVThreadProcessingResource
        (vnzMemoryOpenPublic (argMem (execThunkArg pUserArg n sv w)) + BitVec.ofNat 32 12) n =
      execView vnzMemoryOpenPublic s pUserArg n sv w (user.read pUserArg n.toNat) := by
    refine (entered_view (by change n.toNat + 12 < 2 ^ 32; omega) hhead).trans ?_
    rw [userArg4_add hcomm, Session.read_block (by change 268 + n.toNat ≤ 768; omega)]
    exact congrArg (startView vnzMemoryOpenPublic _ vramBase s.entry s.size) hargs
  rw [handedView, hpointer, hmem]
  exact congrArg some hview

end Handed

/-- What the rounds have in common: the routines are as documented, the block `arg` asks for
frames in `fb`, and the memory that both `_start` and the program open is there. -/
structure SetUp (p : Setup) (arg : VnzRenderArg) (fb : Word) : Prop where
  documented : p.routines.Documented
  pArg : p.pArg ≠ 0
  opensPublic : OpensPublic p.vnzMemoryOpenPublic
    (vnzMemoryCreate (vramBase + 256) (12 + BitVec.ofNat 32 sizeofRenderArg))
  opensPrivate : OpensPrivate p.routines fb (p.vnzMemoryOpenPublic
    (vnzMemoryCreate (vramBase + 256) (12 + BitVec.ofNat 32 sizeofRenderArg)) + 12)
  cmd : arg.cmd = vnzCmdRender
  selected : ∃ i : Fin 2, arg.fbidx = BitVec.ofNat 32 i ∧ arg.fbmem i = fb
  buffer : fb ≠ 0

/-- What is kept from round to round: the session, the header of its comm heap, and the caller's
block up to the pad data. -/
structure Running (p : Setup) (arg : VnzRenderArg) (s : Session) (t : Sample) : Prop where
  pArg_ne : p.pArg ≠ 0
  session : t.tracked.session = some s
  consistent : Consistent t.tracked.world s
  header : HeaderInMemory t.tracked.world.mem s
  block : ∃ d, t.user.read p.pArg sizeofRenderArg = (arg.withCtrl d).bytes

section Round

variable {p : Setup} {arg : VnzRenderArg} {fb : Word} {s : Session} {t : Sample} {rd : Round}

lemma Running.peeked_block (h : Running p arg s t) (rd : Round) :
    (peeked p t rd).read p.pArg sizeofRenderArg = (arg.withCtrl rd.ctrl).bytes := by
  obtain ⟨d, hd⟩ := h.block
  have hbytes := peeked_bytes rd hd
  rwa [VnzRenderArg.withCtrl_withCtrl] at hbytes

lemma not_endsSession_round : ¬ EndsSession (some s) (roundCall p t rd) := fun h => h

/-- The call of a round does not end the session. -/
lemma Running.tracked_round (h : Running p arg s t) (rd : Round) :
    (t.step p (.round rd)).tracked.session = some s ∧
      Consistent (t.step p (.round rd)).tracked.world s := by
  have hnext : nextSession t.tracked.world (some s) (roundCall p t rd) = some s :=
    nextSession_of_not_ends not_endsSession_round
  have href : Refines t.tracked.world (some s) := h.consistent
  refine ⟨?_, (refines_step (roundCall p t rd) href).consistent hnext⟩
  rw [← h.session] at hnext
  exact hnext.trans h.session

/-- What `main` finds in a round. -/
def roundView (p : Setup) (s : Session) (t : Sample) (rd : Round) : MainView :=
  execView p.vnzMemoryOpenPublic s p.pArg (BitVec.ofNat 32 sizeofRenderArg)
    (roundServices p t rd) t.tracked.world
    ((peeked p t rd).read p.pArg sizeofRenderArg)

/-- **A round that gets the suspend lock** is a call of `main` on the caller's block: it returns
what `main` returns, and what `main` leaves of the block is the caller's. -/
lemma Running.round_locked (h : Running p arg s t) (hp : SetUp p arg fb)
    (hlock : 0 ≤ rd.sv.sceVeneziaLockProcessSuspend.toInt)
    (hout : 0 ≤ rd.sv.sceKernelCopyToUser.toInt) :
    roundRet p t rd = (served p.routines p.font (roundView p s t rd) t.core).1 ∧
      coreAfter p t rd = (served p.routines p.font (roundView p s t rd) t.core).2 ∧
      (t.step p (.round rd)).user.read p.pArg sizeofRenderArg =
        (served p.routines p.font (roundView p s t rd) t.core).2.rest.read
          (roundView p s t rd).pUserArg sizeofRenderArg ∧
      HeaderInMemory (t.step p (.round rd)).tracked.world.mem s := by
  have hrpc : (roundServices p t rd).sceVeneziaRpcCallGenericThunk =
      crt0Rpc s p.idle p.vnzMemoryOpenPublic (program p.routines p.font t.core) := by
    rw [roundServices, h.session]
  have hin : (roundServices p t rd).sceKernelCopyFromUser.bytes =
      (peeked p t rd).read p.pArg (BitVec.ofNat 32 sizeofRenderArg).toNat := rfl
  obtain ⟨w', log, hexec, htrace, huser, hheader⟩ :=
    exec_call_block (roundServices p t rd) h.consistent h.header h.pArg_ne (by decide) (by decide)
      (fun _ : (true : Bool) = true => hlock) hin hout p.idle hp.opensPublic.1
      (program p.routines p.font t.core) hrpc
  have hhanded : handedView p.vnzMemoryOpenPublic
      (execThunkArg p.pArg (BitVec.ofNat 32 sizeofRenderArg) (roundServices p t rd)
        t.tracked.world)
      { p.idle with physical := s.block.view (afterCall p.pArg (BitVec.ofNat 32 sizeofRenderArg)
          true (roundServices p t rd) t.tracked.world).mem p.idle.physical } =
        some (roundView p s t rd) :=
    handedView_exec h.consistent h.header h.pArg_ne (by decide) (by decide) rfl p.idle
      hp.opensPublic.1
  have hstart : execStart p.pArg (BitVec.ofNat 32 sizeofRenderArg) true (roundServices p t rd)
      t.tracked.world = _ :=
    execStart_of_ok h.consistent.registered (fun _ => by decide)
      fun hfail => absurd hlock (Int.not_le.mpr hfail.2)
  have hstep : step t.tracked.world (roundCall p t rd) = w' := congrArg Prod.snd hexec
  have hnew : newEvents t.tracked.world (roundCall p t rd) = log :=
    newEvents_eq (by rw [hstep, htrace])
  refine ⟨congrArg Prod.fst hexec, ?_, ?_, ?_⟩
  · rw [coreAfter, h.session, hstart]
    dsimp only
    rw [hhanded]
  · have hlen : (roundView p s t rd).argBytes.length = sizeofRenderArg := read_length _ _ _
    change (userMemory _ (newEvents t.tracked.world (roundCall p t rd))).read _ _ = _
    rw [hnew]
    exact huser.trans (congrArg (Memory.read _ _) hlen)
  · change HeaderInMemory (step t.tracked.world (roundCall p t rd)).mem s
    rw [hstep]
    exact hheader

/-- The bytes copied in spare the header. -/
lemma Running.header_afterCopyIn (h : Running p arg s t) (rd : Round) :
    HeaderInMemory (afterCopyIn p.pArg (BitVec.ofNat 32 sizeofRenderArg) (roundServices p t rd)
      t.tracked.world).mem s := by
  have hlen : ((peeked p t rd).read p.pArg sizeofRenderArg).length = 80 := read_length _ _ _
  rw [afterCopyIn, if_pos h.pArg_ne, World.sceKernelCopyFromUser, h.consistent.commHeapVaddr_add]
  refine h.header.write ((List.length_take_le' _ _).trans ?_)
  exact hlen.trans_le (by norm_num)

/-- **A round that gets no suspend lock** returns its error; the program is not called. -/
lemma Running.round_refused (h : Running p arg s t)
    (hlock : ¬ 0 ≤ rd.sv.sceVeneziaLockProcessSuspend.toInt) :
    roundRet p t rd = rd.sv.sceVeneziaLockProcessSuspend ∧ coreAfter p t rd = t.core ∧
      (t.step p (.round rd)).user = peeked p t rd ∧
      HeaderInMemory (t.step p (.round rd)).tracked.world.mem s := by
  have hfails : (true : Bool) ∧ (roundServices p t rd).sceVeneziaLockProcessSuspend.toInt < 0 :=
    ⟨rfl, Int.not_le.mp hlock⟩
  have hstart := start_outcome p.pArg (BitVec.ofNat 32 sizeofRenderArg) true (roundServices p t rd)
    t.tracked.world
  have hexec := vnzBridgeExecCore_eq p.pArg (BitVec.ofNat 32 sizeofRenderArg) true
    (roundServices p t rd) t.tracked.world
  have hcore : coreAfter p t rd =
      match t.tracked.session, execStart p.pArg (BitVec.ofNat 32 sizeofRenderArg) true
          (roundServices p t rd) t.tracked.world with
      | some s, (.ok arg, w) =>
          match handedView p.vnzMemoryOpenPublic arg
              { p.idle with physical := s.block.view w.mem p.idle.physical } with
          | some v => (served p.routines p.font v t.core).2
          | none => t.core
      | _, _ => t.core := rfl
  generalize execStart p.pArg (BitVec.ofNat 32 sizeofRenderArg) true (roundServices p t rd)
    t.tracked.world = r at hstart hexec hcore
  cases hstart with
  | notRegistered hfree => exact absurd h.consistent.registered hfree
  | tooBig hreg harg hsize => exact absurd hsize (by decide)
  | blocked hreg hsize hgiven => exact absurd hfails hgiven
  | lockFailed hreg hsize hlock =>
      generalize hw : afterLock true (roundServices p t rd) (afterCopyIn p.pArg
        (BitVec.ofNat 32 sizeofRenderArg) (roundServices p t rd) t.tracked.world) = w at hexec
      have hstep : step t.tracked.world (roundCall p t rd) = w := congrArg Prod.snd hexec
      have hcopy : Logs (fun e => e.copyOut = none) t.tracked.world (afterCopyIn p.pArg
          (BitVec.ofNat 32 sizeofRenderArg) (roundServices p t rd) t.tracked.world) := by
        rw [afterCopyIn, if_pos h.pArg_ne]
        exact .single rfl rfl
      have hlogs : Logs (fun e => e.copyOut = none) t.tracked.world w := by
        rw [← hw, afterLock, if_pos rfl]
        exact hcopy.trans (.single rfl rfl)
      obtain ⟨log, htrace, hnone⟩ := hlogs
      have hnew : newEvents t.tracked.world (roundCall p t rd) = log :=
        newEvents_eq (by rw [hstep, htrace])
      refine ⟨congrArg Prod.fst hexec, ?_, ?_, ?_⟩
      · rw [hcore, h.session]
      · change userMemory _ (newEvents t.tracked.world (roundCall p t rd)) = _
        rw [hnew, userMemory_of_none hnone]
      · change HeaderInMemory (step t.tracked.world (roundCall p t rd)).mem s
        rw [hstep, ← hw, afterLock_mem]
        exact h.header_afterCopyIn rd

/-! ### Every round -/

/-- What `main` finds in a round is the caller's block. -/
lemma Running.asks (h : Running p arg s t) (hp : SetUp p arg fb) (rd : Round) :
    Asks (roundView p s t rd) (arg.withCtrl rd.ctrl) fb where
  argBytes := h.peeked_block rd
  pUserArg := by
    have hview : HandedOver (roundView p s t rd) s (BitVec.ofNat 32 sizeofRenderArg)
        ((peeked p t rd).read p.pArg sizeofRenderArg) :=
      handedOver_execView h.consistent (by decide) (by decide) hp.opensPublic _
    exact hview.pUserArg
  cmd := hp.cmd
  selected := hp.selected
  buffer := hp.buffer

/-- The view of the argument block is the one `_start` opens. -/
lemma Running.opensPrivate (h : Running p arg s t) (hp : SetUp p arg fb) (rd : Round) :
    OpensPrivate p.routines fb (roundView p s t rd).pUserArg := by
  have hmem : argMem (execThunkArg p.pArg (BitVec.ofNat 32 sizeofRenderArg)
      (roundServices p t rd) t.tracked.world) =
        vnzMemoryCreate (vramBase + 256) (12 + BitVec.ofNat 32 sizeofRenderArg) :=
    argMem_execThunkArg h.consistent
  change OpensPrivate p.routines fb (p.vnzMemoryOpenPublic (argMem _) + 12)
  rw [hmem]
  exact hp.opensPrivate

/-- What the loop sees of a round behind the steps `es`: a round that runs succeeds and the
buffer shows the text at its new place; one that does not fails and draws nothing. The buffer
displayed is the one that was drawn. -/
structure RoundShows (p : Setup) (arg : VnzRenderArg) (fb : Word) (es : List LoopStep)
    (t : Sample) (rd : Round) : Prop where
  ran : rd.Runs p → roundRet p t rd = sceOk ∧
    Shows (t.step p (.round rd)).core.physical fb
      (picture p.font (spotX p (es ++ [.round rd])) (spotY p (es ++ [.round rd]))
        rd.ctrl.buttons)
  failed : ¬ rd.Runs p → (roundRet p t rd).toInt < 0 ∧
    (t.step p (.round rd)).core.physical = t.core.physical
  displayed : readWord (t.step p (.round rd)).user (p.pArg + 4) = arg.fbidx

/-- The sample behind the steps `es`: the program keeps the text where their rounds put it. -/
structure At (p : Setup) (arg : VnzRenderArg) (s : Session) (es : List LoopStep) (t : Sample) :
    Prop extends Running p arg s t where
  column : t.core.fontX = spotX p es
  line : t.core.fontY = spotY p es

/-- The step of one round. -/
theorem At.round {es : List LoopStep} (h : At p arg s es t) (hp : SetUp p arg fb)
    (hok : Allowed p t (.round rd)) :
    At p arg s (es ++ [.round rd]) (t.step p (.round rd)) ∧ RoundShows p arg fb es t rd := by
  have hrun : Running p arg s t := h.toRunning
  have hasks := hrun.asks hp rd
  obtain ⟨hsession, hcons⟩ := hrun.tracked_round rd
  have hidx : ∀ m : Mem, m.read p.pArg sizeofRenderArg = (arg.withCtrl rd.ctrl).bytes →
      readWord m (p.pArg + 4) = arg.fbidx := fun m hm => (VnzRenderArg.read_fields hm).2.1
  by_cases hlock : 0 ≤ rd.sv.sceVeneziaLockProcessSuspend.toInt
  · obtain ⟨hret, hcore, huser, hheader⟩ := hrun.round_locked hp hlock hok.1
    have hcore' : (t.step p (.round rd)).core =
        (served p.routines p.font (roundView p s t rd) t.core).2 := hcore
    have hblock : (t.core.enter (roundView p s t rd)).rest.read (roundView p s t rd).pUserArg
        sizeofRenderArg = (arg.withCtrl rd.ctrl).bytes := (hasks.handed t.core).bytes
    by_cases hcontext : p.routines.vnzVThreadCreateContext 1
        rd.sv.sceVeneziaGetVThreadProcessingResource = 0
    · have hnot : ¬ rd.Runs p := fun hruns => hruns.2 hcontext
      have hbusy := served_busy p.font t.core hasks hcontext
      rw [hbusy] at hret hcore' huser
      rw [hblock] at huser
      obtain ⟨hx, hy⟩ := spot_stays es (e := .round rd) fun _ hpress => hnot hpress.1
      refine ⟨⟨⟨hp.pArg, hsession, hcons, hheader, rd.ctrl, huser⟩, ?_, ?_⟩,
        ⟨fun hruns => absurd hruns hnot, fun _ => ⟨?_, ?_⟩, hidx _ huser⟩⟩
      · rw [hcore', hx]
        exact h.column
      · rw [hcore', hy]
        exact h.line
      · rw [hret]
        change sceErrorErrnoEBUSY.toInt < 0
        decide
      · rw [hcore']
        rfl
    · have hruns : rd.Runs p := ⟨hlock, hcontext⟩
      have hon : OnScreen (moveX ((arg.withCtrl rd.ctrl).ctrl 0).buttons t.core.fontX)
          (moveY ((arg.withCtrl rd.ctrl).ctrl 0).buttons t.core.fontY) := by
        rw [arg.withCtrl_fst]
        exact hok.2 hruns
      have hserved := served_spec p.font hp.documented hasks (hrun.opensPrivate hp rd) hcontext hon
      rw [hserved] at hret hcore' huser
      rw [hblock] at huser
      obtain ⟨hx, hy⟩ := spot_runs es hruns
      rw [arg.withCtrl_fst, h.column, h.line, ← hx, ← hy] at hcore' hon
      refine ⟨⟨⟨hp.pArg, hsession, hcons, hheader, rd.ctrl, huser⟩, ?_, ?_⟩,
        ⟨fun _ => ⟨hret, ?_⟩, fun hnot => absurd hruns hnot, hidx _ huser⟩⟩
      · rw [hcore']
      · rw [hcore']
      · rw [hcore']
        exact shows_drawnFrame rd.ctrl.buttons t.core.physical hon
  · obtain ⟨hret, hcore, huser, hheader⟩ := hrun.round_refused hlock
    have hcore' : (t.step p (.round rd)).core = t.core := hcore
    have hnot : ¬ rd.Runs p := fun hruns => hlock hruns.1
    have hblock := hrun.peeked_block rd
    rw [← huser] at hblock
    obtain ⟨hx, hy⟩ := spot_stays es (e := .round rd) fun _ hpress => hnot hpress.1
    refine ⟨⟨⟨hp.pArg, hsession, hcons, hheader, rd.ctrl, hblock⟩, ?_, ?_⟩,
      ⟨fun hruns => absurd hruns hnot, fun _ => ⟨?_, ?_⟩, hidx _ hblock⟩⟩
    · rw [hcore', hx]
      exact h.column
    · rw [hcore', hy]
      exact h.line
    · rw [hret]
      exact Int.not_le.mp hlock
    · rw [hcore']

/-- A step the sample has no part in. -/
theorem At.other {es : List LoopStep} {e : Step} (h : At p arg s es t)
    (hok : Allowed p t (.other e)) : At p arg s (es ++ [.other e]) (t.step p (.other e)) := by
  obtain ⟨hends, hspares, -⟩ := hok
  have href : Refines t.tracked.world t.tracked.session := by
    rw [h.session]
    exact h.consistent
  have hkept : HeaderKeptInMemory t.tracked := by
    intro s' hs'
    rw [h.session] at hs'
    cases hs'
    exact h.header
  have hnext : (t.tracked.step e).session = some s := by
    change nextSession t.tracked.world t.tracked.session e = some s
    rw [h.session] at hends ⊢
    exact nextSession_of_not_ends hends
  obtain ⟨hx, hy⟩ := spot_stays es (p := p) (e := .other e) fun _ => id
  exact
    { pArg_ne := h.pArg_ne
      session := hnext
      consistent := (refines_step e href).consistent hnext
      header := headerInMemory_step t.tracked e href hkept hspares s hnext
      block := h.block
      column := h.column.trans hx.symm
      line := h.line.trans hy.symm }

/-- The state behind a run of the sample. -/
theorem At.run {es : List LoopStep} (h : At p arg s [] t) (hp : SetUp p arg fb)
    (hok : Admissible (Sample.step p) (Allowed p) t es) :
    At p arg s es (run (Sample.step p) t es) := by
  induction es using List.reverseRecOn with
  | nil => exact h
  | append_singleton es e ih =>
      obtain ⟨hes, hlast⟩ := admissible_append.mp hok
      rw [run_append]
      cases e with
      | round rd => exact ((ih hes).round hp hlast.1).1
      | other e => exact (ih hes).other hlast.1

end Round

/-! ### Every run -/

/-- The sample when it enters its loop: the plugin behind `es₀`, the block in the caller's memory
and the program as it was loaded. -/
structure Entered (p : Setup) (arg : VnzRenderArg) (s : Session) (clock : Word) (mem : Mem)
    (es₀ : List Step) (t : Sample) : Prop where
  tracked : t.tracked = run Tracked.step (Tracked.boot clock mem) es₀
  spares : Admissible Tracked.step SparesHeader (Tracked.boot clock mem) es₀
  session : t.tracked.session = some s
  block : t.user.read p.pArg sizeofRenderArg = arg.bytes
  column : t.core.fontX = 16
  line : t.core.fontY = 16

/-- The invariant holds when the loop is entered. -/
lemma Entered.at {p : Setup} {arg : VnzRenderArg} {fb : Word} {s : Session} {clock : Word}
    {mem : Mem} {es₀ : List Step} {t : Sample} (h : Entered p arg s clock mem es₀ t)
    (hp : SetUp p arg fb) : At p arg s [] t := by
  have hs : (run Tracked.step (Tracked.boot clock mem) es₀).session = some s := by
    rw [← h.tracked]
    exact h.session
  obtain ⟨hcons, hheader⟩ := headerInMemory_of_session h.spares hs
  have hworld : t.tracked.world = run step (boot clock mem) es₀ := by
    rw [h.tracked, Tracked.run_world]
    rfl
  rw [← hworld] at hcons hheader
  refine ⟨⟨hp.pArg, h.session, hcons, hheader, arg.ctrl 0, ?_⟩, ?_, ?_⟩
  · rw [h.block, VnzRenderArg.withCtrl_self]
  · rw [h.column, spotX, presses_nil, presses_nil]
    rfl
  · rw [h.line, spotY, presses_nil, presses_nil]
    rfl

/-- Every round of a run from there shows what the rounds before it make of it. -/
lemma Entered.round_shows {p : Setup} {arg : VnzRenderArg} {fb : Word} {s : Session} {clock : Word}
    {mem : Mem} {es₀ : List Step} {t : Sample} (h : Entered p arg s clock mem es₀ t)
    (hp : SetUp p arg fb) {es pre post : List LoopStep} {rd : Round}
    (hok : Admissible (Sample.step p) (Allowed p) t es) (hes : es = pre ++ .round rd :: post) :
    RoundShows p arg fb pre (run (Sample.step p) t pre) rd := by
  rw [hes] at hok
  obtain ⟨hpre, hround, -⟩ := admissible_append.mp hok
  have hat : At p arg s pre (run (Sample.step p) t pre) := (h.at hp).run hp hpre
  exact (hat.round hp hround).2

/-- Routines as documented, and a core that has done nothing. -/
def sampleSetup : Setup where
  routines :=
    { vnzMemoryOpenPrivate := fun _ => 0x70000000
      memzero32 := fun p count m => m.write p (List.replicate (32 * count.toNat) 0)
      vnzVThreadCreateContext := fun _ _ => 0x1000
      vnzVThreadExecute := fun _ entry z => entry z }
  font := fun _ _ => 0x55
  idle := sampleIdle
  vnzMemoryOpenPublic := fun _ => 0x60000000
  pid := samplePid
  pArg := 0x81100000

/-- The block of `render` in its first round. -/
def sampleArg : VnzRenderArg where
  cmd := vnzCmdRender
  fbidx := 0
  fbmem := fun i => 0x20000000 + 0x200000 * BitVec.ofNat 32 i
  ctrl := fun _ => ⟨0, 0, 128, 128, 128, 128, fun _ => 0⟩

/-- The sample behind an accepted injection. -/
def sampleEntered : Sample where
  tracked := run Tracked.step (Tracked.boot 166 fun _ => 0) [acceptedInject]
  user := Memory.write (fun _ => 0) 0x81100000 sampleArg.bytes
  core := { physical := fun _ => 0, rest := fun _ => 0 }

/-- A round with two directions pressed. -/
def sampleRound : Round where
  ctrl := ⟨0, sceCtrlRight ||| sceCtrlDown, 128, 128, 128, 128, fun _ => 0⟩
  sv := {}

lemma setUp_sample : SetUp sampleSetup sampleArg 0x20000000 where
  documented := ⟨fun _ _ _ => rfl, fun _ _ _ => rfl⟩
  pArg := by decide
  opensPublic := ⟨by decide, by decide⟩
  opensPrivate := by
    refine ⟨by decide, fun x hx => ?_⟩
    change InRange (0x60000000 + 12) 80 x at hx
    change ¬ InRange 0x70000000 (4 * fbPixels) x
    simp only [InRange, fbPixels, fbWidth, fbHeight] at hx ⊢
    bv_omega
  cmd := rfl
  selected := ⟨0, by decide, by decide⟩
  buffer := by decide

end HelloDraw

end VVNZRunner
