import VVNZRunner.CallBlock
import VVNZRunner.Library.SharedBuffer

/-!
Executions of several threads at a time, move by move.

* `ExecCall`: a call with its block, the services' answers and what its Venezia entry makes of
  the bytes it is handed. `ExecStage`: how far it is.
* `execMove`: one call makes its next move on the plugin's state: the copy in, the request, the
  run of the entry, the reply or the copy out. `run_alone`: five moves in a row are
  `vnzBridgeExecCore`.
* `Models`: the comm heap with the calls in flight is a shared buffer with its clients.
* `exec_isolated_iff`: schedules in which no copy in falls between the copy in and the copy out
  of another call isolate all calls, and no other schedules do.
-/

namespace VVNZRunner

open ByteMemory Machine SharedBuffer

/-! ### Calls and their moves -/

/-- A call of `vnzBridgeExec` or `vnzBridgeExecNoSuspend` with a block of 1 to 500 bytes. The
services' answers say which bytes the caller supplies; `entry` is the program on Venezia. -/
structure ExecCall where
  pUserArg : Word
  userArgSize : Word
  useCoreSuspend : Bool
  sv : Services
  entry : List Byte → List Byte
  pUserArg_ne : pUserArg ≠ 0
  size_pos : 1 ≤ userArgSize.toNat
  size_le : userArgSize.toNat ≤ 500
  length_supplied : sv.sceKernelCopyFromUser.bytes.length = userArgSize.toNat
  lock : useCoreSuspend → 0 ≤ sv.sceVeneziaLockProcessSuspend.toInt
  length_entry : ∀ bytes, (entry bytes).length = bytes.length

/-- The bytes the caller supplies. -/
def ExecCall.supplied (x : ExecCall) : List Byte := x.sv.sceKernelCopyFromUser.bytes

/-- How far a call is: `read` is what its entry read, `copied` what the copy out copied. -/
inductive ExecStage where
  | idle
  | copiedIn (userArg2 : Word)
  | requested (thunkArg : SceVeneziaThunkArg)
  | entered (read : List Byte)
  | replied (read : List Byte)
  | returned (read copied : List Byte)
  | failed (ret : Word)
  deriving DecidableEq

/-- The plugin and the calls. -/
structure ExecState where
  world : World
  stage : ℕ → ExecStage

namespace ExecState

/-- No call has begun. -/
def init (w : World) : ExecState := ⟨w, fun _ => .idle⟩

/-- Call `c` moves on. -/
def move (t : ExecState) (c : ℕ) (w : World) (g : ExecStage) : ExecState :=
  ⟨w, Function.update t.stage c g⟩

@[simp] lemma move_stage_self (t : ExecState) (c : ℕ) (w : World) (g : ExecStage) :
    (t.move c w g).stage c = g := by
  simp [move]

lemma move_stage_of_ne (t : ExecState) {c d : ℕ} (h : d ≠ c) (w : World) (g : ExecStage) :
    (t.move c w g).stage d = t.stage d := by
  simp [move, h]

end ExecState

/-- The argument bytes at the physical address in the thunk argument. -/
def entryRead (s : Session) (outside : Mem) (arg : SceVeneziaThunkArg) (m : Mem) : List Byte :=
  (s.block.view m outside).read arg.userArg2 arg.userArg3.toNat

/-- The memory when the entry has rewritten them. -/
def entryMem (s : Session) (outside : Mem) (entry : List Byte → List Byte)
    (arg : SceVeneziaThunkArg) (m : Mem) : Mem :=
  s.block.swap.view
    ((s.block.view m outside).write arg.userArg2 (entry (entryRead s outside arg m))) m

/-- The bytes of the copy out that was logged last. -/
def copiedOut (w : World) : List Byte :=
  match w.trace with
  | .sceKernelCopyToUser _ _ bytes _ :: _ => bytes
  | _ => []

/-- The next move of a call. Around the block of `s` physical memory is `outside`. -/
def ExecCall.advance (x : ExecCall) (s : Session) (outside : Mem) :
    ExecStage → World → ExecStage × World
  | .idle, w =>
      match execCopyIn x.pUserArg x.userArgSize x.sv w with
      | (.error ret, w) => (.failed ret, w)
      | (.ok userArg2, w) => (.copiedIn userArg2, w)
  | .copiedIn userArg2, w =>
      match execRequest userArg2 x.userArgSize x.useCoreSuspend x.sv w with
      | (.error ret, w) => (.failed ret, w)
      | (.ok thunkArg, w) =>
          (.requested thunkArg, w.emit (.sceVeneziaRpcCallGenericThunk thunkCmdId thunkArg))
  | .requested thunkArg, w =>
      (.entered (entryRead s outside thunkArg w.mem),
        { w with mem := entryMem s outside x.entry thunkArg w.mem })
  | .entered read, w => (.replied read, execReply x.useCoreSuspend x.sv w)
  | .replied read, w =>
      let w := execCopyOut x.pUserArg x.userArgSize x.sv w
      (.returned read (copiedOut w), w)
  | .returned read copied, w => (.returned read copied, w)
  | .failed ret, w => (.failed ret, w)

lemma ExecCall.advance_idle (x : ExecCall) (s : Session) (outside : Mem) (w : World) :
    x.advance s outside .idle w =
      match execCopyIn x.pUserArg x.userArgSize x.sv w with
      | (.error ret, w) => (.failed ret, w)
      | (.ok userArg2, w) => (.copiedIn userArg2, w) := rfl

lemma ExecCall.advance_copiedIn (x : ExecCall) (s : Session) (outside : Mem) (userArg2 : Word)
    (w : World) :
    x.advance s outside (.copiedIn userArg2) w =
      match execRequest userArg2 x.userArgSize x.useCoreSuspend x.sv w with
      | (.error ret, w) => (.failed ret, w)
      | (.ok thunkArg, w) =>
          (.requested thunkArg, w.emit (.sceVeneziaRpcCallGenericThunk thunkCmdId thunkArg)) :=
  rfl

/-- Call `c` makes its next move. -/
def execMove (s : Session) (outside : Mem) (calls : ℕ → ExecCall) (t : ExecState) (c : ℕ) :
    ExecState :=
  let r := (calls c).advance s outside (t.stage c) t.world
  t.move c r.2 r.1

/-- What isolation asks of a call. -/
def ExecStage.Isolated (x : ExecCall) : ExecStage → Prop
  | .entered read => read = x.supplied
  | .replied read => read = x.supplied
  | .returned read copied => read = x.supplied ∧ copied = x.entry read
  | _ => True

/-- Every entry read the bytes its caller supplied, and every copy out copied the bytes the
call's own entry left. -/
def ExecState.Isolated (calls : ℕ → ExecCall) (t : ExecState) : Prop :=
  ∀ c, (t.stage c).Isolated (calls c)

/-- Two moves of one call. -/
lemma execMove_move (s : Session) (outside : Mem) (calls : ℕ → ExecCall) (t : ExecState) (c : ℕ)
    (w : World) (g : ExecStage) :
    execMove s outside calls (t.move c w g) c =
      t.move c ((calls c).advance s outside g w).2 ((calls c).advance s outside g w).1 := by
  rw [execMove, ExecState.move_stage_self]
  simp [ExecState.move]

/-- The services of a call with an RPC that runs its entry. -/
def ExecCall.answers (x : ExecCall) (s : Session) (outside : Mem) : Services :=
  { x.sv with
    sceVeneziaRpcCallGenericThunk := fun arg m => (0, entryMem s outside x.entry arg m) }

/-- **Five moves of one call are one execution**: alone, the moves make up
`vnzBridgeExecCore`. -/
theorem run_alone (s : Session) (outside : Mem) (calls : ℕ → ExecCall) (w : World) (c : ℕ) :
    (run (execMove s outside calls) (.init w) [c, c, c, c, c]).world =
      (vnzBridgeExecCore (calls c).pUserArg (calls c).userArgSize (calls c).useCoreSuspend
        ((calls c).answers s outside) w).2 := by
  simp only [run_cons, run_nil]
  have hfirst : execMove s outside calls (.init w) c = (ExecState.init w).move c
      ((calls c).advance s outside .idle w).2 ((calls c).advance s outside .idle w).1 := rfl
  rw [hfirst, execMove_move, execMove_move, execMove_move, execMove_move]
  generalize calls c = x
  change ((x.advance s outside _ _).2 : World) = _
  have hin : execCopyIn x.pUserArg x.userArgSize (x.answers s outside) w =
      execCopyIn x.pUserArg x.userArgSize x.sv w := rfl
  have hreq : ∀ a w, execRequest a x.userArgSize x.useCoreSuspend (x.answers s outside) w =
      execRequest a x.userArgSize x.useCoreSuspend x.sv w := fun _ _ => rfl
  rw [vnzBridgeExecCore, hin, ExecCall.advance_idle]
  rcases execCopyIn x.pUserArg x.userArgSize x.sv w with ⟨ret | userArg2, w₁⟩
  · rfl
  · dsimp only
    rw [hreq, ExecCall.advance_copiedIn]
    rcases execRequest userArg2 x.userArgSize x.useCoreSuspend x.sv w₁ with
      ⟨ret | thunkArg, w₂⟩ <;> rfl

/-! ### The comm heap is a shared buffer -/

/-- The call as a client of the buffer. -/
def ExecCall.client (x : ExecCall) : Client Byte := ⟨x.supplied, x.entry, x.length_entry⟩

/-- The stages correspond, and the thunk argument names the argument bytes. -/
inductive StageModels (x : ExecCall) : ExecStage → Stage Byte → Prop
  | idle : StageModels x .idle .idle
  | copiedIn {userArg2 : Word} (h : userArg2 = vramBase + BitVec.ofNat 32 268) :
      StageModels x (.copiedIn userArg2) .put
  | requested {arg : SceVeneziaThunkArg} (h : arg.userArg2 = vramBase + BitVec.ofNat 32 268)
      (hsize : arg.userArg3 = x.userArgSize) : StageModels x (.requested arg) .sent
  | entered (read : List Byte) : StageModels x (.entered read) (.served read)
  | replied (read : List Byte) : StageModels x (.replied read) (.answered read)
  | returned (read copied : List Byte) :
      StageModels x (.returned read copied) (.taken read copied)

/-- The argument bytes of the comm heap are the buffer, and the stages correspond. -/
structure Models (s : Session) (calls : ℕ → ExecCall) (t : ExecState) (a : State Byte) :
    Prop where
  consistent : Consistent t.world s
  buffer : ∀ i < 500, t.world.mem (s.at (268 + i)) = a.buffer i
  stage : ∀ c, StageModels (calls c) (t.stage c) (a.stage c)

variable {s : Session} {calls : ℕ → ExecCall} {t : ExecState} {a : State Byte} {c : ℕ}

/-- What the comm heap holds is what the buffer holds. -/
lemma Models.read (h : Models s calls t a) {k : ℕ} (hk : k ≤ 500) :
    t.world.mem.read (s.at 268) k = readCells a.buffer k := by
  rw [Memory.read, readCells]
  refine List.map_congr_left fun i hi => ?_
  have hik : i < k := List.mem_range.mp hi
  rw [s.at_add]
  exact h.buffer i (by omega)

/-- A write to the comm heap is a write to the buffer. -/
lemma Models.write (h : Models s calls t a) (bs : List Byte) {i : ℕ} (hi : i < 500) :
    t.world.mem.write (s.at 268) bs (s.at (268 + i)) = writeCells a.buffer bs i := by
  have hidx : (s.at (268 + i) - s.at 268).toNat = i := by
    rw [← s.at_add]
    exact offset_toNat (by omega)
  rw [Memory.write, writeCells, hidx, h.buffer i hi]

/-- A move of one call on both sides. -/
lemma Models.move (h : Models s calls t a) {w : World} {b : ℕ → Byte} {g : ExecStage}
    {g' : Stage Byte} (hcons : Consistent w s)
    (hbuffer : ∀ i < 500, w.mem (s.at (268 + i)) = b i) (hg : StageModels (calls c) g g') :
    Models s calls (t.move c w g) (a.move c b g') := by
  refine ⟨hcons, hbuffer, fun d => ?_⟩
  by_cases hd : d = c
  · rw [hd, ExecState.move_stage_self, SharedBuffer.move_stage_self]
    exact hg
  · rw [t.move_stage_of_ne hd, SharedBuffer.move_stage_of_ne a hd]
    exact h.stage d

/-- A passive move leaves the buffer alone. -/
lemma Models.move_passive (h : Models s calls t a) {w : World} {g : ExecStage} {g' : Stage Byte}
    (hw : Passive t.world w) (hg : StageModels (calls c) g g') :
    Models s calls (t.move c w g) (a.move c a.buffer g') := by
  refine h.move (Refines.congr (σ := some s) h.consistent hw.frame.statics) ?_ hg
  rw [hw.mem]
  exact h.buffer

/-- What the entry reads and leaves, in the kernel's terms. -/
lemma entry_eq {arg : SceVeneziaThunkArg} (x : ExecCall) (outside m : Mem)
    (h : arg.userArg2 = vramBase + BitVec.ofNat 32 268) (hsize : arg.userArg3 = x.userArgSize) :
    entryRead s outside arg m = m.read (s.at 268) x.userArgSize.toNat ∧
      entryMem s outside x.entry arg m =
        m.write (s.at 268) (x.entry (m.read (s.at 268) x.userArgSize.toNat)) := by
  have hle := x.size_le
  have hread : entryRead s outside arg m = m.read (s.at 268) x.userArgSize.toNat := by
    rw [entryRead, h, hsize]
    exact Session.read_block (by omega)
  refine ⟨hread, ?_⟩
  rw [entryMem, hread, h]
  refine Session.write_block ?_
  rw [x.length_entry, read_length]
  omega

/-- Nothing moves when a call has returned. -/
lemma ExecState.move_eq_self (t : ExecState) (c : ℕ) : t.move c t.world (t.stage c) = t := by
  simp [move]

/-- The copy in puts. -/
lemma models_copyIn (outside : Mem) (h : Models s calls t a) :
    let r := (calls c).advance s outside .idle t.world
    Models s calls (t.move c r.2 r.1)
      (a.move c (writeCells a.buffer (calls c).client.input) .put) := by
  have hle := (calls c).size_le
  have hin : execCopyIn (calls c).pUserArg (calls c).userArgSize (calls c).sv t.world =
      (.ok (if (calls c).pUserArg ≠ 0 then t.world.commHeapPaddr + 12 else 0),
        afterCopyIn (calls c).pUserArg (calls c).userArgSize (calls c).sv t.world) :=
    execCopyIn_ok h.consistent.registered fun _ => hle
  rw [if_pos (calls c).pUserArg_ne] at hin
  intro r
  have hr : r = (.copiedIn (t.world.commHeapPaddr + 12), afterCopyIn (calls c).pUserArg
      (calls c).userArgSize (calls c).sv t.world) := by
    change ExecCall.advance _ _ _ _ _ = _
    rw [ExecCall.advance, hin]
  have hcons : Consistent (afterCopyIn (calls c).pUserArg (calls c).userArgSize (calls c).sv
      t.world) s := Refines.congr (σ := some s) h.consistent (afterCopyIn_toStatics _ _ _ _)
  rw [hr]
  refine h.move hcons (fun i hi => ?_) (.copiedIn ?_)
  · rw [afterCopyIn, if_pos (calls c).pUserArg_ne, World.sceKernelCopyFromUser,
      h.consistent.commHeapVaddr_add]
    dsimp only
    rw [List.take_of_length_le (calls c).length_supplied.le]
    exact h.write _ hi
  · rw [h.consistent.commHeapPaddr]
    rfl

/-- The entry serves. -/
lemma models_entry (outside : Mem) (h : Models s calls t a) {arg : SceVeneziaThunkArg}
    (harg : arg.userArg2 = vramBase + BitVec.ofNat 32 268)
    (hsize : arg.userArg3 = (calls c).userArgSize) :
    let r := (calls c).advance s outside (.requested arg) t.world
    let seen := readCells a.buffer (calls c).client.input.length
    Models s calls (t.move c r.2 r.1)
      (a.move c (writeCells a.buffer ((calls c).client.serve seen)) (.served seen)) := by
  intro r seen
  obtain ⟨hread, hmem⟩ := entry_eq (s := s) (calls c) outside t.world.mem harg hsize
  have hseen : seen = t.world.mem.read (s.at 268) (calls c).userArgSize.toNat := by
    rw [h.read (calls c).size_le, ← (calls c).length_supplied]
    rfl
  rw [← hseen] at hread hmem
  have hr : r = (.entered seen, { t.world with
      mem := t.world.mem.write (s.at 268) ((calls c).entry seen) }) := by
    rw [← hmem, ← hread]
    rfl
  rw [hr]
  exact h.move (Refines.congr (σ := some s) h.consistent rfl) (fun i hi => h.write _ hi)
    (.entered seen)

/-- The copy out takes. -/
lemma models_copyOut (outside : Mem) (h : Models s calls t a) (read : List Byte) :
    let r := (calls c).advance s outside (.replied read) t.world
    Models s calls (t.move c r.2 r.1)
      (a.move c a.buffer (.taken read (readCells a.buffer (calls c).client.input.length))) := by
  intro r
  have hcopied : copiedOut (execCopyOut (calls c).pUserArg (calls c).userArgSize (calls c).sv
      t.world) = readCells a.buffer (calls c).client.input.length := by
    have hlen : (calls c).client.input.length = (calls c).userArgSize.toNat :=
      (calls c).length_supplied
    rw [hlen, ← h.read (calls c).size_le, ← h.consistent.commHeapVaddr_add, execCopyOut,
      if_pos (calls c).pUserArg_ne]
    rfl
  have hg : StageModels (calls c) r.1
      (.taken read (readCells a.buffer (calls c).client.input.length)) := by
    rw [← hcopied]
    exact .returned read _
  exact h.move_passive (passive_execCopyOut (calls c).sv t.world _ _) hg

/-- **Each move of a call is the move of its client.** -/
theorem models_move (outside : Mem) (t : ExecState) (a : State Byte) (c : ℕ)
    (h : Models s calls t a) :
    Models s calls (execMove s outside calls t c)
      (SharedBuffer.step (fun c => (calls c).client) a c) := by
  have hstage := h.stage c
  rw [execMove, SharedBuffer.step]
  generalize hg : t.stage c = g at hstage
  generalize hg' : a.stage c = g' at hstage
  cases hstage with
  | idle => exact models_copyIn outside h
  | copiedIn harg =>
      obtain ⟨w', hw', hpassive⟩ := passive_execRequest (calls c).sv t.world _
        (calls c).userArgSize (calls c).useCoreSuspend
        fun hfail => absurd ((calls c).lock hfail.1) (by omega)
      rw [ExecCall.advance, hw']
      exact h.move_passive (hpassive.trans (.emit (by trivial) _)) (.requested harg rfl)
  | requested harg hsize => exact models_entry outside h harg hsize
  | entered read =>
      exact h.move_passive (passive_execReply (calls c).sv t.world (calls c).useCoreSuspend)
        (.replied read)
  | replied read => exact models_copyOut outside h read
  | returned read copied =>
      rw [ExecCall.advance, ← hg, t.move_eq_self]
      exact h

/-- Isolation is the same on both sides. -/
lemma Models.isolated_iff (h : Models s calls t a) :
    t.Isolated calls ↔ a.Isolated fun c => (calls c).client := by
  refine forall_congr' fun c => ?_
  have hstage := h.stage c
  generalize t.stage c = g at hstage
  generalize a.stage c = g' at hstage
  cases hstage <;> exact Iff.rfl

/-- Before any call, the comm heap is a buffer. -/
lemma models_init {w : World} (h : Consistent w s) (calls : ℕ → ExecCall) :
    Models s calls (.init w) (.init fun i => w.mem (s.at (268 + i))) :=
  ⟨h, fun _ _ => rfl, fun _ => .idle⟩

/-- The calls and their clients stay together along every schedule. -/
lemma models_run {w : World} (h : Consistent w s) (outside : Mem) (calls : ℕ → ExecCall)
    (schedule : List ℕ) :
    Models s calls (run (execMove s outside calls) (.init w) schedule)
      (run (SharedBuffer.step fun c => (calls c).client)
        (.init fun i => w.mem (s.at (268 + i))) schedule) :=
  run_simulation (R := Models s calls) (fun t a c ht _ => models_move outside t a c ht)
    (models_init h calls) (admissible_true _ schedule)

/-! ### Schedules -/

/-- A call with a single byte. -/
def oneByteCall (b : Byte) (entry : List Byte → List Byte)
    (h : ∀ bytes, (entry bytes).length = bytes.length) : ExecCall where
  pUserArg := 0x81100000
  userArgSize := 1
  useCoreSuspend := true
  sv := { sceKernelCopyFromUser := { bytes := [b] } }
  entry := entry
  pUserArg_ne := by decide
  size_pos := by decide
  size_le := by decide
  length_supplied := rfl
  lock := fun _ => (by decide : 0 ≤ (0 : Word).toInt)
  length_entry := h

/-- Every client of one byte is a call. -/
def probeCall (d c : ℕ) : ExecCall :=
  if c = d then oneByteCall 1 id fun _ => rfl
  else oneByteCall 2 (List.map fun _ => 2) (by simp)

lemma probeCall_client (d : ℕ) : (fun c => (probeCall d c).client) = probe 1 2 d := by
  funext c
  rw [probeCall, probe]
  split_ifs <;> rfl

/-- **Serial schedules isolate the calls, and only they do.** In every reachable state with a
session: if no call copies its block in while another one is between its copy in and its copy
out, then at every moment each entry has read its caller's bytes and each copy out has copied
what the call's own entry left, for any number of calls, any blocks and any entries; and a
schedule in which all calls return isolates them for all blocks and entries only if it is such
a schedule. -/
theorem exec_isolated_iff (clock : Word) (mem : Mem) (es : List Step) (s : Session)
    (hs : (run Tracked.step (Tracked.boot clock mem) es).session = some s) (outside : Mem)
    (schedule : List ℕ) :
    (Serial schedule → ∀ calls : ℕ → ExecCall,
        Always (execMove s outside calls) (ExecState.Isolated calls)
          (.init (run step (boot clock mem) es)) schedule) ∧
      (Complete schedule →
        (∀ calls : ℕ → ExecCall, (run (execMove s outside calls)
          (.init (run step (boot clock mem) es)) schedule).Isolated calls) →
        Serial schedule) := by
  have hcons : Consistent (run step (boot clock mem) es) s := consistent_of_session hs
  generalize run step (boot clock mem) es = w at hcons ⊢
  constructor
  · intro hserial calls
    have habstract := isolated_of_serial hserial (fun c => (calls c).client)
      fun i => w.mem (s.at (268 + i))
    exact always_of_simulation (R := Models s calls) (fun t a c ht => models_move outside t a c ht)
      (fun t a ht ha => ht.isolated_iff.mpr ha) (models_init hcons calls) habstract
  · intro hcomplete hisolated
    refine serial_of_isolated (x := 1) (y := 2) (by decide) hcomplete
      (fun i => w.mem (s.at (268 + i))) fun d => ?_
    have hmodels := models_run hcons outside (probeCall d) schedule
    have habstract := hmodels.isolated_iff.mp (hisolated (probeCall d))
    rw [probeCall_client] at habstract
    exact habstract

/-- Call 0 copies its block in, call 1 copies its own in over it, then both go on. -/
def overlappingCalls : List ℕ := [0, 1, 0, 0, 0, 0, 1, 1, 1, 1]

/-- Call 0 supplies the byte 1; its entry reads the byte 2 of call 1, and that is what call 0
gets back. -/
theorem overlapping_calls_swapped :
    (run (execMove sampleSession (fun _ => 0) (probeCall 0))
        (.init (run step (boot 166 fun _ => 0) [acceptedInject])) overlappingCalls).stage 0 =
      .returned [2] [2] ∧
      ¬ (run (execMove sampleSession (fun _ => 0) (probeCall 0))
        (.init (run step (boot 166 fun _ => 0) [acceptedInject])) overlappingCalls).Isolated
          (probeCall 0) := by
  have hstage : (run (execMove sampleSession (fun _ => 0) (probeCall 0))
      (.init (run step (boot 166 fun _ => 0) [acceptedInject])) overlappingCalls).stage 0 =
        .returned [2] [2] := by decide
  refine ⟨hstage, fun h => ?_⟩
  have hfirst := h 0
  rw [hstage] at hfirst
  exact absurd hfirst.1 (by decide)

theorem exec_isolated_iff_overlapping :
    (Serial overlappingCalls → ∀ calls : ℕ → ExecCall,
        Always (execMove sampleSession (fun _ => 0) calls) (ExecState.Isolated calls)
          (.init (run step (boot 166 fun _ => 0) [acceptedInject])) overlappingCalls) ∧
      (Complete overlappingCalls →
        (∀ calls : ℕ → ExecCall, (run (execMove sampleSession (fun _ => 0) calls)
          (.init (run step (boot 166 fun _ => 0) [acceptedInject])) overlappingCalls).Isolated
            calls) →
        Serial overlappingCalls) :=
  exec_isolated_iff 166 (fun _ => 0) [acceptedInject] sampleSession (by decide) (fun _ => 0)
    overlappingCalls

end VVNZRunner
