import Mathlib.Data.List.GetD
import VVNZRunner.Library.Runs

/-!
Calls that pass their arguments through one shared buffer.

* `Client`: a call, by what it puts into the buffer and what the server makes of what it finds
  there. `Stage`: how far a call is, with what the server has seen of it and what it got back.
* `step`: one call makes its next move. A schedule is the list of the calls that move.
* `State.Isolated`: each call was served on its own input and got its own result.
* `Serial`: nobody puts while another call is between its put and its take.
* `isolated_of_serial`, `serial_of_isolated`: a serial schedule isolates all calls, and a
  schedule that lets every call return isolates all calls only if it is serial.
-/

namespace SharedBuffer

open Machine Function

universe u

variable {α : Type u}

/-! ### Clients and their moves -/

/-- The first `k` cells of the buffer. -/
def readCells (b : ℕ → α) (k : ℕ) : List α := (List.range k).map b

/-- The buffer with `xs` in its first cells. -/
def writeCells (b : ℕ → α) (xs : List α) : ℕ → α := fun i => xs.getD i (b i)

lemma readCells_writeCells (b : ℕ → α) (xs : List α) :
    readCells (writeCells b xs) xs.length = xs := by
  refine List.ext_getElem (by simp [readCells]) fun i hi hi' => ?_
  simp [readCells, writeCells, hi']

/-- A call: what it puts, and what the server makes of what it finds. -/
structure Client (α : Type u) where
  input : List α
  serve : List α → List α
  length_serve : ∀ xs, (serve xs).length = xs.length

/-- How far a call is: `seen` is what the server found, `got` what the call took back. -/
inductive Stage (α : Type u) where
  | idle
  | put
  | sent
  | served (seen : List α)
  | answered (seen : List α)
  | taken (seen got : List α)

/-- The number of moves made. -/
def Stage.rank : Stage α → ℕ
  | .idle => 0
  | .put => 1
  | .sent => 2
  | .served _ => 3
  | .answered _ => 4
  | .taken .. => 5

/-- The buffer and the calls. -/
structure State (α : Type u) where
  buffer : ℕ → α
  stage : ℕ → Stage α

namespace State

/-- No call has begun. -/
def init (b : ℕ → α) : State α := ⟨b, fun _ => .idle⟩

/-- Call `c` moves on, and the buffer may change. -/
def move (t : State α) (c : ℕ) (b : ℕ → α) (g : Stage α) : State α := ⟨b, update t.stage c g⟩

/-- The ranks of all calls. -/
def ranks (t : State α) : ℕ → ℕ := fun c => (t.stage c).rank

end State

/-- Call `c` makes its next move. -/
def step (clients : ℕ → Client α) (t : State α) (c : ℕ) : State α :=
  let x := clients c
  match t.stage c with
  | .idle => t.move c (writeCells t.buffer x.input) .put
  | .put => t.move c t.buffer .sent
  | .sent =>
      let seen := readCells t.buffer x.input.length
      t.move c (writeCells t.buffer (x.serve seen)) (.served seen)
  | .served seen => t.move c t.buffer (.answered seen)
  | .answered seen => t.move c t.buffer (.taken seen (readCells t.buffer x.input.length))
  | .taken _ _ => t

/-- What isolation asks of a call. -/
def Stage.Isolated (x : Client α) : Stage α → Prop
  | .served seen => seen = x.input
  | .answered seen => seen = x.input
  | .taken seen got => seen = x.input ∧ got = x.serve seen
  | _ => True

/-- Each call was served on its own input and took its own result. -/
def State.Isolated (clients : ℕ → Client α) (t : State α) : Prop :=
  ∀ c, (t.stage c).Isolated (clients c)

/-! ### Schedules -/

/-- The ranks after a move of `c`. -/
def tick (p : ℕ → ℕ) (c : ℕ) : ℕ → ℕ := update p c (min 5 (p c + 1))

/-- A call between its put and its take. -/
def InFlight (k : ℕ) : Prop := 0 < k ∧ k < 5

/-- The call has put and not taken yet. -/
def Stage.Flying : Stage α → Prop
  | .idle => False
  | .taken .. => False
  | _ => True

lemma Stage.inFlight_rank (g : Stage α) : InFlight g.rank ↔ g.Flying := by
  cases g <;> simp [InFlight, Stage.rank, Stage.Flying]

/-- `c` may move: if it is about to put, no call is in flight. -/
def MayMove (p : ℕ → ℕ) (c : ℕ) : Prop := p c = 0 → ∀ d, ¬ InFlight (p d)

/-- Nobody puts while another call is between its put and its take. -/
def Serial (schedule : List ℕ) : Prop := Admissible tick MayMove (fun _ => 0) schedule

/-- Every call that begins returns. -/
def Complete (schedule : List ℕ) : Prop := ∀ c, ¬ InFlight (run tick (fun _ => 0) schedule c)

@[simp] lemma move_stage_self (t : State α) (c : ℕ) (b : ℕ → α) (g : Stage α) :
    (t.move c b g).stage c = g := by
  simp [State.move]

lemma move_stage_of_ne (t : State α) {c d : ℕ} (h : d ≠ c) (b : ℕ → α) (g : Stage α) :
    (t.move c b g).stage d = t.stage d := by
  simp [State.move, h]

/-- The ranks do not depend on what is put and served. -/
lemma ranks_step (clients : ℕ → Client α) (t : State α) (c : ℕ) :
    (step clients t c).ranks = tick t.ranks c := by
  funext d
  rw [step, tick]
  by_cases hd : d = c
  · subst hd
    rw [update_self, State.ranks, State.ranks]
    cases hg : t.stage d <;> simp [Stage.rank, hg]
  · rw [update_of_ne hd, State.ranks, State.ranks]
    cases hg : t.stage c <;> simp [move_stage_of_ne, hd]

lemma ranks_run (clients : ℕ → Client α) (b : ℕ → α) (schedule : List ℕ) :
    (run (step clients) (State.init b) schedule).ranks = run tick (fun _ => 0) schedule :=
  run_comp (f := State.ranks) (ranks_step clients) (State.init b) schedule

/-! ### Serial schedules isolate -/

/-- What the buffer holds for a call in flight. -/
def Stage.Holds (x : Client α) (b : ℕ → α) : Stage α → Prop
  | .put => readCells b x.input.length = x.input
  | .sent => readCells b x.input.length = x.input
  | .served seen => readCells b x.input.length = x.serve seen
  | .answered seen => readCells b x.input.length = x.serve seen
  | _ => True

lemma Stage.holds_of_not_inFlight {x : Client α} {b : ℕ → α} {g : Stage α}
    (h : ¬ InFlight g.rank) : g.Holds x b := by
  rw [g.inFlight_rank] at h
  cases g with
  | idle => trivial
  | taken seen got => trivial
  | _ => exact absurd trivial h

/-- At most one call is in flight; it is isolated so far, and the buffer is its own. -/
structure Inv (clients : ℕ → Client α) (t : State α) : Prop where
  isolated : t.Isolated clients
  holds : ∀ c, (t.stage c).Holds (clients c) t.buffer
  alone : ∀ c d, InFlight (t.ranks c) → InFlight (t.ranks d) → c = d

variable {clients : ℕ → Client α} {t : State α} {c : ℕ}

/-- Without another call in flight, a move only has to be right for the call that moves. -/
lemma Inv.move (h : Inv clients t) {b : ℕ → α} {g : Stage α} (hiso : g.Isolated (clients c))
    (hholds : g.Holds (clients c) b) (halone : ∀ d, d ≠ c → ¬ InFlight (t.ranks d)) :
    Inv clients (t.move c b g) := by
  have hother : ∀ d, d ≠ c → ((t.move c b g).stage d) = t.stage d :=
    fun d hd => move_stage_of_ne t hd b g
  refine ⟨fun d => ?_, fun d => ?_, fun d e hd he => ?_⟩
  · by_cases hdc : d = c
    · rw [hdc, move_stage_self]
      exact hiso
    · rw [hother d hdc]
      exact h.isolated d
  · by_cases hdc : d = c
    · rw [hdc, move_stage_self]
      exact hholds
    · rw [hother d hdc]
      exact Stage.holds_of_not_inFlight (halone d hdc)
  · have hself : ∀ i, InFlight ((t.move c b g).ranks i) → i = c := by
      intro i hi
      by_contra hne
      rw [State.ranks, hother i hne] at hi
      exact halone i hne hi
    rw [hself d hd, hself e he]

/-- **One move of a serial schedule** keeps the invariant. -/
lemma inv_step (t : State α) (c : ℕ) (h : Inv clients t) (hok : MayMove t.ranks c) :
    Inv clients (step clients t c) := by
  have hhold := h.holds c
  have hiso := h.isolated c
  have halone : (t.stage c).Flying → ∀ d, d ≠ c → ¬ InFlight (t.ranks d) :=
    fun hc d hd hfly => hd (h.alone d c hfly ((t.stage c).inFlight_rank.mpr hc))
  rw [step]
  cases hg : t.stage c with
  | idle =>
      have hrank : t.ranks c = 0 := by rw [State.ranks, hg, Stage.rank]
      exact h.move trivial (readCells_writeCells _ _) fun d _ => hok hrank d
  | put =>
      rw [hg] at hhold halone
      exact h.move trivial hhold (halone trivial)
  | sent =>
      rw [hg] at hhold halone
      have hlen : ((clients c).serve (readCells t.buffer (clients c).input.length)).length =
          (clients c).input.length := by
        rw [(clients c).length_serve, readCells, List.length_map, List.length_range]
      have hread := readCells_writeCells t.buffer
        ((clients c).serve (readCells t.buffer (clients c).input.length))
      rw [hlen] at hread
      exact h.move hhold hread (halone trivial)
  | served seen =>
      rw [hg] at hhold hiso halone
      exact h.move hiso hhold (halone trivial)
  | answered seen =>
      rw [hg] at hhold hiso halone
      exact h.move ⟨hiso, hhold⟩ trivial (halone trivial)
  | taken seen got => exact h

/-- **A serial schedule isolates all calls**, whatever they put and however they are served. -/
theorem isolated_of_serial {schedule : List ℕ} (h : Serial schedule) (clients : ℕ → Client α)
    (b : ℕ → α) : Always (step clients) (State.Isolated clients) (State.init b) schedule := by
  have hok : Admissible (step clients) (fun t c => MayMove t.ranks c) (State.init b) schedule :=
    (admissible_comp (f := State.ranks) (ranks_step clients)).mpr h
  have hinit : Inv clients (State.init b) := by
    exact ⟨fun c => trivial, fun c => trivial, fun c d hc => absurd hc.1 (lt_irrefl 0)⟩
  exact (always_of_invariant inv_step hinit hok).mono fun t ht => ht.isolated

/-! ### Only serial schedules do -/

/-- The clients that show an overlap with call `d`: it puts `x` and is served by the identity,
everybody else puts `y` and is served with `y`. -/
def probe (x y : α) (d c : ℕ) : Client α :=
  if c = d then ⟨[x], id, fun _ => rfl⟩ else ⟨[y], List.map fun _ => y, by simp⟩

variable {x y : α} {d : ℕ}

lemma probe_self (x y : α) (d : ℕ) : probe x y d d = ⟨[x], id, fun _ => rfl⟩ := if_pos rfl

lemma probe_of_ne (x y : α) (h : c ≠ d) : probe x y d c = ⟨[y], List.map fun _ => y, by simp⟩ :=
  if_neg h

/-- Call `d` has lost its argument or its result. -/
def Spoilt (x y : α) (t : State α) : Stage α → Prop
  | .idle => False
  | .put => t.buffer 0 = y
  | .sent => t.buffer 0 = y
  | .served seen => seen ≠ [x] ∨ t.buffer 0 = y
  | .answered seen => seen ≠ [x] ∨ t.buffer 0 = y
  | .taken seen got => ¬ (seen = [x] ∧ got = seen)

/-- A move of another call leaves the first cell alone or puts `y` there. -/
lemma buffer_step_of_ne (t : State α) (h : c ≠ d) :
    (step (probe x y d) t c).buffer 0 = t.buffer 0 ∨
      (step (probe x y d) t c).buffer 0 = y := by
  rw [step, probe_of_ne x y h]
  cases hg : t.stage c with
  | idle => exact .inr rfl
  | put => exact .inl rfl
  | sent => exact .inr rfl
  | served seen => exact .inl rfl
  | answered seen => exact .inl rfl
  | taken seen got => exact .inl rfl

/-- A move of another call leaves the stage alone. -/
lemma stage_step_of_ne (clients : ℕ → Client α) (t : State α) (h : d ≠ c) :
    (step clients t c).stage d = t.stage d := by
  rw [step]
  cases hg : t.stage c <;> first | exact move_stage_of_ne t h _ _ | rfl

/-- What is lost stays lost. -/
lemma spoilt_step (hxy : x ≠ y) (t : State α) (c : ℕ) (h : Spoilt x y t (t.stage d)) :
    Spoilt x y (step (probe x y d) t c) ((step (probe x y d) t c).stage d) := by
  by_cases hc : c = d
  · subst hc
    have hread : t.buffer 0 = y → readCells t.buffer [x].length ≠ [x] := by
      intro hb hread
      have hcell : t.buffer 0 = x := by simpa [readCells] using hread
      exact hxy (hcell.symm.trans hb)
    rw [step, probe_self]
    cases hg : t.stage c with
    | idle =>
        rw [hg] at h
        exact h.elim
    | put =>
        rw [hg] at h
        rw [move_stage_self]
        exact h
    | sent =>
        rw [hg] at h
        rw [move_stage_self]
        exact .inl (hread h)
    | served seen =>
        rw [hg] at h
        rw [move_stage_self]
        exact h
    | answered seen =>
        rw [hg] at h
        rw [move_stage_self]
        rintro ⟨hseen, hgot⟩
        rcases h with h | h
        · exact h hseen
        · exact hread h (hgot.trans hseen)
    | taken seen got =>
        rw [hg] at h
        dsimp only
        rw [hg]
        exact h
  · rw [stage_step_of_ne _ t (Ne.symm hc)]
    have hbuffer : t.buffer 0 = y → (step (probe x y d) t c).buffer 0 = y := by
      intro hb
      rcases buffer_step_of_ne (x := x) (y := y) t hc with hkeep | hput
      · exact hkeep.trans hb
      · exact hput
    cases hg : t.stage d with
    | idle =>
        rw [hg] at h
        exact h.elim
    | put =>
        rw [hg] at h
        exact hbuffer h
    | sent =>
        rw [hg] at h
        exact hbuffer h
    | served seen =>
        rw [hg] at h
        exact h.imp id hbuffer
    | answered seen =>
        rw [hg] at h
        exact h.imp id hbuffer
    | taken seen got =>
        rw [hg] at h
        exact h

/-- A put while `d` is in flight spoils `d`. -/
lemma spoilt_of_overlap {t : State α} (hc : t.ranks c = 0) (hd : InFlight (t.ranks d)) :
    Spoilt x y (step (probe x y d) t c) ((step (probe x y d) t c).stage d) := by
  have hne : c ≠ d := by
    rintro rfl
    rw [hc] at hd
    exact absurd hd.1 (lt_irrefl 0)
  have hidle : t.stage c = .idle := by
    rw [State.ranks] at hc
    cases hg : t.stage c <;> rw [hg] at hc <;> first | rfl | cases hc
  have hbuffer : (step (probe x y d) t c).buffer 0 = y := by
    rw [step, probe_of_ne x y hne, hidle]
    rfl
  rw [stage_step_of_ne _ t hne.symm]
  rw [State.ranks, Stage.inFlight_rank] at hd
  cases hg : t.stage d with
  | idle =>
      rw [hg] at hd
      exact hd.elim
  | put => exact hbuffer
  | sent => exact hbuffer
  | served seen => exact .inr hbuffer
  | answered seen => exact .inr hbuffer
  | taken seen got =>
      rw [hg] at hd
      exact hd.elim

/-- **Only serial schedules isolate all calls**: where every call returns, the probes tell. -/
theorem serial_of_isolated (hxy : x ≠ y) {schedule : List ℕ} (hcomplete : Complete schedule)
    (b : ℕ → α)
    (h : ∀ d, (run (step (probe x y d)) (State.init b) schedule).Isolated (probe x y d)) :
    Serial schedule := by
  rw [Serial, admissible_iff_forall_split]
  rintro pre c post rfl hc d hd
  have hranks := ranks_run (probe x y d) b pre
  rw [← hranks] at hc hd
  have hkeep : ∀ (t : State α) e, Spoilt x y t (t.stage d) → True →
      Spoilt x y (step (probe x y d) t e) ((step (probe x y d) t e).stage d) :=
    fun t e ht _ => spoilt_step hxy t e ht
  have hspoilt := run_invariant (P := fun t : State α => Spoilt x y t (t.stage d)) hkeep
    (spoilt_of_overlap hc hd) (admissible_true _ post)
  have hend : ¬ InFlight
      ((run (step (probe x y d)) (State.init b) (pre ++ c :: post)).ranks d) := by
    rw [ranks_run]
    exact hcomplete d
  have hiso := h d d
  rw [← run_cons, ← run_append] at hspoilt
  rw [State.ranks, Stage.inFlight_rank] at hend
  rw [probe_self] at hiso
  cases hg : (run (step (probe x y d)) (State.init b) (pre ++ c :: post)).stage d with
  | idle =>
      rw [hg] at hspoilt
      exact hspoilt
  | taken seen got =>
      rw [hg] at hspoilt hiso
      exact hspoilt hiso
  | _ =>
      rw [hg] at hend
      exact hend trivial

end SharedBuffer
