import Mathlib.Tactic

/-!
Runs of a deterministic machine: a step function `σ → ε → σ`, driven by a list of events.

* `run`, `Admissible`, `Always`: the state after a list of events, the events each being
  allowed in the state in which they occur, and a property of every state on the way.
* `run_invariant`, `always_of_invariant`: the induction rule for invariants.
* `always_iff_admissible`: the exactness rule. When the invariant survives a step exactly if
  the step meets a condition, it holds along a run exactly if every step meets the condition.
  `admissible_iff_admissible` is the same for a property of steps.
* `run_comp`, `always_comp`: a machine seen through a machine that carries it along.
* `outputs_determined_iff`: what two runs by related events show.
* `run_simulation`, `outputs_eq_of_simulation`: two machines driven by the same events stay
  related, and related machines emit the same outputs.
-/

namespace Machine

universe u v w x

variable {σ : Type u} {τ : Type v} {ε : Type w} {ο : Type x}

/-- The state reached from `s` by the events `es`. -/
def run (step : σ → ε → σ) (s : σ) (es : List ε) : σ := es.foldl step s

/-- Every event of the run is allowed by `ok` in the state in which it occurs. -/
def Admissible (step : σ → ε → σ) (ok : σ → ε → Prop) : σ → List ε → Prop
  | _, [] => True
  | s, e :: es => ok s e ∧ Admissible step ok (step s e) es

/-- `P` holds in every state of the run, the first and the last included. -/
def Always (step : σ → ε → σ) (P : σ → Prop) : σ → List ε → Prop
  | s, [] => P s
  | s, e :: es => P s ∧ Always step P (step s e) es

/-- The outputs of the events of the run, in order. -/
def outputs (step : σ → ε → σ) (out : σ → ε → ο) : σ → List ε → List ο
  | _, [] => []
  | s, e :: es => out s e :: outputs step out (step s e) es

section Rules

variable {step : σ → ε → σ} {ok cond : σ → ε → Prop} {P : σ → Prop}

@[simp] lemma run_nil (s : σ) : run step s [] = s := rfl

@[simp] lemma run_cons (s : σ) (e : ε) (es : List ε) :
    run step s (e :: es) = run step (step s e) es := rfl

lemma run_append (s : σ) (es fs : List ε) :
    run step s (es ++ fs) = run step (run step s es) fs := by
  rw [run, run, run, List.foldl_append]

@[simp] lemma admissible_nil (s : σ) : Admissible step ok s [] := trivial

@[simp] lemma admissible_cons (s : σ) (e : ε) (es : List ε) :
    Admissible step ok s (e :: es) ↔ ok s e ∧ Admissible step ok (step s e) es := Iff.rfl

@[simp] lemma always_nil (s : σ) : Always step P s ([] : List ε) ↔ P s := Iff.rfl

@[simp] lemma always_cons (s : σ) (e : ε) (es : List ε) :
    Always step P s (e :: es) ↔ P s ∧ Always step P (step s e) es := Iff.rfl

lemma admissible_true (s : σ) (es : List ε) : Admissible step (fun _ _ => True) s es := by
  induction es generalizing s with
  | nil => trivial
  | cons e es ih => exact ⟨trivial, ih _⟩

/-- An admissible run stays admissible under a weaker condition. -/
lemma Admissible.mono (h : ∀ s e, ok s e → cond s e) {s : σ} {es : List ε}
    (hes : Admissible step ok s es) : Admissible step cond s es := by
  induction es generalizing s with
  | nil => trivial
  | cons e es ih => exact ⟨h s e hes.1, ih hes.2⟩

lemma admissible_and {s : σ} {es : List ε} :
    Admissible step (fun s e => ok s e ∧ cond s e) s es
      ↔ Admissible step ok s es ∧ Admissible step cond s es := by
  induction es generalizing s with
  | nil => simp
  | cons e es ih =>
      simp only [admissible_cons, ih]
      tauto

lemma admissible_append {s : σ} {es fs : List ε} :
    Admissible step ok s (es ++ fs)
      ↔ Admissible step ok s es ∧ Admissible step ok (run step s es) fs := by
  induction es generalizing s with
  | nil => simp
  | cons e es ih => simp only [List.cons_append, admissible_cons, run_cons, ih, and_assoc]

lemma always_append {s : σ} {es fs : List ε} :
    Always step P s (es ++ fs) ↔ Always step P s es ∧ Always step P (run step s es) fs := by
  induction es generalizing s with
  | nil =>
      refine ⟨fun h => ⟨?_, h⟩, fun h => h.2⟩
      cases fs with
      | nil => exact h
      | cons f fs => exact h.1
  | cons e es ih => simp only [List.cons_append, always_cons, run_cons, ih, and_assoc]

/-- A property of every state of a run is one of its first state. -/
lemma Always.head {s : σ} {es : List ε} (h : Always step P s es) : P s := by
  cases es with
  | nil => exact h
  | cons e es => exact h.1

lemma Always.mono {Q : σ → Prop} (h : ∀ s, P s → Q s) {s : σ} {es : List ε}
    (hes : Always step P s es) : Always step Q s es := by
  induction es generalizing s with
  | nil => exact h s hes
  | cons e es ih => exact ⟨h s hes.1, ih hes.2⟩

/-- A property of every state holds behind every step. -/
lemma Always.steps {s : σ} {es : List ε} (h : Always step P s es) :
    Admissible step (fun s e => P (step s e)) s es := by
  induction es generalizing s with
  | nil => trivial
  | cons e es ih => exact ⟨h.2.head, ih h.2⟩

/-- A property of every state holds before every step. -/
lemma Always.admissible {s : σ} {es : List ε} (h : Always step P s es) :
    Admissible step (fun s _ => P s) s es := by
  induction es generalizing s with
  | nil => trivial
  | cons e es ih => exact ⟨h.head, ih h.2⟩

/-- A condition on the events alone. -/
lemma admissible_iff_forall {p : ε → Prop} {s : σ} {es : List ε} :
    Admissible step (fun _ e => p e) s es ↔ ∀ e ∈ es, p e := by
  induction es generalizing s with
  | nil => simp
  | cons e es ih => rw [admissible_cons, ih, List.forall_mem_cons]

/-- A run is admissible exactly if each of its events is allowed behind those before it. -/
theorem admissible_iff_forall_split {s : σ} {es : List ε} :
    Admissible step ok s es ↔
      ∀ pre e post, es = pre ++ e :: post → ok (run step s pre) e := by
  constructor
  · rintro h pre e post rfl
    exact (admissible_append.mp h).2.1
  · intro h
    induction es generalizing s with
    | nil => trivial
    | cons e es ih =>
        refine ⟨h [] e es rfl, ih ?_⟩
        intro pre e' post hes
        exact h (e :: pre) e' post (congrArg (e :: ·) hes)

/-- A property of every state of a run is one of its last state. -/
lemma Always.last {s : σ} {es : List ε} (h : Always step P s es) : P (run step s es) := by
  induction es generalizing s with
  | nil => exact h
  | cons e es ih => exact ih h.2

/-- **The invariant rule along a run**: what the first state has and every allowed step
preserves holds in every state. -/
theorem always_of_invariant (hstep : ∀ s e, P s → ok s e → P (step s e)) {s : σ}
    {es : List ε} (hs : P s) (hok : Admissible step ok s es) : Always step P s es := by
  induction es generalizing s with
  | nil => exact hs
  | cons e es ih => exact ⟨hs, ih (hstep s e hs hok.1) hok.2⟩

/-- **The invariant rule**, read in the last state. -/
theorem run_invariant (hstep : ∀ s e, P s → ok s e → P (step s e)) {s : σ} {es : List ε}
    (hs : P s) (hok : Admissible step ok s es) : P (run step s es) :=
  (always_of_invariant hstep hs hok).last

/-- **The exactness rule**: if on allowed steps the invariant survives exactly when `cond`
holds of the step, it holds along an allowed run exactly when `cond` holds of every step. -/
theorem always_iff_admissible
    (hstep : ∀ s e, P s → ok s e → (P (step s e) ↔ cond s e)) {s : σ} {es : List ε}
    (hs : P s) (hok : Admissible step ok s es) :
    Always step P s es ↔ Admissible step cond s es := by
  induction es generalizing s with
  | nil => simp [hs]
  | cons e es ih =>
      rw [always_cons, admissible_cons]
      constructor
      · rintro ⟨-, hes⟩
        exact ⟨(hstep s e hs hok.1).mp hes.head, (ih hes.head hok.2).mp hes⟩
      · rintro ⟨hc, hes⟩
        have hP := (hstep s e hs hok.1).mpr hc
        exact ⟨hs, (ih hP hok.2).mpr hes⟩

/-- **The exactness rule for steps**: if on allowed steps from states with the invariant `out`
holds exactly when `cond` does, and `cond` keeps the invariant, then along an allowed run `out`
holds of every step exactly when `cond` does. -/
theorem admissible_iff_admissible {out : σ → ε → Prop}
    (hout : ∀ s e, P s → ok s e → (out s e ↔ cond s e))
    (hstep : ∀ s e, P s → ok s e → cond s e → P (step s e)) {s : σ} {es : List ε}
    (hs : P s) (hok : Admissible step ok s es) :
    Admissible step out s es ↔ Admissible step cond s es := by
  induction es generalizing s with
  | nil => exact Iff.rfl
  | cons e es ih =>
      rw [admissible_cons, admissible_cons, hout s e hs hok.1]
      exact and_congr_right fun hc => ih (hstep s e hs hok.1 hc) hok.2

end Rules

section Simulation

variable {step : σ → ε → σ} {step' : τ → ε → τ} {ok : σ → ε → Prop} {R : σ → τ → Prop}

/-- **The simulation rule**: a relation every allowed step preserves relates the states
that two machines reach by the same events. -/
theorem run_simulation (hstep : ∀ s t e, R s t → ok s e → R (step s e) (step' t e)) {s : σ}
    {t : τ} {es : List ε} (hst : R s t) (hok : Admissible step ok s es) :
    R (run step s es) (run step' t es) := by
  induction es generalizing s t with
  | nil => exact hst
  | cons e es ih => exact ih (hstep s t e hst hok.1) hok.2

/-- A property of every state of one machine is one of the states the other machine reaches. -/
theorem always_of_simulation {P : σ → Prop} {Q : τ → Prop}
    (hstep : ∀ s t e, R s t → R (step s e) (step' t e)) (hPQ : ∀ s t, R s t → Q t → P s) {s : σ}
    {t : τ} {es : List ε} (hst : R s t) (h : Always step' Q t es) : Always step P s es := by
  induction es generalizing s t with
  | nil => exact hPQ s t hst h
  | cons e es ih => exact ⟨hPQ s t hst h.1, ih (hstep s t e hst) h.2⟩

/-- **The two-run rule**: machines in related states emit the same outputs. -/
theorem outputs_eq_of_simulation {out : σ → ε → ο} {out' : τ → ε → ο}
    (hstep : ∀ s t e, R s t → ok s e → R (step s e) (step' t e))
    (hout : ∀ s t e, R s t → ok s e → out s e = out' t e) {s : σ} {t : τ} {es : List ε}
    (hst : R s t) (hok : Admissible step ok s es) :
    outputs step out s es = outputs step' out' t es := by
  induction es generalizing s t with
  | nil => rfl
  | cons e es ih =>
      rw [outputs, outputs, hout s t e hst hok.1, ih (hstep s t e hst hok.1) hok.2]

end Simulation

section TwoRuns

variable {step : σ → ε → σ} {out : σ → ε → ο}

/-- Outputs that do not depend on the state are those of the events. -/
lemma outputs_eq_map {es : List ε} (hout : ∀ e ∈ es, ∀ s s', out s e = out s' e) (s : σ) :
    outputs step out s es = es.map (out s) := by
  induction es generalizing s with
  | nil => rfl
  | cons e es ih =>
      rw [outputs, List.map_cons, ih fun e' he' => hout e' (List.mem_cons_of_mem e he')]
      congr 1
      refine List.map_congr_left fun e' he' => ?_
      exact hout e' (List.mem_cons_of_mem e he') _ _

/-- Two lists whose elements are related to one list have one image exactly if related
elements do. -/
lemma map_eq_of_related_iff {R : ε → ε → Prop} (hR : ∀ e, ∃ a, R e a) (f : ε → ο) (es : List ε) :
    (∀ as bs, List.Forall₂ R es as → List.Forall₂ R es bs → as.map f = bs.map f) ↔
      ∀ e ∈ es, ∀ a b, R e a → R e b → f a = f b := by
  induction es with
  | nil =>
      refine iff_of_true (fun as bs has hbs => ?_) (by simp)
      cases has
      cases hbs
      rfl
  | cons e es ih =>
      rw [List.forall_mem_cons, ← ih]
      constructor
      · intro h
        choose g hg using hR
        have hall : List.Forall₂ R es (es.map g) :=
          List.forall₂_map_right_iff.mpr (List.forall₂_same.mpr fun e _ => hg e)
        refine ⟨fun a b ha hb => ?_, fun as bs has hbs => ?_⟩
        · exact (List.cons.inj (h _ _ (.cons ha hall) (.cons hb hall))).1
        · exact (List.cons.inj (h _ _ (.cons (hg e) has) (.cons (hg e) hbs))).2
      · rintro ⟨hhead, htail⟩ as bs has hbs
        cases has with
        | cons ha has =>
            cases hbs with
            | cons hb hbs =>
                rw [List.map_cons, List.map_cons, hhead _ _ ha hb, htail _ _ has hbs]

/-- **The determinacy rule**: where what an event shows does not depend on the state, any two
runs by events related to `es` show the same exactly if related events show the same. -/
theorem outputs_determined_iff {R : ε → ε → Prop} {es : List ε} (hR : ∀ e, ∃ a, R e a)
    (hout : ∀ e ∈ es, ∀ a, R e a → ∀ s s', out s a = out s' a) (s : σ) :
    (∀ as bs, List.Forall₂ R es as → List.Forall₂ R es bs →
        outputs step out s as = outputs step out s bs) ↔
      ∀ e ∈ es, ∀ a b, R e a → R e b → out s a = out s b := by
  have hmap : ∀ as, List.Forall₂ R es as → outputs step out s as = as.map (out s) := by
    intro as has
    refine outputs_eq_map (fun a ha => ?_) s
    obtain ⟨i, hi, rfl⟩ := List.getElem_of_mem ha
    have hlen : i < es.length := by
      rw [has.length_eq]
      exact hi
    exact hout es[i] (List.getElem_mem hlen) as[i] (has.get hlen hi)
  rw [← map_eq_of_related_iff hR]
  constructor
  · intro h as bs has hbs
    rw [← hmap as has, ← hmap bs hbs]
    exact h as bs has hbs
  · intro h as bs has hbs
    rw [hmap as has, hmap bs hbs]
    exact h as bs has hbs

end TwoRuns

section Projection

variable {step : σ → ε → σ} {step' : τ → ε → τ} {f : σ → τ}

/-- A machine that another one carries along runs as it does alone. -/
lemma run_comp (hf : ∀ s e, f (step s e) = step' (f s) e) (s : σ) (es : List ε) :
    f (run step s es) = run step' (f s) es := by
  induction es generalizing s with
  | nil => rfl
  | cons e es ih => rw [run_cons, run_cons, ih, hf]

lemma admissible_comp (hf : ∀ s e, f (step s e) = step' (f s) e) {ok : τ → ε → Prop} {s : σ}
    {es : List ε} :
    Admissible step (fun s e => ok (f s) e) s es ↔ Admissible step' ok (f s) es := by
  induction es generalizing s with
  | nil => exact Iff.rfl
  | cons e es ih => rw [admissible_cons, admissible_cons, ih, hf]

lemma always_comp (hf : ∀ s e, f (step s e) = step' (f s) e) {Q : τ → Prop} {s : σ}
    {es : List ε} : Always step (fun s => Q (f s)) s es ↔ Always step' Q (f s) es := by
  induction es generalizing s with
  | nil => exact Iff.rfl
  | cons e es ih => rw [always_cons, always_cons, ih, hf]

end Projection

end Machine
