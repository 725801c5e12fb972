import VVNZRunner.Library.Runs

/-!
Events that can be taken out of a run without the others showing anything else.

* `keptOutputs`: the outputs of some of the events of a run.
* `keptOutputs_eq_outputs`: if what is taken out keeps the state related to itself, and related
  states treat the rest alike, then the rest shows what it shows on its own.
-/

namespace Machine

universe u w x

variable {σ : Type u} {ε : Type w} {ο : Type x}

/-- The outputs of the events of the run that `keep` holds of, in order. -/
def keptOutputs (keep : ε → Prop) [DecidablePred keep] (step : σ → ε → σ) (out : σ → ε → ο) :
    σ → List ε → List ο
  | _, [] => []
  | s, e :: es =>
      if keep e then out s e :: keptOutputs keep step out (step s e) es
      else keptOutputs keep step out (step s e) es

section Rules

variable {keep : ε → Prop} [DecidablePred keep] {step : σ → ε → σ} {out : σ → ε → ο}
  {ok : σ → ε → Prop} {R : σ → σ → Prop} {s t : σ} {e : ε} {es : List ε}

lemma keptOutputs_of_kept (h : keep e) :
    keptOutputs keep step out s (e :: es) =
      out s e :: keptOutputs keep step out (step s e) es :=
  if_pos h

lemma keptOutputs_of_erased (h : ¬ keep e) :
    keptOutputs keep step out s (e :: es) = keptOutputs keep step out (step s e) es :=
  if_neg h

/-- **The erasure rule**: events that are taken out of a run leave related states related, and the
others do the same in related states; then the others show in the run what they show without the
events taken out, and the runs end in related states. -/
theorem keptOutputs_eq_outputs
    (hkept : ∀ s t e, R s t → keep e → out s e = out t e ∧ R (step s e) (step t e))
    (herased : ∀ s t e, R s t → ok s e → ¬ keep e → R (step s e) t) (hst : R s t)
    (hok : Admissible step ok s es) :
    keptOutputs keep step out s es = outputs step out t (es.filter keep) ∧
      R (run step s es) (run step t (es.filter keep)) := by
  induction es generalizing s t with
  | nil => exact ⟨rfl, hst⟩
  | cons e es ih =>
      obtain ⟨hoke, hrest⟩ := hok
      by_cases he : keep e
      · obtain ⟨hout, hnext⟩ := hkept s t e hst he
        obtain ⟨hshow, hend⟩ := ih hnext hrest
        rw [keptOutputs_of_kept he, List.filter_cons_of_pos (by simpa using he), outputs, hout,
          hshow]
        exact ⟨rfl, hend⟩
      · rw [keptOutputs_of_erased he, List.filter_cons_of_neg (by simpa using he)]
        exact ih (herased s t e hst hoke he) hrest

end Rules

end Machine
