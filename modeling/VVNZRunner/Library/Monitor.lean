import Mathlib.Tactic

/-!
Monitors: an automaton reads a log of events and may refuse one.

* `reads`: the phase behind a log, if every event is allowed in the phase in which it occurs.
* `reads_append`, `reads_of_stays`: a log in two parts, and a log the automaton does not look at.
* `reads_forced`: what a phase with one way on says about the log.
* `Monitored`: the events between two logs, newest first, take one phase to another.
-/

namespace Monitor

universe u v

variable {π : Type u} {ε : Type v}

/-- The phase behind the events `es`, oldest first. -/
def reads (next : π → ε → Option π) (p : π) (es : List ε) : Option π := es.foldlM next p

variable {next : π → ε → Option π} {p q r : π} {es fs : List ε}

@[simp] lemma reads_nil (p : π) : reads next p [] = some p := rfl

@[simp] lemma reads_cons (p : π) (e : ε) (es : List ε) :
    reads next p (e :: es) = (next p e).bind fun q => reads next q es := by
  rw [reads, List.foldlM_cons]
  rfl

lemma reads_append (p : π) (es fs : List ε) :
    reads next p (es ++ fs) = (reads next p es).bind fun q => reads next q fs := by
  rw [reads, List.foldlM_append]
  rfl

/-- A log read to its end has been read up to every point. -/
lemma reads_append_eq_some :
    reads next p (es ++ fs) = some r ↔
      ∃ q, reads next p es = some q ∧ reads next q fs = some r := by
  rw [reads_append, Option.bind_eq_some_iff]

lemma reads_cons_eq_some {e : ε} :
    reads next p (e :: es) = some r ↔ ∃ q, next p e = some q ∧ reads next q es = some r := by
  rw [reads_cons, Option.bind_eq_some_iff]

/-- Events that leave the phase alone do so together. -/
lemma reads_of_stays (h : ∀ e ∈ es, next p e = some p) : reads next p es = some p := by
  induction es with
  | nil => rfl
  | cons e es ih =>
      rw [reads_cons, h e List.mem_cons_self]
      exact ih fun e' he' => h e' (List.mem_cons_of_mem _ he')

/-- In a phase that allows one kind of event only, a log that goes on to another event begins with
one of that kind. -/
lemma reads_forced {E : ε → Prop} {g : ε} (hnext : ∀ e r, next p e = some r → E e ∧ q = r)
    (hg : ¬ E g) (h : reads next p (es ++ [g]) = some r) :
    ∃ e fs, E e ∧ es = e :: fs ∧ reads next q (fs ++ [g]) = some r := by
  cases es with
  | nil =>
      obtain ⟨p', hp, -⟩ := reads_cons_eq_some.mp h
      exact absurd (hnext g p' hp).1 hg
  | cons e fs =>
      obtain ⟨p', hp, hrest⟩ := reads_cons_eq_some.mp h
      obtain ⟨he, rfl⟩ := hnext e p' hp
      exact ⟨e, fs, he, rfl, hrest⟩

/-- The log `l'` is `l` and events that take the phase `p` to `q`. Both are newest first. -/
def Monitored (next : π → ε → Option π) (p q : π) (l l' : List ε) : Prop :=
  ∃ es, l' = es ++ l ∧ reads next p es.reverse = some q

variable {l l' l'' : List ε}

lemma Monitored.refl (p : π) (l : List ε) : Monitored next p p l l := ⟨[], rfl, rfl⟩

lemma Monitored.trans (h : Monitored next p q l l') (h' : Monitored next q r l' l'') :
    Monitored next p r l l'' := by
  obtain ⟨es, rfl, hes⟩ := h
  obtain ⟨fs, rfl, hfs⟩ := h'
  refine ⟨fs ++ es, (List.append_assoc _ _ _).symm, ?_⟩
  rw [List.reverse_append, reads_append, hes]
  exact hfs

/-- A monitored stretch behind a log that was read is read with it. -/
lemma Monitored.reads (h : Monitored next p q l l') {start : π}
    (hl : reads next start l.reverse = some p) : reads next start l'.reverse = some q := by
  obtain ⟨es, rfl, hes⟩ := h
  rw [List.reverse_append, reads_append, hl]
  exact hes

end Monitor
