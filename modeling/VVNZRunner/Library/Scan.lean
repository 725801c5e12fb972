import Mathlib.Tactic

/-!
Linear search: a loop that tries one index after the other and stops at the first hit.

* `first`, `visited`: the index the loop stops at, and the indices it tries.
* `IsFirst`: the specification. `first_eq_some_iff`, `first_eq_none_iff`, `mem_visited_iff`: the
  loop over the indices below `n` meets it.
-/

namespace Scan

variable (P : ℕ → Prop) [DecidablePred P]

/-- The first of the `fuel` indices from `i` on with `P`. -/
def first : ℕ → ℕ → Option ℕ
  | 0, _ => none
  | fuel + 1, i => if P i then some i else first fuel (i + 1)

/-- The indices tried until then. -/
def visited : ℕ → ℕ → List ℕ
  | 0, _ => []
  | fuel + 1, i => i :: if P i then [] else visited fuel (i + 1)

omit [DecidablePred P] in
/-- `k` is the first index with `P`, and lies below `n`. -/
def IsFirst (n k : ℕ) : Prop := k < n ∧ P k ∧ ∀ j < k, ¬ P j

variable {P} {fuel i k n : ℕ}

omit [DecidablePred P] in
lemma IsFirst.eq {l : ℕ} (hk : IsFirst P n k) (hl : IsFirst P n l) : k = l := by
  rcases Nat.lt_trichotomy k l with hlt | heq | hgt
  · exact absurd hk.2.1 (hl.2.2 k hlt)
  · exact heq
  · exact absurd hl.2.1 (hk.2.2 l hgt)

omit [DecidablePred P] in
/-- Where there is a hit there is a first one. -/
lemma exists_isFirst (hi : i < n) (h : P i) : ∃ k ≤ i, IsFirst P n k := by
  induction i using Nat.strong_induction_on with
  | _ i ih =>
    by_cases hbefore : ∃ j < i, P j
    · obtain ⟨j, hj, hPj⟩ := hbefore
      obtain ⟨k, hk, hfirst⟩ := ih j hj (hj.trans hi) hPj
      exact ⟨k, hk.trans hj.le, hfirst⟩
    · push Not at hbefore
      exact ⟨i, le_rfl, hi, h, hbefore⟩

lemma first_eq_some (h : first P fuel i = some k) :
    i ≤ k ∧ k < i + fuel ∧ P k ∧ ∀ j, i ≤ j → j < k → ¬ P j := by
  induction fuel generalizing i with
  | zero => cases h
  | succ fuel ih =>
      rw [first] at h
      split_ifs at h with hP
      · cases h
        exact ⟨le_rfl, by omega, hP, fun j hij hji => absurd hji (by omega)⟩
      · obtain ⟨hle, hlt, hPk, hbefore⟩ := ih h
        refine ⟨by omega, by omega, hPk, fun j hij hjk => ?_⟩
        rcases Nat.eq_or_lt_of_le hij with rfl | hlt'
        · exact hP
        · exact hbefore j hlt' hjk

lemma first_eq_none (h : first P fuel i = none) {j : ℕ} (hij : i ≤ j) (hj : j < i + fuel) :
    ¬ P j := by
  induction fuel generalizing i with
  | zero => omega
  | succ fuel ih =>
      rw [first] at h
      split_ifs at h with hP
      rcases Nat.eq_or_lt_of_le hij with rfl | hlt
      · exact hP
      · exact ih h hlt (by omega)

/-- **The loop stops at the first hit.** -/
theorem first_eq_some_iff : first P n 0 = some k ↔ IsFirst P n k := by
  constructor
  · intro h
    obtain ⟨-, hlt, hP, hbefore⟩ := first_eq_some h
    exact ⟨by omega, hP, fun j hj => hbefore j (Nat.zero_le j) hj⟩
  · intro h
    cases hfirst : first P n 0 with
    | none => exact absurd h.2.1 (first_eq_none hfirst (Nat.zero_le k) (by have := h.1; omega))
    | some l =>
        obtain ⟨-, hlt, hP, hbefore⟩ := first_eq_some hfirst
        have hl : IsFirst P n l := ⟨by omega, hP, fun j hj => hbefore j (Nat.zero_le j) hj⟩
        rw [h.eq hl]

/-- **The loop finds nothing exactly if there is nothing.** -/
theorem first_eq_none_iff : first P n 0 = none ↔ ∀ j < n, ¬ P j := by
  constructor
  · exact fun h j hj => first_eq_none h (Nat.zero_le j) (by omega)
  · intro h
    cases hfirst : first P n 0 with
    | none => rfl
    | some k => exact absurd (first_eq_some_iff.mp hfirst).2.1 (h k (first_eq_some_iff.mp hfirst).1)

lemma mem_visited : k ∈ visited P fuel i ↔
    i ≤ k ∧ k < i + fuel ∧ ∀ j, i ≤ j → j < k → ¬ P j := by
  induction fuel generalizing i with
  | zero =>
      rw [visited]
      refine iff_of_false List.not_mem_nil ?_
      omega
  | succ fuel ih =>
      rw [visited, List.mem_cons]
      constructor
      · rintro (rfl | hmem)
        · exact ⟨le_rfl, by omega, fun j hij hji => absurd hji (by omega)⟩
        · split_ifs at hmem with hP
          · cases hmem
          · obtain ⟨hle, hlt, hbefore⟩ := ih.mp hmem
            refine ⟨by omega, by omega, fun j hij hjk => ?_⟩
            rcases Nat.eq_or_lt_of_le hij with rfl | hlt'
            · exact hP
            · exact hbefore j hlt' hjk
      · rintro ⟨hle, hlt, hbefore⟩
        rcases Nat.eq_or_lt_of_le hle with rfl | hlt'
        · exact .inl rfl
        · right
          rw [if_neg (hbefore i le_rfl hlt')]
          exact ih.mpr ⟨hlt', by omega, fun j hij hjk => hbefore j (by omega) hjk⟩

/-- The indices tried are those with no hit before them. -/
theorem mem_visited_iff : k ∈ visited P n 0 ↔ k < n ∧ ∀ j < k, ¬ P j := by
  rw [mem_visited]
  constructor
  · rintro ⟨-, hlt, hbefore⟩
    exact ⟨by omega, fun j hj => hbefore j (Nat.zero_le j) hj⟩
  · rintro ⟨hlt, hbefore⟩
    exact ⟨Nat.zero_le k, by omega, fun j _ hj => hbefore j hj⟩

end Scan
