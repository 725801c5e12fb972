import Mathlib.Tactic

/-!
Ranges rounded outwards to a granule.

* `Span`: a half-open range of natural numbers; `cover g lo hi` rounds the lower end down and
  the upper end up to a multiple of `g`.
* `cover_isLeast`: the cover is the least range with aligned ends that contains `[lo, hi)`.
* `mem_cover_iff`, `cover_disjoint`: the cover is made of the granules the range meets, so
  ranges that share no granule have disjoint covers.
* `toNat_mask`: clearing the low `k` bits of a word rounds it down to a multiple of `2 ^ k`.
-/

namespace Granule

/-- The half-open range `[lo, hi)`. -/
@[ext]
structure Span where
  lo : ℕ
  hi : ℕ
  deriving DecidableEq, Repr

namespace Span

/-- `s` contains `t`. -/
def Contains (s t : Span) : Prop := s.lo ≤ t.lo ∧ t.hi ≤ s.hi

/-- Both ends are multiples of the granule. -/
def Aligned (g : ℕ) (s : Span) : Prop := g ∣ s.lo ∧ g ∣ s.hi

instance : Membership ℕ Span := ⟨fun s x => s.lo ≤ x ∧ x < s.hi⟩

lemma mem_iff {s : Span} {x : ℕ} : x ∈ s ↔ s.lo ≤ x ∧ x < s.hi := Iff.rfl

/-- The spans have no number in common. -/
def Disjoint (s t : Span) : Prop := ∀ x ∈ s, x ∉ t

/-- The spans meet no granule in common. -/
def Apart (g : ℕ) (s t : Span) : Prop := ∀ x ∈ s, ∀ y ∈ t, x / g ≠ y / g

end Span

/-- `[lo, hi)` with both ends rounded outwards to multiples of `g`. -/
def cover (g lo hi : ℕ) : Span := ⟨lo / g * g, (hi + (g - 1)) / g * g⟩

variable {g lo hi : ℕ}

lemma cover_aligned : (cover g lo hi).Aligned g :=
  ⟨Nat.dvd_mul_left g _, Nat.dvd_mul_left g _⟩

lemma cover_contains (hg : 0 < g) : (cover g lo hi).Contains ⟨lo, hi⟩ := by
  refine ⟨Nat.div_mul_le_self lo g, ?_⟩
  have hdiv := Nat.div_add_mod (hi + (g - 1)) g
  have hmod := Nat.mod_lt (hi + (g - 1)) hg
  have hcomm := Nat.mul_comm g ((hi + (g - 1)) / g)
  change hi ≤ (hi + (g - 1)) / g * g
  omega

/-- Every aligned range that contains `[lo, hi)` contains its cover. -/
lemma contains_cover (hg : 0 < g) {s : Span} (hs : s.Aligned g) (h : s.Contains ⟨lo, hi⟩) :
    s.Contains (cover g lo hi) := by
  obtain ⟨⟨a, ha⟩, ⟨b, hb⟩⟩ := hs
  obtain ⟨hlo, hhi⟩ := h
  constructor
  · have hle : a ≤ lo / g := by
      rw [Nat.le_div_iff_mul_le hg, Nat.mul_comm]
      exact ha ▸ hlo
    calc s.lo = a * g := by rw [ha, Nat.mul_comm]
      _ ≤ lo / g * g := Nat.mul_le_mul_right g hle
  · have hlt : (hi + (g - 1)) / g < b + 1 := by
      rw [Nat.div_lt_iff_lt_mul hg, Nat.add_mul, Nat.mul_comm b g, ← hb]
      simp only at hhi
      omega
    calc (hi + (g - 1)) / g * g ≤ b * g := Nat.mul_le_mul_right g (by omega)
      _ = s.hi := by rw [hb, Nat.mul_comm]

/-- **The cover is the least aligned range around `[lo, hi)`.** -/
theorem cover_isLeast (hg : 0 < g) :
    (cover g lo hi).Aligned g ∧ (cover g lo hi).Contains ⟨lo, hi⟩ ∧
      ∀ s : Span, s.Aligned g → s.Contains ⟨lo, hi⟩ → s.Contains (cover g lo hi) :=
  ⟨cover_aligned, cover_contains hg, fun _ => contains_cover hg⟩

/-- The granules of the cover are those the range meets. -/
lemma mem_cover_iff (hg : 0 < g) (h : lo < hi) {x : ℕ} :
    x ∈ cover g lo hi ↔ ∃ y ∈ (⟨lo, hi⟩ : Span), y / g = x / g := by
  have hup : (hi + (g - 1)) / g = (hi - 1) / g + 1 := by
    rw [show hi + (g - 1) = hi - 1 + g by omega, Nat.add_div_right _ hg]
  have hmem : x ∈ cover g lo hi ↔ lo / g ≤ x / g ∧ x / g ≤ (hi - 1) / g := by
    rw [Span.mem_iff, cover, hup, ← Nat.le_div_iff_mul_le hg, ← Nat.div_lt_iff_lt_mul hg,
      Nat.lt_succ_iff]
  rw [hmem]
  constructor
  · rintro ⟨hlo, hhi⟩
    -- the last number of the range, unless the granule of `x` ends before it
    refine ⟨min (hi - 1) (max lo (x / g * g)), ?_, ?_⟩
    · rw [Span.mem_iff]
      dsimp only
      omega
    · have hself : x / g * g / g = x / g := Nat.mul_div_cancel _ hg
      rcases Nat.lt_or_ge (x / g * g) lo with hlt | hge
      · have hle : x / g ≤ lo / g := hself ▸ Nat.div_le_div_right hlt.le
        rw [max_eq_left hlt.le, min_eq_right (by omega)]
        omega
      · rw [max_eq_right hge]
        rcases Nat.lt_or_ge (hi - 1) (x / g * g) with hlt | hge'
        · have hle : (hi - 1) / g ≤ x / g := hself ▸ Nat.div_le_div_right hlt.le
          rw [min_eq_left hlt.le]
          omega
        · rw [min_eq_right hge', hself]
  · rintro ⟨y, hy, hxy⟩
    rw [Span.mem_iff] at hy
    rw [← hxy]
    exact ⟨Nat.div_le_div_right hy.1, Nat.div_le_div_right (by dsimp only at hy; omega)⟩

/-- **Ranges that meet no granule in common have disjoint covers.** -/
theorem cover_disjoint (hg : 0 < g) {lo' hi' : ℕ} (h : lo < hi) (h' : lo' < hi')
    (happart : Span.Apart g ⟨lo, hi⟩ ⟨lo', hi'⟩) :
    (cover g lo hi).Disjoint (cover g lo' hi') := by
  intro x hx hx'
  obtain ⟨y, hy, hyx⟩ := (mem_cover_iff hg h).mp hx
  obtain ⟨z, hz, hzx⟩ := (mem_cover_iff hg h').mp hx'
  exact happart y hy z hz (hyx.trans hzx.symm)

/-! ### Masks -/

/-- Clearing the low `k` bits rounds down to a multiple of `2 ^ k`. -/
lemma toNat_mask {n : ℕ} (x : BitVec n) (k : ℕ) :
    (x >>> k <<< k).toNat = x.toNat / 2 ^ k * 2 ^ k := by
  rw [BitVec.toNat_shiftLeft, BitVec.toNat_ushiftRight, Nat.shiftRight_eq_div_pow,
    Nat.shiftLeft_eq, Nat.mod_eq_of_lt]
  exact lt_of_le_of_lt (Nat.div_mul_le_self _ _) x.isLt

end Granule
