import Mathlib.Tactic

/-!
One-to-one correspondence of two finite sets along keys.

* `Matched`: every element of one set has exactly one element of the other with its key, in both
  directions.
* `Matched.insert`, `Matched.erase`: a pair with one key enters both sets or leaves both.
-/

namespace Matching

universe u v w

variable {α : Type u} {β : Type v} {κ : Type w} {f : α → κ} {g : β → κ} {A : Finset α}
  {B : Finset β} {a : α} {b : β}

/-- The elements of `A` and `B` correspond one to one, with equal keys. -/
structure Matched (f : α → κ) (g : β → κ) (A : Finset α) (B : Finset β) : Prop where
  left : ∀ a ∈ A, ∃! b, b ∈ B ∧ g b = f a
  right : ∀ b ∈ B, ∃! a, a ∈ A ∧ f a = g b

lemma Matched.empty : Matched f g ∅ ∅ := ⟨by simp, by simp⟩

/-- Correspondence is symmetric. -/
lemma Matched.symm (h : Matched f g A B) : Matched g f B A := ⟨h.right, h.left⟩

/-- A key is in use on both sides or on neither. -/
lemma Matched.fresh (h : Matched f g A B) {k : κ} (hk : ∀ a ∈ A, f a ≠ k) :
    ∀ b ∈ B, g b ≠ k := by
  rintro b hb rfl
  obtain ⟨a, ⟨ha, hab⟩, -⟩ := h.right b hb
  exact hk a ha hab

section Update

variable [DecidableEq α] [DecidableEq β]

/-- Behind the entry of a pair every element has its partner. -/
lemma Matched.insert_left (h : Matched f g A B) (hab : f a = g b) (hfresh : ∀ a' ∈ A, f a' ≠ f a) :
    ∀ a' ∈ insert a A, ∃! b', b' ∈ insert b B ∧ g b' = f a' := by
  have hfreshB : ∀ b' ∈ B, g b' ≠ f a := h.fresh hfresh
  intro a' ha'
  rcases Finset.mem_insert.mp ha' with rfl | ha'
  · refine ⟨b, ⟨Finset.mem_insert_self b B, hab.symm⟩, ?_⟩
    rintro b' ⟨hb', hkey⟩
    rcases Finset.mem_insert.mp hb' with rfl | hb'
    · rfl
    · exact absurd hkey (hfreshB b' hb')
  · obtain ⟨b', ⟨hb', hkey⟩, huniq⟩ := h.left a' ha'
    refine ⟨b', ⟨Finset.mem_insert_of_mem hb', hkey⟩, ?_⟩
    rintro b'' ⟨hb'', hkey'⟩
    rcases Finset.mem_insert.mp hb'' with rfl | hb''
    · exact absurd (hkey'.symm.trans hab.symm) (hfresh a' ha')
    · exact huniq b'' ⟨hb'', hkey'⟩

/-- **A new pair** with an unused key keeps the correspondence. -/
theorem Matched.insert (h : Matched f g A B) (hab : f a = g b) (hfresh : ∀ a' ∈ A, f a' ≠ f a) :
    Matched f g (insert a A) (insert b B) := by
  have hfreshB : ∀ b' ∈ B, g b' ≠ g b := by
    rw [← hab]
    exact h.fresh hfresh
  exact ⟨h.insert_left hab hfresh, h.symm.insert_left hab.symm hfreshB⟩

/-- Behind the exit of a pair every element has its partner. -/
lemma Matched.erase_left (h : Matched f g A B) (ha : a ∈ A) (hb : b ∈ B) (hab : f a = g b) :
    ∀ a' ∈ A.erase a, ∃! b', b' ∈ B.erase b ∧ g b' = f a' := by
  intro a' ha'
  obtain ⟨hne, ha'⟩ := Finset.mem_erase.mp ha'
  obtain ⟨b', ⟨hb', hkey⟩, huniq⟩ := h.left a' ha'
  refine ⟨b', ⟨Finset.mem_erase.mpr ⟨?_, hb'⟩, hkey⟩, ?_⟩
  · rintro rfl
    exact hne ((h.right b' hb).unique ⟨ha', hkey.symm⟩ ⟨ha, hab⟩)
  · rintro b'' ⟨hb'', hkey'⟩
    exact huniq b'' ⟨Finset.mem_of_mem_erase hb'', hkey'⟩

/-- **A pair that leaves** keeps the correspondence. -/
theorem Matched.erase (h : Matched f g A B) (ha : a ∈ A) (hb : b ∈ B) (hab : f a = g b) :
    Matched f g (A.erase a) (B.erase b) :=
  ⟨h.erase_left ha hb hab, h.symm.erase_left hb ha hab.symm⟩

end Update

end Matching
