import Mathlib.Tactic

/-!
A bounds-checked array: `n` cells that are read and overwritten in ranges inside it.

* `Write`: a range with what is put there. It carries that the range lies inside.
* `contents`, `lastWritten`: the array after a list of writes, and what they last put in a cell.
* `contents_apply`: a cell holds what was last written there, or what it held at first.
-/

namespace Cells

universe u

variable {α : Type u} {n : ℕ}

/-- A write of the cells `[off, off + values.length)`. -/
structure Write (α : Type u) (n : ℕ) where
  off : ℕ
  values : List α
  fits : off + values.length ≤ n

/-- The array with the range of the write overwritten. -/
def Write.apply (w : Write α n) (a : Fin n → α) : Fin n → α :=
  fun o => if w.off ≤ o then w.values.getD (o - w.off) (a o) else a o

/-- The array after a list of writes, newest first. -/
def contents (a : Fin n → α) (ws : List (Write α n)) : Fin n → α := ws.foldr Write.apply a

/-- What a list of writes, newest first, last put in a cell. -/
def lastWritten : List (Write α n) → Fin n → Option α
  | [], _ => none
  | w :: ws, o =>
      if w.off ≤ o then w.values[o - w.off]?.or (lastWritten ws o) else lastWritten ws o

/-- The cells `[off, off + len)`. -/
def read (a : Fin n → α) (off len : ℕ) (h : off + len ≤ n) : List α :=
  List.ofFn fun i : Fin len => a ⟨off + i, by omega⟩

variable {a b : Fin n → α} {ws : List (Write α n)} {o : Fin n}

@[simp] lemma contents_nil : contents a [] = a := rfl

@[simp] lemma contents_cons (w : Write α n) : contents a (w :: ws) = w.apply (contents a ws) := rfl

/-- **A cell holds what was last written there.** -/
theorem contents_apply : contents a ws o = (lastWritten ws o).getD (a o) := by
  induction ws with
  | nil => rfl
  | cons w ws ih =>
      rw [contents_cons, Write.apply, lastWritten, ih]
      by_cases hle : w.off ≤ o
      · rw [if_pos hle, if_pos hle]
        cases hget : w.values[(o : ℕ) - w.off]? <;>
          simp [List.getD_eq_getElem?_getD, hget]
      · rw [if_neg hle, if_neg hle]

/-- **A range is read as it was last written.** -/
theorem read_contents {off len : ℕ} (h : off + len ≤ n) :
    read (contents a ws) off len h =
      List.ofFn fun i : Fin len =>
        (lastWritten ws ⟨off + i, by omega⟩).getD (a ⟨off + i, by omega⟩) := by
  rw [read]
  congr 1
  funext i
  exact contents_apply

end Cells
