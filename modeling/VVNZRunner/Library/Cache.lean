import VVNZRunner.Library.ByteMemory
import VVNZRunner.Library.Runs

/-!
Memory behind a write-back cache, and a device that sees memory only.

* `CachedMemory`: memory, the lines the cache holds and the bytes they hold. `view` is what the
  processor reads.
* `store`, `clean`, `invalidate`, `device`: what the processor and the device do to them.
* `Drift`: what the cache does on its own. It may fill, write back or evict any line at any time.
* `Settled`: the processor reads a byte at an address, and memory holds it unless the line is
  dirty. `Settled.drifts`: the cache keeps this up on its own.
* `view_drifts_iff`: what the device wrote is what the processor reads, however the cache goes on,
  exactly if the line is not held or holds that byte already.
-/

namespace WriteBack

open ByteMemory Machine

universe u

variable {n : ℕ} {ι : Type u}

/-- A line is held and differs from memory, is held and was not written to, or is not held. -/
inductive LineState where
  | absent
  | clean
  | dirty
  deriving DecidableEq, Repr

/-- Memory and the cache in front of it; `data` counts where the line is held. -/
structure CachedMemory (n : ℕ) (ι : Type u) where
  ram : Memory n
  data : Memory n
  state : ι → LineState

/-! ### What is done to them -/

section Ops

variable (line : BitVec n → ι)

/-- What the processor reads. -/
def CachedMemory.view (c : CachedMemory n ι) : Memory n := fun x =>
  if c.state (line x) = .absent then c.ram x else c.data x

/-- A line of the `k` bytes from `a` on. -/
def Touches (a : BitVec n) (k : ℕ) (l : ι) : Prop := ∃ i < k, line (a + BitVec.ofNat n i) = l

instance [DecidableEq ι] (a : BitVec n) (k : ℕ) : DecidablePred (Touches line a k) := fun _ =>
  inferInstanceAs (Decidable (∃ i < k, _))

/-- The lines with `P` are written back. -/
def writeBack (P : ι → Prop) [DecidablePred P] (c : CachedMemory n ι) : CachedMemory n ι where
  ram := fun x => if P (line x) ∧ c.state (line x) = .dirty then c.data x else c.ram x
  data := c.data
  state := fun l => if P l ∧ c.state l = .dirty then .clean else c.state l

/-- The lines with `P` are dropped; what was not written back is lost. -/
def drop (P : ι → Prop) [DecidablePred P] (c : CachedMemory n ι) : CachedMemory n ι :=
  { c with state := fun l => if P l then .absent else c.state l }

/-- The device leaves `m` in memory. -/
def device (m : Memory n) (c : CachedMemory n ι) : CachedMemory n ι := { c with ram := m }

variable [DecidableEq ι]

/-- A line that is not held is read from memory. -/
def fill (l : ι) (c : CachedMemory n ι) : CachedMemory n ι :=
  if c.state l = .absent then
    { c with
      data := fun x => if line x = l then c.ram x else c.data x
      state := Function.update c.state l .clean }
  else c

/-- The processor stores bytes. The lines they lie in are held and dirty behind that. -/
def store (a : BitVec n) (bs : List Byte) (c : CachedMemory n ι) : CachedMemory n ι :=
  { c with
    data := (c.view line).write a bs
    state := fun l => if Touches line a bs.length l then .dirty else c.state l }

/-- A range is cleaned. -/
def clean (a : BitVec n) (k : ℕ) : CachedMemory n ι → CachedMemory n ι :=
  writeBack line (Touches line a k)

/-- A range is invalidated. -/
def invalidate (a : BitVec n) (k : ℕ) : CachedMemory n ι → CachedMemory n ι :=
  drop (Touches line a k)

/-- What the cache does on its own. -/
inductive Drift (ι : Type u) where
  | fill (l : ι)
  | writeBack (l : ι)
  | evict (l : ι)

def drift (c : CachedMemory n ι) : Drift ι → CachedMemory n ι
  | .fill l => WriteBack.fill line l c
  | .writeBack l => WriteBack.writeBack line (· = l) c
  | .evict l => drop (· = l) (WriteBack.writeBack line (· = l) c)

end Ops

/-! ### Settled bytes -/

section Settled

variable {line : BitVec n → ι} {c : CachedMemory n ι} {x a : BitVec n} {b : Byte}
  {bs : List Byte} {k : ℕ}

lemma touches_of_inRange (line : BitVec n → ι) (h : InRange a k x) : Touches line a k (line x) := by
  refine ⟨(x - a).toNat, h, congrArg line ?_⟩
  rw [BitVec.ofNat_toNat, BitVec.setWidth_eq]
  grind

/-- Where both ends are multiples of the line size `g`, a range is made up of whole lines. -/
lemma touches_div_iff {g : ℕ} (hg : 0 < g) (ha : g ∣ a.toNat) (hk : g ∣ k)
    (hn : a.toNat + k ≤ 2 ^ n) :
    Touches (fun y : BitVec n => y.toNat / g) a k (x.toNat / g) ↔ InRange a k x := by
  refine ⟨?_, touches_of_inRange _⟩
  rintro ⟨i, hi, hline⟩
  have haddr : (a + BitVec.ofNat n i).toNat = a.toNat + i := by
    rw [BitVec.toNat_add, BitVec.toNat_ofNat, Nat.mod_eq_of_lt (by omega : i < 2 ^ n),
      Nat.mod_eq_of_lt (by omega)]
  rw [inRange_iff_of_le hn]
  dsimp only at hline
  rw [haddr] at hline
  obtain ⟨p, hp⟩ := ha
  obtain ⟨q, hq⟩ := hk
  have hlow : p ≤ x.toNat / g := by
    rw [← hline, Nat.le_div_iff_mul_le hg, Nat.mul_comm, ← hp]
    omega
  have hhigh : x.toNat / g < p + q := by
    rw [← hline, Nat.div_lt_iff_lt_mul hg, Nat.add_mul, Nat.mul_comm p, Nat.mul_comm q, ← hp, ← hq]
    omega
  rw [Nat.le_div_iff_mul_le hg, Nat.mul_comm, ← hp] at hlow
  rw [Nat.div_lt_iff_lt_mul hg, Nat.add_mul, Nat.mul_comm p, Nat.mul_comm q, ← hp, ← hq] at hhigh
  exact ⟨hlow, hhigh⟩

/-- The processor reads `b` at `x`, and memory holds it unless the line is dirty. -/
structure Settled (line : BitVec n → ι) (c : CachedMemory n ι) (x : BitVec n) (b : Byte) : Prop where
  view : c.view line x = b
  ram : c.state (line x) ≠ .dirty → c.ram x = b

variable {P : ι → Prop} [DecidablePred P]

lemma Settled.writeBack (h : Settled line c x b) : Settled line (writeBack line P c) x b := by
  have hview := h.view
  rw [CachedMemory.view] at hview
  by_cases hback : P (line x) ∧ c.state (line x) = .dirty
  · have hstate : (WriteBack.writeBack line P c).state (line x) = .clean := if_pos hback
    have hram : (WriteBack.writeBack line P c).ram x = c.data x := if_pos hback
    rw [hback.2, if_neg (by decide)] at hview
    refine ⟨?_, fun _ => hram.trans hview⟩
    rw [CachedMemory.view, hstate, if_neg (by decide)]
    exact hview
  · have hstate : (WriteBack.writeBack line P c).state (line x) = c.state (line x) := if_neg hback
    have hram : (WriteBack.writeBack line P c).ram x = c.ram x := if_neg hback
    refine ⟨?_, fun hdirty => hram.trans (h.ram (hstate ▸ hdirty))⟩
    rw [CachedMemory.view, hstate, hram]
    exact hview

/-- Lines may be dropped unless they are dirty. -/
lemma Settled.drop (h : Settled line c x b) (hP : P (line x) → c.state (line x) ≠ .dirty) :
    Settled line (drop P c) x b := by
  by_cases hline : P (line x)
  · have hstate : (WriteBack.drop P c).state (line x) = .absent := if_pos hline
    have hram : c.ram x = b := h.ram (hP hline)
    refine ⟨?_, fun _ => hram⟩
    rw [CachedMemory.view, hstate, if_pos rfl]
    exact hram
  · have hstate : (WriteBack.drop P c).state (line x) = c.state (line x) := if_neg hline
    refine ⟨?_, fun hdirty => h.ram (hstate ▸ hdirty)⟩
    rw [CachedMemory.view, hstate]
    exact h.view

/-- Behind a write-back of its line a byte is not dirty. -/
lemma writeBack_state_ne (hP : P (line x)) : (writeBack line P c).state (line x) ≠ .dirty := by
  rw [WriteBack.writeBack]
  dsimp only
  split_ifs with hdirty
  · decide
  · exact fun h => hdirty ⟨hP, h⟩

/-- The device may write elsewhere. -/
lemma Settled.device (h : Settled line c x b) {m : Memory n} (hm : m x = c.ram x) :
    Settled line (device m c) x b := by
  refine ⟨?_, fun hdirty => hm.trans (h.ram hdirty)⟩
  have hview := h.view
  rw [CachedMemory.view] at hview ⊢
  change (if c.state (line x) = .absent then m x else c.data x) = b
  rw [hm]
  exact hview

variable [DecidableEq ι]

/-- The processor may store elsewhere, in the same line or not. -/
lemma Settled.store (h : Settled line c x b) (hx : ¬ InRange a bs.length x) :
    Settled line (store line a bs c) x b := by
  have hdata : (WriteBack.store line a bs c).data x = c.view line x := write_apply_outside hx
  by_cases htouch : Touches line a bs.length (line x)
  · have hstate : (WriteBack.store line a bs c).state (line x) = .dirty := if_pos htouch
    refine ⟨?_, fun hdirty => absurd hstate hdirty⟩
    rw [CachedMemory.view, hstate, if_neg (by decide), hdata]
    exact h.view
  · have hstate : (WriteBack.store line a bs c).state (line x) = c.state (line x) := if_neg htouch
    have hview := h.view
    refine ⟨?_, fun hdirty => h.ram (hstate ▸ hdirty)⟩
    rw [CachedMemory.view, hstate, hdata, hview]
    split_ifs with habsent
    · exact h.ram (by rw [habsent]; decide)
    · rfl

/-- What the processor stored is settled. -/
lemma settled_store (c : CachedMemory n ι) {i : ℕ} (hi : i < bs.length) (hn : bs.length ≤ 2 ^ n) :
    Settled line (store line a bs c) (a + BitVec.ofNat n i) bs[i] := by
  have hstate : (WriteBack.store line a bs c).state (line (a + BitVec.ofNat n i)) = .dirty :=
    if_pos ⟨i, hi, rfl⟩
  refine ⟨?_, fun hdirty => absurd hstate hdirty⟩
  rw [CachedMemory.view, hstate, if_neg (by decide)]
  exact write_apply_offset hi hn

lemma Settled.fill (h : Settled line c x b) (l : ι) : Settled line (fill line l c) x b := by
  rw [WriteBack.fill]
  split_ifs with habsent
  · by_cases hl : line x = l
    · have hram : c.ram x = b := h.ram (by rw [hl, habsent]; decide)
      refine ⟨?_, fun _ => hram⟩
      rw [CachedMemory.view]
      simp only [hl, Function.update_self, if_true]
      rw [if_neg (by decide)]
      exact hram
    · have hstate : Function.update c.state l .clean (line x) = c.state (line x) :=
        Function.update_of_ne hl _ _
      refine ⟨?_, fun hdirty => h.ram (hstate ▸ hdirty)⟩
      rw [CachedMemory.view]
      simp only [hstate, if_neg hl]
      exact h.view
  · exact h

/-- **The cache keeps bytes settled on its own.** -/
lemma Settled.drift (h : Settled line c x b) (d : Drift ι) : Settled line (drift line c d) x b := by
  cases d with
  | fill l => exact h.fill l
  | writeBack l => exact h.writeBack (P := (· = l))
  | evict l =>
      have hback : Settled line (WriteBack.writeBack line (· = l) c) x b := h.writeBack
      exact hback.drop fun hl => writeBack_state_ne hl

lemma Settled.drifts (h : Settled line c x b) (ds : List (Drift ι)) :
    Settled line (run (WriteBack.drift line) c ds) x b :=
  run_invariant (P := fun c : CachedMemory n ι => Settled line c x b)
    (fun _ d hc _ => hc.drift d) h (admissible_true c ds)

/-! ### Lines that are not dirty -/

/-- The cache makes no line dirty on its own. -/
lemma drift_state_ne {l : ι} (h : c.state l ≠ .dirty) (d : Drift ι) :
    (drift line c d).state l ≠ .dirty := by
  cases d with
  | fill l' =>
      rw [WriteBack.drift, WriteBack.fill]
      split_ifs
      · dsimp only
        rw [Function.update_apply]
        split_ifs
        · decide
        · exact h
      · exact h
  | writeBack l' =>
      rw [WriteBack.drift, WriteBack.writeBack]
      dsimp only
      split_ifs
      · decide
      · exact h
  | evict l' =>
      rw [WriteBack.drift, WriteBack.drop, WriteBack.writeBack]
      dsimp only
      split_ifs
      · decide
      · decide
      · exact h

lemma drifts_state_ne {l : ι} (h : c.state l ≠ .dirty) (ds : List (Drift ι)) :
    (run (WriteBack.drift line) c ds).state l ≠ .dirty :=
  run_invariant (P := fun c : CachedMemory n ι => c.state l ≠ .dirty)
    (fun _ d hc _ => drift_state_ne hc d) h (admissible_true c ds)

/-- **What the device wrote is what the processor reads**, however the cache goes on, exactly if
the line is not held or holds that byte. -/
theorem view_drifts_iff :
    (∀ ds, (run (WriteBack.drift line) c ds).view line x = c.ram x) ↔
      (c.state (line x) ≠ .absent → c.data x = c.ram x) := by
  constructor
  · intro h hheld
    have hview : c.view line x = c.ram x := h []
    rw [CachedMemory.view, if_neg hheld] at hview
    exact hview
  · intro h ds
    have hsettled : Settled line c x (c.ram x) := by
      refine ⟨?_, fun _ => rfl⟩
      rw [CachedMemory.view]
      split_ifs with habsent
      · rfl
      · exact h habsent
    exact (hsettled.drifts ds).view

/-- Memory holds `b` at `x`, and the line, which is not dirty, holds `b` or `b'`. -/
structure Behind (line : BitVec n → ι) (c : CachedMemory n ι) (x : BitVec n) (b b' : Byte) :
    Prop where
  state : c.state (line x) ≠ .dirty
  ram : c.ram x = b
  data : c.state (line x) ≠ .absent → c.data x = b ∨ c.data x = b'

lemma Behind.writeBack {b' : Byte} (h : Behind line c x b b') (l : ι) :
    Behind line (writeBack line (· = l) c) x b b' := by
  have hclean : ¬ (line x = l ∧ c.state (line x) = .dirty) := fun hl => h.state hl.2
  have hstate : (WriteBack.writeBack line (· = l) c).state (line x) = c.state (line x) :=
    if_neg hclean
  refine ⟨?_, ?_, ?_⟩
  · rw [hstate]
    exact h.state
  · exact (if_neg hclean).trans h.ram
  · rw [hstate]
    exact h.data

lemma Behind.drift {b' : Byte} (h : Behind line c x b b') (d : Drift ι) :
    Behind line (drift line c d) x b b' := by
  refine ⟨drift_state_ne h.state d, ?_, ?_⟩
  · cases d with
    | fill l =>
        rw [WriteBack.drift, WriteBack.fill]
        split_ifs <;> exact h.ram
    | writeBack l => exact (h.writeBack l).ram
    | evict l => exact (h.writeBack l).ram
  · cases d with
    | fill l =>
        rw [WriteBack.drift, WriteBack.fill]
        split_ifs with habsent
        · dsimp only
          by_cases hl : line x = l
          · rw [if_pos hl]
            exact fun _ => .inl h.ram
          · rw [if_neg hl, Function.update_of_ne hl]
            exact h.data
        · exact h.data
    | writeBack l => exact (h.writeBack l).data
    | evict l =>
        rw [WriteBack.drift, WriteBack.drop]
        dsimp only
        split_ifs
        · exact fun habsent => absurd rfl habsent
        · exact (h.writeBack l).data

/-- What the processor reads behind the device is the device's byte or the one the line held. -/
lemma Behind.view_drifts {b' : Byte} (h : Behind line c x b b') (ds : List (Drift ι)) :
    (run (WriteBack.drift line) c ds).view line x = b ∨
      (run (WriteBack.drift line) c ds).view line x = b' := by
  have hdrifted := run_invariant (P := fun c' => Behind line c' x b b')
    (fun _ d hc _ => hc.drift d) h (admissible_true c ds)
  rw [CachedMemory.view]
  split_ifs with habsent
  · exact .inl hdrifted.ram
  · exact hdrifted.data habsent

end Settled

end WriteBack
