import VVNZRunner.Library.Window

/-!
Arrays of 32-bit words in a byte memory, and lists of word stores into them.

* `cell`: the address of a word of the array.
* `Memory.storeWords`, `Memory.storeCells`: the memory after a list of stores, given by
  addresses or by indices, first store first.
* `readWord_storeCells_of_mem`, `readWord_storeCells_of_notMem`: the array after the stores, word
  by word. Indices may repeat as long as the stores agree on what they put there.
* `view_storeCells`: stores through a window are the stores into the memory behind it.
-/

namespace ByteMemory

variable {n : ℕ}

/-- The address of word `q` of the array at `a`. -/
def cell (a : BitVec n) (q : ℕ) : BitVec n := a + BitVec.ofNat n (4 * q)

/-- The memory after the stores, each an address with the word put there. -/
def Memory.storeWords (m : Memory n) (ss : List (BitVec n × BitVec 32)) : Memory n :=
  ss.foldl (fun m s => m.write s.1 (wordBytes s.2)) m

/-- The stores into the array at `a` that put words at the given indices. -/
def cellStores (a : BitVec n) (ps : List (ℕ × BitVec 32)) : List (BitVec n × BitVec 32) :=
  ps.map fun p => (cell a p.1, p.2)

/-- The memory after the stores into the array at `a`, each an index with the word put there. -/
def Memory.storeCells (m : Memory n) (a : BitVec n) (ps : List (ℕ × BitVec 32)) : Memory n :=
  m.storeWords (cellStores a ps)

variable {m rest : Memory n} {a x : BitVec n} {v : BitVec 32} {q q' N : ℕ}
  {ps : List (ℕ × BitVec 32)}

@[simp] lemma storeCells_nil (m : Memory n) (a : BitVec n) : m.storeCells a [] = m := rfl

@[simp] lemma storeCells_cons (m : Memory n) (a : BitVec n) (p : ℕ × BitVec 32)
    (ps : List (ℕ × BitVec 32)) :
    m.storeCells a (p :: ps) = (m.write (cell a p.1) (wordBytes p.2)).storeCells a ps := rfl

/-- A cell counted from another one. -/
lemma cell_add (a : BitVec n) (o q : ℕ) : cell a o + BitVec.ofNat n (4 * q) = cell a (o + q) := by
  rw [cell, cell, BitVec.add_assoc, ← BitVec.ofNat_add, Nat.mul_add]

lemma cellStores_append (a : BitVec n) (ps qs : List (ℕ × BitVec 32)) :
    cellStores a (ps ++ qs) = cellStores a ps ++ cellStores a qs :=
  List.map_append

/-- The word of a cell lies inside an array that holds the cell. -/
lemma inRange_cell (hq : q < N) (hN : 4 * N ≤ 2 ^ n) (hx : InRange (cell a q) 4 x) :
    InRange a (4 * N) x := by
  rw [cell, inRange_add (by omega)] at hx
  rw [InRange]
  omega

/-- The words of two cells share no byte. -/
lemma not_inRange_cell (hne : q ≠ q') (hq : q < N) (hq' : q' < N) (hN : 4 * N ≤ 2 ^ n)
    (hx : InRange (cell a q) 4 x) : ¬ InRange (cell a q') 4 x := by
  rw [cell, inRange_add (by omega)] at hx ⊢
  omega

/-- A cell holds the word that was just stored there. -/
lemma readWord_write_self (hn : 4 ≤ 2 ^ n) : readWord (m.write a (wordBytes v)) a = v :=
  readWord_of_read v (read_write_self hn)

/-- A word of a record that was read as a whole. -/
lemma readWord_of_read_append (pre : List Byte) {post : List Byte} {k : ℕ}
    (h : m.read a k = pre ++ (wordBytes v ++ post)) :
    readWord m (a + BitVec.ofNat n pre.length) = v := by
  have hk : k = pre.length + (4 + post.length) := by
    have hlen := congrArg List.length h
    simpa using hlen
  rw [hk, read_add, read_add] at h
  have hrest := (List.append_inj h (by simp)).2
  exact readWord_of_read v (List.append_inj hrest (by simp)).1

/-- A record after one of its parts was overwritten. -/
lemma read_write_part {pre mid post : List Byte} (bs : List Byte) {k : ℕ} (hk : k ≤ 2 ^ n)
    (h : m.read a k = pre ++ (mid ++ post)) (hlen : bs.length = mid.length) :
    (m.write (a + BitVec.ofNat n pre.length) bs).read a k = pre ++ (bs ++ post) := by
  have hsize : k = pre.length + (bs.length + post.length) := by
    have hcount := congrArg List.length h
    simpa [hlen] using hcount
  have hoffset : ∀ i, a + BitVec.ofNat n (pre.length) + BitVec.ofNat n bs.length +
      BitVec.ofNat n i = a + BitVec.ofNat n (pre.length + bs.length + i) := by
    intro i
    rw [BitVec.add_assoc, BitVec.add_assoc, ← BitVec.ofNat_add, ← BitVec.ofNat_add, Nat.add_assoc]
  have hpre : (m.write (a + BitVec.ofNat n pre.length) bs).read a pre.length =
      m.read a pre.length := by
    refine read_write_disjoint fun i hi hin => ?_
    rw [inRange_add (by omega), offset_toNat (by omega)] at hin
    omega
  have hpost : (m.write (a + BitVec.ofNat n pre.length) bs).read
      (a + BitVec.ofNat n pre.length + BitVec.ofNat n bs.length) post.length =
        m.read (a + BitVec.ofNat n pre.length + BitVec.ofNat n bs.length) post.length := by
    refine read_write_disjoint fun i hi hin => ?_
    rw [hoffset, inRange_add (by omega), offset_toNat (by omega)] at hin
    omega
  rw [hsize, read_add, read_add] at h ⊢
  obtain ⟨hhead, htail⟩ := List.append_inj h (by simp)
  obtain ⟨-, hlast⟩ := List.append_inj htail (by simp [hlen])
  rw [hpre, hhead, read_write_self (by omega), hpost, hlast]

/-- A store into another cell does not show. -/
lemma readWord_write_ne (hne : q ≠ q') (hq : q < N) (hq' : q' < N) (hN : 4 * N ≤ 2 ^ n) :
    readWord (m.write (cell a q') (wordBytes v)) (cell a q) = readWord m (cell a q) := by
  refine readWord_congr (read_congr_of_inRange (by omega) fun x hx => ?_)
  exact write_apply_outside (not_inRange_cell hne hq hq' hN hx)

/-- **A cell that no store names keeps its word.** -/
theorem readWord_storeCells_of_notMem (hN : 4 * N ≤ 2 ^ n) (hps : ∀ p ∈ ps, p.1 < N)
    (hq : q < N) (hnot : ∀ p ∈ ps, p.1 ≠ q) :
    readWord (m.storeCells a ps) (cell a q) = readWord m (cell a q) := by
  induction ps generalizing m with
  | nil => rfl
  | cons p ps ih =>
      have htail := ih (m := m.write (cell a p.1) (wordBytes p.2))
        (fun p' hp' => hps p' (List.mem_cons_of_mem _ hp'))
        (fun p' hp' => hnot p' (List.mem_cons_of_mem _ hp'))
      have hhead : q ≠ p.1 := (hnot p List.mem_cons_self).symm
      rw [storeCells_cons, htail]
      exact readWord_write_ne hhead hq (hps p List.mem_cons_self) hN

/-- **A cell holds the word that the stores agree on.** -/
theorem readWord_storeCells_of_mem (hN : 4 * N ≤ 2 ^ n) (hps : ∀ p ∈ ps, p.1 < N)
    (hmem : (q, v) ∈ ps) (hagree : ∀ v', (q, v') ∈ ps → v' = v) :
    readWord (m.storeCells a ps) (cell a q) = v := by
  have hq : q < N := hps _ hmem
  induction ps generalizing m with
  | nil => cases hmem
  | cons p ps ih =>
      have htail : ∀ p' ∈ ps, p'.1 < N := fun p' hp' => hps p' (List.mem_cons_of_mem _ hp')
      rw [storeCells_cons]
      by_cases hlater : ∃ v', (q, v') ∈ ps
      · obtain ⟨v', hv'⟩ := hlater
        have hv : v' = v := hagree v' (List.mem_cons_of_mem _ hv')
        rw [hv] at hv'
        exact ih htail hv' fun u hu => hagree u (List.mem_cons_of_mem _ hu)
      · have hnot : ∀ p' ∈ ps, p'.1 ≠ q := by
          rintro ⟨q', u⟩ hp' rfl
          exact hlater ⟨u, hp'⟩
        have hhead : (q, v) = p := by
          rcases List.mem_cons.mp hmem with h | h
          · exact h
          · exact absurd ⟨v, h⟩ hlater
        rw [readWord_storeCells_of_notMem hN htail hq hnot, ← hhead]
        exact readWord_write_self (by omega)

/-- A cell of an array that was cleared. -/
lemma readWord_write_zeros {k : ℕ} (hq : 4 * q + 4 ≤ k) (hk : k ≤ 2 ^ n) :
    readWord (m.write a (List.replicate k 0)) (cell a q) = 0 := by
  have hlen : (List.replicate k (0 : Byte)).length = k := List.length_replicate
  have hbytes : ∀ i < 4, m.write a (List.replicate k 0) (cell a q + BitVec.ofNat n i) = 0 := by
    intro i hi
    rw [cell, BitVec.add_assoc, ← BitVec.ofNat_add,
      write_apply_offset (by omega) (by omega), List.getElem_replicate]
  refine readWord_of_read 0 ?_
  calc (m.write a (List.replicate k 0)).read (cell a q) 4
      = (List.range 4).map fun _ => (0 : Byte) :=
        List.map_congr_left fun i hi => hbytes i (List.mem_range.mp hi)
    _ = wordBytes 0 := by decide

/-- The stores leave the bytes outside the array alone. -/
lemma storeCells_apply_outside (hN : 4 * N ≤ 2 ^ n) (hps : ∀ p ∈ ps, p.1 < N)
    (hx : ¬ InRange a (4 * N) x) : m.storeCells a ps x = m x := by
  induction ps generalizing m with
  | nil => rfl
  | cons p ps ih =>
      have hp : p.1 < N := hps p List.mem_cons_self
      rw [storeCells_cons, ih fun p' hp' => hps p' (List.mem_cons_of_mem _ hp')]
      exact write_apply_outside fun h => hx (inRange_cell hp hN h)

/-! ### Through a window -/

/-- A write inside a window is seen as a write of the memory behind it. -/
lemma Window.view_write {w : Window n} {o : ℕ} {bs : List Byte} (h : o + bs.length ≤ w.size)
    (hn : w.size ≤ 2 ^ n) :
    (w.view m rest).write (w.outer + BitVec.ofNat n o) bs =
      w.view (m.write (w.inner + BitVec.ofNat n o) bs) rest := by
  funext x
  by_cases hx : InRange w.outer w.size x
  · have hidx : x - (w.outer + BitVec.ofNat n o) =
        w.inner + (x - w.outer) - (w.inner + BitVec.ofNat n o) := by grind
    rw [Window.view_apply hx, Memory.write, Memory.write, hidx, Window.view_apply hx]
  · have hout : ¬ InRange (w.outer + BitVec.ofNat n o) bs.length x := by
      rw [inRange_add (by omega)]
      rw [InRange] at hx
      omega
    rw [Window.view_apply_outside hx, write_apply_outside hout, Window.view_apply_outside hx]

/-- A window that is closed leaves the memory behind it as it was seen. -/
lemma Window.swap_view_view {w : Window n} {m' : Memory n}
    (h : ∀ p, ¬ InRange w.inner w.size p → m' p = m p) :
    w.swap.view (w.view m' rest) m = m' := by
  funext p
  by_cases hp : InRange w.inner w.size p
  · have hx : w.outer + (p - w.inner) - w.outer = p - w.inner := by grind
    have hin : InRange w.outer w.size (w.outer + (p - w.inner)) := by
      rw [InRange, hx]
      exact hp
    have hback : w.inner + (p - w.inner) = p := by grind
    rw [Window.view_apply (v := w.swap) hp]
    change w.view m' rest (w.outer + (p - w.inner)) = m' p
    rw [Window.view_apply hin, hx, hback]
  · rw [Window.view_apply_outside (v := w.swap) hp, h p hp]

/-- **Stores through a window are the stores into the memory behind it.** -/
theorem Window.view_storeCells {w : Window n} (hN : 4 * N ≤ w.size) (hn : w.size ≤ 2 ^ n)
    (hps : ∀ p ∈ ps, p.1 < N) :
    (w.view m rest).storeCells w.outer ps = w.view (m.storeCells w.inner ps) rest := by
  induction ps generalizing m with
  | nil => rfl
  | cons p ps ih =>
      have hp : p.1 < N := hps p List.mem_cons_self
      have hhead : (w.view m rest).write (cell w.outer p.1) (wordBytes p.2) =
          w.view (m.write (cell w.inner p.1) (wordBytes p.2)) rest :=
        Window.view_write (by rw [wordBytes_length]; omega) hn
      rw [storeCells_cons, hhead, ih fun p' hp' => hps p' (List.mem_cons_of_mem _ hp')]
      rfl

end ByteMemory
