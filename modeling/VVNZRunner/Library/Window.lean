import VVNZRunner.Library.ByteMemory

/-!
Windows: a range of one memory seen in another address space.

* `Window.view`: the address space that sees `size` bytes of a memory, which lie there from
  `inner` on, from `outer` on.
* `Window.swap`: the same bytes seen the other way round, so that `v.swap.view m' m` puts what
  is seen in `m'` back into `m`.
* `Window.read_view`, `Window.swap_view_write`: a read and a write through a window are the
  read and the write of the memory behind it.
-/

namespace ByteMemory

/-- `size` bytes from `inner` on in one address space, seen from `outer` on in another. -/
structure Window (n : ℕ) where
  inner : BitVec n
  outer : BitVec n
  size : ℕ

namespace Window

variable {n : ℕ} {v : Window n} {m rest : Memory n} {x : BitVec n} {k o : ℕ} {bs : List Byte}

/-- The address space with the window in it: `m` lies behind the window, `rest` around it. -/
def view (v : Window n) (m rest : Memory n) : Memory n := fun x =>
  if InRange v.outer v.size x then m (v.inner + (x - v.outer)) else rest x

/-- The window from the other side. -/
def swap (v : Window n) : Window n := ⟨v.outer, v.inner, v.size⟩

/-- No bytes. -/
def empty : Window n := ⟨0, 0, 0⟩

lemma view_apply (h : InRange v.outer v.size x) :
    v.view m rest x = m (v.inner + (x - v.outer)) :=
  if_pos h

lemma view_apply_outside (h : ¬ InRange v.outer v.size x) : v.view m rest x = rest x :=
  if_neg h

/-- Byte `o` of the window. -/
lemma view_offset (ho : o < v.size) (hn : v.size ≤ 2 ^ n) :
    v.view m rest (v.outer + BitVec.ofNat n o) = m (v.inner + BitVec.ofNat n o) := by
  rw [view_apply (inRange_offset ho hn), BitVec.add_comm v.outer, BitVec.add_sub_cancel]

/-- **A read through a window** is a read of the memory behind it. -/
theorem read_view (h : o + k ≤ v.size) (hn : v.size ≤ 2 ^ n) :
    (v.view m rest).read (v.outer + BitVec.ofNat n o) k =
      m.read (v.inner + BitVec.ofNat n o) k := by
  rw [Memory.read, Memory.read]
  refine List.map_congr_left fun i hi => ?_
  have hik : i < k := List.mem_range.mp hi
  rw [BitVec.add_assoc, BitVec.add_assoc, ← BitVec.ofNat_add]
  exact view_offset (by omega) hn

/-- The bytes of the window, read from its start. -/
lemma read_view_start (h : k ≤ v.size) (hn : v.size ≤ 2 ^ n) :
    (v.view m rest).read v.outer k = m.read v.inner k := by
  have hread : (v.view m rest).read (v.outer + BitVec.ofNat n 0) k =
      m.read (v.inner + BitVec.ofNat n 0) k := read_view (by omega) hn
  simpa using hread

/-- **A write through a window** is a write to the memory behind it. -/
theorem swap_view_write (h : o + bs.length ≤ v.size) (hn : v.size ≤ 2 ^ n) :
    v.swap.view ((v.view m rest).write (v.outer + BitVec.ofNat n o) bs) m =
      m.write (v.inner + BitVec.ofNat n o) bs := by
  funext p
  by_cases hp : InRange v.inner v.size p
  · have hx : v.outer + (p - v.inner) - v.outer = p - v.inner := by grind
    have hback : v.inner + (p - v.inner) = p := by grind
    have hin : InRange v.outer v.size (v.outer + (p - v.inner)) := by
      rw [InRange, hx]
      exact hp
    have hidx : v.outer + (p - v.inner) - (v.outer + BitVec.ofNat n o) =
        p - (v.inner + BitVec.ofNat n o) := by grind
    rw [view_apply (v := v.swap) hp]
    change (v.view m rest).write (v.outer + BitVec.ofNat n o) bs (v.outer + (p - v.inner)) = _
    rw [Memory.write, Memory.write, hidx, view_apply hin, hx, hback]
  · have hout : ¬ InRange (v.inner + BitVec.ofNat n o) bs.length p := by
      rw [inRange_add (by omega)]
      rw [InRange] at hp
      omega
    rw [view_apply_outside (v := v.swap) hp, write_apply_outside hout]

end Window

end ByteMemory
