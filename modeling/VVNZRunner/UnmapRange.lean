import VVNZRunner.References

/-!
The range `vnzBridgeUnmapMemory` works on, computed twice.

* `releasedRanges`, `invalidatedRanges`: the ranges a log shows released and invalidated.
* `unmapInvalidateSize_eq`: the two expressions of `vnzBridgeUnmapMemory` agree on every pair of
  words, wrapping included.
* `unmap_range_exact`: one range is released and invalidated, it is the least one of 256-byte
  granules around the buffer, and buffers in different granules get disjoint ones.
-/

namespace VVNZRunner

open ByteMemory Granule

/-- The ranges released by the events of a log, newest first. -/
def releasedRanges : List Event → List (Word × Word)
  | [] => []
  | .sceKernelMemRangeReleaseWithPerm _ base size _ :: t => (base, size) :: releasedRanges t
  | _ :: t => releasedRanges t

/-- The ranges invalidated in the cache by the events of a log, newest first. -/
def invalidatedRanges : List Event → List (Word × Word)
  | [] => []
  | .sceKernelDcacheInvalidateRange base size :: t => (base, size) :: invalidatedRanges t
  | _ :: t => invalidatedRanges t

/-- A word is its low byte and the rest. -/
lemma and_low_add_high (va : Word) : (va &&& 0xff) + (va &&& 0xffffff00) = va := by
  have hlow := toNat_and_low va
  have hhigh := toNat_and_high va
  refine BitVec.eq_of_toNat_eq ?_
  change ((va &&& 0xff#32) + (va &&& 0xffffff00#32)).toNat = va.toNat
  have hva := va.isLt
  rw [BitVec.toNat_add, hlow, hhigh]
  omega

/-- **The two expressions of `vnzBridgeUnmapMemory` are one**, for all pairs of words. -/
theorem unmapInvalidateSize_eq (va size : Word) :
    unmapInvalidateSize va size = unmapRangeSize va size := by
  have hsplit := and_low_add_high va
  have hsum : va + 0xff - (va &&& 0xffffff00) + size = size + 0xff + (va &&& 0xff) := by
    calc va + 0xff - (va &&& 0xffffff00) + size
        = (va &&& 0xff) + (va &&& 0xffffff00) + 0xff - (va &&& 0xffffff00) + size := by
          rw [hsplit]
      _ = size + 0xff + (va &&& 0xff) := by grind
  rw [unmapInvalidateSize, unmapRangeSize, hsum]

/-- The range `vnzBridgeUnmapMemory` releases, as the words it computes name it. -/
def unmapSpan (vaddr size : Word) : Span :=
  ⟨(unmapRangeBase vaddr).toNat, (unmapRangeBase vaddr).toNat + (unmapRangeSize vaddr size).toNat⟩

/-- The addresses of a buffer. -/
def bufferSpan (vaddr size : Word) : Span := ⟨vaddr.toNat, vaddr.toNat + size.toNat⟩

lemma unmapSpan_eq {vaddr size : Word} (h : Fits vaddr size) :
    unmapSpan vaddr size = cover 256 vaddr.toNat (vaddr.toNat + size.toNat) :=
  congrArg MemRef.span (unmapSpan_eq_cover .kernR h)

/-- From `w` to `w'` one range is released, and invalidated in the cache if it is writable. -/
structure UnmapsRange (base size isVnzWritable : Word) (w w' : World) : Prop where
  released : releasedRanges w'.trace = (base, size) :: releasedRanges w.trace
  invalidated : invalidatedRanges w'.trace =
    if isVnzWritable ≠ 0 then (base, size) :: invalidatedRanges w.trace
    else invalidatedRanges w.trace

lemma unmapsRange_vnzBridgeUnmapMemory (vaddr size isVnzWritable : Word) (sv : Services)
    (w : World) :
    UnmapsRange (unmapRangeBase vaddr) (unmapRangeSize vaddr size) isVnzWritable w
      (vnzBridgeUnmapMemory vaddr size isVnzWritable sv w).2 := by
  rw [vnzBridgeUnmapMemory]
  by_cases hwritable : isVnzWritable = 0
  · rw [if_neg (not_not.mpr hwritable)]
    exact ⟨rfl, (if_neg (not_not.mpr hwritable)).symm⟩
  · rw [if_pos hwritable]
    refine ⟨rfl, ?_⟩
    rw [if_pos hwritable, ← unmapInvalidateSize_eq]
    rfl

/-- **The unmapped range is computed exactly**: every call releases one range, a writable one
is invalidated with the same base and length, and for a buffer of at least one byte below the
last granule that range is the least one of 256-byte granules around the buffer; buffers
that share no granule get disjoint ranges. -/
theorem unmap_range_exact (vaddr size isVnzWritable : Word) (sv : Services) (w : World) :
    UnmapsRange (unmapRangeBase vaddr) (unmapRangeSize vaddr size) isVnzWritable w
        (vnzBridgeUnmapMemory vaddr size isVnzWritable sv w).2 ∧
      unmapInvalidateSize vaddr size = unmapRangeSize vaddr size ∧
      (1 ≤ size.toNat → Fits vaddr size →
        ((unmapSpan vaddr size).Aligned 256 ∧
          (unmapSpan vaddr size).Contains (bufferSpan vaddr size) ∧
          ∀ s : Span, s.Aligned 256 → s.Contains (bufferSpan vaddr size) →
            s.Contains (unmapSpan vaddr size)) ∧
        ∀ vaddr' size' : Word, 1 ≤ size'.toNat → Fits vaddr' size' →
          (bufferSpan vaddr size).Apart 256 (bufferSpan vaddr' size') →
            (unmapSpan vaddr size).Disjoint (unmapSpan vaddr' size')) := by
  refine ⟨unmapsRange_vnzBridgeUnmapMemory vaddr size isVnzWritable sv w,
    unmapInvalidateSize_eq vaddr size, fun hpos hfits => ⟨?_, ?_⟩⟩
  · rw [unmapSpan_eq hfits]
    exact cover_isLeast (by decide)
  · intro vaddr' size' hpos' hfits' happart
    rw [unmapSpan_eq hfits, unmapSpan_eq hfits']
    exact cover_disjoint (by decide) (by omega) (by omega) happart

/-- The last byte of a granule and a buffer in the next one. -/
theorem unmap_range_exact_neighbours :
    (unmapSpan 0x810000ff 1).Disjoint (unmapSpan 0x81000100 0x80) :=
  ((unmap_range_exact 0x810000ff 1 1 {} (boot 166 fun _ => 0)).2.2 (by decide) (by decide)).2
    0x81000100 0x80 (by decide) (by decide) (by
      intro x hx y hy
      simp [bufferSpan, Span.mem_iff] at hx hy
      omega)

end VVNZRunner
