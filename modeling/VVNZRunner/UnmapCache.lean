import VVNZRunner.Coherence
import VVNZRunner.UnmapRange

/-!
`vnzBridgeUnmapMemory` on a processor with a cache.

* `afterUnmap`: memory and the cache behind a call.
* `unmap_coherent_iff`: behind the call the processor reads what Venezia left in memory, and
  the bytes around the buffer are kept, exactly if the buffer was not writable or is made up of
  whole granules, which is what the header asks for.
-/

namespace VVNZRunner

open ByteMemory Machine WriteBack Granule

section Unmap

variable {ι : Type} [DecidableEq ι] (line : Word → ι)

/-- Memory and the cache behind a call of `vnzBridgeUnmapMemory`. -/
def afterUnmap (pid : Pid) (vaddr size wr : Word) (sv : Services) (w : World)
    (mapped : CachedMemory 32 ι) (ds : ℕ → List (Drift ι)) (c : CachedMemory 32 ι) :
    CachedMemory 32 ι :=
  onLog line sv mapped ds
    (newEvents w (.call pid (.vnzBridgeUnmapMemory vaddr size wr) sv)).reverse c

variable {line} {pid : Pid} {vaddr size wr : Word} {sv : Services} {w : World}
  {mapped c : CachedMemory 32 ι} {ds : ℕ → List (Drift ι)} {x : Word} {b : Byte}

/-- A writable buffer is invalidated; what follows is done by the cache alone. -/
lemma afterUnmap_writable (hwr : wr ≠ 0) :
    afterUnmap line pid vaddr size wr sv w mapped ds c =
      run (drift line) (run (drift line) (invalidate line (unmapRangeBase vaddr)
        (unmapInvalidateSize vaddr size).toNat (run (drift line) c (ds 0))) (ds 1)) (ds 2) := by
  have hnew : newEvents w (.call pid (.vnzBridgeUnmapMemory vaddr size wr) sv) =
      [.sceKernelMemRangeReleaseWithPerm .kernW (unmapRangeBase vaddr)
          (unmapRangeSize vaddr size) sv.sceKernelMemRangeReleaseWithPerm,
        .sceKernelDcacheInvalidateRange (unmapRangeBase vaddr)
          (unmapInvalidateSize vaddr size)] := by
    refine newEvents_eq ?_
    change (vnzBridgeUnmapMemory vaddr size wr sv w).2.trace = _
    rw [vnzBridgeUnmapMemory]
    dsimp only
    rw [if_pos hwr]
    rfl
  rw [afterUnmap, hnew]
  rfl

/-- A buffer that was not writable is only released. -/
lemma afterUnmap_readOnly (hwr : wr = 0) :
    afterUnmap line pid vaddr size wr sv w mapped ds c =
      run (drift line) (run (drift line) c (ds 0)) (ds 1) := by
  have hnew : newEvents w (.call pid (.vnzBridgeUnmapMemory vaddr size wr) sv) =
      [.sceKernelMemRangeReleaseWithPerm .kernR (unmapRangeBase vaddr)
          (unmapRangeSize vaddr size) sv.sceKernelMemRangeReleaseWithPerm] := by
    refine newEvents_eq ?_
    change (vnzBridgeUnmapMemory vaddr size wr sv w).2.trace = _
    rw [vnzBridgeUnmapMemory]
    dsimp only
    rw [if_neg (not_not.mpr hwr)]
    rfl
  rw [afterUnmap, hnew]
  rfl

/-- Behind an invalidation the processor reads what is in memory. -/
lemma settled_invalidate {a : Word} {k : ℕ} (hx : InRange a k x) :
    Settled line (invalidate line a k c) x (c.ram x) := by
  have habsent : (invalidate line a k c).state (line x) = .absent :=
    if_pos (touches_of_inRange line hx)
  refine ⟨?_, fun _ => rfl⟩
  rw [CachedMemory.view, if_pos habsent]
  rfl

/-! ### The range and its neighbours -/

/-- The invalidated range as an interval. -/
lemma inRange_invalidated (hfits : Fits vaddr size) :
    InRange (unmapRangeBase vaddr) (unmapInvalidateSize vaddr size).toNat x ↔
      vaddr.toNat / 256 * 256 ≤ x.toNat ∧
        x.toNat < (vaddr.toNat + size.toNat + 255) / 256 * 256 := by
  have hbase := unmapRangeBase_toNat vaddr
  have hsize := unmapRangeSize_toNat hfits
  rw [Fits] at hfits
  rw [unmapInvalidateSize_eq, inRange_iff_of_le (by omega)]
  omega

/-- The buffer as an interval. -/
lemma inRange_buffer (hfits : Fits vaddr size) :
    InRange vaddr size.toNat x ↔
      vaddr.toNat ≤ x.toNat ∧ x.toNat < vaddr.toNat + size.toNat := by
  rw [Fits] at hfits
  exact inRange_iff_of_le (by omega)

/-- The lines that are dropped, for any line size that divides a granule. -/
lemma touches_invalidated {g : ℕ} (hg : g ∣ 256) (hfits : Fits vaddr size) :
    Touches (fun y : Word => y.toNat / g) (unmapRangeBase vaddr)
        (unmapInvalidateSize vaddr size).toNat (x.toNat / g) ↔
      InRange (unmapRangeBase vaddr) (unmapInvalidateSize vaddr size).toNat x := by
  have hbase := unmapRangeBase_toNat vaddr
  have hsize := unmapRangeSize_toNat hfits
  rw [Fits] at hfits
  refine touches_div_iff (Nat.pos_of_dvd_of_pos hg (by decide)) ?_ ?_ ?_
  · rw [hbase]
    exact hg.mul_left _
  · rw [unmapInvalidateSize_eq, hsize]
    exact hg.mul_left _
  · rw [unmapInvalidateSize_eq]
    omega

/-- A byte that is dropped with a buffer it is not part of. -/
lemma exists_neighbour (hfits : Fits vaddr size)
    (h : ¬ (256 ∣ vaddr.toNat ∧ 256 ∣ size.toNat)) :
    ∃ x : Word, ¬ InRange vaddr size.toNat x ∧
      InRange (unmapRangeBase vaddr) (unmapInvalidateSize vaddr size).toNat x := by
  simp only [inRange_buffer hfits, inRange_invalidated hfits]
  rw [Fits] at hfits
  by_cases hvaddr : 256 ∣ vaddr.toNat
  · have hx : (BitVec.ofNat 32 (vaddr.toNat + size.toNat)).toNat = vaddr.toNat + size.toNat := by
      rw [BitVec.toNat_ofNat]
      omega
    refine ⟨BitVec.ofNat 32 (vaddr.toNat + size.toNat), ?_⟩
    rw [hx]
    omega
  · have hx : (BitVec.ofNat 32 (vaddr.toNat / 256 * 256)).toNat = vaddr.toNat / 256 * 256 := by
      rw [BitVec.toNat_ofNat]
      omega
    refine ⟨BitVec.ofNat 32 (vaddr.toNat / 256 * 256), ?_⟩
    rw [hx]
    omega

end Unmap

/-- **A buffer is unmapped without a trace in the cache**: behind the call for a writable buffer
the processor reads what memory held, so what Venezia left there. The bytes around the buffer
are safe, whatever the cache held and does, exactly if it was not writable or begins and ends
with a granule; the line size only has to divide a granule. -/
theorem unmap_coherent_iff {g : ℕ} (hg : g ∣ 256) (pid : Pid) (vaddr size wr : Word)
    (hfits : Fits vaddr size) (sv : Services) (w : World)
    (mapped : CachedMemory 32 ℕ) :
    let line := fun y : Word => y.toNat / g
    (wr ≠ 0 → ∀ ds c x, InRange vaddr size.toNat x →
      (afterUnmap line pid vaddr size wr sv w mapped ds c).view line x =
        (run (drift line) c (ds 0)).ram x) ∧
    ((∀ ds c x b, ¬ InRange vaddr size.toNat x → Settled line c x b →
      (afterUnmap line pid vaddr size wr sv w mapped ds c).view line x = b) ↔
        wr = 0 ∨ 256 ∣ vaddr.toNat ∧ 256 ∣ size.toNat) := by
  intro line
  constructor
  · intro hwr ds c x hx
    have hdropped : InRange (unmapRangeBase vaddr) (unmapInvalidateSize vaddr size).toNat x := by
      rw [inRange_buffer hfits] at hx
      rw [inRange_invalidated hfits]
      omega
    rw [afterUnmap_writable hwr]
    exact (((settled_invalidate hdropped).drifts _).drifts _).view
  constructor
  · intro hkept
    by_contra hnot
    obtain ⟨hwr, halign⟩ := not_or.mp hnot
    obtain ⟨x, hx, hdropped⟩ := exists_neighbour hfits halign
    -- a line that was written to and not written back
    have hsettled : Settled line ⟨fun _ => 0, fun _ => 1, fun _ => .dirty⟩ x 1 :=
      ⟨rfl, fun hdirty => absurd rfl hdirty⟩
    have hview := hkept (fun _ => []) _ x 1 hx hsettled
    rw [afterUnmap_writable hwr] at hview
    have hlost : (0 : Byte) = 1 := (settled_invalidate hdropped).view.symm.trans hview
    exact absurd hlost (by decide)
  · intro hsafe ds c x b hx hsettled
    by_cases hwr : wr = 0
    · rw [afterUnmap_readOnly hwr]
      exact ((hsettled.drifts _).drifts _).view
    · obtain ⟨hvaddr, hsize⟩ := hsafe.resolve_left hwr
      have hkeeps : ¬ Touches line (unmapRangeBase vaddr)
          (unmapInvalidateSize vaddr size).toNat (line x) := by
        rw [touches_invalidated hg hfits, inRange_invalidated hfits]
        rw [inRange_buffer hfits] at hx
        omega
      rw [afterUnmap_writable hwr]
      have hdrop : Settled line (invalidate line (unmapRangeBase vaddr)
          (unmapInvalidateSize vaddr size).toNat (run (drift line) c (ds 0))) x b :=
        (hsettled.drifts _).drop fun htouch => absurd htouch hkeeps
      exact ((hdrop.drifts _).drifts _).view

/-- The unmapping of a writable frame buffer. -/
def afterFrameBuffer (ds : ℕ → List (Drift ℕ)) (c : CachedMemory 32 ℕ) : CachedMemory 32 ℕ :=
  afterUnmap sampleLine samplePid 0x60000000 0x1fe000 1 {} (boot 166 fun _ => 0) sampleCached ds c

theorem unmap_coherent_iff_frameBuffer :
    (∀ ds c x, InRange 0x60000000 (0x1fe000#32).toNat x →
      (afterFrameBuffer ds c).view sampleLine x = (run (drift sampleLine) c (ds 0)).ram x) ∧
    ∀ ds c x b, ¬ InRange 0x60000000 (0x1fe000#32).toNat x → Settled sampleLine c x b →
      (afterFrameBuffer ds c).view sampleLine x = b := by
  have h := unmap_coherent_iff (g := 32) (by decide) samplePid 0x60000000 0x1fe000 1 (by decide) {}
    (boot 166 fun _ => 0) sampleCached
  exact ⟨h.1 (by decide), h.2.mpr (.inr (by decide))⟩

end VVNZRunner
