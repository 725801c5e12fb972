import VVNZRunner.SectionScan
import VVNZRunner.CallBlock
import VVNZRunner.BootStub

/-!
Where `vnzBridgeInject` reads the image, and where the loader stub jumps to.

* `imageReads`: the ranges that the checks of the image read. `image_congr`: nothing else of
  memory matters to them.
* `AddressesInside`: these ranges lie inside the block, no header offset overflows `int`, and the
  stub jumps into the block.
* `ImageInside`: the condition on the image, in numbers that do not wrap.
* `addresses_inside_iff`: the addresses stay inside exactly if the image meets the condition.
-/

namespace VVNZRunner

open ByteMemory Scan

variable {m m' : Mem} {hdr : Word} {i : ℕ}

/-! ### What the checks read -/

/-- The section headers that the scan reads, from section header `i` on with `fuel` left. -/
def scannedSections (m : Mem) (hdr : Word) : ℕ → ℕ → List ℕ
  | 0, _ => []
  | fuel + 1, i =>
      i :: if SectionMatches m (shdrAddr m hdr i) then [] else scannedSections m hdr fuel (i + 1)

/-- The section headers that the loop over `i < e_shnum` reads. -/
def scanned (m : Mem) (hdr : Word) : List ℕ := scannedSections m hdr (ehdrShnum m hdr).toNat 0

/-- What one turn of the loop reads: `e_shoff`, `e_shentsize` and the section header. -/
def sectionReads (m : Mem) (hdr : Word) (i : ℕ) : List (Word × ℕ) :=
  [(hdr + 32, 4), (hdr + 46, 2), (shdrAddr m hdr i, 40)]

/-- The ranges that the checks of the image read: `e_ident`, and if it matches `e_shnum`, what
the loop reads, and `e_entry` of an image that passes. -/
def imageReads (m : Mem) (hdr : Word) : List (Word × ℕ) :=
  (hdr, 7) ::
    if IdentMatches m hdr then
      (hdr + 48, 2) :: (scanned m hdr).flatMap (sectionReads m hdr) ++
        if findSection m hdr ≠ 0 then [(hdr + 24, 4)] else []
    else []

lemma scannedSections_eq (fuel : ℕ) :
    scannedSections m hdr fuel i = visited (IsProgbits m hdr) fuel i := by
  induction fuel generalizing i with
  | zero => rfl
  | succ fuel ih =>
      rw [scannedSections, visited, ih]
      by_cases h : IsProgbits m hdr i
      · rw [if_pos h, if_pos (sectionMatches_iff.mpr h)]
      · rw [if_neg h, if_neg (mt sectionMatches_iff.mp h)]

/-- The scan reads the headers with none of type `SHT_PROGBITS` before them. -/
lemma mem_scanned_iff :
    i ∈ scanned m hdr ↔ i < (ehdrShnum m hdr).toNat ∧ ∀ j < i, ¬ IsProgbits m hdr j := by
  rw [scanned, scannedSections_eq]
  exact mem_visited_iff

/-- Two memories agree on a range. -/
def SameOn (m m' : Mem) (r : Word × ℕ) : Prop := ∀ x, InRange r.1 r.2 x → m x = m' x

lemma SameOn.read {a : Word} {k : ℕ} (h : SameOn m m' (a, k)) (hk : k ≤ 2 ^ 32) :
    m.read a k = m'.read a k :=
  read_congr_of_inRange hk h

/-- A section header is the same in two memories that agree on it. -/
lemma sectionMatches_congr {shdr : Word} (h : SameOn m m' (shdr, 40)) :
    SectionMatches m shdr ↔ SectionMatches m' shdr := by
  have htype : m.read (shdr + 4) 4 = m'.read (shdr + 4) 4 := by
    refine read_congr_of_inRange (by norm_num) fun x hx => h x ?_
    refine (inRange_subset_iff (by norm_num) (by norm_num)).mpr ?_ x hx
    have hoffset : (shdr + BitVec.ofNat 32 4 - shdr).toNat = 4 := offset_toNat (by norm_num)
    change (shdr + BitVec.ofNat 32 4 - shdr).toNat + 4 ≤ 40
    omega
  rw [sectionMatches_iff, sectionMatches_iff, shdrType, shdrType, readWord_congr htype]

/-- The scan is the same in two memories that agree on what it reads. -/
lemma scanSections_congr (fuel : ℕ)
    (h : ∀ j ∈ scannedSections m hdr fuel i, ∀ r ∈ sectionReads m hdr j, SameOn m m' r) :
    scanSections m' hdr fuel i = scanSections m hdr fuel i := by
  induction fuel generalizing i with
  | zero => rfl
  | succ fuel ih =>
      rw [scannedSections] at h
      have hi := h i List.mem_cons_self
      have hoff : ehdrShoff m' hdr = ehdrShoff m hdr :=
        (readWord_congr ((hi (hdr + 32, 4) (by simp [sectionReads])).read (by norm_num))).symm
      have hent : ehdrShentsize m' hdr = ehdrShentsize m hdr :=
        (readHalf_congr ((hi (hdr + 46, 2) (by simp [sectionReads])).read (by norm_num))).symm
      have haddr : shdrAddr m' hdr i = shdrAddr m hdr i := by rw [shdrAddr, shdrAddr, hoff, hent]
      have hmatch : SectionMatches m (shdrAddr m hdr i) ↔ SectionMatches m' (shdrAddr m hdr i) :=
        sectionMatches_congr (hi (shdrAddr m hdr i, 40) (by simp [sectionReads]))
      rw [scanSections, scanSections, haddr]
      by_cases hsec : SectionMatches m (shdrAddr m hdr i)
      · rw [if_pos hsec, if_pos (hmatch.mp hsec)]
      · rw [if_neg hsec, if_neg (mt hmatch.mpr hsec)]
        refine ih fun j hj => h j ?_
        rw [if_neg hsec]
        exact List.mem_cons_of_mem i hj

/-- **The checks of the image depend on `imageReads` only.** -/
theorem image_congr (h : ∀ r ∈ imageReads m hdr, SameOn m m' r) :
    (ImageAccepted m' hdr ↔ ImageAccepted m hdr) ∧
      (ImageAccepted m hdr → ehdrEntry m' hdr = ehdrEntry m hdr) := by
  rw [imageReads] at h
  have hread : m.read hdr 7 = m'.read hdr 7 := SameOn.read (h _ List.mem_cons_self) (by norm_num)
  have hident : IdentMatches m' hdr ↔ IdentMatches m hdr := by
    rw [IdentMatches, IdentMatches, hread]
  by_cases hok : IdentMatches m hdr
  · rw [if_pos hok] at h
    have hshnum : ehdrShnum m' hdr = ehdrShnum m hdr :=
      (readHalf_congr (SameOn.read (h (hdr + 48, 2) (by simp)) (by norm_num))).symm
    have hfind : findSection m' hdr = findSection m hdr := by
      rw [findSection, findSection, hshnum]
      refine scanSections_congr _ fun j hj r hr => h r ?_
      have hmem : r ∈ (scanned m hdr).flatMap (sectionReads m hdr) :=
        List.mem_flatMap.mpr ⟨j, hj, hr⟩
      simp [hmem]
    have hiff : ImageAccepted m' hdr ↔ ImageAccepted m hdr := by
      rw [ImageAccepted, ImageAccepted, hident, hfind]
    refine ⟨hiff, fun hacc => ?_⟩
    have hmem : (hdr + 24, 4) ∈ (if findSection m hdr ≠ 0 then [(hdr + 24, 4)] else []) := by
      rw [if_pos hacc.2]
      exact List.mem_singleton_self _
    exact (readWord_congr (SameOn.read (h (hdr + 24, 4) (by
      exact List.mem_cons_of_mem _ (List.mem_append_right _ hmem))) (by norm_num))).symm
  · exact ⟨iff_of_false (fun hacc => hok (hident.mp hacc.1)) fun hacc => hok hacc.1,
      fun hacc => absurd hacc.1 hok⟩

/-! ### Inside the block -/

/-- A block that `vnzBridgeInject` takes has at least 256 KiB and ends 256 KiB below `2 ^ 32`. -/
lemma size_bounds {addr size : Word} (h : InjectArgsOk addr size) :
    2 ^ 18 ≤ size.toNat ∧ size.toNat ≤ 2 ^ 32 - 2 ^ 18 := by
  obtain ⟨q, hq⟩ := dvd_of_isSizeAligned h.2.2
  have hne : size.toNat ≠ 0 := fun h0 => h.2.1 (BitVec.eq_of_toNat_eq h0)
  have hlt := size.isLt
  omega

/-- The range lies inside the block of `size` bytes at `hdr`. -/
def InBlock (hdr size : Word) (r : Word × ℕ) : Prop :=
  ∀ x, InRange r.1 r.2 x → InRange hdr size.toNat x

/-- What the loop reads below the section headers lies in the first 50 bytes. -/
lemma inBlock_header {size : Word} {o k : ℕ} (hsize : 2 ^ 18 ≤ size.toNat) (h : o + k ≤ 50) :
    InBlock hdr size (hdr + BitVec.ofNat 32 o, k) := by
  intro x hx
  rw [inRange_add (by omega)] at hx
  rw [InRange]
  omega

/-- A section header lies inside the block exactly if its offset, wrapping, leaves room. -/
lemma inBlock_shdr {size : Word} (hsize : size.toNat ≤ 2 ^ 32 - 2 ^ 18) :
    InBlock hdr size (shdrAddr m hdr i, 40) ↔
      ((ehdrShoff m hdr).toNat + (ehdrShentsize m hdr).toNat * i) % 2 ^ 32 + 40 ≤ size.toNat := by
  have hoffset : shdrAddr m hdr i - hdr = shdrDist m hdr i := by
    rw [shdrAddr_eq]
    grind
  rw [InBlock, inRange_subset_iff (by norm_num) (by omega), hoffset, shdrDist_toNat]

/-- The offset of section header `n` from the image, not wrapping. -/
def shdrOffsetNat (m : Mem) (hdr : Word) (n : ℕ) : ℕ :=
  (ehdrShoff m hdr).toNat + (ehdrShentsize m hdr).toNat * n

/-- **No header is reached by wrapping**: if all headers up to `n` lie inside the block, the
offset of `n` does not wrap, because a step is shorter than what is left behind the block. -/
lemma shdrOffsetNat_le {size : Word} {n : ℕ} (hsize : size.toNat ≤ 2 ^ 32 - 2 ^ 18)
    (h : ∀ j ≤ n, shdrOffsetNat m hdr j % 2 ^ 32 + 40 ≤ size.toNat) :
    shdrOffsetNat m hdr n + 40 ≤ size.toNat := by
  have hoff := (ehdrShoff m hdr).isLt
  have hent := (ehdrShentsize m hdr).isLt
  induction n with
  | zero =>
      have hzero : shdrOffsetNat m hdr 0 = (ehdrShoff m hdr).toNat := by simp [shdrOffsetNat]
      have h0 := h 0 le_rfl
      rw [hzero, Nat.mod_eq_of_lt hoff] at h0
      rw [hzero]
      exact h0
  | succ n ih =>
      have hn := ih fun j hj => h j (by omega)
      have hsucc := h (n + 1) le_rfl
      have hstep : shdrOffsetNat m hdr (n + 1) =
          shdrOffsetNat m hdr n + (ehdrShentsize m hdr).toNat := by
        rw [shdrOffsetNat, shdrOffsetNat, Nat.mul_succ, Nat.add_assoc]
      rw [Nat.mod_eq_of_lt (by omega)] at hsucc
      exact hsucc

/-- The section header table, as far as the scan reads it, lies in the first `size` bytes of the
image, and no offset overflows `int`. -/
def ScannedInside (m : Mem) (hdr size : Word) : Prop :=
  ∀ n < (ehdrShnum m hdr).toNat, (∀ j < n, ¬ IsProgbits m hdr j) →
    shdrOffsetNat m hdr n + 40 ≤ size.toNat ∧ (ehdrShentsize m hdr).toNat * n < 2 ^ 31

/-- The headers that the scan reads lie inside the block, and no product overflows, exactly if
the table does. -/
lemma scannedInside_iff (m : Mem) (hdr : Word) {size : Word}
    (hsize : size.toNat ≤ 2 ^ 32 - 2 ^ 18) :
    (∀ i ∈ scanned m hdr, InBlock hdr size (shdrAddr m hdr i, 40) ∧
        (ehdrShentsize m hdr).toNat * i < 2 ^ 31) ↔ ScannedInside m hdr size := by
  constructor
  · intro h n hn hbefore
    refine ⟨shdrOffsetNat_le hsize fun j hj => ?_, ?_⟩
    · have hscan : j ∈ scanned m hdr :=
        mem_scanned_iff.mpr ⟨by omega, fun k hk => hbefore k (by omega)⟩
      exact (inBlock_shdr hsize).mp (h j hscan).1
    · exact (h n (mem_scanned_iff.mpr ⟨hn, hbefore⟩)).2
  · intro h i hi
    obtain ⟨hlt, hbefore⟩ := mem_scanned_iff.mp hi
    obtain ⟨hend, hint⟩ := h i hlt hbefore
    refine ⟨(inBlock_shdr hsize).mpr ?_, hint⟩
    rw [shdrOffsetNat] at hend
    rw [Nat.mod_eq_of_lt (by omega)]
    exact hend

/-- The ranges that the checks read lie inside the block exactly if the section headers do. -/
lemma imageReads_inBlock_iff (m : Mem) (hdr : Word) {size : Word} (hsize : 2 ^ 18 ≤ size.toNat) :
    (∀ r ∈ imageReads m hdr, InBlock hdr size r) ↔
      (IdentMatches m hdr → ∀ i ∈ scanned m hdr, InBlock hdr size (shdrAddr m hdr i, 40)) := by
  have hhead : ∀ o k, o + k ≤ 50 → InBlock hdr size (hdr + BitVec.ofNat 32 o, k) :=
    fun o k h => inBlock_header hsize h
  constructor
  · intro h hident i hi
    refine h _ ?_
    have hmem : (shdrAddr m hdr i, 40) ∈ (scanned m hdr).flatMap (sectionReads m hdr) :=
      List.mem_flatMap.mpr ⟨i, hi, by simp [sectionReads]⟩
    rw [imageReads, if_pos hident]
    simp [hmem]
  · intro h r hr
    have hident7 : InBlock hdr size (hdr, 7) := by
      have h0 := hhead 0 7 (by norm_num)
      rw [BitVec.add_zero] at h0
      exact h0
    rw [imageReads] at hr
    by_cases hident : IdentMatches m hdr
    · rw [if_pos hident, List.mem_cons, List.mem_append, List.mem_cons, List.mem_flatMap] at hr
      rcases hr with rfl | (rfl | ⟨i, hi, hr⟩) | hr
      · exact hident7
      · exact hhead 48 2 (by norm_num)
      · simp only [sectionReads, List.mem_cons, List.not_mem_nil, or_false] at hr
        rcases hr with rfl | rfl | rfl
        · exact hhead 32 4 (by norm_num)
        · exact hhead 46 2 (by norm_num)
        · exact h hident i hi
      · split_ifs at hr with hfound
        · rw [List.mem_singleton] at hr
          rw [hr]
          exact hhead 24 4 (by norm_num)
        · cases hr
    · rw [if_neg hident, List.mem_singleton] at hr
      rw [hr]
      exact hident7

/-! ### The call -/

section Call

variable {addr size : Word} {pid : Pid} {sv : Services} {w : World}

/-- A call that reads the image succeeds exactly if the injection is accepted. -/
lemma inject_success_iff (pid : Pid) (h : ReadsImage addr size sv w) :
    0 ≤ (vnzBridgeInject addr size pid sv w).1.toInt ↔ InjectAccepted addr size sv w := by
  have hout := inject_outcome addr size pid sv w
  generalize vnzBridgeInject addr size pid sv w = r at hout ⊢
  cases hout with
  | badArgument hargs => exact absurd h.args hargs
  | alreadyRegistered hargs hreg => exact absurd hreg h.free
  | notMapped hargs hfree huid => exact absurd h.mapped (by omega)
  | notExecutable hargs hfree huid himage =>
      have hneg : ¬ 0 ≤ sceErrorErrnoENOEXEC.toInt := by decide
      exact iff_of_false hneg fun hacc => himage hacc.image
  | notMappedToVenezia hargs hfree huid himage hret =>
      exact iff_of_false (by simpa using hret) fun hacc =>
        absurd hacc.mappedToVenezia (by omega)
  | wrongBase hargs hfree huid himage hret hbase =>
      have hneg : ¬ 0 ≤ sceErrorErrnoEFAULT.toInt := by decide
      exact iff_of_false hneg fun hacc => hbase hacc.base
  | opened hargs hfree huid himage hret hbase =>
      exact iff_of_true hret ⟨hargs, huid, himage, hret, hbase⟩

/-- The address that the loader stub calls, from the words it finds in the comm heap. -/
def stubTarget (w : World) : Word := (bootStart 0 0 0 w.commHeapVaddr w.mem).main

/-- The entry offset handed to Venezia. -/
def handedEntry (w : World) : Word := readWord w.mem (w.commHeapVaddr + 4)

/-- An accepted injection hands `e_entry` to Venezia, and the stub will call it in the block. -/
lemma handed_of_accepted (pid : Pid) (hfree : ¬ w.Registered) (h : InjectAccepted addr size sv w) :
    handedEntry (vnzBridgeInject addr size pid sv w).2 = injectEntry addr size sv w ∧
      stubTarget (vnzBridgeInject addr size pid sv w).2 =
        vramBase + injectEntry addr size sv w := by
  have hheap : (vnzBridgeInject addr size pid sv w).2.commHeapVaddr =
      (openedSession pid addr size sv w h).at 256 :=
    (consistent_inject pid hfree h).commHeapVaddr_eq
  obtain ⟨hbase, hentry, -⟩ := readWord_three (headerInMemory_opened pid addr size sv hfree h)
  rw [handedEntry, stubTarget, bootStart, hheap]
  exact ⟨hentry, congrArg₂ (· + ·) hbase hentry⟩

/-- Every address derived from the image stays inside the block: what the checks read, without
an overflow on the way, and after a success the entry and the jump of the loader stub. -/
structure AddressesInside (addr size : Word) (pid : Pid) (sv : Services) (w : World) : Prop where
  reads : ∀ r ∈ imageReads (imageMem addr size sv w) sv.kernelPage, InBlock sv.kernelPage size r
  products : IdentMatches (imageMem addr size sv w) sv.kernelPage →
    ∀ i ∈ scanned (imageMem addr size sv w) sv.kernelPage,
      (ehdrShentsize (imageMem addr size sv w) sv.kernelPage).toNat * i < 2 ^ 31
  entry : 0 ≤ (vnzBridgeInject addr size pid sv w).1.toInt →
    (handedEntry (vnzBridgeInject addr size pid sv w).2).toNat < size.toNat
  jump : 0 ≤ (vnzBridgeInject addr size pid sv w).1.toInt →
    InRange vramBase size.toNat (stubTarget (vnzBridgeInject addr size pid sv w).2)

/-- The image keeps to its block: the part of the section header table that the scan reads, and
the entry of an image that is accepted. -/
structure ImageInside (addr size : Word) (sv : Services) (w : World) : Prop where
  table : IdentMatches (imageMem addr size sv w) sv.kernelPage →
    ScannedInside (imageMem addr size sv w) sv.kernelPage size
  entry : InjectAccepted addr size sv w → (injectEntry addr size sv w).toNat < size.toNat

/-- **The addresses stay inside the block exactly if the image keeps to it**, for every size that
`vnzBridgeInject` takes and every content of the block. -/
theorem addresses_inside_iff (pid : Pid) (h : ReadsImage addr size sv w) :
    AddressesInside addr size pid sv w ↔ ImageInside addr size sv w := by
  obtain ⟨hlow, hhigh⟩ := size_bounds h.args
  have htable := scannedInside_iff (imageMem addr size sv w) sv.kernelPage hhigh
  have hreads := imageReads_inBlock_iff (imageMem addr size sv w) sv.kernelPage hlow
  have hsuccess := inject_success_iff pid h
  constructor
  · intro hin
    refine ⟨fun hident => htable.mp fun i hi => ?_, fun hacc => ?_⟩
    · exact ⟨hreads.mp hin.reads hident i hi, hin.products hident i hi⟩
    · rw [← (handed_of_accepted pid h.free hacc).1]
      exact hin.entry (hsuccess.mpr hacc)
  · intro hin
    have hscan := fun hident => htable.mpr (hin.table hident)
    refine ⟨hreads.mpr fun hident i hi => (hscan hident i hi).1,
      fun hident i hi => (hscan hident i hi).2, fun hret => ?_, fun hret => ?_⟩
    · have hacc := hsuccess.mp hret
      rw [(handed_of_accepted pid h.free hacc).1]
      exact hin.entry hacc
    · have hacc := hsuccess.mp hret
      rw [(handed_of_accepted pid h.free hacc).2, InRange, BitVec.add_comm,
        BitVec.add_sub_cancel]
      exact hin.entry hacc

end Call

/-- The small image with its section header table right behind a block of 256 KiB. -/
def farTableImage : Mem := Memory.write smallImage 32 [0, 0, 4]

/-- Services that map it at `0x500000` and to Venezia. -/
def farTableServices : Services :=
  { acceptingServices with
    sceKernelUserMap := { uid := 0x10001, kernelPage := 0x500000, content := farTableImage } }

/-- The scan reads a section header behind the block. -/
theorem far_table_read :
    ReadsImage 0x81000000 0x40000 farTableServices (boot 166 fun _ => 0) ∧
      (0x540000, 40) ∈ imageReads
        (imageMem 0x81000000 0x40000 farTableServices (boot 166 fun _ => 0)) 0x500000 ∧
      ¬ AddressesInside 0x81000000 0x40000 samplePid farTableServices (boot 166 fun _ => 0) := by
  have hread : ((0x540000, 40) : Word × ℕ) ∈ imageReads
      (imageMem 0x81000000 0x40000 farTableServices (boot 166 fun _ => 0)) 0x500000 := by decide
  refine ⟨⟨by decide, by decide, by decide⟩, hread, fun h => ?_⟩
  have hlast : InRange (0x500000 : Word) 0x40000 0x540000 :=
    h.reads _ hread 0x540000 (by decide)
  exact absurd hlast (by decide)

theorem addresses_inside_iff_smallImage :
    AddressesInside 0x81000000 0x40000 samplePid acceptingServices (boot 166 fun _ => 0) ↔
      ImageInside 0x81000000 0x40000 acceptingServices (boot 166 fun _ => 0) :=
  addresses_inside_iff samplePid ⟨by decide, by decide, by decide⟩

end VVNZRunner
