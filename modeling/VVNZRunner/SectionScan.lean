import VVNZRunner.Outcomes
import VVNZRunner.Library.Scan

/-!
Which images `vnzBridgeInject` takes.

* `sectionMatches_iff`: the condition of the scan is `sh_type == SHT_PROGBITS`. Its first half
  is never zero, because `==` binds tighter than `|`.
* `findSection_eq_some`, `findSection_eq_none`: the scan stops at the first such header.
* `ScanExact`: what the scan is meant to find, the first header of executable code.
* `scan_exact_iff`: it finds that exactly if the first header of type `SHT_PROGBITS`, if there is
  one, is of executable code.
-/

namespace VVNZRunner

open ByteMemory Scan

variable {m : Mem} {hdr : Word} {i : ℕ}

/-! ### The condition -/

/-- Section `i` has the type `SHT_PROGBITS`. -/
def IsProgbits (m : Mem) (hdr : Word) (i : ℕ) : Prop :=
  shdrType m (shdrAddr m hdr i) = shtProgbits

instance (m : Mem) (hdr : Word) : DecidablePred (IsProgbits m hdr) :=
  fun i => inferInstanceAs (Decidable (shdrType m (shdrAddr m hdr i) = shtProgbits))

/-- Section `i` is executable code. -/
def IsCode (m : Mem) (hdr : Word) (i : ℕ) : Prop :=
  IsProgbits m hdr i ∧ shdrFlags m (shdrAddr m hdr i) = shfAlloc ||| shfExecinstr

instance (m : Mem) (hdr : Word) : DecidablePred (IsCode m hdr) :=
  fun _ => inferInstanceAs (Decidable (_ ∧ _))

/-- **The flags do not matter**: `sh_flags == SHF_ALLOC | SHF_EXECINSTR` is never zero. -/
lemma sectionMatches_iff {shdr : Word} : SectionMatches m shdr ↔ shdrType m shdr = shtProgbits := by
  have hor : (if shdrFlags m shdr = shfAlloc then 1#32 else 0#32) ||| shfExecinstr ≠ 0 := by
    split_ifs <;> decide
  rw [SectionMatches]
  exact and_iff_right hor

/-! ### The scan -/

/-- The scan is a linear search over the indices. -/
lemma scanSections_eq (fuel : ℕ) :
    scanSections m hdr fuel i =
      ((first (IsProgbits m hdr) fuel i).map (shdrAddr m hdr)).getD 0 := by
  induction fuel generalizing i with
  | zero => rfl
  | succ fuel ih =>
      rw [scanSections, first, ih]
      by_cases h : IsProgbits m hdr i
      · rw [if_pos h, if_pos (sectionMatches_iff.mpr h)]
        rfl
      · rw [if_neg h, if_neg (mt sectionMatches_iff.mp h)]

lemma findSection_eq_some (h : IsFirst (IsProgbits m hdr) (ehdrShnum m hdr).toNat i) :
    findSection m hdr = shdrAddr m hdr i := by
  rw [findSection, scanSections_eq, first_eq_some_iff.mpr h]
  rfl

lemma findSection_eq_none (h : ∀ i < (ehdrShnum m hdr).toNat, ¬ IsProgbits m hdr i) :
    findSection m hdr = 0 := by
  rw [findSection, scanSections_eq, first_eq_none_iff.mpr h]
  rfl

/-- The section header table lies in the first `size` bytes of the image. -/
def TableInside (m : Mem) (hdr size : Word) : Prop :=
  ∀ i < (ehdrShnum m hdr).toNat,
    (ehdrShoff m hdr).toNat + (ehdrShentsize m hdr).toNat * i + 40 ≤ size.toNat

/-- A block of `size` bytes lies at `hdr`: not at `NULL` and not past the top of memory. -/
def BlockAt (hdr size : Word) : Prop := hdr ≠ 0 ∧ hdr.toNat + size.toNat ≤ 2 ^ 32

/-- The distance of a section header from the image, as the code computes it. -/
def shdrDist (m : Mem) (hdr : Word) (i : ℕ) : Word :=
  ehdrShoff m hdr + (ehdrShentsize m hdr).zeroExtend 32 * BitVec.ofNat 32 i

lemma shdrAddr_eq : shdrAddr m hdr i = hdr + shdrDist m hdr i := by
  rw [shdrAddr, shdrDist, BitVec.add_assoc]

lemma shdrDist_toNat : (shdrDist m hdr i).toNat =
    ((ehdrShoff m hdr).toNat + (ehdrShentsize m hdr).toNat * i) % 2 ^ 32 := by
  rw [shdrDist, BitVec.toNat_add, BitVec.toNat_mul, BitVec.toNat_ofNat]
  have hent : ((ehdrShentsize m hdr).zeroExtend 32).toNat = (ehdrShentsize m hdr).toNat := by
    have hlt := (ehdrShentsize m hdr).isLt
    rw [BitVec.toNat_setWidth, Nat.mod_eq_of_lt (by omega)]
  rw [hent, Nat.mul_mod_mod, Nat.add_mod_mod]

/-- The headers of a table inside a block do not lie at `NULL`. -/
lemma shdrAddr_ne_zero {size : Word} (hblock : BlockAt hdr size) (htable : TableInside m hdr size)
    (hi : i < (ehdrShnum m hdr).toNat) : shdrAddr m hdr i ≠ 0 := by
  have hend := htable i hi
  have hdist : (shdrDist m hdr i).toNat =
      ((ehdrShoff m hdr).toNat + (ehdrShentsize m hdr).toNat * i) % 2 ^ 32 := shdrDist_toNat
  have hpos : hdr.toNat ≠ 0 := fun h => hblock.1 (BitVec.eq_of_toNat_eq h)
  have htop := hblock.2
  intro hzero
  have hnat : (shdrAddr m hdr i).toNat = 0 := congrArg BitVec.toNat hzero
  rw [shdrAddr_eq, BitVec.toNat_add, hdist] at hnat
  omega

/-- The image is taken exactly if some header has the type `SHT_PROGBITS`. -/
lemma findSection_ne_zero_iff {size : Word} (hblock : BlockAt hdr size)
    (htable : TableInside m hdr size) :
    findSection m hdr ≠ 0 ↔ ∃ i < (ehdrShnum m hdr).toNat, IsProgbits m hdr i := by
  by_cases hex : ∃ i < (ehdrShnum m hdr).toNat, IsProgbits m hdr i
  · obtain ⟨i, hi, hprog⟩ := hex
    obtain ⟨k, -, hfirst⟩ := exists_isFirst hi hprog
    rw [findSection_eq_some hfirst]
    exact iff_of_true (shdrAddr_ne_zero hblock htable hfirst.1) ⟨i, hi, hprog⟩
  · refine iff_of_false (not_not.mpr (findSection_eq_none fun i hi hprog => ?_)) hex
    exact hex ⟨i, hi, hprog⟩

/-! ### The call -/

/-- How often a log asks for a mapping to Venezia. -/
def veneziaRequests : List Event → ℕ
  | [] => 0
  | .sceAvcodecMapMemoryToVenezia .. :: t => veneziaRequests t + 1
  | _ :: t => veneziaRequests t

/-- A mapping to Venezia is asked for between `w` and `w'`. -/
def AsksVenezia (w w' : World) : Prop := veneziaRequests w'.trace ≠ veneziaRequests w.trace

section Call

variable {addr size : Word} {pid : Pid} {sv : Services} {w : World}

/-- The call gets as far as the image: its arguments are valid, no session is open and the
kernel maps the block. -/
structure ReadsImage (addr size : Word) (sv : Services) (w : World) : Prop where
  args : InjectArgsOk addr size
  free : ¬ w.Registered
  mapped : 0 < sv.sceKernelUserMap.uid.toInt

/-- Such a call asks for a mapping to Venezia exactly if the image passes, and otherwise it
returns `SCE_ERROR_ERRNO_ENOEXEC`. -/
lemma asksVenezia_iff (pid : Pid) (h : ReadsImage addr size sv w) :
    (AsksVenezia w (vnzBridgeInject addr size pid sv w).2 ↔ InjectImageOk addr size sv w) ∧
      (¬ InjectImageOk addr size sv w →
        (vnzBridgeInject addr size pid sv w).1 = sceErrorErrnoENOEXEC) := by
  have hasks : ∀ w', veneziaRequests w'.trace = veneziaRequests w.trace + 1 →
      AsksVenezia w w' := by
    intro w' hw'
    rw [AsksVenezia, hw']
    omega
  have hout := inject_outcome addr size pid sv w
  generalize vnzBridgeInject addr size pid sv w = r at hout ⊢
  cases hout with
  | badArgument hargs => exact absurd h.args hargs
  | alreadyRegistered hargs hreg => exact absurd hreg h.free
  | notMapped hargs hfree huid => exact absurd h.mapped (by omega)
  | notExecutable hargs hfree huid himage =>
      exact ⟨iff_of_false (fun hne => hne rfl) himage, fun _ => rfl⟩
  | notMappedToVenezia hargs hfree huid himage hret =>
      exact ⟨iff_of_true (hasks _ rfl) himage, fun hno => absurd himage hno⟩
  | wrongBase hargs hfree huid himage hret hbase =>
      exact ⟨iff_of_true (hasks _ rfl) himage, fun hno => absurd himage hno⟩
  | opened hargs hfree huid himage hret hbase =>
      exact ⟨iff_of_true (hasks _ rfl) himage, fun hno => absurd himage hno⟩

/-- The image as the call reads it. -/
def imageMem (addr size : Word) (sv : Services) (w : World) : Mem :=
  (afterUserMap addr size sv w).mem

/-- The number of section headers of the image. -/
def imageShnum (addr size : Word) (sv : Services) (w : World) : ℕ :=
  (ehdrShnum (imageMem addr size sv w) sv.kernelPage).toNat

/-- The scan finds what it looks for: the call goes on exactly if some section is executable
code, it returns `SCE_ERROR_ERRNO_ENOEXEC` otherwise, and the header it stops at is the first
of executable code. -/
structure ScanExact (addr size : Word) (pid : Pid) (sv : Services) (w : World) : Prop where
  accepts : AsksVenezia w (vnzBridgeInject addr size pid sv w).2 ↔
    ∃ i < imageShnum addr size sv w, IsCode (imageMem addr size sv w) sv.kernelPage i
  rejects : ¬ AsksVenezia w (vnzBridgeInject addr size pid sv w).2 →
    (vnzBridgeInject addr size pid sv w).1 = sceErrorErrnoENOEXEC
  stops : ∀ i, IsFirst (IsCode (imageMem addr size sv w) sv.kernelPage)
      (imageShnum addr size sv w) i →
    findSection (imageMem addr size sv w) sv.kernelPage =
      shdrAddr (imageMem addr size sv w) sv.kernelPage i

/-- The first header of type `SHT_PROGBITS`, if there is one, is of executable code. -/
def FirstProgbitsIsCode (m : Mem) (hdr : Word) (n : ℕ) : Prop :=
  ∀ i, IsFirst (IsProgbits m hdr) n i → IsCode m hdr i

/-- Headers at one address have one content. -/
lemma isCode_congr {k : ℕ} (h : shdrAddr m hdr i = shdrAddr m hdr k) :
    IsCode m hdr i ↔ IsCode m hdr k := by
  rw [IsCode, IsCode, IsProgbits, IsProgbits, h]

/-- A first header of type `SHT_PROGBITS` that is of executable code is the first one of
executable code. -/
lemma FirstProgbitsIsCode.isFirst {n : ℕ} (h : FirstProgbitsIsCode m hdr n)
    (hi : IsFirst (IsProgbits m hdr) n i) : IsFirst (IsCode m hdr) n i :=
  ⟨hi.1, h i hi, fun j hj hcode => hi.2.2 j hj hcode.1⟩

/-- Then there is a header of executable code if there is one of type `SHT_PROGBITS`. -/
lemma FirstProgbitsIsCode.exists_iff {n : ℕ} (h : FirstProgbitsIsCode m hdr n) :
    (∃ i < n, IsProgbits m hdr i) ↔ ∃ i < n, IsCode m hdr i := by
  constructor
  · rintro ⟨i, hi, hprog⟩
    obtain ⟨k, -, hk⟩ := exists_isFirst hi hprog
    exact ⟨k, hk.1, h k hk⟩
  · rintro ⟨i, hi, hcode⟩
    exact ⟨i, hi, hcode.1⟩

/-- **The scan is exact exactly if** the first header of type `SHT_PROGBITS` is of executable
code or there is none, for every image with a matching identifier and a table inside the
block. -/
theorem scan_exact_iff (pid : Pid) (h : ReadsImage addr size sv w)
    (hident : IdentMatches (imageMem addr size sv w) sv.kernelPage)
    (hblock : BlockAt sv.kernelPage size)
    (htable : TableInside (imageMem addr size sv w) sv.kernelPage size) :
    ScanExact addr size pid sv w ↔
      FirstProgbitsIsCode (imageMem addr size sv w) sv.kernelPage
        (imageShnum addr size sv w) := by
  obtain ⟨hasks, hrejects⟩ := asksVenezia_iff pid h
  have himage : InjectImageOk addr size sv w ↔
      ∃ i < imageShnum addr size sv w, IsProgbits (imageMem addr size sv w) sv.kernelPage i :=
    (and_iff_right hident).trans (findSection_ne_zero_iff hblock htable)
  rw [himage] at hasks hrejects
  constructor
  · intro hexact i hfirst
    obtain ⟨k, hk, hcode⟩ := hexact.accepts.mp (hasks.mpr ⟨i, hfirst.1, hfirst.2.1⟩)
    obtain ⟨l, -, hl⟩ := exists_isFirst hk hcode
    have haddr : shdrAddr (imageMem addr size sv w) sv.kernelPage i =
        shdrAddr (imageMem addr size sv w) sv.kernelPage l :=
      (findSection_eq_some hfirst).symm.trans (hexact.stops l hl)
    exact (isCode_congr haddr).mpr hl.2.1
  · intro hcond
    refine ⟨hasks.trans hcond.exists_iff, fun hno => hrejects fun hyes => hno (hasks.mpr hyes), ?_⟩
    intro i hi
    obtain ⟨k, -, hk⟩ := exists_isFirst hi.1 hi.2.1.1
    have hfound := findSection_eq_some hk
    rw [(hcond.isFirst hk).eq hi] at hfound
    exact hfound

end Call

/-- An image with one section, of data: `SHT_PROGBITS`, `SHF_ALLOC | SHF_WRITE`. -/
def dataImage : Mem :=
  Memory.write (Memory.write smallImage 46 [40]) 72 [3]

/-- Services that map the data image at `0x500000` and to Venezia. -/
def dataServices : Services :=
  { acceptingServices with
    sceKernelUserMap := { uid := 0x10001, kernelPage := 0x500000, content := dataImage } }

/-- An image without executable code is taken. -/
theorem data_image_accepted :
    ReadsImage 0x81000000 0x40000 dataServices (boot 166 fun _ => 0) ∧
      IdentMatches (imageMem 0x81000000 0x40000 dataServices (boot 166 fun _ => 0)) 0x500000 ∧
      (vnzBridgeInject 0x81000000 0x40000 samplePid dataServices (boot 166 fun _ => 0)).1 =
        sceOk ∧
      ¬ ScanExact 0x81000000 0x40000 samplePid dataServices (boot 166 fun _ => 0) := by
  refine ⟨⟨by decide, by decide, by decide⟩, by decide, by decide, fun h => ?_⟩
  have hasks : AsksVenezia (boot 166 fun _ => 0)
      (vnzBridgeInject 0x81000000 0x40000 samplePid dataServices (boot 166 fun _ => 0)).2 := by
    rw [AsksVenezia]
    decide
  have hcode := h.accepts.mp hasks
  revert hcode
  decide

theorem scan_exact_iff_dataImage :
    ScanExact 0x81000000 0x40000 samplePid dataServices (boot 166 fun _ => 0) ↔
      FirstProgbitsIsCode (imageMem 0x81000000 0x40000 dataServices (boot 166 fun _ => 0))
        dataServices.kernelPage
        (imageShnum 0x81000000 0x40000 dataServices (boot 166 fun _ => 0)) :=
  scan_exact_iff samplePid ⟨by decide, by decide, by decide⟩ (by decide)
    ⟨by decide, by decide⟩ (by
      rw [TableInside]
      decide)

end VVNZRunner
