import VVNZRunner.Machine
import VVNZRunner.Library.Cells

/-!
The SPRAM window as a bounds-checked array of bytes.

* `InSpram`: the range lies inside the window, as numbers. `spramRangeOk_iff`: what the code
  checks is the sum modulo `2 ^ 32`.
* `SpramRun`: the plugin with the writes that the array has accepted. `SpramExact`: a call does what
  the array does.
* `SumFits`: the condition on a call, its sum does not wrap into the window.
* `spram_array_iff`: every call of a run does what the array does exactly if every call meets the
  condition.
-/

namespace VVNZRunner

open ByteMemory Machine Cells

/-! ### The window -/

/-- The number of bytes of the window. -/
def spramBytes : ℕ := spramMemsize.toNat

/-- The bytes of the window. -/
def spramWindow (m : Mem) : Fin spramBytes → Byte :=
  fun o => m (vaddrVeneziaSpram + BitVec.ofNat 32 o)

/-- The range lies inside the window. -/
def InSpram (size off : Word) : Prop := off.toNat + size.toNat ≤ spramBytes

instance (size off : Word) : Decidable (InSpram size off) := inferInstanceAs (Decidable (_ ≤ _))

variable {m : Mem} {size off : Word}

lemma spramBytes_lt : spramBytes < 2 ^ 32 := spramMemsize.isLt

/-- The address of a range, as a number behind the start of the window. -/
lemma spram_add (off : Word) :
    vaddrVeneziaSpram + off = vaddrVeneziaSpram + BitVec.ofNat 32 off.toNat := by
  rw [BitVec.ofNat_toNat, BitVec.setWidth_eq]

/-- A write inside the window is a write of the array. -/
lemma spramWindow_write {bs : List Byte} (h : off.toNat + bs.length ≤ spramBytes) :
    spramWindow (m.write (vaddrVeneziaSpram + off) bs) =
      Write.apply ⟨off.toNat, bs, h⟩ (spramWindow m) := by
  have hn := spramBytes_lt
  funext o
  have ho := o.isLt
  have hoffset : (vaddrVeneziaSpram + BitVec.ofNat 32 o - vaddrVeneziaSpram).toNat = o :=
    offset_toNat (by omega)
  rw [spramWindow, spram_add, Write.apply]
  dsimp only
  by_cases hin : off.toNat ≤ o
  · have hsplit : (o : ℕ) = off.toNat + (o - off.toNat) := by omega
    have hidx : (vaddrVeneziaSpram + BitVec.ofNat 32 o -
        (vaddrVeneziaSpram + BitVec.ofNat 32 off.toNat)).toNat = o - off.toNat := by
      rw [hsplit, Nat.add_sub_cancel_left]
      exact offset_sub_toNat (by omega)
    rw [if_pos hin, Memory.write, hidx]
    rfl
  · rw [if_neg hin]
    refine write_apply_outside ?_
    rw [inRange_add (by omega), hoffset]
    omega

/-- A read inside the window is a read of the array. -/
lemma read_spramWindow {len : ℕ} (h : off.toNat + len ≤ spramBytes) :
    m.read (vaddrVeneziaSpram + off) len = Cells.read (spramWindow m) off.toNat len h := by
  refine List.ext_getElem (by simp [Cells.read]) fun i hi hi' => ?_
  rw [read_getElem, spram_add, BitVec.add_assoc, ← BitVec.ofNat_add]
  simp [Cells.read, spramWindow]

/-! ### The two checks -/

/-- The copies check the sum modulo `2 ^ 32`. -/
lemma spramRangeOk_iff :
    SpramRangeOk size off ↔ (off.toNat + size.toNat) % 2 ^ 32 ≤ spramBytes := by
  rw [SpramRangeOk, BitVec.lt_def, BitVec.toNat_add, not_lt]
  rfl

/-- What lies inside the window passes the check of the copies. -/
lemma InSpram.rangeOk (h : InSpram size off) : SpramRangeOk size off := by
  have hn := spramBytes_lt
  have hsum : off.toNat + size.toNat ≤ spramBytes := h
  rw [spramRangeOk_iff, Nat.mod_eq_of_lt (by omega)]
  exact hsum

/-- The condition on a range: its sum does not wrap into the window. -/
def SumFits (size off : Word) : Prop :=
  ¬ (2 ^ 32 ≤ off.toNat + size.toNat ∧ off.toNat + size.toNat ≤ 2 ^ 32 + spramBytes)

/-- **The check of the copies is exact exactly if** the sum does not wrap into the window. -/
lemma spramRangeOk_iff_inSpram : (SpramRangeOk size off ↔ InSpram size off) ↔ SumFits size off := by
  have hn := spramBytes_lt
  have hoff := off.isLt
  have hsize := size.isLt
  rw [spramRangeOk_iff, InSpram, SumFits]
  by_cases hwrap : off.toNat + size.toNat < 2 ^ 32
  · rw [Nat.mod_eq_of_lt hwrap]
    refine iff_of_true Iff.rfl fun h => ?_
    omega
  · rw [Nat.mod_eq_sub_mod (by omega), Nat.mod_eq_of_lt (by omega)]
    omega

/-- `vnzBridgeMemcpyFromSpram` copies the range out. -/
def ReadAccepted (size off : Word) : Prop :=
  ∀ dst sv w, vnzBridgeMemcpyFromSpram dst size off sv w =
    (sv.sceKernelCopyToUser, w.sceKernelCopyToUser dst (vaddrVeneziaSpram + off) size sv)

/-- `vnzBridgeGetSpramValue` reads the word. -/
def GetAccepted (off : Word) : Prop :=
  ∀ w, vnzBridgeGetSpramValue off w = (readWord w.mem (vaddrVeneziaSpram + off), w)

lemma readAccepted_iff : ReadAccepted size off ↔ SpramRangeOk size off := by
  constructor
  · intro h
    by_contra hno
    have hcopy := h 0 {} (boot 0 fun _ => 0)
    rw [vnzBridgeMemcpyFromSpram, if_neg hno] at hcopy
    have htrace := congrArg (fun r => r.2.trace.length) hcopy
    exact absurd htrace (Nat.zero_ne_one)
  · intro hok dst sv w
    rw [vnzBridgeMemcpyFromSpram, if_pos hok]

/-- The check of `vnzBridgeGetSpramValue` does not wrap. -/
lemma get_refused_iff : spramMemsize - 4 < off ↔ ¬ InSpram 4 off := by
  rw [BitVec.lt_def, InSpram, spramBytes]
  change 0x24FFFFC < off.toNat ↔ ¬ off.toNat + 4 ≤ 0x2500000
  omega

lemma getAccepted_iff : GetAccepted off ↔ InSpram 4 off := by
  constructor
  · intro h
    by_contra hno
    -- a memory of zeros does not hold the error
    have hzero : readWord (fun _ => 0 : Mem) (vaddrVeneziaSpram + off) = 0 := by
      simp only [readWord]
      decide
    have hget := congrArg Prod.fst (h { boot 0 (fun _ => 0) with mem := fun _ => 0 })
    rw [vnzBridgeGetSpramValue, if_pos (get_refused_iff.mpr hno)] at hget
    exact absurd (hget.trans hzero) (by decide)
  · intro hin w
    rw [vnzBridgeGetSpramValue, if_neg (not_not.mpr hin ∘ get_refused_iff.mp)]

/-! ### The array beside the plugin -/

/-- The plugin with the writes that the array has accepted, newest first. -/
structure SpramRun where
  world : World
  writes : List (Write Byte spramBytes)

/-- The accepted writes after a step. -/
def nextWrites (ws : List (Write Byte spramBytes)) : Step → List (Write Byte spramBytes)
  | .call _ (.vnzBridgeMemcpyToSpram _ _ off) sv =>
      if h : off.toNat + sv.sceKernelCopyFromUser.bytes.length ≤ spramBytes then
        ⟨off.toNat, sv.sceKernelCopyFromUser.bytes, h⟩ :: ws
      else ws
  | _ => ws

/-- A step of both. -/
def SpramRun.step (t : SpramRun) (e : Step) : SpramRun :=
  ⟨VVNZRunner.step t.world e, nextWrites t.writes e⟩

/-- The step is a copy to SPRAM whose bytes all come in, or leaves the window alone. -/
def SpramAllowed (t : SpramRun) : Step → Prop
  | .call _ (.vnzBridgeMemcpyToSpram _ size _) sv =>
      sv.sceKernelCopyFromUser.bytes.length = size.toNat
  | e => spramWindow (step t.world e).mem = spramWindow t.world.mem

/-- The byte of the array: what was last written there, at first what the window held. -/
def SpramRun.byte (init : Fin spramBytes → Byte) (t : SpramRun) (o : Fin spramBytes) : Byte :=
  (lastWritten t.writes o).getD (init o)

/-- The bytes of a range of the array. -/
def SpramRun.bytes (init : Fin spramBytes → Byte) (t : SpramRun) (off len : ℕ)
    (h : off + len ≤ spramBytes) : List Byte :=
  List.ofFn fun i : Fin len => t.byte init ⟨off + i, by omega⟩

/-- A copy to SPRAM is made exactly inside the window, and changes that range only; outside it
the call returns `SCE_ERROR_ERRNO_ERANGE` and changes nothing. -/
def WriteExact (src size off : Word) (sv : Services) (w : World) : Prop :=
  if InSpram size off then
    vnzBridgeMemcpyToSpram src size off sv w = (sv.sceKernelCopyFromUser.ret,
        w.sceKernelCopyFromUser (vaddrVeneziaSpram + off) src size sv) ∧
      ∀ x, (vnzBridgeMemcpyToSpram src size off sv w).2.mem x ≠ w.mem x →
        ∃ o, off.toNat ≤ o ∧ o < off.toNat + size.toNat ∧
          x = vaddrVeneziaSpram + BitVec.ofNat 32 o
  else vnzBridgeMemcpyToSpram src size off sv w = (sceErrorErrnoERANGE, w)

/-- A copy from SPRAM copies out the bytes of the array exactly inside the window. -/
def ReadExact (init : Fin spramBytes → Byte) (t : SpramRun) (dst size off : Word)
    (sv : Services) : Prop :=
  if h : InSpram size off then
    vnzBridgeMemcpyFromSpram dst size off sv t.world = (sv.sceKernelCopyToUser,
      t.world.emit (.sceKernelCopyToUser dst (.kernel (vaddrVeneziaSpram + off))
        (t.bytes init off.toNat size.toNat h) sv.sceKernelCopyToUser))
  else vnzBridgeMemcpyFromSpram dst size off sv t.world = (sceErrorErrnoERANGE, t.world)

/-- `vnzBridgeGetSpramValue` accepts what a copy of four bytes accepts, and returns their
little-endian value. -/
structure GetExact (init : Fin spramBytes → Byte) (t : SpramRun) (off : Word) : Prop where
  accepts : GetAccepted off ↔ ReadAccepted 4 off
  value : ∀ h : InSpram 4 off,
    wordBytes (vnzBridgeGetSpramValue off t.world).1 = t.bytes init off.toNat 4 h
  refuses : ¬ ReadAccepted 4 off →
    (vnzBridgeGetSpramValue off t.world).1 = sceErrorErrnoERANGE
  world : (vnzBridgeGetSpramValue off t.world).2 = t.world

/-- The call does what the array does. -/
def SpramExact (init : Fin spramBytes → Byte) (t : SpramRun) : Step → Prop
  | .call _ (.vnzBridgeMemcpyToSpram src size off) sv => WriteExact src size off sv t.world
  | .call _ (.vnzBridgeMemcpyFromSpram dst size off) sv => ReadExact init t dst size off sv
  | .call _ (.vnzBridgeGetSpramValue off) _ => GetExact init t off
  | _ => True

/-- The sum of the call, with four for the size of `vnzBridgeGetSpramValue`, does not wrap into
the window. -/
def SpramSumFits : Step → Prop
  | .call _ (.vnzBridgeMemcpyToSpram _ size off) _ => SumFits size off
  | .call _ (.vnzBridgeMemcpyFromSpram _ size off) _ => SumFits size off
  | .call _ (.vnzBridgeGetSpramValue off) _ => SumFits 4 off
  | _ => True

/-! ### One call -/

variable {t : SpramRun} {init : Fin spramBytes → Byte} {sv : Services} {w : World}

/-- The window holds the array. -/
def HoldsArray (init : Fin spramBytes → Byte) (t : SpramRun) : Prop :=
  spramWindow t.world.mem = contents init t.writes

/-- The bytes of a range of the window are those of the array. -/
lemma HoldsArray.bytes (h : HoldsArray init t) {off : Word} {len : ℕ}
    (hin : off.toNat + len ≤ spramBytes) :
    t.world.mem.read (vaddrVeneziaSpram + off) len = t.bytes init off.toNat len hin := by
  rw [read_spramWindow hin, h, read_contents]
  rfl

lemma writeExact_iff (src size off : Word) (sv : Services) (w : World)
    (hlen : sv.sceKernelCopyFromUser.bytes.length = size.toNat) :
    WriteExact src size off sv w ↔ SumFits size off := by
  rw [← spramRangeOk_iff_inSpram, WriteExact]
  have hn := spramBytes_lt
  by_cases hin : InSpram size off
  · have hsum : off.toNat + size.toNat ≤ spramBytes := hin
    have hok := hin.rangeOk
    have hcopy : vnzBridgeMemcpyToSpram src size off sv w = (sv.sceKernelCopyFromUser.ret,
        w.sceKernelCopyFromUser (vaddrVeneziaSpram + off) src size sv) := by
      rw [vnzBridgeMemcpyToSpram, if_pos hok]
    rw [if_pos hin]
    refine iff_of_true ⟨hcopy, fun x hx => ?_⟩ (iff_of_true hok hin)
    have hrange : InRange (vaddrVeneziaSpram + off)
        (sv.sceKernelCopyFromUser.bytes.take size.toNat).length x := by
      by_contra hout
      rw [hcopy] at hx
      exact hx (write_apply_outside hout)
    rw [List.take_of_length_le hlen.le, hlen, spram_add, inRange_add (by omega)] at hrange
    refine ⟨(x - vaddrVeneziaSpram).toNat, hrange.1, hrange.2, ?_⟩
    rw [BitVec.ofNat_toNat, BitVec.setWidth_eq, BitVec.add_comm, BitVec.sub_add_cancel]
  · rw [if_neg hin]
    by_cases hok : SpramRangeOk size off
    · refine iff_of_false (fun h => ?_) fun h => hin (h.mp hok)
      rw [vnzBridgeMemcpyToSpram, if_pos hok] at h
      have htrace := congrArg (fun r => r.2.trace.length) h
      exact absurd htrace (Nat.succ_ne_self _)
    · refine iff_of_true ?_ (iff_of_false hok hin)
      rw [vnzBridgeMemcpyToSpram, if_neg hok]

lemma readExact_iff (dst size off : Word) (sv : Services) (h : HoldsArray init t) :
    ReadExact init t dst size off sv ↔ SumFits size off := by
  rw [← spramRangeOk_iff_inSpram, ReadExact]
  by_cases hin : InSpram size off
  · rw [dif_pos hin]
    refine iff_of_true ?_ (iff_of_true hin.rangeOk hin)
    rw [vnzBridgeMemcpyFromSpram, if_pos hin.rangeOk, World.sceKernelCopyToUser, h.bytes hin]
  · rw [dif_neg hin]
    by_cases hok : SpramRangeOk size off
    · refine iff_of_false (fun h => ?_) fun h => hin (h.mp hok)
      rw [vnzBridgeMemcpyFromSpram, if_pos hok] at h
      have htrace := congrArg (fun r => r.2.trace.length) h
      exact absurd htrace (Nat.succ_ne_self _)
    · refine iff_of_true ?_ (iff_of_false hok hin)
      rw [vnzBridgeMemcpyFromSpram, if_neg hok]

lemma getExact_iff (off : Word) (h : HoldsArray init t) :
    GetExact init t off ↔ SumFits 4 off := by
  rw [← spramRangeOk_iff_inSpram, ← readAccepted_iff, ← getAccepted_iff]
  constructor
  · exact fun hget => hget.accepts.symm
  · intro hiff
    refine ⟨hiff.symm, fun hin => ?_, fun hno => ?_, ?_⟩
    · rw [getAccepted_iff.mpr hin, wordBytes_readWord]
      exact h.bytes hin
    · have hout : ¬ InSpram 4 off := fun hin => hno (hiff.mpr (getAccepted_iff.mpr hin))
      rw [vnzBridgeGetSpramValue, if_pos (get_refused_iff.mpr hout)]
    · rw [vnzBridgeGetSpramValue]
      split_ifs <;> rfl

/-- **A call does what the array does exactly if** its sum does not wrap into the window. -/
theorem spramExact_iff (e : Step) (h : HoldsArray init t) (hok : SpramAllowed t e) :
    SpramExact init t e ↔ SpramSumFits e := by
  cases e with
  | call pid c sv =>
      cases c with
      | vnzBridgeMemcpyToSpram src size off => exact writeExact_iff src size off sv t.world hok
      | vnzBridgeMemcpyFromSpram dst size off => exact readExact_iff dst size off sv h
      | vnzBridgeGetSpramValue off => exact getExact_iff off h
      | _ => exact Iff.rfl
  | _ => exact Iff.rfl

/-- A copy to SPRAM whose sum does not wrap is a write of the array. -/
lemma holdsArray_write {src size off : Word} {sv : Services} (pid : Pid) (h : HoldsArray init t)
    (hlen : sv.sceKernelCopyFromUser.bytes.length = size.toNat) (hsum : SumFits size off) :
    HoldsArray init (t.step (.call pid (.vnzBridgeMemcpyToSpram src size off) sv)) := by
  have hok := spramRangeOk_iff_inSpram.mpr hsum
  change spramWindow (vnzBridgeMemcpyToSpram src size off sv t.world).2.mem =
    contents init (nextWrites t.writes (.call pid (.vnzBridgeMemcpyToSpram src size off) sv))
  rw [nextWrites]
  by_cases hin : InSpram size off
  · have hfits : off.toNat + sv.sceKernelCopyFromUser.bytes.length ≤ spramBytes := by
      rw [hlen]
      exact hin
    rw [vnzBridgeMemcpyToSpram, if_pos (hok.mpr hin), dif_pos hfits, contents_cons, ← h,
      World.sceKernelCopyFromUser]
    dsimp only
    rw [List.take_of_length_le hlen.le]
    exact spramWindow_write hfits
  · have hfits : ¬ off.toNat + sv.sceKernelCopyFromUser.bytes.length ≤ spramBytes := by
      rw [hlen]
      exact hin
    rw [vnzBridgeMemcpyToSpram, if_neg (mt hok.mp hin), dif_neg hfits]
    exact h

/-- Calls whose sums do not wrap keep the array in the window. -/
theorem holdsArray_step (e : Step) (h : HoldsArray init t) (hok : SpramAllowed t e)
    (hsum : SpramSumFits e) : HoldsArray init (t.step e) := by
  cases e with
  | call pid c sv =>
      cases c with
      | vnzBridgeMemcpyToSpram src size off => exact holdsArray_write pid h hok hsum
      | _ => exact Eq.trans hok h
  | _ => exact Eq.trans hok h

/-! ### Whole runs -/

/-- **SPRAM is one bounds-checked array of bytes exactly if** no call of the run has a sum that
wraps into the window: copies and reads are refused outside the window and only there, a write
changes its range only, and a read returns what was last written. -/
theorem spram_array_iff (w : World) (es : List Step)
    (hok : Admissible SpramRun.step SpramAllowed ⟨w, []⟩ es) :
    Admissible SpramRun.step (SpramExact (spramWindow w.mem)) ⟨w, []⟩ es ↔
      ∀ e ∈ es, SpramSumFits e := by
  have hiff : Admissible SpramRun.step (SpramExact (spramWindow w.mem)) ⟨w, []⟩ es ↔
      Admissible SpramRun.step (fun _ e => SpramSumFits e) ⟨w, []⟩ es :=
    admissible_iff_admissible (P := HoldsArray (spramWindow w.mem))
      (fun t e ht he => spramExact_iff e ht he)
      (fun t e ht he hsum => holdsArray_step e ht he hsum) rfl hok
  exact hiff.trans admissible_iff_forall

/-- One byte copied to offset `0xFFFFFFFF`, whose sum is `0`. -/
def wrappedWrite : Step :=
  .call samplePid (.vnzBridgeMemcpyToSpram 0x81100000 1 0xFFFFFFFF)
    { sceKernelCopyFromUser := { bytes := [7] } }

/-- It is stored in front of the window. -/
theorem wrapped_write_accepted :
    ret (boot 166 fun _ => 0) wrappedWrite = sceOk ∧
      (step (boot 166 fun _ => 0) wrappedWrite).mem 0x280FFFFF = 7 ∧
      Admissible SpramRun.step SpramAllowed ⟨boot 166 fun _ => 0, []⟩ [wrappedWrite] ∧
      ¬ Admissible SpramRun.step (SpramExact (spramWindow (boot 166 fun _ => 0).mem))
        ⟨boot 166 fun _ => 0, []⟩ [wrappedWrite] := by
  refine ⟨by decide, by decide, ⟨rfl, trivial⟩, fun h => ?_⟩
  have hexact : WriteExact 0x81100000 1 0xFFFFFFFF { sceKernelCopyFromUser := { bytes := [7] } }
      (boot 166 fun _ => 0) := h.1
  rw [WriteExact, if_neg (by decide)] at hexact
  exact absurd (congrArg (fun r => r.2.trace.length) hexact) (by decide)

/-- Two overlapping writes and a read of both. -/
def overlappingWrites : List Step :=
  [.call samplePid (.vnzBridgeMemcpyToSpram 0x81100000 2 0x1400)
      { sceKernelCopyFromUser := { bytes := [1, 2] } },
    .call samplePid (.vnzBridgeMemcpyToSpram 0x81100000 2 0x1401)
      { sceKernelCopyFromUser := { bytes := [3, 4] } },
    .call samplePid (.vnzBridgeMemcpyFromSpram 0x81200000 3 0x1400) {}]

theorem spram_array_iff_overlappingWrites :
    Admissible SpramRun.step (SpramExact (spramWindow (boot 166 fun _ => 0).mem))
        ⟨boot 166 fun _ => 0, []⟩ overlappingWrites ↔
      ∀ e ∈ overlappingWrites, SpramSumFits e :=
  spram_array_iff (boot 166 fun _ => 0) overlappingWrites ⟨rfl, rfl, rfl, trivial⟩

end VVNZRunner
