import VVNZRunner.Library.ByteMemory
import VVNZRunner.Library.Granule

/-!
A part of the MeP instruction set: the ten instructions of a small loader.

* `Instr`, `decode`: instructions and their 16-bit encodings, field by field; the load with a
  16-bit displacement takes the next halfword as well.
* `exec`: what an instruction does to the registers, `$lp`, the program counter and memory.
  Addresses and sums wrap at 32 bits; word accesses clear the low two address bits.
* `Program`, `step`: code at a base address, and one step of a core that runs it. A `jsr` hands
  the core to a callee and goes on where the callee leaves it; the calls are recorded.
* `run_line`: a line of instructions other than jumps runs as the composition of their effects.
-/

namespace Mep

open ByteMemory

/-- A general register, `$0` to `$15`. -/
abbrev Reg := BitVec 4

/-- The stack pointer, `$15`. -/
def sp : Reg := 15

/-- The state of a core. -/
structure State where
  regs : Reg → BitVec 32
  lp : BitVec 32
  pc : BitVec 32
  mem : Memory 32

/-- The instructions. Displacements and immediates are sign- or zero-extended already. -/
inductive Instr where
  | nop
  | add (n : Reg) (imm : BitVec 32)
  | add3 (l n m : Reg)
  | ldcLp (n : Reg)
  | lw (n m : Reg)
  | lwDisp (n m : Reg) (disp : BitVec 32)
  | lwSp (n : Reg) (disp : BitVec 32)
  | swSp (n : Reg) (disp : BitVec 32)
  | jsr (m : Reg)
  | jmp (m : Reg)
  deriving DecidableEq, Repr

/-! ### Encodings -/

/-- The instruction a halfword encodes; `ext` is the halfword behind it. -/
def decode (w ext : BitVec 16) : Option Instr :=
  let n : Reg := w.extractLsb' 8 4
  let m : Reg := w.extractLsb' 4 4
  let low : BitVec 4 := w.extractLsb' 0 4
  let dispSp : BitVec 32 := (w.extractLsb' 2 5 ++ 0#2).zeroExtend 32
  match w.extractLsb' 12 4 with
  | 0x0#4 =>
      if w = 0 then some .nop                                        -- 0000 0000 0000 0000
      else if low = 0xE then some (.lw n m) else none                -- 0000 nnnn mmmm 1110
  | 0x1#4 =>
      if n = 0 ∧ low = 0xE then some (.jmp m)                        -- 0001 0000 mmmm 1110
      else if n = 0 ∧ low = 0xF then some (.jsr m) else none         -- 0001 0000 mmmm 1111
  | 0x4#4 =>
      if w.extractLsb' 7 1 = 0 ∧ w.extractLsb' 0 2 = 2 then
        some (.swSp n dispSp)                                        -- 0100 nnnn 0ddd dd10
      else if w.extractLsb' 7 1 = 0 ∧ w.extractLsb' 0 2 = 3 then
        some (.lwSp n dispSp)                                        -- 0100 nnnn 0ddd dd11
      else none
  | 0x6#4 =>
      if w.extractLsb' 0 2 = 0 then
        some (.add n ((w.extractLsb' 2 6).signExtend 32))            -- 0110 nnnn iiii ii00
      else none
  | 0x7#4 => if w.extractLsb' 0 8 = 0x1A then some (.ldcLp n) else none -- 0111 nnnn 0001 1010
  | 0x9#4 => some (.add3 low n m)                                    -- 1001 nnnn mmmm llll
  | 0xC#4 =>
      if low = 0xE then some (.lwDisp n m (ext.signExtend 32)) else none -- 1100 nnnn mmmm 1110
  | _ => none

/-- The bytes an instruction takes. -/
def Instr.size : Instr → ℕ
  | .lwDisp .. => 4
  | _ => 2

/-- An instruction takes one or two halfwords. -/
lemma Instr.size_even (i : Instr) : i.size = 2 * (i.size / 2) ∧ i.size ≤ 4 := by
  cases i <;> simp [Instr.size]

/-! ### Effects -/

/-- The address of a word access. -/
def wordAddr (a : BitVec 32) : BitVec 32 := a &&& 0xFFFFFFFC

/-- The address of a word. -/
def WordAligned (a : BitVec 32) : Prop := 4 ∣ a.toNat

instance (a : BitVec 32) : Decidable (WordAligned a) := inferInstanceAs (Decidable (_ ∣ _))

lemma WordAligned.add {a b : BitVec 32} (ha : WordAligned a) (hb : WordAligned b) :
    WordAligned (a + b) := by
  rw [WordAligned] at ha hb ⊢
  rw [BitVec.toNat_add]
  omega

lemma wordAddr_toNat (a : BitVec 32) : (wordAddr a).toNat = a.toNat / 4 * 4 := by
  have hmask : wordAddr a = a >>> 2 <<< 2 := by
    rw [wordAddr]
    ext i hi
    interval_cases i <;> simp
  rw [hmask, Granule.toNat_mask]
  rfl

lemma WordAligned.wordAddr {a : BitVec 32} (h : WordAligned a) : wordAddr a = a := by
  refine BitVec.eq_of_toNat_eq ?_
  rw [wordAddr_toNat, Nat.div_mul_cancel h]

namespace State

/-- Write a register. -/
def setReg (s : State) (n : Reg) (v : BitVec 32) : State :=
  { s with regs := Function.update s.regs n v }

/-- Move on by `k` bytes. -/
def next (s : State) (k : ℕ) : State := { s with pc := s.pc + BitVec.ofNat 32 k }

/-- Load a word. -/
def load (s : State) (a : BitVec 32) : BitVec 32 := readWord s.mem (wordAddr a)

/-- Store a word. -/
def store (s : State) (a v : BitVec 32) : State :=
  { s with mem := s.mem.write (wordAddr a) (wordBytes v) }

section Simp

variable (s : State) (n r : Reg) (v a : BitVec 32) (k : ℕ)

@[simp] lemma setReg_regs : (s.setReg n v).regs = Function.update s.regs n v := rfl
@[simp] lemma setReg_lp : (s.setReg n v).lp = s.lp := rfl
@[simp] lemma setReg_pc : (s.setReg n v).pc = s.pc := rfl
@[simp] lemma setReg_mem : (s.setReg n v).mem = s.mem := rfl
@[simp] lemma next_regs : (s.next k).regs = s.regs := rfl
@[simp] lemma next_lp : (s.next k).lp = s.lp := rfl
@[simp] lemma next_pc : (s.next k).pc = s.pc + BitVec.ofNat 32 k := rfl
@[simp] lemma next_mem : (s.next k).mem = s.mem := rfl
@[simp] lemma store_regs : (s.store a v).regs = s.regs := rfl
@[simp] lemma store_lp : (s.store a v).lp = s.lp := rfl
@[simp] lemma store_pc : (s.store a v).pc = s.pc := rfl
@[simp] lemma store_mem : (s.store a v).mem = s.mem.write (wordAddr a) (wordBytes v) := rfl

end Simp

end State

/-- What an instruction does. `jsr` links and jumps; the callee is not run here. -/
def exec (s : State) (i : Instr) : State :=
  match i with
  | .nop => s.next 2
  | .add n imm => (s.setReg n (s.regs n + imm)).next 2
  | .add3 l n m => (s.setReg l (s.regs n + s.regs m)).next 2
  | .ldcLp n => (s.setReg n s.lp).next 2
  | .lw n m => (s.setReg n (s.load (s.regs m))).next 2
  | .lwDisp n m disp => (s.setReg n (s.load (s.regs m + disp))).next 4
  | .lwSp n disp => (s.setReg n (s.load (s.regs sp + disp))).next 2
  | .swSp n disp => (s.store (s.regs sp + disp) (s.regs n)).next 2
  | .jsr m => { s with lp := s.pc + 2, pc := s.regs m }
  | .jmp m => { s with pc := s.regs m }

/-- The instruction goes on with the next one. -/
def Instr.Sequential : Instr → Prop
  | .jsr _ => False
  | .jmp _ => False
  | _ => True

instance (i : Instr) : Decidable i.Sequential := by
  cases i <;> first | exact .isTrue trivial | exact .isFalse id

lemma exec_pc {s : State} {i : Instr} (h : i.Sequential) :
    (exec s i).pc = s.pc + BitVec.ofNat 32 i.size := by
  cases i <;> first | rfl | exact h.elim

/-! ### Code -/

/-- The instruction at halfword `k`. -/
def decodeAt (words : List (BitVec 16)) (k : ℕ) : Option Instr :=
  words[k]?.bind fun w => decode w (words[k + 1]?.getD 0)

/-- From halfword `k` on these instructions are encoded. -/
def CodeAt (words : List (BitVec 16)) : ℕ → List Instr → Prop
  | _, [] => True
  | k, i :: is => decodeAt words k = some i ∧ CodeAt words (k + i.size / 2) is

instance decidableCodeAt (words : List (BitVec 16)) :
    (k : ℕ) → (is : List Instr) → Decidable (CodeAt words k is)
  | _, [] => .isTrue trivial
  | k, i :: is =>
      have := decidableCodeAt words (k + i.size / 2) is
      inferInstanceAs (Decidable (_ ∧ _))

/-- Halfwords from a base address on. -/
structure Program where
  base : BitVec 32
  words : List (BitVec 16)

/-- The halfwords of a sequence of bytes, the lower byte first. -/
def halfwords : List Byte → List (BitVec 16)
  | lo :: hi :: bs => (hi ++ lo) :: halfwords bs
  | _ => []

namespace Program

/-- The halfword at an address of the program. -/
def fetch (p : Program) (a : BitVec 32) : Option (BitVec 16) :=
  let k := (a - p.base).toNat
  if k % 2 = 0 then p.words[k / 2]? else none

/-- The instruction at an address of the program. -/
def instrAt (p : Program) (a : BitVec 32) : Option Instr :=
  (p.fetch a).bind fun w => decode w ((p.fetch (a + 2)).getD 0)

lemma fetch_base {p : Program} {k : ℕ} (hk : 2 * k < 2 ^ 32) :
    p.fetch (p.base + BitVec.ofNat 32 (2 * k)) = p.words[k]? := by
  have hoff : (p.base + BitVec.ofNat 32 (2 * k) - p.base).toNat = 2 * k := offset_toNat hk
  rw [fetch, hoff, if_pos (by omega), Nat.mul_div_cancel_left _ (by decide)]

/-- The instruction at halfword `k`. -/
lemma instrAt_base {p : Program} {k : ℕ} (hk : 2 * k + 2 < 2 ^ 32) :
    p.instrAt (p.base + BitVec.ofNat 32 (2 * k)) = decodeAt p.words k := by
  have hnext : p.base + BitVec.ofNat 32 (2 * k) + 2 =
      p.base + BitVec.ofNat 32 (2 * (k + 1)) := by
    rw [BitVec.add_assoc, Nat.mul_add, BitVec.ofNat_add]
    rfl
  rw [instrAt, decodeAt, hnext, fetch_base (by omega), fetch_base (by omega)]

end Program

/-! ### Runs -/

/-- A callee: the state in which it is entered and the one in which it leaves the core. -/
abbrev Callee := State → State

/-- A core together with the states in which it made calls, the latest first. -/
structure Config where
  state : State
  calls : List State

/-- One step: `none` where no instruction is encoded. -/
def step (p : Program) (callee : Callee) (c : Config) : Option Config :=
  (p.instrAt c.state.pc).map fun i =>
    match i with
    | .jsr m =>
        let entry := exec c.state (.jsr m)
        ⟨callee entry, entry :: c.calls⟩
    | i => ⟨exec c.state i, c.calls⟩

/-- `k` steps. -/
def run (p : Program) (callee : Callee) : ℕ → Config → Option Config
  | 0, c => some c
  | k + 1, c => (step p callee c).bind (run p callee k)

variable {p : Program} {callee : Callee} {s : State} {calls : List State} {i : Instr} {m : Reg}

lemma step_sequential (h : p.instrAt s.pc = some i) (hi : i.Sequential) :
    step p callee ⟨s, calls⟩ = some ⟨exec s i, calls⟩ := by
  rw [step, h]
  cases i <;> first | rfl | exact hi.elim

lemma step_jmp (h : p.instrAt s.pc = some (.jmp m)) :
    step p callee ⟨s, calls⟩ = some ⟨exec s (.jmp m), calls⟩ := by
  rw [step, h]
  rfl

lemma step_jsr (h : p.instrAt s.pc = some (.jsr m)) :
    step p callee ⟨s, calls⟩ =
      some ⟨callee (exec s (.jsr m)), exec s (.jsr m) :: calls⟩ := by
  rw [step, h]
  rfl

/-- Runs compose. -/
lemma run_trans {j k : ℕ} {c c' c'' : Config} (h : run p callee j c = some c')
    (h' : run p callee k c' = some c'') : run p callee (j + k) c = some c'' := by
  induction j generalizing c with
  | zero =>
      cases h
      rw [Nat.zero_add]
      exact h'
  | succ j ih =>
      rw [run] at h
      obtain ⟨c₁, hstep, hrun⟩ := Option.bind_eq_some_iff.mp h
      rw [Nat.add_right_comm, run, hstep]
      exact ih hrun

lemma run_one {c c' : Config} (h : step p callee c = some c') : run p callee 1 c = some c' := by
  rw [run, h]
  rfl

/-- **A line of instructions** runs as the composition of their effects, and leaves the core
at the halfword behind it. -/
theorem run_line {is : List Instr} {k : ℕ} (hcode : CodeAt p.words k is)
    (hseq : ∀ i ∈ is, i.Sequential) (hpc : s.pc = p.base + BitVec.ofNat 32 (2 * k))
    (hk : 2 * k + 4 * is.length < 2 ^ 32) :
    run p callee is.length ⟨s, calls⟩ = some ⟨is.foldl exec s, calls⟩ ∧
      (is.foldl exec s).pc =
        p.base + BitVec.ofNat 32 (2 * (k + (is.map fun i => i.size / 2).sum)) := by
  induction is generalizing s k with
  | nil => exact ⟨rfl, hpc⟩
  | cons i is ih =>
      obtain ⟨hi, hrest⟩ := hcode
      rw [List.length_cons] at hk
      have hsize := i.size_even
      have hinstr : p.instrAt s.pc = some i := by
        rw [hpc, Program.instrAt_base (by omega)]
        exact hi
      have hseqi : i.Sequential := hseq i List.mem_cons_self
      have hpc' : (exec s i).pc = p.base + BitVec.ofNat 32 (2 * (k + i.size / 2)) := by
        rw [exec_pc hseqi, hpc, BitVec.add_assoc, ← BitVec.ofNat_add, Nat.mul_add, ← hsize.1]
      obtain ⟨hrun, hend⟩ := ih hrest (fun j hj => hseq j (List.mem_cons_of_mem i hj)) hpc'
        (by omega)
      refine ⟨?_, ?_⟩
      · rw [List.length_cons, run, step_sequential hinstr hseqi]
        exact hrun
      · rw [List.foldl_cons, hend, List.map_cons, List.sum_cons, Nat.add_assoc]

end Mep
