import VVNZRunner.Platform
import VVNZRunner.Library.Window

/-!
The Venezia side: `crt0.c` and `vnz/common.h`, in their own words.

* `Venezia`: physical memory, the rest of the address space of the core, the view that is
  open, and the word `GET_COMM_PARAM` names.
* `VeneziaMain`: a `main`, as what it makes of the argument bytes it is handed.
* `start`: `_start`. The `vnzMemory` functions are routines of the Venezia image: a `VnzMemory`
  is the range it was created for, and the address `vnzMemoryOpenPublic` answers is a parameter.
* `start_spec`: `main` is handed what lies behind the header, and its bytes land there.
-/

namespace VVNZRunner

open ByteMemory

/-- `sizeof(SceVeneziaCommParam)` of `vnz/common.h`, its own copy of the structure. -/
def vnzSizeofCommParam : ℕ := 12

/-- `VnzMemory`: the physical range it was created for. -/
structure VnzMemory where
  paddr : Word
  size : Word

/-- The Venezia core. `physical` is the memory both sides share, `rest` the address space
around the open view, `commParam` the word at `VENEZIA_SPRAM_ADDR + SPRAM_USE_OFFSET`. -/
structure Venezia where
  physical : Mem
  rest : Mem
  opened : Window 32
  commParam : Word

/-- What `main` is handed, and what it reads there: its arguments, `GET_CODE_BASE`,
`GET_CODE_OFFSET`, `GET_CODE_SIZE` and the `userArgSize` bytes at `pUserArg`. -/
structure MainView where
  pVThreadProcessingResource : Word
  pUserArg : Word
  userArgSize : Word
  codeBase : Word
  codeOffset : Word
  codeSize : Word
  argBytes : List Byte

/-- A `main`: its return value and what it leaves of the argument bytes. -/
structure VeneziaMain where
  run : MainView → Word × List Byte
  length_run : ∀ v, (run v).2.length = v.argBytes.length

namespace Venezia

/-- The address space of the core. -/
def virt (z : Venezia) : Mem := z.opened.view z.physical z.rest

/-- A store of the core. -/
def store (a : Word) (bs : List Byte) (z : Venezia) : Venezia :=
  { z with
    physical := z.opened.swap.view (z.virt.write a bs) z.physical
    rest := fun x =>
      if InRange z.opened.outer z.opened.size x then z.rest x else z.virt.write a bs x }

/-- `vnzMemoryOpenPublic`: from `vaddrVnz` on the core sees the bytes of `memory`. -/
def openPublic (memory : VnzMemory) (vaddrVnz : Word) (z : Venezia) : Venezia :=
  { z with opened := ⟨memory.paddr, vaddrVnz, memory.size.toNat⟩ }

/-- `vnzMemoryClosePublic`. -/
def closePublic (z : Venezia) : Venezia := { z with opened := .empty }

/-- What `main` finds when it is called with these arguments. -/
def mainView (pVThreadProcessingResource pUserArg userArgSize : Word) (z : Venezia) :
    MainView where
  pVThreadProcessingResource := pVThreadProcessingResource
  pUserArg := pUserArg
  userArgSize := userArgSize
  codeBase := readWord z.virt z.commParam
  codeOffset := readWord z.virt (z.commParam + 4)
  codeSize := readWord z.virt (z.commParam + 8)
  argBytes := z.virt.read pUserArg userArgSize.toNat

end Venezia

/-- A call of `main`. -/
def VeneziaMain.call (main : VeneziaMain)
    (pVThreadProcessingResource pUserArg userArgSize : Word) (z : Venezia) : Word × Venezia :=
  let r := main.run (z.mainView pVThreadProcessingResource pUserArg userArgSize)
  (r.1, z.store pUserArg r.2)

/-- `vnzMemoryCreate`. -/
def vnzMemoryCreate (paddr size : Word) : VnzMemory := ⟨paddr, size⟩

/-- `argMem` of `_start`: the header at `pCommParam` and the argument bytes behind it. -/
def argMem (arg : SceVeneziaThunkArg) : VnzMemory :=
  vnzMemoryCreate arg.userArg4 (BitVec.ofNat 32 vnzSizeofCommParam + arg.userArg3)

/-- `_start`, entered with the four words of the thunk argument. The argument pointer among
them is not used: `main` is handed an address in the view that `_start` opens itself. -/
def start (vnzMemoryOpenPublic : VnzMemory → Word) (main : VeneziaMain)
    (arg : SceVeneziaThunkArg) (z : Venezia) : Word × Venezia :=
  let pArgMem := vnzMemoryOpenPublic (argMem arg)
  if pArgMem = 0 then (sceErrorErrnoEINVAL, z)
  else
    let z := { z.openPublic (argMem arg) pArgMem with commParam := pArgMem }
    let pUserArg := if arg.userArg3 ≠ 0 then pArgMem + BitVec.ofNat 32 vnzSizeofCommParam else 0
    let (ret, z) := main.call arg.pVThreadProcessingResource pUserArg arg.userArg3 z
    (ret, z.closePublic)

/-- `vnzMemoryOpenPublic` opens a view of the memory: an object that does not lie at `NULL`
and does not run past the top of the address space. -/
def OpensPublic (vnzMemoryOpenPublic : VnzMemory → Word) (memory : VnzMemory) : Prop :=
  vnzMemoryOpenPublic memory ≠ 0 ∧
    (vnzMemoryOpenPublic memory).toNat + memory.size.toNat ≤ 2 ^ 32

/-! ### What `_start` does -/

section Start

variable {vnzMemoryOpenPublic : VnzMemory → Word} {arg : SceVeneziaThunkArg} {z : Venezia}

lemma argMem_size (hn : arg.userArg3.toNat + 12 < 2 ^ 32) :
    (argMem arg).size.toNat = 12 + arg.userArg3.toNat := by
  rw [argMem, vnzMemoryCreate, BitVec.toNat_add, BitVec.toNat_ofNat, vnzSizeofCommParam]
  omega

/-- The core as `main` finds it. -/
def entered (vnzMemoryOpenPublic : VnzMemory → Word) (arg : SceVeneziaThunkArg) (z : Venezia) :
    Venezia :=
  { z.openPublic (argMem arg) (vnzMemoryOpenPublic (argMem arg)) with
    commParam := vnzMemoryOpenPublic (argMem arg) }

/-- What `main` is handed when the view is open, in terms of what lies behind it. -/
def startView (vnzMemoryOpenPublic : VnzMemory → Word) (arg : SceVeneziaThunkArg)
    (codeBase codeOffset codeSize : Word) (argBytes : List Byte) : MainView where
  pVThreadProcessingResource := arg.pVThreadProcessingResource
  pUserArg := vnzMemoryOpenPublic (argMem arg) + BitVec.ofNat 32 12
  userArgSize := arg.userArg3
  codeBase := codeBase
  codeOffset := codeOffset
  codeSize := codeSize
  argBytes := argBytes

/-- `_start` with a view and an argument. -/
lemma start_of_opened (main : VeneziaMain) (hopen : vnzMemoryOpenPublic (argMem arg) ≠ 0)
    (hne : arg.userArg3 ≠ 0) :
    start vnzMemoryOpenPublic main arg z =
      let u := entered vnzMemoryOpenPublic arg z
      let r := main.call arg.pVThreadProcessingResource
        (vnzMemoryOpenPublic (argMem arg) + BitVec.ofNat 32 12) arg.userArg3 u
      (r.1, r.2.closePublic) := by
  rw [start]
  dsimp only
  rw [if_neg hopen, if_pos hne]
  rfl

/-- The view `_start` opens covers the header and the argument bytes. -/
lemma entered_view (hn : arg.userArg3.toNat + 12 < 2 ^ 32) {codeBase codeOffset codeSize : Word}
    (hheader : z.physical.read arg.userArg4 12 =
      wordBytes codeBase ++ wordBytes codeOffset ++ wordBytes codeSize) :
    (entered vnzMemoryOpenPublic arg z).mainView arg.pVThreadProcessingResource
        (vnzMemoryOpenPublic (argMem arg) + BitVec.ofNat 32 12) arg.userArg3 =
      startView vnzMemoryOpenPublic arg codeBase codeOffset codeSize
        (z.physical.read (arg.userArg4 + BitVec.ofNat 32 12) arg.userArg3.toNat) := by
  have hlt := (argMem arg).size.isLt
  have hsize := argMem_size hn
  generalize hu : entered vnzMemoryOpenPublic arg z = u
  have hwin : u.opened = ⟨arg.userArg4, vnzMemoryOpenPublic (argMem arg),
      (argMem arg).size.toNat⟩ := by rw [← hu]; rfl
  have hvirt : u.virt = u.opened.view z.physical u.rest := by rw [← hu]; rfl
  have hcomm : u.commParam = vnzMemoryOpenPublic (argMem arg) := by rw [← hu]; rfl
  have hargs : u.virt.read (vnzMemoryOpenPublic (argMem arg) + BitVec.ofNat 32 12)
      arg.userArg3.toNat =
        z.physical.read (arg.userArg4 + BitVec.ofNat 32 12) arg.userArg3.toNat := by
    rw [hvirt, hwin]
    exact Window.read_view (by dsimp only; omega) (by dsimp only; omega)
  have hhead : u.virt.read (vnzMemoryOpenPublic (argMem arg)) 12 =
      wordBytes codeBase ++ wordBytes codeOffset ++ wordBytes codeSize := by
    rw [hvirt, hwin, ← hheader]
    exact Window.read_view_start (by dsimp only; omega) (by dsimp only; omega)
  obtain ⟨hbase, hoffset, hcode⟩ := readWord_three hhead
  rw [Venezia.mainView, hcomm, hbase, hoffset, hcode, hargs]
  rfl

/-- `_start` runs `main` on the view it opens, and only the argument bytes change. -/
lemma start_physical (main : VeneziaMain) (hopen : vnzMemoryOpenPublic (argMem arg) ≠ 0)
    (hne : arg.userArg3 ≠ 0) (hn : arg.userArg3.toNat + 12 < 2 ^ 32) :
    let v := (entered vnzMemoryOpenPublic arg z).mainView arg.pVThreadProcessingResource
      (vnzMemoryOpenPublic (argMem arg) + BitVec.ofNat 32 12) arg.userArg3
    (start vnzMemoryOpenPublic main arg z).1 = (main.run v).1 ∧
      (start vnzMemoryOpenPublic main arg z).2.physical =
        z.physical.write (arg.userArg4 + BitVec.ofNat 32 12) (main.run v).2 := by
  intro v
  have hsize := argMem_size hn
  have hlt := (argMem arg).size.isLt
  have hlen : (main.run v).2.length = arg.userArg3.toNat := by
    rw [main.length_run]
    exact read_length _ _ _
  rw [start_of_opened main hopen hne]
  refine ⟨rfl, ?_⟩
  exact Window.swap_view_write (v := (entered vnzMemoryOpenPublic arg z).opened)
    (m := z.physical) (by rw [hlen]; exact hsize.ge) hlt.le

/-- **`_start` hands `main` what lies behind the header, and what `main` leaves lands there.**
Nothing else of physical memory changes. -/
theorem start_spec (main : VeneziaMain) (hopen : vnzMemoryOpenPublic (argMem arg) ≠ 0)
    (hne : arg.userArg3 ≠ 0) (hn : arg.userArg3.toNat + 12 < 2 ^ 32)
    {codeBase codeOffset codeSize : Word}
    (hheader : z.physical.read arg.userArg4 12 =
      wordBytes codeBase ++ wordBytes codeOffset ++ wordBytes codeSize) :
    let v := startView vnzMemoryOpenPublic arg codeBase codeOffset codeSize
      (z.physical.read (arg.userArg4 + BitVec.ofNat 32 12) arg.userArg3.toNat)
    (start vnzMemoryOpenPublic main arg z).1 = (main.run v).1 ∧
      (start vnzMemoryOpenPublic main arg z).2.physical =
        z.physical.write (arg.userArg4 + BitVec.ofNat 32 12) (main.run v).2 := by
  intro v
  have hphysical := start_physical (z := z) main hopen hne hn
  rw [entered_view hn hheader] at hphysical
  exact hphysical

/-- The pointer `main` is handed is not `NULL`. -/
lemma startView_pUserArg_ne (hopen : OpensPublic vnzMemoryOpenPublic (argMem arg))
    (hne : arg.userArg3 ≠ 0) (hn : arg.userArg3.toNat + 12 < 2 ^ 32) :
    vnzMemoryOpenPublic (argMem arg) + BitVec.ofNat 32 12 ≠ 0 := by
  have hsize := argMem_size hn
  have hpos : arg.userArg3.toNat ≠ 0 := fun h => hne (BitVec.eq_of_toNat_eq h)
  have hend := hopen.2
  intro h
  have hzero := congrArg BitVec.toNat h
  rw [BitVec.toNat_add, BitVec.toNat_ofNat, Nat.mod_eq_of_lt (by omega)] at hzero
  change (vnzMemoryOpenPublic (argMem arg)).toNat + 12 = 0 at hzero
  omega

end Start

end VVNZRunner
