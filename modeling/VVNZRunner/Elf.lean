import VVNZRunner.Platform

/-!
The part of `elf.h` that `vnzBridgeInject` reads, and its section scan.

Fields are read from memory at the offsets of `Elf32_Ehdr` and `Elf32_Shdr`, every time the
code reads them. A header address is computed as the code computes it, with an `int` product
and 32-bit pointer arithmetic.
-/

namespace VVNZRunner

open ByteMemory

/-! ### `Elf32_Ehdr` -/

def ehdrEntry (m : Mem) (hdr : Word) : Word := readWord m (hdr + 24)
def ehdrShoff (m : Mem) (hdr : Word) : Word := readWord m (hdr + 32)
def ehdrShentsize (m : Mem) (hdr : Word) : BitVec 16 := readHalf m (hdr + 46)
def ehdrShnum (m : Mem) (hdr : Word) : BitVec 16 := readHalf m (hdr + 48)

/-- The seven bytes of `e_ident` that are compared. -/
def elfIdent : List Byte := [0x7F, 0x45, 0x4C, 0x46, 0x01, 0x01, 0x01]

/-- `!memcmp(hdr->e_ident, "\x7F\x45\x4C\x46\x01\x01\x01", 7)`. -/
def IdentMatches (m : Mem) (hdr : Word) : Prop := m.read hdr 7 = elfIdent

instance (m : Mem) (hdr : Word) : Decidable (IdentMatches m hdr) :=
  inferInstanceAs (Decidable (m.read hdr 7 = elfIdent))

/-! ### `Elf32_Shdr` -/

def shdrType (m : Mem) (shdr : Word) : Word := readWord m (shdr + 4)
def shdrFlags (m : Mem) (shdr : Word) : Word := readWord m (shdr + 8)

def shtProgbits : Word := 1#32
def shfAlloc : Word := 2#32
def shfExecinstr : Word := 4#32

/-- The address of section header `i`: `kernelPage + e_shoff + e_shentsize * i`. -/
def shdrAddr (m : Mem) (hdr : Word) (i : ℕ) : Word :=
  hdr + ehdrShoff m hdr + (ehdrShentsize m hdr).zeroExtend 32 * BitVec.ofNat 32 i

/-- `sh_flags == SHF_ALLOC | SHF_EXECINSTR && sh_type == SHT_PROGBITS`, with the precedence of
C: the comparison binds tighter than `|`, and `|` tighter than `&&`. -/
def SectionMatches (m : Mem) (shdr : Word) : Prop :=
  (if shdrFlags m shdr = shfAlloc then 1#32 else 0#32) ||| shfExecinstr ≠ 0 ∧
    shdrType m shdr = shtProgbits

instance (m : Mem) (shdr : Word) : Decidable (SectionMatches m shdr) :=
  inferInstanceAs (Decidable (_ ∧ _))

/-- The scan from section header `i` on with `fuel` headers left: the address of the first
match, `NULL` without one. -/
def scanSections (m : Mem) (hdr : Word) : ℕ → ℕ → Word
  | 0, _ => 0
  | fuel + 1, i =>
      if SectionMatches m (shdrAddr m hdr i) then shdrAddr m hdr i
      else scanSections m hdr fuel (i + 1)

/-- The `shdr` that the loop over `i < e_shnum` leaves behind. -/
def findSection (m : Mem) (hdr : Word) : Word := scanSections m hdr (ehdrShnum m hdr).toNat 0

/-- The image passes the checks: `e_ident` matches and the scan stops at a section. -/
def ImageAccepted (m : Mem) (hdr : Word) : Prop := IdentMatches m hdr ∧ findSection m hdr ≠ 0

instance (m : Mem) (hdr : Word) : Decidable (ImageAccepted m hdr) :=
  inferInstanceAs (Decidable (_ ∧ _))

/-- A small image that passes: the identifier, an entry, and one section header at offset 64
whose type is `SHT_PROGBITS`. -/
def smallImage : Mem :=
  Memory.write (Memory.write (Memory.write (Memory.write (Memory.write (fun _ => 0)
    0 elfIdent) 24 [0x80]) 32 [64]) 48 [1]) 68 [1]

example : ImageAccepted smallImage 0 := by decide

end VVNZRunner
