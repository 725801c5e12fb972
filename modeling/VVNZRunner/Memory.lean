import VVNZRunner.World

/-!
`memory.c`: mapping user memory to Venezia and the accesses to Venezia's SPRAM.
-/

namespace VVNZRunner

open ByteMemory

/-- `vnzBridgeMapMemory`. The permission class and the mode go together: `(KERN_W, 2)` for a
writable mapping, `(KERN_R, 1)` otherwise. -/
def vnzBridgeMapMemory (vaddr size vnzPaddr isVnzWritable : Word) (sv : Services) (w : World) :
    Word × World :=
  let w :=
    if isVnzWritable ≠ 0 then w.sceAvcodecMapMemoryToVenezia vaddr size .kernW 2 1 sv
    else w.sceAvcodecMapMemoryToVenezia vaddr size .kernR 1 1 sv
  -- `res` starts as `NULL` and keeps that value when the service leaves it unwritten
  let res := sv.sceAvcodecMapMemoryToVenezia.out.getD 0
  (sv.sceAvcodecMapMemoryToVenezia.ret, w.sceKernelCopyLocalToUser vnzPaddr (wordBytes res) sv)

/-- The permission class `isVnzWritable` stands for. -/
def mapPerm (isVnzWritable : Word) : MemoryRefPerm := if isVnzWritable ≠ 0 then .kernW else .kernR

/-- The two events of `vnzBridgeMapMemory`. -/
lemma vnzBridgeMapMemory_eq (vaddr size vnzPaddr isVnzWritable : Word) (sv : Services)
    (w : World) :
    (vnzBridgeMapMemory vaddr size vnzPaddr isVnzWritable sv w).2 =
      (w.emit (.sceAvcodecMapMemoryToVenezia vaddr size (mapPerm isVnzWritable)
        (if isVnzWritable ≠ 0 then 2 else 1) 1 sv.sceAvcodecMapMemoryToVenezia)).emit
          (.sceKernelCopyToUser vnzPaddr .local
            (wordBytes (sv.sceAvcodecMapMemoryToVenezia.out.getD 0)) sv.sceKernelCopyToUser) := by
  rw [vnzBridgeMapMemory, mapPerm]
  split_ifs <;> rfl

/-- The base of the range `vnzBridgeUnmapMemory` works on. -/
def unmapRangeBase (va : Word) : Word := va &&& 0xffffff00

/-- The length of the range it releases. -/
def unmapRangeSize (va size : Word) : Word := (size + 0xff + (va &&& 0xff)) &&& 0xffffff00

/-- The length of the range it invalidates in the cache. -/
def unmapInvalidateSize (va size : Word) : Word :=
  (((va + 0xff) - (va &&& 0xffffff00)) + size) &&& 0xffffff00

/-- `vnzBridgeUnmapMemory`. -/
def vnzBridgeUnmapMemory (vaddr size isVnzWritable : Word) (sv : Services) (w : World) :
    Word × World :=
  let w :=
    if isVnzWritable ≠ 0 then
      (w.emit (.sceKernelDcacheInvalidateRange (unmapRangeBase vaddr)
        (unmapInvalidateSize vaddr size))).sceKernelMemRangeReleaseWithPerm .kernW
          (unmapRangeBase vaddr) (unmapRangeSize vaddr size) sv
    else
      w.sceKernelMemRangeReleaseWithPerm .kernR (unmapRangeBase vaddr)
        (unmapRangeSize vaddr size) sv
  (sv.sceKernelMemRangeReleaseWithPerm, w)

/-- The release `vnzBridgeUnmapMemory` ends with; a writable range is invalidated before. -/
lemma vnzBridgeUnmapMemory_cases (vaddr size isVnzWritable : Word) (sv : Services) (w : World) :
    ∃ w', (w' = w ∨ w' = w.emit (.sceKernelDcacheInvalidateRange (unmapRangeBase vaddr)
        (unmapInvalidateSize vaddr size))) ∧
      (vnzBridgeUnmapMemory vaddr size isVnzWritable sv w).2 =
        w'.sceKernelMemRangeReleaseWithPerm (mapPerm isVnzWritable) (unmapRangeBase vaddr)
          (unmapRangeSize vaddr size) sv := by
  rw [vnzBridgeUnmapMemory, mapPerm]
  split_ifs
  · exact ⟨_, Or.inr rfl, rfl⟩
  · exact ⟨_, Or.inl rfl, rfl⟩

/-- The bound both SPRAM copies check: the 32-bit sum against `SPRAM_MEMSIZE`. -/
def SpramRangeOk (size spramOffset : Word) : Prop := ¬ spramMemsize < spramOffset + size

instance (size off : Word) : Decidable (SpramRangeOk size off) :=
  inferInstanceAs (Decidable (¬ spramMemsize < off + size))

/-- `vnzBridgeMemcpyToSpram`. -/
def vnzBridgeMemcpyToSpram (src size spramOffset : Word) (sv : Services) (w : World) :
    Word × World :=
  if SpramRangeOk size spramOffset then
    (sv.sceKernelCopyFromUser.ret,
      w.sceKernelCopyFromUser (vaddrVeneziaSpram + spramOffset) src size sv)
  else (sceErrorErrnoERANGE, w)

/-- `vnzBridgeMemcpyFromSpram`. -/
def vnzBridgeMemcpyFromSpram (dst size spramOffset : Word) (sv : Services) (w : World) :
    Word × World :=
  if SpramRangeOk size spramOffset then
    (sv.sceKernelCopyToUser,
      w.sceKernelCopyToUser dst (vaddrVeneziaSpram + spramOffset) size sv)
  else (sceErrorErrnoERANGE, w)

/-- `vnzBridgeGetSpramValue`. -/
def vnzBridgeGetSpramValue (offset : Word) (w : World) : Word × World :=
  if spramMemsize - 4 < offset then (sceErrorErrnoERANGE, w)
  else (readWord w.mem (vaddrVeneziaSpram + offset), w)

end VVNZRunner
