import VVNZRunner.Crt0
import VVNZRunner.DrawFont

/-!
The program of `vnz_sample_hello_draw`: a text that the pad moves over the screen.

* `VnzRenderArg`: the argument block both sides declare, and its bytes.
* `HelloDraw.State`: the static variables of the program and the memory it draws into.
  `HelloDraw.Routines`: the routines of the Venezia image and of the C library it calls, with
  what it relies on as `Routines.Documented`.
* `HelloDraw.renderThread`, `HelloDraw.main`: the V-thread and the entry, in the source's order.
* `HelloDraw.picture`: the screen the program is meant to show, pixel by pixel.
* `renderThread_spec`: one run of the V-thread moves the text by the buttons and shows that screen.
-/

namespace VVNZRunner

open ByteMemory

/-! ### The argument block -/

/-- `SceCtrlData`. -/
structure SceCtrlData where
  timeStamp : BitVec 64
  buttons : Word
  lx : Byte
  ly : Byte
  rx : Byte
  ry : Byte
  rsrv : Fin 16 → Byte

/-- `VnzRenderArg`. -/
structure VnzRenderArg where
  cmd : Word
  fbidx : Word
  fbmem : Fin 2 → Word
  ctrl : Fin 2 → SceCtrlData

/-- The bytes of `SceCtrlData`. -/
def SceCtrlData.bytes (d : SceCtrlData) : List Byte :=
  wordBytes (d.timeStamp.extractLsb' 0 32) ++ (wordBytes (d.timeStamp.extractLsb' 32 32) ++
    (wordBytes d.buttons ++ ([d.lx, d.ly, d.rx, d.ry] ++ List.ofFn d.rsrv)))

/-- The bytes of `VnzRenderArg`; `ctrl` starts on a multiple of eight without padding. -/
def VnzRenderArg.bytes (arg : VnzRenderArg) : List Byte :=
  wordBytes arg.cmd ++ (wordBytes arg.fbidx ++ (wordBytes (arg.fbmem 0) ++
    (wordBytes (arg.fbmem 1) ++ ((arg.ctrl 0).bytes ++ (arg.ctrl 1).bytes))))

/-- `sizeof(VnzRenderArg)`. -/
def sizeofRenderArg : ℕ := 80

@[simp] lemma SceCtrlData.bytes_length (d : SceCtrlData) : d.bytes.length = 32 := by
  simp [SceCtrlData.bytes]

@[simp] lemma VnzRenderArg.bytes_length (arg : VnzRenderArg) :
    arg.bytes.length = sizeofRenderArg := by
  simp [VnzRenderArg.bytes, sizeofRenderArg]

/-- The argument block with new pad data. -/
def VnzRenderArg.withCtrl (arg : VnzRenderArg) (d : SceCtrlData) : VnzRenderArg :=
  { arg with
    ctrl
      | 0 => d
      | 1 => arg.ctrl 1 }

lemma VnzRenderArg.withCtrl_fst (arg : VnzRenderArg) (d : SceCtrlData) :
    (arg.withCtrl d).ctrl 0 = d := rfl

lemma VnzRenderArg.withCtrl_snd (arg : VnzRenderArg) (d : SceCtrlData) :
    (arg.withCtrl d).ctrl 1 = arg.ctrl 1 := rfl

/-- New pad data replaces the old. -/
@[simp] lemma VnzRenderArg.withCtrl_withCtrl (arg : VnzRenderArg) (d e : SceCtrlData) :
    (arg.withCtrl d).withCtrl e = arg.withCtrl e := rfl

lemma VnzRenderArg.withCtrl_self (arg : VnzRenderArg) : arg.withCtrl (arg.ctrl 0) = arg := by
  refine congrArg (VnzRenderArg.mk _ _ _) (funext fun i => ?_)
  match i with
  | 0 => rfl
  | 1 => rfl

/-- `VNZ_CMD_RENDER`. -/
def vnzCmdRender : Word := 1#32

section Fields

variable {m : Mem} {a : Word} {arg : VnzRenderArg}

/-- The fields the program reads lie where its own declaration puts them. -/
lemma VnzRenderArg.read_fields (h : m.read a sizeofRenderArg = arg.bytes) :
    readWord m a = arg.cmd ∧ readWord m (a + 4) = arg.fbidx ∧
      readWord m (a + 8) = arg.fbmem 0 ∧ readWord m (a + 12) = arg.fbmem 1 ∧
        readWord m (a + 24) = (arg.ctrl 0).buttons := by
  have hcmd : readWord m (a + BitVec.ofNat 32 0) = arg.cmd :=
    readWord_of_read_append [] h
  rw [BitVec.add_zero] at hcmd
  refine ⟨hcmd, ?_, ?_, ?_, ?_⟩
  · exact readWord_of_read_append (wordBytes arg.cmd) h
  · exact readWord_of_read_append (wordBytes arg.cmd ++ wordBytes arg.fbidx) h
  · exact readWord_of_read_append
      (wordBytes arg.cmd ++ wordBytes arg.fbidx ++ wordBytes (arg.fbmem 0)) h
  · exact readWord_of_read_append (wordBytes arg.cmd ++ wordBytes arg.fbidx ++
      wordBytes (arg.fbmem 0) ++ wordBytes (arg.fbmem 1) ++
      wordBytes ((arg.ctrl 0).timeStamp.extractLsb' 0 32) ++
      wordBytes ((arg.ctrl 0).timeStamp.extractLsb' 32 32)) h

/-- The frame buffer that `fbidx` selects. -/
lemma VnzRenderArg.read_fbmem (h : m.read a sizeofRenderArg = arg.bytes) (i : Fin 2)
    (hi : arg.fbidx = BitVec.ofNat 32 i) :
    readWord m (a + 8 + 4 * readWord m (a + 4)) = arg.fbmem i := by
  obtain ⟨-, hidx, hfst, hsnd, -⟩ := VnzRenderArg.read_fields h
  rw [hidx, hi]
  match i with
  | 0 => exact (congrArg (readWord m) (BitVec.add_zero (a + 8))).trans hfst
  | 1 => exact (congrArg (readWord m) (BitVec.add_assoc a 8 4)).trans hsnd

end Fields

/-! ### The program -/

namespace HelloDraw

/-- The static variables `s_fontX` and `s_fontY`, the physical memory the frame buffers lie in,
and the address space of the core around the memory it opens. -/
structure State where
  fontX : Word := 16
  fontY : Word := 16
  physical : Mem
  rest : Mem

/-- The routines the program calls that are not its own. -/
structure Routines where
  vnzMemoryOpenPrivate : VnzMemory → Word
  memzero32 : Word → Word → Mem → Mem
  vnzVThreadCreateContext : Word → Word → Word
  vnzVThreadExecute : Word → (State → State) → State → State

/-- What the program relies on: `memzero32` clears blocks of 32 bytes, and a V-thread has run its
entry by the time its context is deleted. -/
structure Routines.Documented (r : Routines) : Prop where
  memzero32 : ∀ p count m,
    r.memzero32 p count m = m.write p (List.replicate (32 * count.toNat) 0)
  vnzVThreadExecute : ∀ context entry z, r.vnzVThreadExecute context entry z = entry z

def sceCtrlUp : Word := 1 <<< 4
def sceCtrlRight : Word := 1 <<< 5
def sceCtrlDown : Word := 1 <<< 6
def sceCtrlLeft : Word := 1 <<< 7
def sceCtrlCross : Word := 1 <<< 14

/-- `(button & mask) == mask`. -/
def Pressed (button mask : Word) : Prop := button &&& mask = mask

instance (button mask : Word) : Decidable (Pressed button mask) :=
  inferInstanceAs (Decidable (_ = _))

/-- What the buttons add to `s_fontX` and `s_fontY`, in the order of the source. -/
def moveX (button x : Word) : Word :=
  let x := if Pressed button sceCtrlRight then x + 1 else x
  if Pressed button sceCtrlLeft then x - 1 else x

def moveY (button y : Word) : Word :=
  let y := if Pressed button sceCtrlUp then y - 1 else y
  if Pressed button sceCtrlDown then y + 1 else y

/-- The background colour of the text. -/
def background (button : Word) : Word :=
  if Pressed button sceCtrlCross then rgba8 255 0 0 255 else rgba8 0 0 0 255

/-- The string literal. -/
def text : List Byte :=
  "Use DPAD to move me. Hold X to make my background red.".toList.map fun c =>
    BitVec.ofNat 8 c.toNat

/-- The size of the frame buffer in bytes. -/
def fbBytes : Word := BitVec.ofNat 32 (fbWidth * fbHeight * 4)

/-- The view `vnzMemoryOpenPrivate` opens; none if it answers `NULL`. -/
def openedPrivate (memory : VnzMemory) (vaddrVnz : Word) : Window 32 :=
  if vaddrVnz = 0 then .empty else ⟨memory.paddr, vaddrVnz, memory.size.toNat⟩

/-- `renderThread`. Only its first argument is used. -/
def renderThread (r : Routines) (font : Font) (a1 : Word) (z : State) : State :=
  if a1 = 0 then z
  else
    let fbmem := readWord z.rest (a1 + 8 + 4 * readWord z.rest (a1 + 4))
    if fbmem = 0 then z
    else
      let fbMem := vnzMemoryCreate fbmem fbBytes
      let fbMemPtr := r.vnzMemoryOpenPrivate fbMem
      let view := openedPrivate fbMem fbMemPtr
      let m := view.view z.physical z.rest
      let m := r.memzero32 fbMemPtr (BitVec.ofNat 32 (fbWidth * fbHeight * 4 / 32)) m
      let button := readWord m (a1 + 24)
      let fontX := moveX button z.fontX
      let fontY := moveY button z.fontY
      let m := m.storeWords (drawFont font fbMemPtr fontX fontY text (rgba8 255 255 255 255)
        (background button))
      -- `vnzMemoryClosePrivate`: what was seen through the view is left in physical memory
      { fontX := fontX
        fontY := fontY
        physical := view.swap.view m z.physical
        rest := fun x => if InRange view.outer view.size x then z.rest x else m x }

def sceErrorErrnoEBUSY : Word := 0x80010010#32

/-- `main`. -/
def main (r : Routines) (font : Font) (pVThreadProcessingResource pUserArg : Word) (z : State) :
    Word × State :=
  if pUserArg = 0 then (sceErrorErrnoEINVAL, z)
  else if readWord z.rest pUserArg = vnzCmdRender then
    let thrdCtx := r.vnzVThreadCreateContext 1 pVThreadProcessingResource
    if thrdCtx ≠ 0 then (0, r.vnzVThreadExecute thrdCtx (renderThread r font pUserArg) z)
    else (sceErrorErrnoEBUSY, z)
  else (sceErrorErrnoEINVAL, z)

/-- The core with the argument block where `main` finds it. -/
def State.enter (v : MainView) (z : State) : State :=
  { z with rest := z.rest.write v.pUserArg v.argBytes }

/-- One call of `main`: its result and the state behind it. -/
def served (r : Routines) (font : Font) (v : MainView) (z : State) : Word × State :=
  main r font v.pVThreadProcessingResource v.pUserArg (z.enter v)

/-- The program, as what `_start` runs in the state `z`. -/
def program (r : Routines) (font : Font) (z : State) : VeneziaMain where
  run v :=
    ((served r font v z).1, (served r font v z).2.rest.read v.pUserArg v.argBytes.length)
  length_run _ := read_length _ _ _

/-! ### What the program shows -/

/-- The screen with the text at column `x` of line `y`: the characters that fit, white on the
background the buttons choose, and `0` around them. -/
def picture (font : Font) (x y button : Word) (c r : ℕ) : Word :=
  (textPixel font (rgba8 255 255 255 255) (some (background button)) x.toNat y.toNat
    (text.take ((935 - x.toNat) / 8)) c r).getD 0

/-- The bytes of the frame buffer at `fb`. -/
def InFrame (fb x : Word) : Prop := InRange fb (4 * fbPixels) x

/-- The frame buffer at `fb` shows a screen. -/
def Shows (physical : Mem) (fb : Word) (screen : ℕ → ℕ → Word) : Prop :=
  ∀ c < fbWidth, ∀ r < fbHeight, readWord physical (cell fb (c + fbWidth * r)) = screen c r

/-- `vnzMemoryOpenPrivate` opens the frame buffer at `fb` away from the argument block at `a1`. -/
structure OpensPrivate (r : Routines) (fb a1 : Word) : Prop where
  ne_null : r.vnzMemoryOpenPrivate (vnzMemoryCreate fb fbBytes) ≠ 0
  apart : ∀ x, InRange a1 sizeofRenderArg x →
    ¬ InRange (r.vnzMemoryOpenPrivate (vnzMemoryCreate fb fbBytes)) (4 * fbPixels) x

/-- The argument block `arg` lies at `a1` and selects the frame buffer `fb`. -/
structure Handed (z : State) (a1 : Word) (arg : VnzRenderArg) (fb : Word) : Prop where
  bytes : z.rest.read a1 sizeofRenderArg = arg.bytes
  pointer : a1 ≠ 0
  selected : ∃ i : Fin 2, arg.fbidx = BitVec.ofNat 32 i ∧ arg.fbmem i = fb
  buffer : fb ≠ 0

section Render

variable {r : Routines} {font : Font} {z : State} {a1 fb : Word} {arg : VnzRenderArg}

lemma text_takeWhile : text.takeWhile (· ≠ 0) = text := by decide

/-- The frame buffer behind the text that was drawn into it. -/
def drawnFrame (font : Font) (fb x y button : Word) (m : Mem) : Mem :=
  (m.write fb (List.replicate (4 * fbPixels) 0)).storeCells fb
    (textCells font (rgba8 255 255 255 255) (some (background button)) (textOrigin x y)
      (drawn x text))

lemma drawnFrame_apply_outside {x y button p : Word} {m : Mem} (h : OnScreen x y)
    (hp : ¬ InFrame fb p) : drawnFrame font fb x y button m p = m p := by
  rw [drawnFrame, storeCells_apply_outside (by decide) h.cells_lt hp]
  refine write_apply_outside ?_
  rw [List.length_replicate]
  exact hp

/-- **The frame drawn shows the picture.** -/
lemma shows_drawnFrame {x y : Word} (button : Word) (m : Mem) (h : OnScreen x y) :
    Shows (drawnFrame font fb x y button m) fb (picture font x y button) := by
  intro c hc r hr
  have hpix : 4 * (c + fbWidth * r) + 4 ≤ 4 * fbPixels := by
    simp only [fbPixels, fbWidth, fbHeight] at *
    omega
  rw [drawnFrame, h.readWord_cells _ fb hc hr, picture, readWord_write_zeros hpix (by decide),
    drawn_eq h.column, text_takeWhile]

/-- **One run of the V-thread** moves the text by the buttons, and while the text stays on the
screen the frame buffer it selects is the only memory that changes. -/
theorem renderThread_spec (hr : r.Documented) (hz : Handed z a1 arg fb)
    (hopen : OpensPrivate r fb a1)
    (hon : OnScreen (moveX (arg.ctrl 0).buttons z.fontX) (moveY (arg.ctrl 0).buttons z.fontY)) :
    renderThread r font a1 z =
      { fontX := moveX (arg.ctrl 0).buttons z.fontX
        fontY := moveY (arg.ctrl 0).buttons z.fontY
        physical := drawnFrame font fb (moveX (arg.ctrl 0).buttons z.fontX)
          (moveY (arg.ctrl 0).buttons z.fontY) (arg.ctrl 0).buttons z.physical
        rest := z.rest } := by
  obtain ⟨i, hidx, rfl⟩ := hz.selected
  rw [renderThread, if_neg hz.pointer, VnzRenderArg.read_fbmem hz.bytes i hidx]
  dsimp only
  rw [if_neg hz.buffer]
  generalize hptr : r.vnzMemoryOpenPrivate (vnzMemoryCreate (arg.fbmem i) fbBytes) = ptr
  have hne : ptr ≠ 0 := hptr ▸ hopen.ne_null
  have hsize : fbBytes.toNat = 4 * fbPixels := rfl
  have hview : openedPrivate (vnzMemoryCreate (arg.fbmem i) fbBytes) ptr =
      ⟨arg.fbmem i, ptr, 4 * fbPixels⟩ := by
    rw [openedPrivate, if_neg hne, vnzMemoryCreate, hsize]
  rw [hview]
  generalize hv : (⟨arg.fbmem i, ptr, 4 * fbPixels⟩ : Window 32) = v
  have hinner : v.inner = arg.fbmem i := by rw [← hv]
  have houter : v.outer = ptr := by rw [← hv]
  have hvsize : v.size = 4 * fbPixels := by rw [← hv]
  have hle : v.size ≤ 2 ^ 32 := by
    rw [hvsize]
    decide
  -- the screen is cleared through the view
  have hzero : r.memzero32 ptr (BitVec.ofNat 32 (fbWidth * fbHeight * 4 / 32))
      (v.view z.physical z.rest) =
        v.view (z.physical.write (arg.fbmem i) (List.replicate (4 * fbPixels) 0)) z.rest := by
    have hcount : 32 * (BitVec.ofNat 32 (fbWidth * fbHeight * 4 / 32)).toNat = 4 * fbPixels := rfl
    have hwrite : (v.view z.physical z.rest).write (v.outer + BitVec.ofNat 32 0)
        (List.replicate (4 * fbPixels) 0) = v.view (z.physical.write (v.inner + BitVec.ofNat 32 0)
          (List.replicate (4 * fbPixels) 0)) z.rest :=
      Window.view_write (by rw [List.length_replicate, hvsize]; omega) hle
    rw [BitVec.add_zero, BitVec.add_zero, houter, hinner] at hwrite
    rw [hr.memzero32, hcount, hwrite]
  rw [hzero]
  generalize hm : z.physical.write (arg.fbmem i) (List.replicate (4 * fbPixels) 0) = m
  -- the argument block lies around the view
  have hargs : (v.view m z.rest).read a1 sizeofRenderArg = arg.bytes := by
    rw [← hz.bytes]
    refine read_congr_of_inRange (by decide) fun x hx => Window.view_apply_outside ?_
    rw [houter, hvsize, ← hptr]
    exact hopen.apart x hx
  obtain ⟨-, -, -, -, hbutton⟩ := VnzRenderArg.read_fields hargs
  rw [hbutton]
  generalize hx : moveX (arg.ctrl 0).buttons z.fontX = x at hon
  generalize hy : moveY (arg.ctrl 0).buttons z.fontY = y at hon
  -- the text is drawn through it
  have hdraw : (v.view m z.rest).storeWords (drawFont font ptr x y text
      (rgba8 255 255 255 255) (background (arg.ctrl 0).buttons)) =
        v.view (drawnFrame font (arg.fbmem i) x y (arg.ctrl 0).buttons z.physical) z.rest := by
    rw [drawFont, drawFontWith_eq, drawnFrame, hm, ← hinner, ← houter]
    exact Window.view_storeCells hvsize.ge hle hon.cells_lt
  rw [hdraw]
  refine congr (congrArg (State.mk x y) ?_) ?_
  · refine Window.swap_view_view fun p hp => drawnFrame_apply_outside hon ?_
    rw [InFrame, ← hinner, ← hvsize]
    exact hp
  · funext p
    split_ifs with hp
    · rfl
    · exact Window.view_apply_outside hp

variable {v : MainView}

/-- What `main` is called with: the block `arg`, which asks for a frame in the buffer `fb`. -/
structure Asks (v : MainView) (arg : VnzRenderArg) (fb : Word) : Prop where
  argBytes : v.argBytes = arg.bytes
  pUserArg : v.pUserArg ≠ 0
  cmd : arg.cmd = vnzCmdRender
  selected : ∃ i : Fin 2, arg.fbidx = BitVec.ofNat 32 i ∧ arg.fbmem i = fb
  buffer : fb ≠ 0

lemma Asks.handed (h : Asks v arg fb) (z : State) : Handed (z.enter v) v.pUserArg arg fb where
  bytes := by
    have hlen : sizeofRenderArg = v.argBytes.length := by
      rw [h.argBytes, VnzRenderArg.bytes_length]
    rw [hlen, State.enter, read_write_self (by rw [← hlen]; decide), h.argBytes]
  pointer := h.pUserArg
  selected := h.selected
  buffer := h.buffer

/-- **A call of `main`** that gets a V-thread shows the next frame. -/
theorem served_spec (font : Font) (hr : r.Documented) (h : Asks v arg fb)
    (hopen : OpensPrivate r fb v.pUserArg)
    (hcontext : r.vnzVThreadCreateContext 1 v.pVThreadProcessingResource ≠ 0)
    (hon : OnScreen (moveX (arg.ctrl 0).buttons z.fontX) (moveY (arg.ctrl 0).buttons z.fontY)) :
    served r font v z =
      (0, { fontX := moveX (arg.ctrl 0).buttons z.fontX
            fontY := moveY (arg.ctrl 0).buttons z.fontY
            physical := drawnFrame font fb (moveX (arg.ctrl 0).buttons z.fontX)
              (moveY (arg.ctrl 0).buttons z.fontY) (arg.ctrl 0).buttons z.physical
            rest := (z.enter v).rest }) := by
  have hhanded : Handed (z.enter v) v.pUserArg arg fb := h.handed z
  have hcmd : readWord (z.enter v).rest v.pUserArg = vnzCmdRender :=
    (VnzRenderArg.read_fields hhanded.bytes).1.trans h.cmd
  rw [served, main, if_neg h.pUserArg, if_pos hcmd]
  dsimp only
  rw [if_pos hcontext, hr.vnzVThreadExecute, renderThread_spec hr hhanded hopen hon]
  rfl

/-- A call of `main` that gets no V-thread leaves everything as it was. -/
lemma served_busy (font : Font) (z : State) (h : Asks v arg fb)
    (hcontext : r.vnzVThreadCreateContext 1 v.pVThreadProcessingResource = 0) :
    served r font v z = (sceErrorErrnoEBUSY, z.enter v) := by
  have hcmd : readWord (z.enter v).rest v.pUserArg = vnzCmdRender :=
    (VnzRenderArg.read_fields (h.handed z).bytes).1.trans h.cmd
  rw [served, main, if_neg h.pUserArg, if_pos hcmd]
  dsimp only
  rw [if_neg (not_not.mpr hcontext)]

end Render

end HelloDraw

end VVNZRunner
