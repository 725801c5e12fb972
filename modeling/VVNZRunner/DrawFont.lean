import VVNZRunner.Platform
import VVNZRunner.Library.WordArray

/-!
`drawFont` of the two sample programs: text blitted into a frame buffer on Venezia.

* `drawFontWith`: the loop both samples share, as the list of the words it stores. The sample of
  `samples_new` stores a background colour where a font bit is clear, the old one stores nothing.
* `drawn`, `textOrigin`: the characters drawn before the loop ends, and the pixel it starts at.
* `drawFontWith_eq`: the stores are those of `textCells`, the pixels of the glyphs side by side.
* `drawFont_inside_iff`: the stores stay in the frame buffer exactly if the box of the text does.
* `drawFont_picture`: what every pixel of the frame buffer holds afterwards.
-/

namespace VVNZRunner

open ByteMemory

/-! ### The loop -/

def fbWidth : ℕ := 960
def fbHeight : ℕ := 544

/-- `RGBA8`. -/
def rgba8 (r g b a : Word) : Word :=
  ((a &&& 0xFF) <<< 24) ||| ((b &&& 0xFF) <<< 16) ||| ((g &&& 0xFF) <<< 8) ||| (r &&& 0xFF)

/-- The byte at `(unsigned int)ch * 16 + i` behind `sce_font_data`, for each `ch` and `i`. -/
abbrev Font := Byte → ℕ → Byte

/-- What is stored for a font bit: the text colour if it is set, else the background. -/
def ink (textColor : Word) (bgColor : Option Word) (bit : Bool) : Option Word :=
  if bit then some textColor else bgColor

/-- The eight pixels of one row of a glyph, from `base` on. -/
def drawRow (textColor : Word) (bgColor : Option Word) (row : Byte) (base : Word) :
    List (Word × Word) :=
  (List.range 8).filterMap fun j =>
    (ink textColor bgColor (row.getLsbD j)).map fun color => (base + BitVec.ofNat 32 (4 * j), color)

/-- The sixteen rows of a glyph; `base` goes down one line of the frame buffer a row. -/
def drawGlyph (textColor : Word) (bgColor : Option Word) (glyph : ℕ → Byte) (base : Word) :
    List (Word × Word) :=
  (List.range 16).flatMap fun i =>
    drawRow textColor bgColor (glyph i) (base + BitVec.ofNat 32 (4 * fbWidth * i))

/-- The loop of `drawFont` over the characters of `string`: the addresses it stores to and the
words it stores there, in order. -/
def drawFontWith (font : Font) (textColor : Word) (bgColor : Option Word) (addr y : Word) :
    Word → List Byte → List (Word × Word)
  | _, [] => []
  | x, ch :: string =>
      if ch = 0 then []
      -- frame overflow
      else if (fbWidth : ℤ) ≤ (x + 32).toInt then []
      else
        let base := addr + 4 * x + 4 * (y * BitVec.ofNat 32 fbWidth)
        drawGlyph textColor bgColor (font ch) base ++
          drawFontWith font textColor bgColor addr y (x + 8) string

/-- `drawFont` of `samples_new`. -/
def drawFont (font : Font) (addr x y : Word) (string : List Byte) (textColor bgColor : Word) :
    List (Word × Word) :=
  drawFontWith font textColor (some bgColor) addr y x string

/-- `drawFont` of `sample_old`: white text, and the pixels around it are left as they are. -/
def drawFontOld (font : Font) (addr x y : Word) (string : List Byte) : List (Word × Word) :=
  drawFontWith font (rgba8 255 255 255 255) none addr y x string

/-! ### The glyphs side by side -/

/-- The characters that are drawn before the string or the line ends. -/
def drawn : Word → List Byte → List Byte
  | _, [] => []
  | x, ch :: string =>
      if ch = 0 then []
      else if (fbWidth : ℤ) ≤ (x + 32).toInt then []
      else ch :: drawn (x + 8) string

/-- The index of the pixel at column `x` of line `y`; pixels are four bytes. -/
def textOrigin (x y : Word) : ℕ := (x + y * BitVec.ofNat 32 fbWidth).toNat % 2 ^ 30

/-- The pixels of a glyph whose first one has the index `o`. -/
def glyphCells (textColor : Word) (bgColor : Option Word) (glyph : ℕ → Byte) (o : ℕ) :
    List (ℕ × Word) :=
  (List.range 16).flatMap fun i => (List.range 8).filterMap fun j =>
    (ink textColor bgColor ((glyph i).getLsbD j)).map fun color => (o + fbWidth * i + j, color)

/-- The pixels of the glyphs of `string` side by side. -/
def textCells (font : Font) (textColor : Word) (bgColor : Option Word) : ℕ → List Byte →
    List (ℕ × Word)
  | _, [] => []
  | o, ch :: string =>
      glyphCells textColor bgColor (font ch) o ++ textCells font textColor bgColor (o + 8) string

section Cells

variable {font : Font} {textColor : Word} {bgColor : Option Word} {addr x y : Word}
  {string : List Byte}

/-- The pointer arithmetic of the loop. -/
lemma base_eq (addr x y : Word) :
    addr + 4 * x + 4 * (y * BitVec.ofNat 32 fbWidth) = cell addr (textOrigin x y) := by
  have hmul : BitVec.ofNat 32 (4 * textOrigin x y) = 4 * (x + y * BitVec.ofNat 32 fbWidth) := by
    apply BitVec.eq_of_toNat_eq
    generalize hp : x + y * BitVec.ofNat 32 fbWidth = p
    have hlt := p.isLt
    rw [BitVec.toNat_ofNat, BitVec.toNat_mul, textOrigin, hp]
    change 4 * (p.toNat % 2 ^ 30) % 2 ^ 32 = 4 * p.toNat % 2 ^ 32
    omega
  rw [cell, hmul, BitVec.mul_add, BitVec.add_assoc]

/-- The next character lies eight pixels further on. -/
lemma cell_textOrigin_add (addr x y : Word) :
    cell addr (textOrigin (x + 8) y) = cell addr (textOrigin x y + 8) := by
  rw [← cell_add, ← base_eq, ← base_eq, BitVec.mul_add]
  grind

/-- A glyph at a cell. -/
lemma drawGlyph_eq (glyph : ℕ → Byte) (o : ℕ) :
    drawGlyph textColor bgColor glyph (cell addr o) =
      cellStores addr (glyphCells textColor bgColor glyph o) := by
  rw [drawGlyph, glyphCells, cellStores, List.map_flatMap]
  refine List.flatMap_congr fun i _ => ?_
  rw [drawRow, List.map_filterMap]
  refine List.filterMap_congr fun j _ => ?_
  rw [Nat.mul_assoc, cell_add, cell_add]
  cases ink textColor bgColor ((glyph i).getLsbD j) <;> rfl

/-- The cells of a glyph depend on where it starts in the array only. -/
lemma cellStores_glyphCells_congr {o o' : ℕ} (glyph : ℕ → Byte) (h : cell addr o = cell addr o') :
    cellStores addr (glyphCells textColor bgColor glyph o) =
      cellStores addr (glyphCells textColor bgColor glyph o') := by
  rw [← drawGlyph_eq, ← drawGlyph_eq, h]

lemma cellStores_textCells_congr {o o' : ℕ} (h : cell addr o = cell addr o') :
    cellStores addr (textCells font textColor bgColor o string) =
      cellStores addr (textCells font textColor bgColor o' string) := by
  induction string generalizing o o' with
  | nil => rfl
  | cons ch string ih =>
      have hnext : cell addr (o + 8) = cell addr (o' + 8) := by rw [← cell_add, h, cell_add]
      rw [textCells, textCells, cellStores_append, cellStores_append, ih hnext,
        cellStores_glyphCells_congr _ h]

/-- **The stores of the loop** are the pixels of the drawn characters, side by side from the
first pixel on. -/
theorem drawFontWith_eq (font : Font) (textColor : Word) (bgColor : Option Word)
    (addr y x : Word) (string : List Byte) :
    drawFontWith font textColor bgColor addr y x string =
      cellStores addr (textCells font textColor bgColor (textOrigin x y) (drawn x string)) := by
  induction string generalizing x with
  | nil => rfl
  | cons ch string ih =>
      rw [drawFontWith, drawn]
      split_ifs with hch hover
      · rfl
      · rfl
      · dsimp only
        rw [textCells, cellStores_append, base_eq, drawGlyph_eq, ih]
        congr 1
        exact cellStores_textCells_congr (cell_textOrigin_add addr x y)

lemma mem_glyphCells {glyph : ℕ → Byte} {o : ℕ} {p : ℕ × Word} :
    p ∈ glyphCells textColor bgColor glyph o ↔ ∃ i < 16, ∃ j < 8,
      p.1 = o + fbWidth * i + j ∧ ink textColor bgColor ((glyph i).getLsbD j) = some p.2 := by
  obtain ⟨q, color⟩ := p
  simp only [glyphCells, List.mem_flatMap, List.mem_filterMap, List.mem_range,
    Option.map_eq_some_iff, Prod.mk.injEq]
  constructor
  · rintro ⟨i, hi, j, hj, color, hink, rfl, rfl⟩
    exact ⟨i, hi, j, hj, rfl, hink⟩
  · rintro ⟨i, hi, j, hj, rfl, hink⟩
    exact ⟨i, hi, j, hj, color, hink, rfl, rfl⟩

/-- Pixel `j` of row `i` of character `k`. -/
lemma mem_textCells {o : ℕ} {p : ℕ × Word} :
    p ∈ textCells font textColor bgColor o string ↔ ∃ k, ∃ hk : k < string.length, ∃ i < 16,
      ∃ j < 8, p.1 = o + 8 * k + fbWidth * i + j ∧
        ink textColor bgColor ((font string[k] i).getLsbD j) = some p.2 := by
  induction string generalizing o with
  | nil => simp [textCells]
  | cons ch string ih =>
      rw [textCells, List.mem_append, mem_glyphCells, ih]
      constructor
      · rintro (⟨i, hi, j, hj, hp, hink⟩ | ⟨k, hk, i, hi, j, hj, hp, hink⟩)
        · exact ⟨0, by simp, i, hi, j, hj, by omega, hink⟩
        · exact ⟨k + 1, by simpa using hk, i, hi, j, hj, by omega, by simpa using hink⟩
      · rintro ⟨k, hk, i, hi, j, hj, hp, hink⟩
        cases k with
        | zero => exact .inl ⟨i, hi, j, hj, by omega, by simpa using hink⟩
        | succ k =>
            exact .inr ⟨k, by simpa using hk, i, hi, j, hj, by omega, by simpa using hink⟩

/-! ### How much is drawn -/

lemma toNat_add_ofNat {k : ℕ} (h : x.toNat + k < 2 ^ 32) :
    (x + BitVec.ofNat 32 k).toNat = x.toNat + k := by
  rw [BitVec.toNat_add, BitVec.toNat_ofNat, Nat.mod_eq_of_lt (by omega : k < 2 ^ 32),
    Nat.mod_eq_of_lt h]

/-- From a column of the screen on, the string is drawn up to its end as long as 32 columns are
left. -/
lemma drawn_eq (hx : x.toNat + 32 < 2 ^ 31) :
    drawn x string = (string.takeWhile (· ≠ 0)).take ((935 - x.toNat) / 8) := by
  induction string generalizing x with
  | nil => simp [drawn]
  | cons ch string ih =>
      have hnat : (x + 32).toNat = x.toNat + 32 := toNat_add_ofNat (k := 32) (by omega)
      have hadd : (x + 32).toInt = x.toNat + 32 := by
        rw [BitVec.toInt_eq_toNat_of_lt (by omega), hnat, Nat.cast_add]
        rfl
      rw [drawn]
      by_cases hch : ch = 0
      · simp [hch]
      · rw [if_neg hch, List.takeWhile_cons_of_pos (by simpa using hch), hadd]
        rw [fbWidth]
        by_cases hover : ((960 : ℕ) : ℤ) ≤ x.toNat + 32
        · have hnone : (935 - x.toNat) / 8 = 0 := by omega
          rw [if_pos hover, hnone, List.take_zero]
        · have hnext : (x + 8).toNat = x.toNat + 8 := toNat_add_ofNat (k := 8) (by omega)
          have hcount : (935 - x.toNat) / 8 = (935 - (x.toNat + 8)) / 8 + 1 := by omega
          rw [if_neg hover, ih (by omega), hnext, hcount, List.take_succ_cons]

/-- What is drawn from a column of the screen on stays in its line. -/
lemma drawn_length_le (hx : x.toNat + 32 < 2 ^ 31) (hne : drawn x string ≠ []) :
    x.toNat + 8 * (drawn x string).length ≤ 935 := by
  rw [drawn_eq hx] at hne ⊢
  have hle : ((string.takeWhile (· ≠ 0)).take ((935 - x.toNat) / 8)).length ≤
      (935 - x.toNat) / 8 := List.length_take_le _ _
  have hpos := List.length_pos_iff.mpr hne
  omega

/-! ### Inside the frame buffer -/

/-- The opaque stores of a text are all its pixels. -/
lemma mem_textCells_opaque {o k i j : ℕ} {bg : Word} (hk : k < string.length) (hi : i < 16)
    (hj : j < 8) :
    ∃ color, (o + 8 * k + fbWidth * i + j, color) ∈ textCells font textColor (some bg) o string := by
  cases hbit : (font string[k] i).getLsbD j with
  | true =>
      exact ⟨textColor, mem_textCells.mpr ⟨k, hk, i, hi, j, hj, rfl, by rw [hbit]; rfl⟩⟩
  | false => exact ⟨bg, mem_textCells.mpr ⟨k, hk, i, hi, j, hj, rfl, by rw [hbit]; rfl⟩⟩

/-- A cell below the top of the address space lies in the array exactly if its index does. -/
lemma inRange_cell_iff {q N : ℕ} (hq : q < 2 ^ 30) (hN : N ≤ 2 ^ 30) :
    (∀ b, InRange (cell addr q) 4 b → InRange addr (4 * N) b) ↔ q < N := by
  constructor
  · intro h
    have hfirst : InRange addr (4 * N) (cell addr q) := by
      have hself : InRange (cell addr q) 4 (cell addr q) := by
        rw [InRange, BitVec.sub_self]
        decide
      exact h _ hself
    rw [InRange, cell, offset_toNat (by omega)] at hfirst
    omega
  · intro hlt b hb
    exact inRange_cell hlt (by omega) hb

/-- The pixels of the frame buffer. -/
def fbPixels : ℕ := fbWidth * fbHeight

/-- The lowest row of a text passes the end of the frame buffer at some character, if it does at
the last one. -/
lemma exists_pixel_outside {o len : ℕ} (hlen : len ≠ 0) (ho : o < fbPixels)
    (hout : fbPixels < o + fbWidth * 15 + 8 * len) :
    ∃ k < len, fbPixels ≤ o + 8 * k + fbWidth * 15 + 7 ∧
      o + 8 * k + fbWidth * 15 + 7 < 2 ^ 30 := by
  simp only [fbPixels, fbWidth, fbHeight] at *
  refine ⟨(960 * 544 - (o + 14407) + 7) / 8, ?_, ?_, ?_⟩ <;> omega

/-- **`drawFont` stays in the frame buffer exactly if the box of the drawn text does**: for every
position, on the screen or not, and every string. -/
theorem drawFont_inside_iff (font : Font) (addr x y : Word) (string : List Byte)
    (textColor bgColor : Word) :
    (∀ s ∈ drawFont font addr x y string textColor bgColor, ∀ b,
        InRange s.1 4 b → InRange addr (4 * fbPixels) b) ↔
      drawn x string = [] ∨
        textOrigin x y + fbWidth * 15 + 8 * (drawn x string).length ≤ fbPixels := by
  rw [drawFont, drawFontWith_eq]
  generalize drawn x string = shown
  have horigin : textOrigin x y < 2 ^ 30 := Nat.mod_lt _ (by norm_num)
  generalize textOrigin x y = o at horigin ⊢
  have hN : fbPixels ≤ 2 ^ 30 := by decide
  constructor
  · intro h
    by_cases hnil : shown = []
    · exact .inl hnil
    have hlen : shown.length ≠ 0 := mt List.length_eq_zero_iff.mp hnil
    have hin : ∀ k < shown.length, ∀ i < 16, ∀ j < 8, o + 8 * k + fbWidth * i + j < 2 ^ 30 →
        o + 8 * k + fbWidth * i + j < fbPixels := by
      intro k hk i hi j hj hlt
      obtain ⟨color, hmem⟩ : ∃ color, (o + 8 * k + fbWidth * i + j, color) ∈
          textCells font textColor (some bgColor) o shown := mem_textCells_opaque hk hi hj
      exact (inRange_cell_iff hlt hN).mp (h _ (List.mem_map_of_mem hmem))
    have ho : o < fbPixels := by
      have hfirst := hin 0 (by omega) 0 (by omega) 0 (by omega)
      omega
    refine .inr (Nat.le_of_not_lt fun hout => ?_)
    obtain ⟨k, hk, hge, hlt⟩ := exists_pixel_outside hlen ho hout
    have hlast := hin k hk 15 (by omega) 7 (by omega) hlt
    omega
  · rintro (rfl | hle) s hs
    · cases hs
    · obtain ⟨p, hp, rfl⟩ := List.mem_map.mp hs
      obtain ⟨k, hk, i, hi, j, hj, hq, -⟩ := mem_textCells.mp hp
      have hq' : p.1 < fbPixels := by
        have hrow : fbWidth * i ≤ fbWidth * 15 := Nat.mul_le_mul_left _ (by omega)
        omega
      exact fun b hb => inRange_cell hq' (by decide) hb

/-! ### The picture -/

/-- What the text puts at column `c` of line `r`, with its upper left corner at column `x` of
line `y`: glyph `(c - x) / 8` has its pixel `(c - x) % 8` of row `r - y` there. -/
def textPixel (font : Font) (textColor : Word) (bgColor : Option Word) (x y : ℕ)
    (string : List Byte) (c r : ℕ) : Option Word :=
  if x ≤ c ∧ y ≤ r ∧ r < y + 16 then
    string[(c - x) / 8]?.bind fun ch =>
      ink textColor bgColor ((font ch (r - y)).getLsbD ((c - x) % 8))
  else none

/-- A pixel of a text on the screen, by column and line. -/
lemma mem_textCells_iff {x y c r : ℕ} {color : Word} (hx : x + 8 * string.length ≤ fbWidth)
    (hc : c < fbWidth) :
    (c + fbWidth * r, color) ∈ textCells font textColor bgColor (x + fbWidth * y) string ↔
      textPixel font textColor bgColor x y string c r = some color := by
  rw [mem_textCells, textPixel]
  simp only [fbWidth] at *
  constructor
  · rintro ⟨k, hk, i, hi, j, hj, hq, hink⟩
    have hcol : c = x + 8 * k + j := by omega
    have hrow : r = y + i := by omega
    have hk' : (c - x) / 8 = k := by omega
    have hj' : (c - x) % 8 = j := by omega
    have hi' : r - y = i := by omega
    rw [if_pos (by omega), hk', hj', hi', List.getElem?_eq_getElem hk]
    exact hink
  · intro h
    split_ifs at h with hbox
    obtain ⟨ch, hch, hink⟩ := Option.bind_eq_some_iff.mp h
    obtain ⟨hk, rfl⟩ := List.getElem?_eq_some_iff.mp hch
    exact ⟨(c - x) / 8, hk, r - y, by omega, (c - x) % 8, by omega, by omega, hink⟩

/-- The corner is a column and a line that the box of a text fits below, or a column behind
which nothing is drawn. -/
structure OnScreen (x y : Word) : Prop where
  column : x.toNat + 32 < 2 ^ 31
  line : y.toNat + 16 ≤ fbHeight

lemma OnScreen.drawn_length (h : OnScreen x y) (hne : drawn x string ≠ []) :
    x.toNat + 8 * (drawn x string).length ≤ 935 := drawn_length_le h.column hne

lemma OnScreen.textOrigin_eq (h : OnScreen x y) (hx : x.toNat < fbWidth) :
    textOrigin x y = x.toNat + fbWidth * y.toNat := by
  have hline := h.line
  simp only [fbWidth, fbHeight] at hx hline
  have hmul : (y * BitVec.ofNat 32 fbWidth).toNat = y.toNat * 960 := by
    rw [BitVec.toNat_mul, fbWidth, BitVec.toNat_ofNat]
    omega
  rw [textOrigin, BitVec.toNat_add, hmul, fbWidth]
  omega

/-- The pixels of a text on the screen lie in the frame buffer. -/
lemma OnScreen.cells_lt (h : OnScreen x y) :
    ∀ p ∈ textCells font textColor bgColor (textOrigin x y) (drawn x string), p.1 < fbPixels := by
  intro p hp
  obtain ⟨k, hk, i, hi, j, hj, hq, -⟩ := mem_textCells.mp hp
  have hne : drawn x string ≠ [] := List.ne_nil_of_length_pos (by omega)
  have hlen := h.drawn_length hne
  have hline := h.line
  rw [h.textOrigin_eq (by rw [fbWidth]; omega)] at hq
  simp only [fbPixels, fbWidth, fbHeight] at *
  omega

/-- The pixels of a text on the screen, by column and line. -/
lemma OnScreen.mem_cells_iff (h : OnScreen x y) {c r : ℕ} (hc : c < fbWidth) {color : Word} :
    (c + fbWidth * r, color) ∈
        textCells font textColor bgColor (textOrigin x y) (drawn x string) ↔
      textPixel font textColor bgColor x.toNat y.toNat (drawn x string) c r = some color := by
  by_cases hnil : drawn x string = []
  · rw [hnil, textPixel]
    refine iff_of_false (by simp [textCells]) ?_
    split_ifs <;> simp
  · have hlen := h.drawn_length hnil
    have hpos := List.length_pos_iff.mpr hnil
    rw [h.textOrigin_eq (by rw [fbWidth]; omega)]
    exact mem_textCells_iff (by rw [fbWidth]; omega) hc

/-- A text on the screen, stored into the array at any address. -/
lemma OnScreen.readWord_cells (h : OnScreen x y) (m : Mem) (a : Word) {c r : ℕ} (hc : c < fbWidth)
    (hr : r < fbHeight) :
    readWord (m.storeCells a (textCells font textColor bgColor (textOrigin x y) (drawn x string)))
        (cell a (c + fbWidth * r)) =
      (textPixel font textColor bgColor x.toNat y.toNat (drawn x string) c r).getD
        (readWord m (cell a (c + fbWidth * r))) := by
  have hN : 4 * fbPixels ≤ 2 ^ 32 := by decide
  have hq : c + fbWidth * r < fbPixels := by
    simp only [fbPixels, fbWidth, fbHeight] at *
    omega
  cases hpix : textPixel font textColor bgColor x.toNat y.toNat (drawn x string) c r with
  | some color =>
      refine readWord_storeCells_of_mem hN h.cells_lt ((h.mem_cells_iff hc).mpr hpix) ?_
      intro v hv
      exact Option.some.inj (((h.mem_cells_iff hc).mp hv).symm.trans hpix)
  | none =>
      refine readWord_storeCells_of_notMem hN h.cells_lt hq ?_
      rintro ⟨q, v⟩ hp rfl
      exact absurd (hpix.symm.trans ((h.mem_cells_iff hc).mp hp)) (by simp)

end Cells

end VVNZRunner
