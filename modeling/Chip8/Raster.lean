import Chip8.Text.Numeral

/-!
# Pixels

A grid of pixels that are lit or not. Coordinates wrap around at both edges. Drawing a sprite flips the pixels
under its set bits and tells whether one of them was lit.
-/

namespace Chip8

/-- A grid of at least one pixel, stored row after row. The sizes that are meant are those of grids that can be stored:
their number of pixels is a machine word. -/
structure Raster where
  width : Nat
  height : Nat
  pixels : Vector Bool (width * height)
  width_pos : 0 < width
  height_pos : 0 < height
deriving DecidableEq

/-- The refusal of a grid without pixels. -/
structure EmptyRaster where
  width : Nat
  height : Nat
deriving DecidableEq, Repr

/-- The text of the refusal. -/
def EmptyRaster.message (e : EmptyRaster) : String :=
  "framebuffer must be at least 1x1, got " ++ Numeral.decimal e.width ++ "x" ++ Numeral.decimal e.height

namespace Raster

/-- A grid without lit pixels. -/
def blank (width height : Nat) (width_pos : 0 < width) (height_pos : 0 < height) : Raster where
  width
  height
  pixels := Vector.replicate (width * height) false
  width_pos
  height_pos

/-- A grid without lit pixels, unless it would have no pixels. -/
def ofSize (width height : Nat) : Except EmptyRaster Raster :=
  if h : 0 < width ∧ 0 < height then .ok (blank width height h.1 h.2)
  else .error ⟨width, height⟩

/-- The place of a pixel in the store; coordinates wrap. -/
def offset (r : Raster) (x y : Nat) : Nat :=
  y % r.height * r.width + x % r.width

theorem offset_lt (r : Raster) (x y : Nat) : r.offset x y < r.width * r.height := by
  have hx := Nat.mod_lt x r.width_pos
  have hy := Nat.mod_lt y r.height_pos
  calc y % r.height * r.width + x % r.width
      < y % r.height * r.width + r.width := by omega
    _ = (y % r.height + 1) * r.width := by rw [Nat.add_mul, Nat.one_mul]
    _ ≤ r.height * r.width := Nat.mul_le_mul_right _ hy
    _ = r.width * r.height := Nat.mul_comm ..

/-- Whether a pixel is lit; coordinates wrap. -/
def get (r : Raster) (x y : Nat) : Bool :=
  have := r.offset_lt x y
  r.pixels[r.offset x y]

/-- Turns one pixel over; coordinates wrap. -/
def flip (r : Raster) (x y : Nat) : Raster :=
  { r with pixels := r.pixels.set (r.offset x y) (!r.get x y) (r.offset_lt x y) }

/-- All pixels off. -/
def clear (r : Raster) : Raster :=
  { r with pixels := Vector.replicate (r.width * r.height) false }

/-- The columns that a sprite row sets; the highest bit is column 0. -/
def rowColumns (row : UInt8) : List Nat :=
  (List.range 8).filter fun column => row.toNat.testBit (7 - column)

/-- The positions under the set bits of a sprite at `(x, y)`, row by row and before wrapping. -/
def spriteDots (x y : Nat) : List UInt8 → List (Nat × Nat)
  | [] => []
  | row :: rest => (rowColumns row).map (fun column => (x + column, y)) ++ spriteDots x (y + 1) rest

/-- Turns pixels over one after the other and tells whether one of them was lit at its turn. -/
def flipAll (r : Raster) : List (Nat × Nat) → Raster × Bool
  | [] => (r, false)
  | (x, y) :: rest =>
    let hit := r.get x y
    let after := (r.flip x y).flipAll rest
    (after.1, hit || after.2)

/-- Draws a sprite, eight pixels wide, with its upper left corner at `(x, y)`. The flag tells of a collision. -/
def draw (r : Raster) (x y : Nat) (sprite : List UInt8) : Raster × Bool :=
  r.flipAll (spriteDots x y sprite)

/-- A list cut into pieces of `size` elements, of which the last may have fewer. -/
def chunks {α : Type} (size : Nat) (size_pos : 0 < size) (xs : List α) : List (List α) :=
  if xs = [] then [] else xs.take size :: chunks size size_pos (xs.drop size)
termination_by xs.length
decreasing_by
  rename_i hne
  have := List.length_pos_iff.2 hne
  rw [List.length_drop]
  omega

/-- All rows, top down. -/
def rows (r : Raster) : List (List Bool) :=
  chunks r.width r.width_pos r.pixels.toList

/-- The number of lit pixels. -/
def litCount (r : Raster) : Nat :=
  r.pixels.count true

/-- A row as text: `#` is lit, `.` is not. -/
def rowText (row : List Bool) : String :=
  String.ofList (row.map fun lit => if lit then '#' else '.')

/-- All rows as lines of text. -/
def text (r : Raster) : String :=
  String.join (r.rows.map fun row => rowText row ++ "\n")

@[simp] theorem flip_width (r : Raster) (x y : Nat) : (r.flip x y).width = r.width := rfl

@[simp] theorem flip_height (r : Raster) (x y : Nat) : (r.flip x y).height = r.height := rfl

@[simp] theorem flipAll_width (r : Raster) (dots : List (Nat × Nat)) : (r.flipAll dots).1.width = r.width := by
  induction dots generalizing r with
  | nil => rfl
  | cons p rest ih => simp [flipAll, ih]

@[simp] theorem flipAll_height (r : Raster) (dots : List (Nat × Nat)) :
    (r.flipAll dots).1.height = r.height := by
  induction dots generalizing r with
  | nil => rfl
  | cons p rest ih => simp [flipAll, ih]

/-- Two coordinates share a pixel exactly if they agree up to wrapping. -/
theorem offset_eq_iff {r : Raster} {x y x' y' : Nat} :
    r.offset x y = r.offset x' y' ↔ x % r.width = x' % r.width ∧ y % r.height = y' % r.height := by
  have hx := Nat.mod_lt x r.width_pos
  have hx' := Nat.mod_lt x' r.width_pos
  constructor
  · intro h
    have hmod : ∀ u v, r.offset u v % r.width = u % r.width := by
      intro u v
      simp [offset, Nat.mul_add_mod_self_right]
    have hdiv : ∀ u v, r.offset u v / r.width = v % r.height := by
      intro u v
      rw [offset, Nat.add_comm, Nat.add_mul_div_right _ _ r.width_pos, Nat.div_eq_of_lt (Nat.mod_lt _ r.width_pos),
        Nat.zero_add]
    exact ⟨by rw [← hmod x y, h, hmod], by rw [← hdiv x y, h, hdiv]⟩
  · rintro ⟨h, h'⟩
    simp [offset, h, h']

@[simp] theorem offset_flip (r : Raster) (x y x' y' : Nat) : (r.flip x y).offset x' y' = r.offset x' y' := rfl

theorem flip_pixels (r : Raster) (x y : Nat) :
    (r.flip x y).pixels = r.pixels.set (r.offset x y) (!r.get x y) (r.offset_lt x y) := rfl

/-- A flip turns over exactly the pixel it names. -/
theorem get_flip (r : Raster) (x y x' y' : Nat) :
    (r.flip x y).get x' y' =
      (r.get x' y' ^^ decide (x % r.width = x' % r.width ∧ y % r.height = y' % r.height)) := by
  simp only [← offset_eq_iff]
  by_cases h : r.offset x y = r.offset x' y'
  · simp [get, h, flip_pixels, offset_flip]
  · simp [get, h, flip_pixels, offset_flip, Vector.getElem_set_ne]

end Raster

/-- The grid of the machine: 64 pixels wide and 32 high. -/
abbrev Screen := { r : Raster // r.width = 64 ∧ r.height = 32 }

namespace Screen

/-- The screen without lit pixels. -/
def blank : Screen :=
  ⟨Raster.blank 64 32 (by decide) (by decide), rfl, rfl⟩

/-- All pixels off. -/
def clear (s : Screen) : Screen :=
  ⟨s.val.clear, s.property⟩

/-- Draws a sprite; the flag tells of a collision. -/
def draw (s : Screen) (x y : Nat) (sprite : List UInt8) : Screen × Bool :=
  let after := s.val.draw x y sprite
  (⟨after.1, by simp [after, Raster.draw, s.property]⟩, after.2)

end Screen

end Chip8
