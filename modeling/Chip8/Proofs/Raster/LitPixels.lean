import Chip8.Proofs.Raster.Sprites

/-!
# Collisions and the number of lit pixels

Each position that is turned over lights a pixel or puts one out. So the number of lit pixels after a list of positions
is settled by how many of them put a pixel out (`putOut`, `litCount_flipAll`), and a collision is that some did
(`flipAll_hit_iff_putOut`). For a sprite: it collides exactly if it lights fewer pixels than it sets bits
(`collision_loses_lit_pixels`).
-/

namespace Chip8.Raster

variable {r : Raster} {dots : List (Nat × Nat)}

/-! ## Positions -/

theorem litCount_flip_of_lit {x y : Nat} (h : r.get x y = true) : (r.flip x y).litCount + 1 = r.litCount := by
  have hlt := r.offset_lt x y
  have hpixel : r.pixels[r.offset x y] = true := h
  have hmem : true ∈ r.pixels := hpixel ▸ Vector.getElem_mem hlt
  have hpos : 0 < r.litCount := Vector.count_pos_iff.2 hmem
  have hcount : (r.flip x y).litCount = r.litCount - 1 := by
    simp [litCount, flip_pixels, Vector.count_set, h, hpixel]
  omega

theorem litCount_flip_of_dark {x y : Nat} (h : r.get x y = false) : (r.flip x y).litCount = r.litCount + 1 := by
  have hlt := r.offset_lt x y
  have hpixel : r.pixels[r.offset x y] = false := h
  simp [litCount, flip_pixels, Vector.count_set, h, hpixel]

/-- The number of positions that meet a lit pixel at their turn, and so put it out. -/
def putOut (r : Raster) : List (Nat × Nat) → Nat
  | [] => 0
  | (x, y) :: rest => (r.flip x y).putOut rest + if r.get x y = true then 1 else 0

theorem litCount_flipAll (r : Raster) (dots : List (Nat × Nat)) :
    (r.flipAll dots).1.litCount + 2 * r.putOut dots = r.litCount + dots.length := by
  induction dots generalizing r with
  | nil => rfl
  | cons dot rest ih =>
    obtain ⟨x, y⟩ := dot
    have hrest := ih (r.flip x y)
    simp only [flipAll, putOut, List.length_cons]
    -- a lit pixel is counted once before the flip, and a dark one once after it
    cases h : r.get x y with
    | true =>
      have hflip := litCount_flip_of_lit h
      rw [if_pos rfl]
      omega
    | false =>
      have hflip := litCount_flip_of_dark h
      rw [if_neg Bool.false_ne_true]
      omega

theorem flipAll_hit_iff_putOut : (r.flipAll dots).2 = true ↔ 0 < r.putOut dots := by
  induction dots generalizing r with
  | nil => simp [flipAll, putOut]
  | cons dot rest ih =>
    obtain ⟨x, y⟩ := dot
    rw [flipAll, putOut, Bool.or_eq_true, ih]
    cases r.get x y <;> simp

/-! ## Sprites -/

/-- The number of bits that a sprite sets. -/
def bitCount : List UInt8 → Nat
  | [] => 0
  | row :: rest => (List.range 8).countP row.toNat.testBit + bitCount rest

theorem length_rowColumns (row : UInt8) : (rowColumns row).length = (List.range 8).countP row.toNat.testBit := by
  -- the highest bit is column 0, so the columns are the bits in reverse
  have hreverse : (List.range 8).map (7 - ·) = (List.range 8).reverse := rfl
  calc (rowColumns row).length
      = ((List.range 8).map (7 - ·)).countP row.toNat.testBit := by
        rw [rowColumns, ← List.countP_eq_length_filter, List.countP_map]
        rfl
    _ = (List.range 8).countP row.toNat.testBit := by rw [hreverse, List.countP_reverse]

theorem length_spriteDots (x y : Nat) (sprite : List UInt8) : (spriteDots x y sprite).length = bitCount sprite := by
  induction sprite generalizing y with
  | nil => rfl
  | cons row rest ih =>
    rw [spriteDots, List.length_append, List.length_map, length_rowColumns, ih, bitCount]

/-- A drawing adds at most as many lit pixels as the sprite sets bits, and falls short of that by an even number. It
collides exactly if it falls short. -/
theorem collision_loses_lit_pixels (r : Raster) (x y : Nat) (sprite : List UInt8) :
    let drawn := r.draw x y sprite
    let most := r.litCount + bitCount sprite
    drawn.1.litCount ≤ most ∧ (most - drawn.1.litCount) % 2 = 0 ∧ (drawn.2 = false ↔ drawn.1.litCount = most) := by
  intro drawn most
  have hcount : drawn.1.litCount + 2 * r.putOut (spriteDots x y sprite) = most := by
    have hall := r.litCount_flipAll (spriteDots x y sprite)
    rwa [length_spriteDots] at hall
  have hhit : drawn.2 = true ↔ 0 < r.putOut (spriteDots x y sprite) := flipAll_hit_iff_putOut
  refine ⟨by omega, by omega, ?_⟩
  rw [← Bool.not_eq_true, hhit]
  omega

end Chip8.Raster
