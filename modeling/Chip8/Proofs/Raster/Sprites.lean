import Chip8.Proofs.Raster.Hits

/-!
# The bits of a sprite

A sprite sets bits, each in a column and a row (`setBits`), and drawing it turns over the pixels on which they fall. On a
grid that is narrower than a sprite, or has fewer rows, several bits fall on one pixel. What becomes of a pixel depends
only on how many (`bitsOn`, `draw_bit_by_bit`).
-/

namespace Chip8.Raster

variable {sprite : List UInt8}

/-- Whether a sprite sets the bit in a column and a row; the highest bit of a row is column 0. -/
def sets (sprite : List UInt8) (column row : Nat) : Bool :=
  decide (column < 8) && (sprite[row]?).any fun byte => byte.toNat.testBit (7 - column)

/-- The column and the row of every bit that a sprite sets. -/
def setBits (sprite : List UInt8) : List (Nat × Nat) :=
  (List.range sprite.length).flatMap fun row => ((List.range 8).filter (sets sprite · row)).map (·, row)

/-- The number of bits of a sprite at `(x, y)` that fall on a pixel, going round at the edges. -/
def bitsOn (r : Raster) (x y : Nat) (sprite : List UInt8) (px py : Nat) : Nat :=
  (setBits sprite).countP fun bit => (x + bit.1) % r.width = px ∧ (y + bit.2) % r.height = py

theorem lt_of_sets {column row : Nat} (h : sets sprite column row = true) : column < 8 ∧ row < sprite.length := by
  simp only [sets, Bool.and_eq_true, decide_eq_true_eq, Option.any_eq_true] at h
  obtain ⟨hc, byte, hb, _⟩ := h
  exact ⟨hc, (List.getElem?_eq_some_iff.1 hb).1⟩

theorem mem_setBits {bit : Nat × Nat} : bit ∈ setBits sprite ↔ sets sprite bit.1 bit.2 = true := by
  simp only [setBits, List.mem_flatMap, List.mem_map, List.mem_filter, List.mem_range]
  constructor
  · rintro ⟨row, _, column, ⟨_, hs⟩, rfl⟩
    exact hs
  · intro hs
    exact ⟨bit.2, (lt_of_sets hs).2, bit.1, ⟨(lt_of_sets hs).1, hs⟩, rfl⟩

theorem rowColumns_eq (row : UInt8) (rest : List UInt8) :
    rowColumns row = (List.range 8).filter (sets (row :: rest) · 0) := by
  apply List.filter_congr
  intro column hc
  simp [sets, List.mem_range.1 hc]

theorem setBits_cons (row : UInt8) (rest : List UInt8) :
    setBits (row :: rest) =
      (rowColumns row).map (·, 0) ++ (setBits rest).map fun bit => (bit.1, bit.2 + 1) := by
  simp only [setBits, List.length_cons, List.range_succ_eq_map, List.flatMap_cons, List.flatMap_map,
    rowColumns_eq row rest, List.map_flatMap, List.map_map]
  rfl

theorem nodup_setBits (sprite : List UInt8) : (setBits sprite).Nodup := by
  induction sprite with
  | nil => exact List.nodup_nil
  | cons row rest ih =>
    rw [setBits_cons]
    have hfirst : ((rowColumns row).map (·, 0)).Nodup :=
      List.Pairwise.map _ (fun _ _ hne h => hne (congrArg Prod.fst h)) (List.nodup_range.filter _)
    have hrest : ((setBits rest).map fun bit => (bit.1, bit.2 + 1)).Nodup :=
      List.Pairwise.map _ (fun a b hne h => hne (by simpa [Prod.ext_iff] using h)) ih
    refine List.nodup_append.2 ⟨hfirst, hrest, ?_⟩
    -- the bits of the first row have row number 0, and no later ones do
    rintro _ ha _ hb rfl
    obtain ⟨_, _, rfl⟩ := List.mem_map.1 ha
    obtain ⟨_, _, h⟩ := List.mem_map.1 hb
    exact Nat.succ_ne_zero _ (congrArg Prod.snd h)

/-- The positions of a sprite at `(x, y)` are its bits, moved there. -/
theorem spriteDots_eq_map (x y : Nat) (sprite : List UInt8) :
    spriteDots x y sprite = (setBits sprite).map fun bit => (x + bit.1, y + bit.2) := by
  induction sprite generalizing y with
  | nil => rfl
  | cons row rest ih =>
    have hrow : ∀ k, y + 1 + k = y + (k + 1) := by omega
    simp only [spriteDots, ih, setBits_cons, List.map_append, List.map_map, Function.comp_def, hrow, Nat.add_zero]

/-! ## A drawing -/

theorem hits_spriteDots (r : Raster) (x y px py : Nat) :
    r.hits (spriteDots x y sprite) px py = r.bitsOn x y sprite (px % r.width) (py % r.height) := by
  rw [hits, spriteDots_eq_map, List.countP_map]
  rfl

theorem get_draw_bitsOn (r : Raster) (x y : Nat) (sprite : List UInt8) (px py : Nat) :
    (r.draw x y sprite).1.get px py =
      (r.get px py ^^ decide (r.bitsOn x y sprite (px % r.width) (py % r.height) % 2 = 1)) := by
  rw [draw, get_flipAll, hits_spriteDots]

theorem draw_hit_iff_bitsOn (r : Raster) (x y : Nat) :
    (r.draw x y sprite).2 = true ↔ ∃ px < r.width, ∃ py < r.height,
      (r.get px py = true ∧ 1 ≤ r.bitsOn x y sprite px py) ∨ 2 ≤ r.bitsOn x y sprite px py := by
  have hwrap : ∀ px py, r.get (px % r.width) (py % r.height) = r.get px py :=
    fun px py => get_congr ⟨Nat.mod_mod .., Nat.mod_mod ..⟩
  simp only [draw, flipAll_hit_iff, hits_spriteDots]
  constructor
  · rintro ⟨px, py, h⟩
    refine ⟨px % r.width, Nat.mod_lt _ r.width_pos, py % r.height, Nat.mod_lt _ r.height_pos, ?_⟩
    rwa [hwrap]
  · rintro ⟨px, hx, py, hy, h⟩
    refine ⟨px, py, ?_⟩
    rwa [Nat.mod_eq_of_lt hx, Nat.mod_eq_of_lt hy]

/-- On a grid of any size, a sprite of any length turns over the pixels on which an odd number of its bits fall. It
collides exactly if a bit falls on a pixel that was lit, or more than one bit on the same pixel. -/
theorem draw_bit_by_bit (r : Raster) (x y : Nat) (sprite : List UInt8) :
    let bits := r.bitsOn x y sprite
    let drawn := r.draw x y sprite
    drawn.1.width = r.width ∧ drawn.1.height = r.height ∧
    (∀ px < r.width, ∀ py < r.height,
      drawn.1.get px py = (r.get px py ^^ decide (bits px py % 2 = 1))) ∧
    (drawn.2 = true ↔ ∃ px < r.width, ∃ py < r.height,
      (r.get px py = true ∧ 1 ≤ bits px py) ∨ 2 ≤ bits px py) := by
  intro bits drawn
  refine ⟨flipAll_width .., flipAll_height .., ?_, draw_hit_iff_bitsOn ..⟩
  intro px hx py hy
  have hget := r.get_draw_bitsOn x y sprite px py
  rwa [Nat.mod_eq_of_lt hx, Nat.mod_eq_of_lt hy] at hget

/-- Three rows of eight columns on three columns and two rows. -/
theorem draw_bit_by_bit_narrow :
    let r := blank 3 2 (by decide) (by decide)
    let sprite := [0xc9, 0x00, 0xa0]
    let drawn := r.draw 1 0 sprite
    (1 < r.width ∧ 2 < r.width ∧ 0 < r.height) ∧
      r.bitsOn 1 0 sprite 1 0 = 2 ∧ drawn.1.get 1 0 = false ∧
      r.bitsOn 1 0 sprite 2 0 = 3 ∧ drawn.1.get 2 0 = true ∧ drawn.2 = true := by
  intro r sprite drawn
  obtain ⟨_, _, hget, hhit⟩ := draw_bit_by_bit r 1 0 sprite
  obtain ⟨hone, htwo, hzero⟩ : 1 < r.width ∧ 2 < r.width ∧ 0 < r.height := by decide
  have heven : r.bitsOn 1 0 sprite 1 0 = 2 := by decide +kernel
  have hodd : r.bitsOn 1 0 sprite 2 0 = 3 := by decide +kernel
  refine ⟨⟨hone, htwo, hzero⟩, heven, ?_, hodd, ?_, ?_⟩
  · rw [hget 1 hone 0 hzero, heven]
    rfl
  · rw [hget 2 htwo 0 hzero, hodd]
    rfl
  · exact hhit.2 ⟨1, hone, 0, hzero, .inr (Nat.le_of_eq heven.symm)⟩

end Chip8.Raster
