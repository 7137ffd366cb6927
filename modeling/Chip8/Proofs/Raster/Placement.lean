import Chip8.Proofs.Raster.Sprites

/-!
# Where a sprite falls

A pixel lies a number of columns and rows behind the corner of a sprite, going round at the edges (`behind`). On a grid
that is at least as large as the sprite no two bits fall on one pixel (`bitsOn_eq`), so a pixel is turned over exactly
if the sprite sets the bit that far behind its corner (`get_draw`), and a drawing collides exactly if such a pixel was
lit (`draw_hit_iff`).
-/

namespace Chip8.Raster

variable {size start place : Nat} {r : Raster} {sprite : List UInt8}

/-- How far a place is behind a start, counted forwards and going round after `size` places. -/
def behind (size start place : Nat) : Nat :=
  ((place - start : Int) % size).toNat

/-- The place that comes `k` places after a start is the one that is `k` behind it. -/
theorem add_mod_eq_iff {k : Nat} (h : k < size) :
    (start + k) % size = place % size ↔ behind size start place = k := by
  have hpos := Int.emod_nonneg (place - start : Int) (Int.natCast_ne_zero.2 (Nat.ne_of_gt (Nat.zero_lt_of_lt h)))
  have hk : (k : Int) % size = k := by rw [← Int.natCast_emod, Nat.mod_eq_of_lt h]
  have hsub : (place : Int) - (start + k) = place - start - k := by omega
  calc (start + k) % size = place % size
      ↔ (place : Int) % size = (start + k : Int) % size := by
        rw [eq_comm, ← Int.natCast_inj, Int.natCast_emod, Int.natCast_emod, Int.natCast_add]
    _ ↔ (place - start : Int) % size = k % size := by
        rw [Int.emod_eq_emod_iff_emod_sub_eq_zero, hsub, ← Int.emod_eq_emod_iff_emod_sub_eq_zero]
    _ ↔ behind size start place = k := by
        rw [hk, behind]
        omega

/-- A sprite falls on a pixel at most once: with the bit as far behind the corner as the pixel is. -/
theorem bitsOn_eq (hw : 8 ≤ r.width) (hh : sprite.length ≤ r.height) (x y px py : Nat) :
    r.bitsOn x y sprite (px % r.width) (py % r.height) =
      if sets sprite (behind r.width x px) (behind r.height y py) = true then 1 else 0 := by
  have hfalls : ∀ bit ∈ setBits sprite,
      ((x + bit.1) % r.width = px % r.width ∧ (y + bit.2) % r.height = py % r.height) ↔
        bit = (behind r.width x px, behind r.height y py) := by
    intro bit hbit
    obtain ⟨hc, hr⟩ := lt_of_sets (mem_setBits.1 hbit)
    rw [add_mod_eq_iff (by omega), add_mod_eq_iff (by omega), Prod.ext_iff, eq_comm, @eq_comm _ (behind r.height y py)]
  calc r.bitsOn x y sprite (px % r.width) (py % r.height)
      = (setBits sprite).count (behind r.width x px, behind r.height y py) := by
        rw [List.count]
        apply List.countP_congr
        intro bit hbit
        simp only [decide_eq_true_eq, beq_iff_eq, hfalls bit hbit]
    _ = if (behind r.width x px, behind r.height y py) ∈ setBits sprite then 1 else 0 := (nodup_setBits sprite).count
    _ = _ := by simp only [mem_setBits]

/-- A drawing turns over exactly the pixels under the set bits. -/
theorem get_draw (hw : 8 ≤ r.width) (hh : sprite.length ≤ r.height) (x y px py : Nat) :
    (r.draw x y sprite).1.get px py =
      (r.get px py ^^ sets sprite (behind r.width x px) (behind r.height y py)) := by
  rw [get_draw_bitsOn, bitsOn_eq hw hh]
  cases sets sprite (behind r.width x px) (behind r.height y py) <;> rfl

/-- A drawing collides exactly if a lit pixel is under a set bit. -/
theorem draw_hit_iff (hw : 8 ≤ r.width) (hh : sprite.length ≤ r.height) (x y : Nat) :
    (r.draw x y sprite).2 = true ↔
      ∃ px py, px < r.width ∧ py < r.height ∧
        sets sprite (behind r.width x px) (behind r.height y py) = true ∧ r.get px py = true := by
  rw [draw_hit_iff_bitsOn]
  constructor
  · rintro ⟨px, hx, py, hy, h⟩
    have hbits := bitsOn_eq hw hh x y px py
    rw [Nat.mod_eq_of_lt hx, Nat.mod_eq_of_lt hy] at hbits
    rw [hbits] at h
    -- no pixel is hit twice, so it is a lit one that is hit
    split at h
    · rename_i hsets
      exact ⟨px, py, hx, hy, hsets, h.elim And.left (by omega)⟩
    · omega
  · rintro ⟨px, py, hx, hy, hsets, hlit⟩
    have hbits := bitsOn_eq hw hh x y px py
    rw [Nat.mod_eq_of_lt hx, Nat.mod_eq_of_lt hy, if_pos hsets] at hbits
    exact ⟨px, hx, py, hy, .inl ⟨hlit, Nat.le_of_eq hbits.symm⟩⟩

end Chip8.Raster
