import Chip8.Proofs.Raster.Hits

/-!
# Many sprites

Sprites may be drawn in any order: the pixels are the same in the end, and so is whether a drawing collided at all.
Drawn twice, they are gone. A sprite may be drawn in two parts.
-/

namespace Chip8

/-- A sprite, and the place of its upper left corner. -/
structure Drawing where
  x : Nat
  y : Nat
  sprite : List UInt8
deriving DecidableEq

namespace Raster

/-- Draws sprites in order. The flags tell, for each of them, of a collision. -/
def drawAll (r : Raster) : List Drawing → Raster × List Bool
  | [] => (r, [])
  | drawing :: rest =>
    let drawn := r.draw drawing.x drawing.y drawing.sprite
    let after := drawn.1.drawAll rest
    (after.1, drawn.2 :: after.2)

/-- The positions under the set bits of sprites, in order. -/
def allDots (drawings : List Drawing) : List (Nat × Nat) :=
  drawings.flatMap fun drawing => spriteDots drawing.x drawing.y drawing.sprite

/-- To draw sprites one after the other is to turn over all their positions. -/
theorem drawAll_eq_flipAll (r : Raster) (drawings : List Drawing) :
    ((r.drawAll drawings).1, (r.drawAll drawings).2.any id) = r.flipAll (allDots drawings) := by
  induction drawings generalizing r with
  | nil => rfl
  | cons drawing rest ih =>
    have hdots : allDots (drawing :: rest) = spriteDots drawing.x drawing.y drawing.sprite ++ allDots rest := rfl
    simp only [hdots, flipAll_append, ← ih, drawAll, draw, List.any_cons, id]

theorem allDots_perm {drawings other : List Drawing} (h : other.Perm drawings) :
    (allDots other).Perm (allDots drawings) :=
  h.flatMap_right _

theorem spriteDots_append (x y : Nat) (upper lower : List UInt8) :
    spriteDots x y (upper ++ lower) = spriteDots x y upper ++ spriteDots x (y + upper.length) lower := by
  induction upper generalizing y with
  | nil => rfl
  | cons row rest ih =>
    have hy : y + (row :: rest).length = y + 1 + rest.length := by
      rw [List.length_cons]
      omega
    simp only [List.cons_append, spriteDots, ih, hy, List.append_assoc]

/-- Drawings commute and cancel. In any order they leave the same pixels and agree on whether one of them collided;
every drawing made twice, in any order, leaves the pixels as they were. A sprite of two parts is the upper part, and
then the lower one below it. -/
theorem drawings_commute_and_cancel (r : Raster) (drawings : List Drawing) :
    (∀ other : List Drawing, other.Perm drawings →
      (r.drawAll other).1 = (r.drawAll drawings).1 ∧
        (r.drawAll other).2.any id = (r.drawAll drawings).2.any id) ∧
    (∀ twice : List Drawing, twice.Perm (drawings ++ drawings) → (r.drawAll twice).1 = r) ∧
    ∀ x y upper lower,
      let first := r.draw x y upper
      let second := first.1.draw x (y + upper.length) lower
      r.draw x y (upper ++ lower) = (second.1, first.2 || second.2) := by
  refine ⟨?_, ?_, ?_⟩
  · intro other hp
    apply Prod.mk.inj
    rw [drawAll_eq_flipAll, drawAll_eq_flipAll, flipAll_perm (allDots_perm hp)]
  · intro twice hp
    have htwice : allDots (drawings ++ drawings) = allDots drawings ++ allDots drawings := List.flatMap_append
    have hr := congrArg Prod.fst (drawAll_eq_flipAll r twice)
    rw [flipAll_perm (allDots_perm hp), htwice, flipAll_twice] at hr
    exact hr
  · intro x y upper lower first second
    rw [draw, spriteDots_append, flipAll_append]
    rfl

/-- On a grid that is narrower than a sprite, with flags that depend on the order. -/
theorem drawings_commute_and_cancel_overlapping :
    let r := blank 5 2 (by decide) (by decide)
    let drawings : List Drawing := [⟨1, 0, [0x80]⟩, ⟨0, 0, [0x80]⟩, ⟨5, 2, [0xc0]⟩, ⟨3, 1, [0xff, 0x81]⟩]
    let other : List Drawing := [⟨1, 0, [0x80]⟩, ⟨5, 2, [0xc0]⟩, ⟨0, 0, [0x80]⟩, ⟨3, 1, [0xff, 0x81]⟩]
    other.Perm drawings ∧ (r.drawAll other).2 ≠ (r.drawAll drawings).2 ∧
      (r.drawAll other).1 = (r.drawAll drawings).1 ∧
      (r.drawAll other).2.any id = (r.drawAll drawings).2.any id ∧ (r.drawAll (other ++ drawings)).1 = r := by
  intro r drawings other
  have hp : other.Perm drawings := by decide
  have h := drawings_commute_and_cancel r drawings
  exact ⟨hp, by decide +kernel, (h.1 other hp).1, (h.1 other hp).2, h.2.1 _ (hp.append_right drawings)⟩

end Raster

end Chip8
