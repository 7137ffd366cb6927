import Chip8.Raster

/-!
# How often a pixel is turned over

Turning over a list of positions is settled by the number of them that fall on each pixel (`hits`): a pixel changes if
that number is odd (`get_flipAll`), and a lit pixel is met if a position falls on a pixel that was lit before, or two
fall on the same pixel (`flipAll_hit_iff`). So the order of the positions does not matter.
-/

namespace Chip8.Raster

variable {r : Raster}

/-- The number of positions that fall on a pixel; coordinates wrap. -/
def hits (r : Raster) (dots : List (Nat × Nat)) (x y : Nat) : Nat :=
  dots.countP fun dot => dot.1 % r.width = x % r.width ∧ dot.2 % r.height = y % r.height

@[simp] theorem hits_nil (r : Raster) (x y : Nat) : r.hits [] x y = 0 := rfl

theorem hits_cons (r : Raster) (a b : Nat) (rest : List (Nat × Nat)) (x y : Nat) :
    r.hits ((a, b) :: rest) x y =
      r.hits rest x y + if a % r.width = x % r.width ∧ b % r.height = y % r.height then 1 else 0 := by
  simp [hits, List.countP_cons]

@[simp] theorem hits_flip (r : Raster) (a b : Nat) (dots : List (Nat × Nat)) (x y : Nat) :
    (r.flip a b).hits dots x y = r.hits dots x y := rfl

theorem hits_append (r : Raster) (first second : List (Nat × Nat)) (x y : Nat) :
    r.hits (first ++ second) x y = r.hits first x y + r.hits second x y :=
  List.countP_append

theorem hits_perm {first second : List (Nat × Nat)} (h : first.Perm second) (x y : Nat) :
    r.hits first x y = r.hits second x y :=
  h.countP_eq _

/-! ## Pixels -/

theorem get_congr {x y x' y' : Nat} (h : x % r.width = x' % r.width ∧ y % r.height = y' % r.height) :
    r.get x y = r.get x' y' := by
  simp only [get, offset_eq_iff.2 h]

/-- Grids of one size that show the same pixels are equal. -/
theorem eq_of_get {s : Raster} (hw : r.width = s.width) (hh : r.height = s.height)
    (h : ∀ x y, r.get x y = s.get x y) : r = s := by
  obtain ⟨width, height, pixels, width_pos, height_pos⟩ := r
  obtain ⟨_, _, pixels', _, _⟩ := s
  obtain rfl : width = _ := hw
  obtain rfl : height = _ := hh
  congr 1
  apply Vector.ext
  intro k hk
  have hrow : k / width < height := Nat.div_lt_of_lt_mul hk
  have hk' : k / width % height * width + k % width % width = k := by
    rw [Nat.mod_eq_of_lt hrow, Nat.mod_mod, Nat.div_add_mod']
  simpa only [get, offset, hk'] using h (k % width) (k / width)

theorem get_flipAll (r : Raster) (dots : List (Nat × Nat)) (x y : Nat) :
    (r.flipAll dots).1.get x y = (r.get x y ^^ decide (r.hits dots x y % 2 = 1)) := by
  induction dots generalizing r with
  | nil => simp [flipAll]
  | cons dot rest ih =>
    obtain ⟨a, b⟩ := dot
    rw [flipAll, ih, get_flip, hits_flip, hits_cons, Bool.xor_assoc]
    congr 1
    by_cases hsame : a % r.width = x % r.width ∧ b % r.height = y % r.height
    · rcases Nat.mod_two_eq_zero_or_one (r.hits rest x y) with h | h <;> simp [hsame, Nat.add_mod, h]
    · simp [hsame]

/-! ## Collisions -/

/-- A lit pixel is met exactly if a position falls on a pixel that was lit before, or two fall on one pixel. -/
theorem flipAll_hit_iff {dots : List (Nat × Nat)} :
    (r.flipAll dots).2 = true ↔
      ∃ x y, (r.get x y = true ∧ 1 ≤ r.hits dots x y) ∨ 2 ≤ r.hits dots x y := by
  induction dots generalizing r with
  | nil => simp [flipAll]
  | cons dot rest ih =>
    obtain ⟨a, b⟩ := dot
    have hself : r.hits ((a, b) :: rest) a b = r.hits rest a b + 1 := by simp [hits_cons]
    simp only [flipAll, Bool.or_eq_true, ih, hits_flip, get_flip]
    constructor
    · rintro (hlit | ⟨x, y, hxy⟩)
      · exact ⟨a, b, .inl ⟨hlit, by omega⟩⟩
      · refine ⟨x, y, ?_⟩
        rw [hits_cons]
        by_cases hsame : a % r.width = x % r.width ∧ b % r.height = y % r.height
        · -- the first position falls on the same pixel, so a later one is at least the second
          rw [if_pos hsame]
          exact .inr (by omega)
        · simpa [hsame] using hxy
    · rintro ⟨x, y, hxy⟩
      rw [hits_cons] at hxy
      by_cases hsame : a % r.width = x % r.width ∧ b % r.height = y % r.height
      · rw [if_pos hsame] at hxy
        cases hlit : r.get a b with
        | true => exact .inl rfl
        | false =>
          have hdark : r.get x y = false := by rw [← get_congr hsame, hlit]
          refine .inr ⟨x, y, .inl ⟨by simp [hdark, hsame], ?_⟩⟩
          simp only [hdark, Bool.false_eq_true, false_and, false_or] at hxy
          omega
      · exact .inr ⟨x, y, by simpa [hsame] using hxy⟩

/-! ## Several lists -/

theorem flipAll_append (r : Raster) (first second : List (Nat × Nat)) :
    r.flipAll (first ++ second) =
      (((r.flipAll first).1.flipAll second).1, (r.flipAll first).2 || ((r.flipAll first).1.flipAll second).2) := by
  induction first generalizing r with
  | nil => simp [flipAll]
  | cons dot rest ih =>
    obtain ⟨a, b⟩ := dot
    simp only [List.cons_append, flipAll, ih, Bool.or_assoc]

theorem flipAll_perm {first second : List (Nat × Nat)} (h : first.Perm second) :
    r.flipAll first = r.flipAll second := by
  apply Prod.ext
  · apply eq_of_get
    · simp
    · simp
    · intro x y
      rw [get_flipAll, get_flipAll, hits_perm h]
  · rw [Bool.eq_iff_iff, flipAll_hit_iff, flipAll_hit_iff]
    simp only [hits_perm h]

theorem flipAll_twice (r : Raster) (dots : List (Nat × Nat)) : (r.flipAll (dots ++ dots)).1 = r := by
  apply eq_of_get
  · simp
  · simp
  · intro x y
    have heven : (r.hits dots x y + r.hits dots x y) % 2 = 0 := by omega
    simp [get_flipAll, hits_append, heven]

end Chip8.Raster
