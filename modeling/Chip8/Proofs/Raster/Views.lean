import Chip8.Proofs.Raster.Drawings

/-!
# The views of a grid

The rows, the number of lit pixels, the text and the equality of grids all show the pixels that `get` shows: each of
them is a function of `get` and of the size (`rows_eq`, `litCount_eq`, `text_eq`, `beq_iff_get`). This holds of a blank
grid after any drawings and clearings, which leave its size as it was (`views_agree`).
-/

namespace Chip8

/-- What can be done to the pixels of a grid. -/
inductive Stroke
  | draw (drawing : Drawing)
  | clear
deriving DecidableEq

namespace Raster

variable {r s : Raster} {y : Nat}

/-! ## Rows -/

theorem flatten_chunks {α : Type} {size : Nat} (hs : 0 < size) (xs : List α) : (chunks size hs xs).flatten = xs := by
  fun_induction chunks size hs xs with
  | case1 => rfl
  | case2 xs h ih => rw [List.flatten_cons, ih, List.take_append_drop]

/-- A list of whole pieces is cut at the multiples of their size. -/
theorem chunks_eq {α : Type} {size : Nat} (hs : 0 < size) {count : Nat} {xs : List α} (h : xs.length = count * size) :
    chunks size hs xs = (List.range count).map fun k => (xs.drop (k * size)).take size := by
  induction count generalizing xs with
  | zero =>
    have hnil : xs = [] := List.length_eq_zero_iff.1 (by rw [h, Nat.zero_mul])
    rw [chunks, if_pos hnil]
    rfl
  | succ count ih =>
    have hne : xs ≠ [] := List.length_pos_iff.1 (by rw [h]; exact Nat.mul_pos (Nat.succ_pos count) hs)
    have hrest : (xs.drop size).length = count * size := by
      rw [List.length_drop, h, Nat.succ_mul, Nat.add_sub_cancel]
    rw [chunks, if_neg hne, ih hrest, List.range_succ_eq_map, List.map_cons, List.map_map, Nat.zero_mul, List.drop_zero]
    congr 1
    apply List.map_congr_left
    intro k _
    rw [Function.comp_apply, List.drop_drop, Nat.succ_mul, Nat.add_comm]

theorem take_drop_pixels (h : y < r.height) :
    (r.pixels.toList.drop (y * r.width)).take r.width = (List.range r.width).map (r.get · y) := by
  have hend : y * r.width + r.width ≤ r.width * r.height := by
    rw [← Nat.succ_mul, Nat.mul_comm r.width]
    exact Nat.mul_le_mul_right _ h
  apply List.ext_getElem
  · simp
    omega
  · intro x _ hx
    have hlt : x < r.width := by simpa using hx
    simp [get, offset, Nat.mod_eq_of_lt h, Nat.mod_eq_of_lt hlt]

theorem rows_eq (r : Raster) :
    r.rows = (List.range r.height).map fun y => (List.range r.width).map (r.get · y) := by
  have hlength : r.pixels.toList.length = r.height * r.width := r.pixels.length_toList.trans (Nat.mul_comm ..)
  rw [rows, chunks_eq r.width_pos hlength]
  exact List.map_congr_left fun _ hy => take_drop_pixels (List.mem_range.1 hy)

theorem length_rows (r : Raster) : r.rows.length = r.height := by
  rw [rows_eq, List.length_map, List.length_range]

theorem length_row {row : List Bool} (h : row ∈ r.rows) : row.length = r.width := by
  rw [rows_eq] at h
  obtain ⟨y, _, rfl⟩ := List.mem_map.1 h
  rw [List.length_map, List.length_range]

theorem flatten_rows (r : Raster) : r.rows.flatten = r.pixels.toList :=
  flatten_chunks ..

/-! ## The other views -/

theorem litCount_eq (r : Raster) :
    r.litCount =
      ((List.range r.height).flatMap fun y => (List.range r.width).map (·, y)).countP fun p => r.get p.1 p.2 := by
  -- the store is the rows one after the other, so its lit pixels are counted row by row
  rw [litCount, ← Vector.count_toList, ← flatten_rows, List.count_flatten, rows_eq, List.map_map, List.countP_flatMap]
  congr 1
  apply List.map_congr_left
  intro y _
  simp [List.count, List.countP_map, Function.comp_def]

theorem text_eq (r : Raster) :
    r.text = String.join ((List.range r.height).map fun y =>
      String.ofList ((List.range r.width).map fun x => if r.get x y then '#' else '.') ++ "\n") := by
  rw [text, rows_eq, List.map_map]
  simp only [Function.comp_def, rowText, List.map_map]

theorem beq_iff_get :
    (r == s) = true ↔ r.width = s.width ∧ r.height = s.height ∧ ∀ x y, r.get x y = s.get x y := by
  rw [beq_iff_eq]
  constructor
  · rintro rfl
    exact ⟨rfl, rfl, fun _ _ => rfl⟩
  · rintro ⟨hw, hh, h⟩
    exact eq_of_get hw hh h

/-! ## Strokes -/

/-- A grid after a drawing or a clearing. -/
def stroke (r : Raster) : Stroke → Raster
  | .draw drawing => (r.draw drawing.x drawing.y drawing.sprite).1
  | .clear => r.clear

/-- A grid after drawings and clearings in order. -/
def paint (r : Raster) (strokes : List Stroke) : Raster :=
  strokes.foldl stroke r

theorem size_stroke (r : Raster) (stroke : Stroke) :
    (r.stroke stroke).width = r.width ∧ (r.stroke stroke).height = r.height := by
  cases stroke with
  | draw => exact ⟨flipAll_width .., flipAll_height ..⟩
  | clear => exact ⟨rfl, rfl⟩

theorem size_paint (r : Raster) (strokes : List Stroke) :
    (r.paint strokes).width = r.width ∧ (r.paint strokes).height = r.height := by
  induction strokes generalizing r with
  | nil => exact ⟨rfl, rfl⟩
  | cons stroke rest ih =>
    obtain ⟨hw, hh⟩ := r.size_stroke stroke
    exact ⟨(ih _).1.trans hw, (ih _).2.trans hh⟩

/-- What a new grid shows after drawings and clearings. It has the rows and columns it was made with, and its store holds
the rows one after the other. A pixel of a row is the one that `get` shows there, and coordinates wrap. The lit pixels
are counted over all positions of the grid, and each row is a line of text. Two such grids are equal exactly if they have
one size and show the same pixels. -/
theorem views_agree {w h : Nat} (hw : 0 < w) (hh : 0 < h) (strokes : List Stroke) :
    let r := (blank w h hw hh).paint strokes
    ofSize w h = .ok (blank w h hw hh) ∧
    (r.rows.length = h ∧ (∀ row ∈ r.rows, row.length = w) ∧ r.rows.flatten = r.pixels.toList) ∧
    (∀ y < h, ∀ x < w, (r.rows[y]?).bind (·[x]?) = some (r.get x y)) ∧
    (∀ x y, r.get x y = r.get (x % w) (y % h)) ∧
    r.litCount = ((List.range h).flatMap fun y => (List.range w).map (·, y)).countP (fun p => r.get p.1 p.2) ∧
    r.text = String.join ((List.range h).map fun y =>
      String.ofList ((List.range w).map fun x => if r.get x y then '#' else '.') ++ "\n") ∧
    ∀ {width height : Nat} (width_pos : 0 < width) (height_pos : 0 < height) (others : List Stroke),
      let s := (blank width height width_pos height_pos).paint others
      (r == s) = true ↔ w = width ∧ h = height ∧ ∀ x y, r.get x y = s.get x y := by
  intro r
  obtain ⟨hrw, hrh⟩ : r.width = w ∧ r.height = h := size_paint ..
  have hrows : r.rows = (List.range h).map fun y => (List.range w).map (r.get · y) := by rw [rows_eq, hrw, hrh]
  refine ⟨dif_pos ⟨hw, hh⟩, ⟨?_, ?_, flatten_rows r⟩, ?_, ?_, ?_, ?_, ?_⟩
  · rw [length_rows, hrh]
  · intro row hrow
    rw [length_row hrow, hrw]
  · intro y hy x hx
    simp [hrows, hy, hx]
  · intro x y
    rw [← hrw, ← hrh]
    exact (get_congr ⟨Nat.mod_mod .., Nat.mod_mod ..⟩).symm
  · rw [litCount_eq, hrw, hrh]
  · rw [text_eq, hrw, hrh]
  · intro width height width_pos height_pos others s
    obtain ⟨hsw, hsh⟩ : s.width = width ∧ s.height = height := size_paint ..
    rw [beq_iff_get, hrw, hrh, hsw, hsh]

/-- A sprite around the corner of a grid of five columns and three rows, and the same strokes on a grid of three columns
and five rows. -/
theorem views_agree_wide :
    let strokes : List Stroke := [.draw ⟨1, 1, [0xff]⟩, .clear, .draw ⟨4, 2, [0xa0, 0x80]⟩]
    let r := (blank 5 3 (by decide) (by decide)).paint strokes
    let s := (blank 3 5 (by decide) (by decide)).paint strokes
    0 < 5 ∧ 0 < 3 ∧ r.rows.length = 3 ∧ (∀ row ∈ r.rows, row.length = 5) ∧
      (r.rows[2]?).bind (·[1]?) = some true ∧ r.get 9 5 = true ∧ r.litCount = 3 ∧
      r.text = "....#\n.....\n.#..#\n" ∧ (r == s) = false := by
  intro strokes r s
  obtain ⟨_, ⟨hcount, hlength, _⟩, hpixel, hwrap, hlit, htext, hequal⟩ :=
    views_agree (w := 5) (h := 3) (by decide) (by decide) strokes
  refine ⟨by decide, by decide, hcount, hlength, ?_, ?_, ?_, ?_, ?_⟩
  · exact (hpixel 2 (by decide) 1 (by decide)).trans (by decide +kernel)
  · exact (hwrap 9 5).trans (by decide +kernel)
  · exact hlit.trans (by decide +kernel)
  · exact htext.trans (by decide +kernel)
  · rw [← Bool.not_eq_true]
    intro h
    exact absurd ((hequal (by decide) (by decide) strokes).1 h).1 (by decide)

end Raster

end Chip8
