import Chip8.Terminal.Page

/-!
# Pages are a lawful drawing library

A page shows the last of the cells that were put at a place (`get_putAll`). The sides of a box and the marks of its canvas
never meet (`onSides_of_mem_frameCells`, `within_of_mem_markCells`), so what was put at a place is settled by the part
of the widget it belongs to (`library_lawful`).
-/

namespace Chip8.Terminal

/-! ## Cells of a canvas -/

/-- A share of a length, rounded down to one of so many cells. -/
theorem toNat_share_lt {part whole : Int} {cells : Nat} (hpos : 0 < cells) (hpart : 0 ≤ part ∧ part ≤ whole)
    (hwhole : 0 < whole) : (part * (cells - 1) / whole).toNat < cells := by
  have hlast : (0 : Int) ≤ (cells : Int) - 1 := by omega
  have hle : part * ((cells : Int) - 1) / whole ≤ cells - 1 :=
    Int.ediv_le_of_le_mul hwhole (by rw [Int.mul_comm _ whole]; exact Int.mul_le_mul_of_nonneg_right hpart.2 hlast)
  omega

namespace Canvas

variable {c : Canvas} {x y : Int} {place : Nat × Nat}

theorem cell?_of_inside (hx : c.left ≤ x ∧ x ≤ c.right) (hy : c.bottom ≤ y ∧ y ≤ c.top) (hwide : c.left < c.right)
    (hhigh : c.bottom < c.top) :
    c.cell? (x, y) = some (((x - c.left) * (c.columns - 1) / (c.right - c.left)).toNat,
      ((c.top - y) * (c.rows - 1) / (c.top - c.bottom)).toNat) :=
  (if_neg (by omega)).trans (if_neg (by omega))

theorem inside_of_cell? (h : c.cell? (x, y) = some place) :
    (c.left ≤ x ∧ x ≤ c.right) ∧ (c.bottom ≤ y ∧ y ≤ c.top) ∧ c.left < c.right ∧ c.bottom < c.top := by
  simp only [cell?] at h
  split at h
  · cases h
  split at h
  · cases h
  omega

theorem cell?_lt (hcolumns : 0 < c.columns) (hrows : 0 < c.rows) (h : c.cell? (x, y) = some place) :
    place.1 < c.columns ∧ place.2 < c.rows := by
  obtain ⟨hx, hy, hwide, hhigh⟩ := inside_of_cell? h
  rw [cell?_of_inside hx hy hwide hhigh] at h
  cases h
  exact ⟨toNat_share_lt hcolumns (by omega) (by omega), toNat_share_lt hrows (by omega) (by omega)⟩

end Canvas

namespace Page

/-! ## What is put on a page -/

section Put

variable {p : Page} {column row : Nat}

@[simp] theorem columns_put (p : Page) (column row : Nat) (cell : Cell) :
    (p.put column row cell).columns = p.columns := by
  rw [put]
  split <;> rfl

@[simp] theorem rows_put (p : Page) (column row : Nat) (cell : Cell) : (p.put column row cell).rows = p.rows := by
  rw [put]
  split <;> rfl

@[simp] theorem columns_putAll (p : Page) (cells : List ((Nat × Nat) × Cell)) :
    (p.putAll cells).columns = p.columns := by
  induction cells generalizing p with
  | nil => rfl
  | cons entry rest ih => exact (ih _).trans (columns_put ..)

@[simp] theorem rows_putAll (p : Page) (cells : List ((Nat × Nat) × Cell)) : (p.putAll cells).rows = p.rows := by
  induction cells generalizing p with
  | nil => rfl
  | cons entry rest ih => exact (ih _).trans (rows_put ..)

theorem place_lt {columns rows : Nat} (hc : column < columns) (hr : row < rows) :
    row * columns + column < columns * rows :=
  calc row * columns + column
      < row * columns + columns := Nat.add_lt_add_left hc _
    _ = (row + 1) * columns := (Nat.succ_mul ..).symm
    _ ≤ rows * columns := Nat.mul_le_mul_right _ hr
    _ = columns * rows := Nat.mul_comm ..

theorem place_inj {columns c r : Nat} (hc : c < columns) (hcolumn : column < columns)
    (h : r * columns + c = row * columns + column) : c = column ∧ r = row := by
  have hpos : 0 < columns := Nat.zero_lt_of_lt hc
  have hmod := congrArg (· % columns) h
  have hdiv := congrArg (· / columns) h
  simp only [Nat.mul_add_mod_self_right, Nat.mod_eq_of_lt hc, Nat.mod_eq_of_lt hcolumn] at hmod
  simp only [Nat.add_comm (_ * columns), Nat.add_mul_div_right _ _ hpos, Nat.div_eq_of_lt hc,
    Nat.div_eq_of_lt hcolumn, Nat.zero_add] at hdiv
  exact ⟨hmod, hdiv⟩

theorem get_empty (columns rows column row : Nat) : (empty columns rows).get column row = .blank := by
  have hcell (k : Nat) : ((empty columns rows).cells[k]?).getD .blank = .blank := by
    have hk : (empty columns rows).cells[k]? = if k < columns * rows then some .blank else none :=
      Vector.getElem?_replicate
    rw [hk]
    split <;> rfl
  rw [get, hcell, ite_self]

theorem get_put (hc : column < p.columns) (hr : row < p.rows) (c r : Nat) (cell : Cell) :
    (p.put c r cell).get column row = if (c, r) = (column, row) then cell else p.get column row := by
  simp only [Prod.mk.injEq]
  by_cases hin : c < p.columns
  · have hput : p.put c r cell = { p with cells := p.cells.setIfInBounds (r * p.columns + c) cell } := if_pos hin
    rw [hput, get, get, if_pos hc, if_pos hc, Vector.getElem?_setIfInBounds]
    by_cases hsame : r * p.columns + c = row * p.columns + column
    · rw [if_pos hsame, if_pos (hsame ▸ place_lt hc hr), if_pos (place_inj hin hc hsame), Option.getD_some]
    · rw [if_neg hsame, if_neg fun h : c = column ∧ r = row => hsame (by rw [h.1, h.2])]
  · rw [put, if_neg hin, if_neg fun h : c = column ∧ r = row => hin (h.1 ▸ hc)]

theorem get_putAll (hc : column < p.columns) (hr : row < p.rows) (cells : List ((Nat × Nat) × Cell)) :
    (p.putAll cells).get column row = (lastFor? cells (column, row)).getD (p.get column row) := by
  induction cells generalizing p with
  | nil => rfl
  | cons entry rest ih =>
    have hrest := ih (p := p.put entry.1.1 entry.1.2 entry.2) (by rwa [columns_put]) (by rwa [rows_put])
    rw [putAll, List.foldl_cons, ← putAll, hrest, get_put hc hr, lastFor?_cons]
    cases lastFor? rest (column, row) with
    | some cell => rfl
    | none => by_cases h : entry.1 = (column, row) <;> simp [h]

end Put

/-! ## The cells of a widget -/

section Widget

variable {w : Widget} {place : Nat × Nat} {cell : Cell}

/-- The marks of a widget's canvas as cells of the page. -/
def markCells (w : Widget) : List ((Nat × Nat) × Cell) :=
  (w.marks Canvas.cell?).map cellOfMark

theorem onSides_of_mem_frameCells (hcolumns : 2 < w.columns) (hrows : 2 < w.rows)
    (h : (place, cell) ∈ frameCells w.columns w.rows w.title) : w.OnSides place := by
  obtain ⟨column, row⟩ := place
  simp only [frameCells, List.mem_append, List.mem_flatMap, List.mem_range, List.mem_map, List.mem_cons,
    List.not_mem_nil, or_false, Prod.mk.injEq, Prod.exists] at h
  simp only [Widget.OnSides, Widget.Covers]
  obtain ((⟨i, hi, h⟩ | ⟨i, hi, h⟩) | h) | ⟨letter, i, hmem, ⟨rfl, rfl⟩, -⟩ := h
  · omega
  · omega
  · omega
  · have hi := List.snd_lt_of_mem_zipIdx hmem
    have hlength := List.length_take_le (w.columns - 2) w.title.toList
    omega

theorem within_of_mem_markCells (hcolumns : 2 < w.columns) (hrows : 2 < w.rows)
    (h : (place, cell) ∈ markCells w) : w.Covers place ∧ ¬ w.OnSides place := by
  simp only [markCells, Widget.marks, List.mem_map, List.mem_flatMap, List.mem_filterMap] at h
  obtain ⟨_, ⟨layer, -, _, ⟨⟨x, y⟩, -, hcell⟩, rfl⟩, h⟩ := h
  cases h
  have hlt := Canvas.cell?_lt (Nat.sub_pos_of_lt hcolumns) (Nat.sub_pos_of_lt hrows) hcell
  simp only [Widget.canvas] at hlt
  simp only [Widget.OnSides, Widget.Covers]
  omega

theorem lastFor?_widgetCells :
    lastFor? (widgetCells w) place =
      (lastFor? (markCells w) place).or (lastFor? (frameCells w.columns w.rows w.title) place) :=
  lastFor?_append

theorem lastFor?_widgetCells_of_not_covers (hcolumns : 2 < w.columns) (hrows : 2 < w.rows) (h : ¬ w.Covers place) :
    lastFor? (widgetCells w) place = none := by
  have hmarks : lastFor? (markCells w) place = none := by
    refine lastFor?_eq_none ?_
    rintro ⟨_, _⟩ hmem rfl
    exact h (within_of_mem_markCells hcolumns hrows hmem).1
  have hframe : lastFor? (frameCells w.columns w.rows w.title) place = none := by
    refine lastFor?_eq_none ?_
    rintro ⟨_, _⟩ hmem rfl
    exact h (onSides_of_mem_frameCells hcolumns hrows hmem).1
  rw [lastFor?_widgetCells, hmarks, hframe]
  rfl

theorem lastFor?_widgetCells_of_onSides (hcolumns : 2 < w.columns) (hrows : 2 < w.rows) (h : w.OnSides place) :
    lastFor? (widgetCells w) place = lastFor? (frameCells w.columns w.rows w.title) place := by
  have hmarks : lastFor? (markCells w) place = none := by
    refine lastFor?_eq_none ?_
    rintro ⟨_, _⟩ hmem rfl
    exact (within_of_mem_markCells hcolumns hrows hmem).2 h
  rw [lastFor?_widgetCells, hmarks, Option.none_or]

theorem lastFor?_widgetCells_of_mark {column row : Nat} {white : Bool}
    (h : lastFor? (w.marks Canvas.cell?) (column, row) = some white) :
    lastFor? (widgetCells w) (column + 1, row + 1) = some (.painted white) := by
  have hmarks : lastFor? (markCells w) (column + 1, row + 1) = some (.painted white) := by
    have hinj {a b : Nat × Nat} (hab : (a.1 + 1, a.2 + 1) = (b.1 + 1, b.2 + 1)) : a = b := by
      simpa [Prod.ext_iff] using hab
    exact (lastFor?_map hinj Cell.painted (column, row)).trans (congrArg (Option.map Cell.painted) h)
  rw [lastFor?_widgetCells, hmarks, Option.some_or]

end Widget

/-- What is relied on of a drawing library holds of pages. -/
theorem library_lawful : library.Lawful where
  size_clear _ := ⟨rfl, rfl⟩
  shown_clear _ _ := get_empty ..
  buffer_clear _ _ := rfl
  draw_ok _ := rfl
  size_draw _ := ⟨columns_putAll .., rows_putAll ..⟩
  shown_draw {p w column row} hfits hc hr := by
    have hput : library.shown (library.draw p w).2 (column, row) = (lastFor? (widgetCells w) (column, row)).getD .blank :=
      (get_putAll (p := empty p.columns p.rows) hc hr _).trans (congrArg _ (get_empty ..))
    by_cases hcovers : w.Covers (column, row)
    · exact hput.trans (if_pos hcovers).symm
    · rw [hput, lastFor?_widgetCells_of_not_covers hfits.1.1 hfits.2.1 hcovers]
      exact (if_neg hcovers).symm
  buffer_draw _ _ := rfl
  cellOf?_linear {c x y column row} hwide hhigh hx hy hcolumn hrow := by
    have hlinear := Canvas.cell?_of_inside hx hy hwide hhigh
    rw [hcolumn, hrow, Int.mul_ediv_cancel _ (by omega), Int.mul_ediv_cancel _ (by omega)] at hlinear
    exact hlinear
  render_canvas {w before column row white} hc hr hmark := by
    have hcovers : column + 1 < w.columns ∧ row + 1 < w.rows := by
      simp only [Widget.canvas] at hc hr
      omega
    exact (if_pos hcovers).trans (congrArg (·.getD Cell.blank) (lastFor?_widgetCells_of_mark hmark))
  render_sides hcolumns hrows hsides :=
    (if_pos hsides.1).trans (congrArg (·.getD Cell.blank) (lastFor?_widgetCells_of_onSides hcolumns hrows hsides))
  render_beside _ _ hcovers := if_neg hcovers

end Page

end Chip8.Terminal
