import Chip8.Fault

/-!
# Widgets

What a program asks a drawing library to show: a canvas of coloured points in a box with a title. Which cells of a
terminal that makes is up to the library, and all that is relied on is that the library is lawful.
-/

namespace Chip8.Terminal

inductive Cell
  | blank
  | glyph (c : Char)
  /-- A cell of the canvas, white or black. -/
  | painted (white : Bool)
deriving DecidableEq, Repr

/-- What stands in a column and a row, both counted from 0. -/
abbrev Cells := Nat × Nat → Cell

/-- The ranges of a canvas's coordinates. The vertical axis points up. -/
structure Bounds where
  left : Int
  right : Int
  bottom : Int
  top : Int
deriving DecidableEq, Repr

/-- A canvas: its bounds, and how many cells it covers. -/
structure Canvas extends Bounds where
  columns : Nat
  rows : Nat
deriving DecidableEq, Repr

/-- Points of one colour. -/
structure Layer where
  white : Bool
  points : List (Int × Int)
deriving DecidableEq, Repr

/-- A canvas in a box with a title. The box lies in the upper left corner of the terminal, and its sides are one cell
thick. -/
structure Widget where
  /-- The columns of the box. -/
  columns : Nat
  /-- The rows of the box. -/
  rows : Nat
  title : String
  bounds : Bounds
  /-- What is painted on the canvas, first to last. -/
  layers : List Layer
deriving DecidableEq, Repr

section LastFor

variable {κ κ' α α' : Type} [DecidableEq κ] [DecidableEq κ'] {entries first second : List (κ × α)} {key : κ}

/-- The entry that comes last for a key. -/
def lastFor? (entries : List (κ × α)) (key : κ) : Option α :=
  entries.reverse.lookup key

theorem lastFor?_cons (entry : κ × α) :
    lastFor? (entry :: entries) key = (lastFor? entries key).or (if entry.1 = key then some entry.2 else none) := by
  obtain ⟨other, value⟩ := entry
  rw [lastFor?, List.reverse_cons, List.lookup_append, ← lastFor?]
  congr 1
  by_cases h : other = key
  · rw [h, List.lookup_cons_self, if_pos rfl]
  · have hne : (key == other) = false := beq_eq_false_iff_ne.2 (Ne.symm h)
    rw [List.lookup_cons, hne, List.lookup_nil, if_neg h]

theorem lastFor?_append : lastFor? (first ++ second) key = (lastFor? second key).or (lastFor? first key) := by
  rw [lastFor?, List.reverse_append, List.lookup_append]
  rfl

theorem mem_of_lastFor? {value : α} (h : lastFor? entries key = some value) : (key, value) ∈ entries := by
  obtain ⟨before, after, heq, _⟩ := List.lookup_eq_some_iff.1 h
  exact List.mem_reverse.1 (heq ▸ List.mem_append_right before List.mem_cons_self)

theorem lastFor?_eq_none (h : ∀ entry ∈ entries, entry.1 ≠ key) : lastFor? entries key = none :=
  Option.eq_none_iff_forall_ne_some.2 fun _ hl => h _ (mem_of_lastFor? hl) rfl

/-- Entries that agree for a key need not be told apart there. -/
theorem lastFor?_eq_some {value : α} (h : ∀ other, (key, other) ∈ entries ↔ other = value) :
    lastFor? entries key = some value := by
  cases hl : lastFor? entries key with
  | none =>
    have hmem := List.mem_reverse.2 ((h value).2 rfl)
    exact absurd (List.lookup_eq_none_iff.1 hl _ hmem) (by simp)
  | some other => rw [(h other).1 (mem_of_lastFor? hl)]

theorem lastFor?_map {f : κ → κ'} (hf : ∀ {a b}, f a = f b → a = b) (g : α → α') (key : κ) :
    lastFor? (entries.map fun entry => (f entry.1, g entry.2)) (f key) = (lastFor? entries key).map g := by
  induction entries with
  | nil => rfl
  | cons entry rest ih =>
    have hkey : f entry.1 = f key ↔ entry.1 = key := ⟨hf, congrArg f⟩
    rw [List.map_cons, lastFor?_cons, ih, lastFor?_cons]
    simp only [hkey]
    cases lastFor? rest key with
    | some value => rfl
    | none => by_cases h : entry.1 = key <;> simp [h]

end LastFor

namespace Widget

/-- The canvas inside the sides of the box. -/
def canvas (w : Widget) : Canvas where
  toBounds := w.bounds
  columns := w.columns - 2
  rows := w.rows - 2

/-- The box has room for a canvas and lies on a terminal of this size. -/
def FitsOn (w : Widget) (columns rows : Nat) : Prop :=
  (2 < w.columns ∧ w.columns ≤ columns) ∧ 2 < w.rows ∧ w.rows ≤ rows

/-- A place that belongs to the box. -/
def Covers (w : Widget) (place : Nat × Nat) : Prop :=
  place.1 < w.columns ∧ place.2 < w.rows

/-- A place on the sides of the box. -/
def OnSides (w : Widget) (place : Nat × Nat) : Prop :=
  w.Covers place ∧ (place.1 = 0 ∨ place.1 + 1 = w.columns ∨ place.2 = 0 ∨ place.2 + 1 = w.rows)

/-- The points of all layers as cells of the canvas, with their colour, first to last. -/
def marks (cellOf? : Canvas → Int × Int → Option (Nat × Nat)) (w : Widget) : List ((Nat × Nat) × Bool) :=
  w.layers.flatMap fun layer => (layer.points.filterMap (cellOf? w.canvas)).map (·, layer.white)

end Widget

/-- A library that draws widgets on terminals of type `τ`. -/
structure DrawingLibrary (τ : Type) where
  columns : τ → Nat
  rows : τ → Nat
  /-- What is seen on a terminal. -/
  shown : τ → Cells
  /-- The buffer that the next draw begins with. -/
  buffer : τ → Cells
  /-- Empties a terminal. -/
  clear : τ → τ
  /-- Renders a widget into the buffer and shows the buffer. -/
  draw : τ → Widget → Except IoError Unit × τ
  /-- A buffer after a widget was rendered into it. -/
  render : Widget → Cells → Cells
  /-- The cell of a canvas that a point falls on. -/
  cellOf? : Canvas → Int × Int → Option (Nat × Nat)
  /-- The sides of a box of so many columns and rows with a title. -/
  sides : Nat → Nat → String → Cells

/-- What is relied on of a drawing library, while its terminal keeps its size and takes what is written to it. -/
structure DrawingLibrary.Lawful {τ : Type} (lib : DrawingLibrary τ) : Prop where
  size_clear (t : τ) : lib.columns (lib.clear t) = lib.columns t ∧ lib.rows (lib.clear t) = lib.rows t
  /-- Nothing is left on a terminal that was emptied, -/
  shown_clear (t : τ) (place : Nat × Nat) : lib.shown (lib.clear t) place = .blank
  /-- and the next draw begins with an empty buffer. -/
  buffer_clear (t : τ) (place : Nat × Nat) : lib.buffer (lib.clear t) place = .blank
  draw_ok {t : τ} {w : Widget} : w.FitsOn (lib.columns t) (lib.rows t) → (lib.draw t w).1 = .ok ()
  size_draw {t : τ} {w : Widget} : w.FitsOn (lib.columns t) (lib.rows t) →
    lib.columns (lib.draw t w).2 = lib.columns t ∧ lib.rows (lib.draw t w).2 = lib.rows t
  /-- A drawn buffer is what the terminal shows, -/
  shown_draw {t : τ} {w : Widget} {column row : Nat} : w.FitsOn (lib.columns t) (lib.rows t) →
    column < lib.columns t → row < lib.rows t →
      lib.shown (lib.draw t w).2 (column, row) = lib.render w (lib.buffer t) (column, row)
  /-- and the next draw begins with an empty one. -/
  buffer_draw {t : τ} {w : Widget} (place : Nat × Nat) : w.FitsOn (lib.columns t) (lib.rows t) →
    lib.buffer (lib.draw t w).2 place = .blank
  /-- A canvas maps the points inside its bounds linearly onto its cells, the upper left corner to the first and the
  lower right corner to the last. This is asked only of points whose image is exactly a cell. -/
  cellOf?_linear {c : Canvas} {x y : Int} {column row : Nat} : c.left < c.right → c.bottom < c.top →
    c.left ≤ x ∧ x ≤ c.right → c.bottom ≤ y ∧ y ≤ c.top →
    (x - c.left) * (c.columns - 1) = column * (c.right - c.left) →
    (c.top - y) * (c.rows - 1) = row * (c.top - c.bottom) → lib.cellOf? c (x, y) = some (column, row)
  /-- The canvas lies inside the sides of the box, and later points cover earlier ones. -/
  render_canvas {w : Widget} {before : Cells} {column row : Nat} {white : Bool} :
    column < w.canvas.columns → row < w.canvas.rows → lastFor? (w.marks lib.cellOf?) (column, row) = some white →
      lib.render w before (column + 1, row + 1) = .painted white
  /-- The sides are the same for all boxes of one size and title. -/
  render_sides {w : Widget} {before : Cells} {place : Nat × Nat} : 2 < w.columns → 2 < w.rows → w.OnSides place →
    lib.render w before place = lib.sides w.columns w.rows w.title place
  /-- Nothing is rendered beside the box. -/
  render_beside {w : Widget} {before : Cells} {place : Nat × Nat} : 2 < w.columns → 2 < w.rows → ¬ w.Covers place →
    lib.render w before place = before place

end Chip8.Terminal
