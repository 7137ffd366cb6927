import Chip8.Terminal.Widget

/-!
# Pages

A page of cells as the terminal of a drawing library: every draw puts a box, its title and the points of its canvas on an
empty page, and later cells cover earlier ones.
-/

namespace Chip8.Terminal

/-- The cells of a terminal, row after row. -/
structure Page where
  columns : Nat
  rows : Nat
  cells : Vector Cell (columns * rows)
deriving DecidableEq

namespace Page

/-- A page that shows nothing. -/
def empty (columns rows : Nat) : Page where
  columns
  rows
  cells := Vector.replicate (columns * rows) .blank

/-- The cell at a place; beside the page there is nothing to see. -/
def get (p : Page) (column row : Nat) : Cell :=
  if column < p.columns then (p.cells[row * p.columns + column]?).getD .blank else .blank

/-- Sets the cell at a place; beside the page nothing happens. -/
def put (p : Page) (column row : Nat) (cell : Cell) : Page :=
  if column < p.columns then { p with cells := p.cells.setIfInBounds (row * p.columns + column) cell } else p

/-- Sets several cells, one after the other. -/
def putAll (p : Page) (cells : List ((Nat × Nat) × Cell)) : Page :=
  cells.foldl (fun page entry => page.put entry.1.1 entry.1.2 entry.2) p

end Page

/-- The character that stands for a cell: `#` is white, `.` is black. -/
def Cell.char : Cell → Char
  | blank => ' '
  | glyph c => c
  | painted white => if white then '#' else '.'

/-- Drops the elements at the end that satisfy a test. -/
def dropTrailing {α : Type} (test : α → Bool) (xs : List α) : List α :=
  (xs.reverse.dropWhile test).reverse

/-- The rows of a page as text, without blanks at the end of a row and without empty rows at the end. -/
def Page.lines (p : Page) : List String :=
  let row (r : Nat) : String :=
    String.ofList (dropTrailing (· = ' ') ((List.range p.columns).map fun c => (p.get c r).char))
  dropTrailing String.isEmpty ((List.range p.rows).map row)

/-- The cell of a point. A canvas that is one coordinate wide or high has no cell for any point. -/
def Canvas.cell? (c : Canvas) (point : Int × Int) : Option (Nat × Nat) :=
  let (x, y) := point
  if x < c.left ∨ c.right < x ∨ y < c.bottom ∨ c.top < y then none
  else if c.right = c.left ∨ c.top = c.bottom then none
  else some
    (((x - c.left) * (c.columns - 1) / (c.right - c.left)).toNat,
     ((c.top - y) * (c.rows - 1) / (c.top - c.bottom)).toNat)

namespace Page

/-- The sides of a box, with its title in the upper one as far as there is room. -/
def frameCells (columns rows : Nat) (title : String) : List ((Nat × Nat) × Cell) :=
  let right := columns - 1
  let bottom := rows - 1
  let across := (List.range (columns - 2)).flatMap fun i => [((i + 1, 0), Cell.glyph '─'), ((i + 1, bottom), .glyph '─')]
  let down := (List.range (rows - 2)).flatMap fun i => [((0, i + 1), Cell.glyph '│'), ((right, i + 1), .glyph '│')]
  let corners := [((0, 0), Cell.glyph '┌'), ((right, 0), .glyph '┐'), ((0, bottom), .glyph '└'), ((right, bottom), .glyph '┘')]
  let letters := (title.toList.take (columns - 2)).zipIdx.map fun (c, i) => ((i + 1, 0), Cell.glyph c)
  across ++ down ++ corners ++ letters

/-- A mark of a canvas as a cell of the page: the canvas lies one cell to the right of and below the corner. -/
def cellOfMark (mark : (Nat × Nat) × Bool) : (Nat × Nat) × Cell :=
  ((mark.1.1 + 1, mark.1.2 + 1), .painted mark.2)

/-- All cells of a widget, first to last. -/
def widgetCells (w : Widget) : List ((Nat × Nat) × Cell) :=
  frameCells w.columns w.rows w.title ++ (w.marks Canvas.cell?).map cellOfMark

/-- Drawing on pages. -/
def library : DrawingLibrary Page where
  columns := columns
  rows := rows
  shown p place := p.get place.1 place.2
  buffer _ _ := .blank
  clear p := empty p.columns p.rows
  draw p w := (.ok (), (empty p.columns p.rows).putAll (widgetCells w))
  render w before place :=
    if place.1 < w.columns ∧ place.2 < w.rows then (lastFor? (widgetCells w) place).getD .blank else before place
  cellOf? := Canvas.cell?
  sides columns rows title place := (lastFor? (frameCells columns rows title) place).getD .blank

end Page

end Chip8.Terminal
