import Chip8.Raster
import Chip8.Terminal.Page

/-!
# Pictures on a terminal

A grid of pixels is shown on a terminal inside a box: its pixels become points of a canvas, those that are not lit in one
layer and those that are lit in another above it. A drawing library turns that into cells.
-/

namespace Chip8.Terminal

/-- The points of all pixels that are lit, or of all that are not. Rows count downwards from coordinate 0. -/
def points (frame : Raster) (lit : Bool) : List (Int × Int) :=
  frame.rows.zipIdx.flatMap fun (row, y) =>
    (row.zipIdx.filter fun (pixel, _) => pixel = lit).map fun (_, x) => ((x : Int), -(y : Int))

/-- The bounds of a picture of this size. -/
def Bounds.ofSize (width height : Nat) : Bounds where
  left := 0
  right := width - 1
  bottom := -(height - 1)
  top := 0

/-- A frame in a box for pictures of this size. -/
def Widget.ofFrame (width height : Nat) (frame : Raster) : Widget where
  columns := width + 2
  rows := height + 2
  title := "CHIP-8"
  bounds := .ofSize width height
  layers := [⟨false, points frame false⟩, ⟨true, points frame true⟩]

/-- A terminal of type `τ` that shows pictures of one size. -/
structure ViewerOn (τ : Type) where
  width : Nat
  height : Nat
  /-- The page beside the scrolling text is in use. -/
  alternatePage : Bool
  cursorVisible : Bool
  page : τ

namespace ViewerOn

variable {τ : Type}

/-- Takes a terminal over: an empty page, no cursor. -/
def start (lib : DrawingLibrary τ) (page : τ) (width height : Nat) : ViewerOn τ where
  width
  height
  alternatePage := true
  cursorVisible := false
  page := lib.clear page

/-- Gives the terminal back. -/
def finish (v : ViewerOn τ) : ViewerOn τ :=
  { v with alternatePage := false, cursorVisible := true }

/-- The refusal of a frame that has not the viewer's size. -/
def sizeMismatch (v : ViewerOn τ) (frame : Raster) : IoError :=
  .refused .invalidInput
    ("MonoTermDisplay is " ++ Numeral.decimal v.width ++ "x" ++ Numeral.decimal v.height ++ ", frame is "
      ++ Numeral.decimal frame.width ++ "x" ++ Numeral.decimal frame.height)

/-- Shows a frame, if it has the viewer's size and the library does not fail. -/
def draw (lib : DrawingLibrary τ) (v : ViewerOn τ) (frame : Raster) : Except IoError Unit × ViewerOn τ :=
  if frame.width = v.width ∧ frame.height = v.height then
    let drawn := lib.draw v.page (.ofFrame v.width v.height frame)
    (drawn.1, { v with page := drawn.2 })
  else (.error (v.sizeMismatch frame), v)

end ViewerOn

/-- The terminal that the program runs on. -/
abbrev Viewer := ViewerOn Page

def Viewer.start (columns rows width height : Nat) : Viewer :=
  ViewerOn.start Page.library (.empty columns rows) width height

end Chip8.Terminal
