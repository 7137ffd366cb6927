/-!
# Lines

A text as lines. A line feed ends a line, together with a carriage return right before it; what follows the last
line feed is a line only if there is something.
-/

namespace Chip8.Lines

/-- Pieces between line feeds; there is one more than there are line feeds. -/
def pieces : List Char → List (List Char)
  | [] => [[]]
  | c :: rest =>
    if c = '\n' then [] :: pieces rest
    else
      match pieces rest with
      | first :: later => (c :: first) :: later
      | [] => [[c]]

/-- A piece without a carriage return at its end. -/
def withoutReturn (piece : List Char) : List Char :=
  if piece.getLast? = some '\r' then piece.dropLast else piece

def ofText (text : List Char) : List (List Char) :=
  let all := pieces text
  let last := all.getLastD []
  all.dropLast.map withoutReturn ++ if last.isEmpty then [] else [last]

/-- The pieces of a string between line feeds. -/
def split (text : String) : List String :=
  (pieces text.toList).map String.ofList

end Chip8.Lines
