import Chip8.Text.Blank

/-!
# Places in a pattern

Lines and columns are counted from 1. A cursor holds what is still to be read and where it begins. In a spaced
pattern blanks do not count, and neither does what follows a `#` up to the end of its line.
-/

namespace Chip8.Pattern

/-- A place between two characters. -/
structure Position where
  line : Nat
  column : Nat
deriving DecidableEq, Repr

namespace Position

/-- The beginning of a text. -/
def first : Position where
  line := 1
  column := 1

/-- The place after a character. -/
def past (p : Position) (c : Char) : Position :=
  if c = '\n' then ⟨p.line + 1, 1⟩ else ⟨p.line, p.column + 1⟩

end Position

/-- A part of a text. -/
structure Span where
  start : Position
  stop : Position
deriving DecidableEq, Repr

namespace Span

/-- Whether a part begins and ends on one line. -/
def isOneLine (s : Span) : Bool :=
  s.start.line = s.stop.line

end Span

/-- What is still to be read, and where. -/
structure Cursor where
  rest : List Char
  position : Position
  /-- Blanks and comments do not count. -/
  spaced : Bool
deriving DecidableEq, Repr

namespace Cursor

/-- The beginning of a pattern. -/
def ofText (text : String) : Cursor where
  rest := text.toList
  position := .first
  spaced := false

def here (c : Cursor) : Span :=
  ⟨c.position, c.position⟩

/-- From a place up to here. -/
def since (c : Cursor) (start : Position) : Span :=
  ⟨start, c.position⟩

/-- The part that the next character takes. -/
def next (c : Cursor) : Span :=
  match c.rest with
  | [] => c.here
  | ch :: _ => ⟨c.position, c.position.past ch⟩

/-- Whether everything was read. -/
def atEnd (c : Cursor) : Bool :=
  c.rest.isEmpty

/-- Past one character. -/
def step (c : Cursor) : Cursor :=
  match c.rest with
  | [] => c
  | ch :: rest => { c with rest, position := c.position.past ch }

/-- Past a number of characters. -/
def steps (c : Cursor) : Nat → Cursor
  | 0 => c
  | n + 1 => c.step.steps n

/-- Past blanks and comments; `inComment` tells whether the text begins within a comment. -/
def skip (inComment : Bool) (position : Position) : List Char → List Char × Position
  | [] => ([], position)
  | c :: rest =>
    if inComment then skip (c ≠ '\n') (position.past c) rest
    else if Blank.isBlank c then skip false (position.past c) rest
    else if c = '#' then skip true (position.past c) rest
    else (c :: rest, position)

/-- Past blanks and comments, if they do not count. -/
def settle (c : Cursor) : Cursor :=
  if c.spaced then
    let (rest, position) := skip false c.position c.rest
    { c with rest, position }
  else c

/-- Past one character, and past what does not count after it. -/
def advance (c : Cursor) : Cursor :=
  c.step.settle

theorem length_skip_le (inComment : Bool) (position : Position) (text : List Char) :
    (skip inComment position text).1.length ≤ text.length := by
  fun_induction skip inComment position text <;> simp_all <;> omega

theorem length_rest_step_lt {c : Cursor} (h : c.rest ≠ []) : c.step.rest.length < c.rest.length := by
  unfold Cursor.step
  split <;> simp_all

theorem length_rest_advance_lt {c : Cursor} (h : c.rest ≠ []) : c.advance.rest.length < c.rest.length := by
  unfold advance settle
  split
  · exact Nat.lt_of_le_of_lt (length_skip_le false c.step.position c.step.rest) (length_rest_step_lt h)
  · exact length_rest_step_lt h

/-- Past blanks that do count. -/
def skipBlanks (position : Position) : List Char → List Char × Position
  | [] => ([], position)
  | c :: rest => if Blank.isBlank c then skipBlanks (position.past c) rest else (c :: rest, position)

def pastBlanks (c : Cursor) : Cursor :=
  let (rest, position) := skipBlanks c.position c.rest
  { c with rest, position }

/-- Past a text, if it is what comes next. -/
def accept? (c : Cursor) (text : List Char) : Option Cursor :=
  if text.isPrefixOf c.rest then some (c.steps text.length) else none

/-- The characters that satisfy `keep`, and where they end. -/
def collect (keep : Char → Bool) (c : Cursor) : List Char × Cursor :=
  match _h : c.rest with
  | [] => ([], c)
  | ch :: _ =>
    if keep ch then
      let (later, stop) := collect keep c.advance
      (ch :: later, stop)
    else ([], c)
termination_by c.rest.length
decreasing_by exact length_rest_advance_lt (by simp [_h])

/-- The first of some characters that is neither blank nor the beginning of a comment. Without such a character
the answer is none. -/
def firstSolid? : List Char → Option (List Char)
  | [] => none
  | c :: rest => if Blank.isBlank c then firstSolid? rest else some (c :: rest)

/-- The character after the next one. In a spaced pattern blanks between them are passed over, and so is one `#`;
where nothing but blanks follows, the first of them is the answer. -/
def second? (c : Cursor) : Option Char :=
  let after := c.rest.tail
  if c.spaced then
    match firstSolid? after with
    | none => after.head?
    | some ('#' :: comment) => (firstSolid? comment).elim after.head? List.head?
    | some solid => solid.head?
  else after.head?

end Cursor

end Chip8.Pattern
