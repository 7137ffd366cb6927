import Chip8.Pattern.Expression
import Chip8.Text.Integer

/-!
# Escapes

What a backslash makes of the characters after it: a character that otherwise has a meaning, a character by its
number, a class, or a condition on a place.
-/

namespace Chip8.Pattern

/-- A part of a pattern that is not built from others. -/
inductive Atom
  | literal (l : Literal)
  | dot (span : Span)
  | anchor (span : Span) (anchor : Anchor)
  | property (c : PropertyClass)
  | shorthand (c : ShorthandClass)
deriving DecidableEq, Repr

namespace Atom

/-- Where an atom stands. -/
def span : Atom → Span
  | literal l => l.span
  | dot span | anchor span _ => span
  | property c => c.span
  | shorthand c => c.span

def toExpression : Atom → Expression
  | literal l => .literal l
  | dot span => .dot span
  | anchor span kind => .anchor span kind
  | property c => .property c
  | shorthand c => .shorthand c

def toClassSet : Atom → Except Complaint ClassSet
  | literal l => .ok (.literal l)
  | property c => .ok (.property c)
  | shorthand c => .ok (.shorthand c)
  | other => .error ⟨.classEscape, other.span⟩

def toRangeEnd : Atom → Except Complaint Literal
  | literal l => .ok l
  | other => .error ⟨.classRangeEnd, other.span⟩

end Atom

namespace Escape

/-- Whether a character has a meaning of its own, so that only a backslash makes it stand for itself. -/
def isSpecial (c : Char) : Bool :=
  ['\\', '.', '+', '*', '?', '(', ')', '|', '[', ']', '\x7b', '\x7d', '^', '$', '#', '&', '-', '~'].contains c

/-- Whether a backslash may stand before a character that needs none. -/
def isPlain (c : Char) : Bool :=
  c.toNat < 0x80 && !c.isAlphanum && c ≠ '<' && c ≠ '>'

/-- The value of a hexadecimal digit. -/
def hexValue? (c : Char) : Option Nat :=
  if '0' ≤ c ∧ c ≤ '9' then some (c.toNat - '0'.toNat)
  else if 'a' ≤ c ∧ c ≤ 'f' then some (c.toNat - 'a'.toNat + 10)
  else if 'A' ≤ c ∧ c ≤ 'F' then some (c.toNat - 'A'.toNat + 10)
  else none

/-- Whether a character is a hexadecimal digit. -/
def isHex (c : Char) : Bool :=
  (hexValue? c).isSome

/-- The character that hexadecimal digits number. -/
def hexChar? (digits : List Char) : Option Char :=
  let n := digits.foldl (fun n c => n * 16 + (hexValue? c).getD 0) 0
  if h : n.isValidChar then some (Char.ofNatAux n h) else none

/-- Exactly `count` hexadecimal digits. -/
def hexDigits : Nat → Cursor → Except Complaint (List Char × Cursor)
  | 0, c => .ok ([], c)
  | count + 1, c =>
    match c.rest with
    | [] => .error ⟨.escapeUnfinished, c.here⟩
    | digit :: _ =>
      if isHex digit then do
        let (later, stop) ← hexDigits count c.advance
        return (digit :: later, stop)
      else .error ⟨.hexDigit, c.next⟩

/-- A character by `count` digits. -/
def fixedHex (start : Position) (count : Nat) (c : Cursor) : Except Complaint (Literal × Cursor) := do
  let (digits, stop) ← hexDigits count c
  match hexChar? digits with
  | some char => return (⟨stop.since start, char, count = 2⟩, stop)
  | none => .error ⟨.hexInvalid, stop.since c.position⟩

/-- A character by digits between braces; the cursor stands at the opening one. -/
def bracedHex (start : Position) (c : Cursor) : Except Complaint (Literal × Cursor) :=
  let (digits, stop) := c.advance.collect isHex
  match stop.rest with
  | [] => .error ⟨.escapeUnfinished, stop.since c.position⟩
  | '\x7d' :: _ =>
    let after := stop.advance
    if digits.isEmpty then .error ⟨.hexEmpty, after.since c.position⟩
    else
      match hexChar? digits with
      | some char => .ok (⟨after.since start, char, false⟩, after)
      | none => .error ⟨.hexInvalid, stop.since c.next.stop⟩
  | _ => .error ⟨.hexDigit, stop.next⟩

/-- A character by its number; the cursor stands at the letter that tells how many digits follow. -/
def hex (start : Position) (count : Nat) (c : Cursor) : Except Complaint (Literal × Cursor) :=
  let c := c.advance
  match c.rest with
  | [] => .error ⟨.escapeUnfinished, c.here⟩
  | '\x7b' :: _ => bracedHex start c
  | _ => fixedHex start count c

/-- A character property; the cursor stands at the letter before its name. -/
def property (start : Position) (negated : Bool) (c : Cursor) : Except Complaint (PropertyClass × Cursor) :=
  let c := c.advance
  match c.rest with
  | [] => .error ⟨.escapeUnfinished, c.here⟩
  | '\x7b' :: _ =>
    let (name, stop) := c.advance.collect (· ≠ '\x7d')
    if stop.atEnd then .error ⟨.escapeUnfinished, stop.here⟩
    else .ok (⟨stop.step.since start, name, negated⟩, stop.step)
  | '\\' :: _ => .error ⟨.propertySyntax, c.next⟩
  | name :: _ => .ok (⟨c.advance.since start, [name], negated⟩, c.advance)

/-- Whether a character can be in the name of a word boundary. -/
def isBoundaryLetter (c : Char) : Bool :=
  c.isAlpha || c = '-'

def boundary? (name : List Char) : Option Anchor :=
  [("start", Anchor.wordStart), ("end", .wordEnd), ("start-half", .wordStartHalf), ("end-half", .wordEndHalf)].lookup
    (String.ofList name)

/-- A word boundary whose name may follow between braces. If what follows the brace cannot be a name, the brace is
left to be read as a count. -/
def boundary (start : Position) (c : Cursor) : Except Complaint (Atom × Cursor) :=
  let plain : Except Complaint (Atom × Cursor) := .ok (.anchor (c.since start) .wordBoundary, c)
  match c.rest with
  | '\x7b' :: _ =>
    let inside := c.advance
    match inside.rest with
    | [] => .error ⟨.boundaryOrCountUnfinished, inside.since start⟩
    | first :: _ =>
      if isBoundaryLetter first then
        let (name, stop) := inside.collect isBoundaryLetter
        match stop.rest, boundary? name with
        | '\x7d' :: _, some kind => .ok (.anchor (stop.step.since start) kind, stop.step)
        | '\x7d' :: _, none => .error ⟨.boundaryUnknown, stop.since inside.position⟩
        | _, _ => .error ⟨.boundaryUnclosed, stop.since c.position⟩
      else plain
  | _ => plain

/-- The control character that a letter stands for. -/
def control? : Char → Option Char
  | 'a' => some '\x07'
  | 'f' => some '\x0c'
  | 't' => some '\t'
  | 'n' => some '\n'
  | 'r' => some '\r'
  | 'v' => some '\x0b'
  | _ => none

/-- The condition that a letter or an angle stands for. -/
def anchor? : Char → Option Anchor
  | 'A' => some .textStart
  | 'z' => some .textEnd
  | 'B' => some .noWordBoundary
  | '<' => some .wordStart
  | '>' => some .wordEnd
  | _ => none

/-- The class that a letter stands for, in lower case. -/
def shorthand? : Char → Option Shorthand
  | 'd' => some .digit
  | 's' => some .space
  | 'w' => some .word
  | _ => none

/-- An escape of one character, which stands before the cursor. -/
def single (start : Position) (char : Char) (c : Cursor) : Except Complaint (Atom × Cursor) :=
  let span := c.since start
  if isSpecial char || isPlain char then .ok (.literal ⟨span, char, false⟩, c)
  else
    match control? char, anchor? char with
    | some control, _ => .ok (.literal ⟨span, control, false⟩, c)
    | none, some kind => .ok (.anchor span kind, c)
    | none, none => if char = 'b' then boundary start c else .error ⟨.escapeUnknown, span⟩

/-- An escape; the cursor stands at the backslash. -/
def read (c : Cursor) : Except Complaint (Atom × Cursor) :=
  let start := c.position
  let c := c.step
  match c.rest with
  | [] => .error ⟨.escapeUnfinished, c.since start⟩
  | char :: _ =>
    if char.isDigit then .error ⟨.backreference, ⟨start, c.next.stop⟩⟩
    else
      match char, shorthand? char.toLower with
      | 'x', _ => (hex start 2 c).map fun (l, c) => (.literal l, c)
      | 'u', _ => (hex start 4 c).map fun (l, c) => (.literal l, c)
      | 'U', _ => (hex start 8 c).map fun (l, c) => (.literal l, c)
      | 'p', _ => (property start false c).map fun (p, c) => (.property p, c)
      | 'P', _ => (property start true c).map fun (p, c) => (.property p, c)
      | _, some kind => .ok (.shorthand ⟨c.step.since start, kind, char.isUpper⟩, c.step)
      | _, none => single start char c.step

end Escape

end Chip8.Pattern
