import Chip8.Pattern.Cursor
import Chip8.Text.Lines
import Chip8.Text.Numeral

/-!
# Complaints about a pattern

Why a pattern means nothing, and where: a complaint is shown as the pattern with marks under the parts that it is
about, and a sentence below.
-/

namespace Chip8.Pattern

/-- What can be wrong with a pattern. -/
inductive Cause
  | groupUnclosed
  | groupUnopened
  | lookAround
  | nameEmpty
  | nameCharacter
  | nameUnfinished
  /-- The name was given to a group before. -/
  | nameTwice (earlier : Span)
  | flagUnknown
  | flagUnfinished
  | flagDangling
  /-- The flag was given before. -/
  | flagTwice (earlier : Span)
  /-- The flags were negated before. -/
  | negationTwice (earlier : Span)
  | nothingToRepeat
  | countUnclosed
  | countEmpty
  | countOrder
  | numberTooLarge
  | escapeUnfinished
  | escapeUnknown
  | backreference
  | hexEmpty
  | hexDigit
  | hexInvalid
  | propertySyntax
  | boundaryUnclosed
  | boundaryUnknown
  | boundaryOrCountUnfinished
  | classUnclosed
  | classEscape
  | classRangeEnd
  | classRangeOrder
  | tooDeep (limit : Nat)
  /-- Without Unicode only ASCII can be in a class. -/
  | beyondAscii
  /-- A part of a character could match. -/
  | notText
  | propertyUnknown
  | propertyValueUnknown
  | shorthandUnknown
  | caseUnknown
deriving DecidableEq, Repr

namespace Cause

/-- The sentence that names a cause. -/
def message : Cause → String
  | groupUnclosed => "unclosed group"
  | groupUnopened => "unopened group"
  | lookAround => "look-around, including look-ahead and look-behind, is not supported"
  | nameEmpty => "empty capture group name"
  | nameCharacter => "invalid capture group character"
  | nameUnfinished => "unclosed capture group name"
  | nameTwice _ => "duplicate capture group name"
  | flagUnknown => "unrecognized flag"
  | flagUnfinished => "expected flag but got end of regex"
  | flagDangling => "dangling flag negation operator"
  | flagTwice _ => "duplicate flag"
  | negationTwice _ => "flag negation operator repeated"
  | nothingToRepeat => "repetition operator missing expression"
  | countUnclosed => "unclosed counted repetition"
  | countEmpty => "repetition quantifier expects a valid decimal"
  | countOrder => "invalid repetition count range, the start must be <= the end"
  | numberTooLarge => "decimal literal invalid"
  | escapeUnfinished => "incomplete escape sequence, reached end of pattern prematurely"
  | escapeUnknown => "unrecognized escape sequence"
  | backreference => "backreferences are not supported"
  | hexEmpty => "hexadecimal literal empty"
  | hexDigit => "invalid hexadecimal digit"
  | hexInvalid => "hexadecimal literal is not a Unicode scalar value"
  | propertySyntax => "invalid Unicode character class"
  | boundaryUnclosed =>
    "special word boundary assertion is either unclosed or contains an invalid character"
  | boundaryUnknown =>
    "unrecognized special word boundary assertion, valid choices are: start, end, start-half or end-half"
  | boundaryOrCountUnfinished =>
    "found either the beginning of a special word boundary or a bounded repetition on a \\b with an opening " ++
      "brace, but no closing brace"
  | classUnclosed => "unclosed character class"
  | classEscape => "invalid escape sequence found in character class"
  | classRangeEnd => "invalid range boundary, must be a literal"
  | classRangeOrder => "invalid character class range, the start must be <= the end"
  | tooDeep limit =>
    "exceed the maximum number of nested parentheses/brackets (" ++ Numeral.decimal limit ++ ")"
  | beyondAscii => "Unicode not allowed here"
  | notText => "pattern can match invalid UTF-8"
  | propertyUnknown => "Unicode property not found"
  | propertyValueUnknown => "Unicode property value not found"
  | shorthandUnknown =>
    "Unicode-aware Perl class not found (make sure the unicode-perl feature is enabled)"
  | caseUnknown =>
    "Unicode-aware case insensitivity matching is not available (make sure the unicode-case feature is enabled)"

/-- The other part of the pattern that a cause is about. -/
def earlier? : Cause → Option Span
  | nameTwice earlier | flagTwice earlier | negationTwice earlier => some earlier
  | _ => none

end Cause

/-- A cause, and the part of the pattern that shows it. -/
structure Complaint where
  cause : Cause
  span : Span
deriving DecidableEq, Repr

namespace Complaint

/-- The parts that a complaint is about. -/
def spans (c : Complaint) : List Span :=
  c.cause.earlier?.toList ++ [c.span]

/-- Marks under parts of one line, which are in ascending order; `column` columns are filled already. -/
def marksFrom (column : Nat) : List Span → List Char
  | [] => []
  | s :: rest =>
    let before := s.start.column - 1 - column
    let width := max 1 (s.stop.column - s.start.column)
    List.replicate before ' ' ++ List.replicate width '^' ++ marksFrom (column + before + width) rest

/-- The parts that lie on one line, in ascending order. -/
def onLine (line : Nat) (spans : List Span) : List Span :=
  (spans.filter fun s => s.isOneLine && s.start.line = line).mergeSort fun a b =>
    a.start.column < b.start.column || (a.start.column = b.start.column && a.stop.column ≤ b.stop.column)

/-- Lines from number `number` on, each after its label and with the marks that belong under it. -/
def notated (label : Nat → List Char) (spans : List Span) (number : Nat) : List (List Char) → List (List Char)
  | [] => []
  | line :: rest =>
    let marks := onLine number spans
    let under := List.replicate (label number).length ' ' ++ marksFrom 0 marks
    (label number ++ line) :: ((if marks.isEmpty then [] else [under]) ++ notated label spans (number + 1) rest)

/-- Where a part begins and ends that lies on more than one line. -/
def extent (s : Span) : String :=
  "on line " ++ Numeral.decimal s.start.line ++ " (column " ++ Numeral.decimal s.start.column ++
    ") through line " ++ Numeral.decimal s.stop.line ++ " (column " ++ Numeral.decimal (s.stop.column - 1) ++ ")"

/-- A number filled with blanks on the left. -/
def rightAligned (width number : Nat) : List Char :=
  let digits := (Numeral.decimal number).toList
  List.replicate (width - digits.length) ' ' ++ digits

/-- The complaint about a pattern of one line. -/
def simpleText (pattern : List Char) (c : Complaint) : List String :=
  (notated (fun _ => "    ".toList) c.spans 1 (Lines.ofText pattern)).map String.ofList

/-- The complaint about a pattern of more lines, which are numbered. -/
def numberedText (pattern : List Char) (c : Complaint) : List String :=
  let lines := Lines.ofText pattern
  let count := lines.length + if pattern.getLast? = some '\n' then 1 else 0
  let label (number : Nat) : List Char :=
    if count ≤ 1 then "    ".toList else rightAligned (Numeral.decimal count).length number ++ [':', ' ']
  let rule := String.ofList (List.replicate 79 '~')
  rule :: (notated label c.spans 1 lines).map String.ofList ++ rule :: (c.spans.filter (!·.isOneLine)).map extent

def text (pattern : String) (c : Complaint) : String :=
  let characters := pattern.toList
  let body := if characters.contains '\n' then numberedText characters c else simpleText characters c
  "\n".intercalate ("regex parse error:" :: body ++ ["error: " ++ c.cause.message])

end Complaint

end Chip8.Pattern
