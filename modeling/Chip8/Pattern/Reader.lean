import Chip8.Pattern.Bracket
import Chip8.Text.Alphabetic
import Chip8.Text.Numeric

/-!
# Reading a pattern

A pattern is read from left to right. What was begun and is not finished waits on a stack, innermost first: groups,
and alternations whose last branch is being read.
-/

namespace Chip8.Pattern

/-- A sequence that is being read, newest part first. -/
structure OpenSequence where
  start : Position
  parts : List Expression

namespace OpenSequence

def none (c : Cursor) : OpenSequence where
  start := c.position
  parts := []

def add (s : OpenSequence) (part : Expression) : OpenSequence :=
  { s with parts := part :: s.parts }

def close (s : OpenSequence) (stop : Position) : Expression :=
  match s.parts with
  | [] => .empty ⟨s.start, stop⟩
  | [part] => part
  | parts => .sequence ⟨s.start, stop⟩ parts.reverse

end OpenSequence

/-- What was begun and is not finished. -/
inductive Frame
  /-- A group within a sequence; `spaced` is what holds after it. -/
  | group (outer : OpenSequence) (span : Span) (kind : GroupKind) (spaced : Bool)
  /-- The branches before the one that is being read, newest first. -/
  | alternation (start : Position) (branches : List Expression)

/-- What was read so far. -/
structure Reader where
  cursor : Cursor
  frames : List Frame
  current : OpenSequence
  /-- The names of groups, and where they were given. -/
  names : List (List Char × Span)

namespace Reader

/-- Nothing was read. -/
def ofText (text : String) : Reader where
  cursor := .ofText text
  frames := []
  current := .none (.ofText text)
  names := []

/-- Whether a name can begin with a character. -/
def isNameStart (c : Char) : Bool :=
  c = '_' || Alphabetic.contains c

/-- Whether a name can go on with a character. -/
def isNamePart (c : Char) : Bool :=
  isNameStart c || Numeric.contains c || ['.', '[', ']'].contains c

/-- A name up to `>`; its first character is held to `isNameStart`. -/
def nameFrom (isFirst : Bool) (c : Cursor) : Except Complaint (List Char × Cursor) :=
  match _h : c.rest with
  | [] => .error ⟨.nameUnfinished, c.here⟩
  | '>' :: _ => .ok ([], c)
  | letter :: _ =>
    if (if isFirst then isNameStart letter else isNamePart letter) then do
      let (later, stop) ← nameFrom false c.step
      return (letter :: later, stop)
    else .error ⟨.nameCharacter, c.next⟩
termination_by c.rest.length
decreasing_by exact Cursor.length_rest_step_lt (by simp [_h])

/-- The name of a group and where it stands; the cursor goes past the `>` after it. -/
def groupName (names : List (List Char × Span)) (c : Cursor) : Except Complaint ((List Char × Span) × Cursor) := do
  let (name, stop) ← nameFrom true c
  let span := stop.since c.position
  if name.isEmpty then .error ⟨.nameEmpty, c.here⟩
  match names.lookup name with
  | some earlier => .error ⟨.nameTwice earlier, span⟩
  | none => return ((name, span), stop.step)

def flag? : Char → Option Flag
  | 'i' => some .ignoreCase
  | 'm' => some .multiLine
  | 's' => some .dotMatchesLineFeed
  | 'U' => some .swapGreed
  | 'u' => some .unicode
  | 'R' => some .carriageReturns
  | 'x' => some .spaced
  | _ => none

/-- Flags in the order in which they were given, and the sign that switches the flags after it off. -/
structure GivenFlags where
  changes : List (Flag × Bool × Span) := []
  negation : Option Span := none
  /-- The last character was the negation. -/
  dangling : Bool := false

namespace GivenFlags

/-- One character more. -/
def add (g : GivenFlags) (char : Char) (span : Span) : Except Complaint GivenFlags :=
  if char = '-' then
    match g.negation with
    | some earlier => .error ⟨.negationTwice earlier, span⟩
    | none => .ok { g with negation := some span, dangling := true }
  else
    match flag? char with
    | none => .error ⟨.flagUnknown, span⟩
    | some flag =>
      match g.changes.lookup flag with
      | some (_, earlier) => .error ⟨.flagTwice earlier, span⟩
      | none => .ok { g with changes := g.changes ++ [(flag, g.negation.isNone, span)], dangling := false }

/-- The flags without their places. -/
def toChanges (g : GivenFlags) : FlagChanges :=
  g.changes.map fun (flag, on, _) => (flag, on)

end GivenFlags

/-- Flags up to `:` or `)`. -/
def flagsFrom (given : GivenFlags) (c : Cursor) : Except Complaint (GivenFlags × Cursor) :=
  match _h : c.rest with
  | [] => .error ⟨.flagUnfinished, c.here⟩
  | ':' :: _ | ')' :: _ =>
    match given.dangling, given.negation with
    | true, some span => .error ⟨.flagDangling, span⟩
    | _, _ => .ok (given, c)
  | char :: _ => do
    let given ← given.add char c.next
    flagsFrom given c.step
termination_by c.rest.length
decreasing_by exact Cursor.length_rest_step_lt (by simp [_h])

/-- What a flag is switched to, if it is among some changes. -/
def change? (changes : FlagChanges) (flag : Flag) : Option Bool :=
  changes.lookup flag

def openGroup (r : Reader) (span : Span) (kind : GroupKind) (spaced : Bool) (c : Cursor) : Reader :=
  let c := { c with spaced }
  { r with
    cursor := c
    frames := .group r.current span kind r.cursor.spaced :: r.frames
    current := .none c }

/-- The looks around a place that are not supported. -/
def lookAround? (c : Cursor) : Option Cursor :=
  [['?', '='], ['?', '!'], ['?', '<', '='], ['?', '<', '!']].findSome? c.accept?

/-- What follows `(?` without a name: flags for what comes next, or a group with flags. -/
def flagGroup (r : Reader) (opening : Span) (question flags : Cursor) : Except Complaint Reader := do
  if flags.atEnd then .error ⟨.groupUnclosed, opening⟩
  let (given, stop) ← flagsFrom {} flags
  let changes := given.toChanges
  let spaced := (change? changes .spaced).getD r.cursor.spaced
  let after := stop.step
  if stop.rest.head? = some ')' then
    if changes.isEmpty then .error ⟨.nothingToRepeat, question.here⟩
    let part := Expression.flags ⟨opening.start, after.position⟩ changes
    return { r with cursor := { after with spaced }, current := r.current.add part }
  return r.openGroup opening (.flagged changes) spaced after

/-- What an opening parenthesis begins. -/
def group (r : Reader) : Except Complaint Reader := do
  let opening := r.cursor.next
  let inside := r.cursor.advance
  match lookAround? inside with
  | some after => .error ⟨.lookAround, ⟨opening.start, after.position⟩⟩
  | none =>
    match (inside.accept? ['?', 'P', '<']).or (inside.accept? ['?', '<']), inside.accept? ['?'] with
    | some c, _ =>
      let (name, c) ← groupName r.names c
      return { r with names := name :: r.names }.openGroup opening .capture r.cursor.spaced c
    | none, some c => r.flagGroup opening inside c
    | none, none => return r.openGroup opening .capture r.cursor.spaced inside

/-- The branches of an alternation as an expression. -/
def alternation (start stop : Position) (branches : List Expression) : Expression :=
  .alternation ⟨start, stop⟩ branches.reverse

/-- Ends the innermost group, whose body is `body`. -/
def leave (r : Reader) (outer : OpenSequence) (span : Span) (kind : GroupKind) (spaced : Bool)
    (rest : List Frame) (body : Expression) : Reader :=
  let c := { r.cursor.step with spaced }
  { r with
    cursor := c
    frames := rest
    current := outer.add (.group ⟨span.start, c.position⟩ kind body) }

/-- What a closing parenthesis ends. -/
def closeGroup (r : Reader) : Except Complaint Reader :=
  let stop := r.cursor.position
  let last := r.current.close stop
  match r.frames with
  | .group outer span kind spaced :: rest => .ok (r.leave outer span kind spaced rest last)
  | .alternation start branches :: .group outer span kind spaced :: rest =>
    .ok (r.leave outer span kind spaced rest (alternation start stop (last :: branches)))
  | _ => .error ⟨.groupUnopened, r.cursor.next⟩

/-- Ends a branch of an alternation. -/
def branch (r : Reader) : Reader :=
  let last := r.current.close r.cursor.position
  let frames := match r.frames with
    | .alternation start branches :: rest => .alternation start (last :: branches) :: rest
    | frames => .alternation r.current.start [last] :: frames
  { r with cursor := r.cursor.step, frames, current := .none r.cursor.step }

/-- The expression before a repetition, and the sequence without it. -/
def repeatable (r : Reader) : Except Complaint (Expression × OpenSequence) :=
  match r.current.parts with
  | [] | .empty _ :: _ | .flags .. :: _ => .error ⟨.nothingToRepeat, r.cursor.here⟩
  | part :: parts => .ok (part, { r.current with parts })

/-- A question mark after a repetition makes it as short as possible. -/
def isLazy (c : Cursor) : Bool :=
  c.rest.head? = some '?'

/-- Repeats the last part of a sequence; the cursor stands after the signs of the repetition. -/
def repetition (r : Reader) (part : Expression) (outer : OpenSequence) (least : Nat) (most : Option Nat)
    (c : Cursor) : Reader :=
  let cursor := if isLazy c then c.step else c
  { r with
    cursor
    current := outer.add (.repetition ⟨part.span.start, cursor.position⟩ least most (!isLazy c) part) }

/-- A repetition that one character stands for. -/
def simpleRepetition (r : Reader) (least : Nat) (most : Option Nat) : Except Complaint Reader := do
  let (part, outer) ← r.repeatable
  return r.repetition part outer least most r.cursor.step

/-- A decimal number, or why there is none, and what comes after it in either case. -/
def number (c : Cursor) : Except Complaint Nat × Cursor :=
  let begin := c.pastBlanks
  let (digits, stop) := begin.collect Char.isDigit
  let span := stop.since begin.position
  let result : Except Complaint Nat :=
    match Integer.ofDigits? digits with
    | none => .error ⟨.countEmpty, span⟩
    | some n => if n ≤ 4294967295 then .ok n else .error ⟨.numberTooLarge, span⟩
  (result, (stop.collect Blank.isBlank).2)

/-- The bounds of a counted repetition; the cursor stands after its opening brace, and ends at the closing one if
there is one. -/
def bounds (unclosed : Cursor → Complaint) (c : Cursor) : Except Complaint ((Nat × Option Nat) × Cursor) := do
  let (least, stop) := number c
  if stop.atEnd then .error (unclosed stop)
  if stop.rest.head? = some ',' then
    let after := stop.advance
    if after.atEnd then .error (unclosed after)
    if after.rest.head? = some '\x7d' then return ((← least, none), after)
    let least ← least
    let (most, stop) := number after
    return ((least, some (← most)), stop)
  let least ← least
  return ((least, some least), stop)

def countedRepetition (r : Reader) : Except Complaint Reader := do
  let start := r.cursor.position
  let (part, outer) ← r.repeatable
  let unclosed (c : Cursor) : Complaint := ⟨.countUnclosed, c.since start⟩
  let inside := r.cursor.advance
  if inside.atEnd then .error (unclosed inside)
  let ((least, most), stop) ← bounds unclosed inside
  if stop.rest.head? ≠ some '\x7d' then .error (unclosed stop)
  let repeated := r.repetition part outer least most stop.advance
  if most.any (· < least) then .error ⟨.countOrder, repeated.cursor.since start⟩
  return repeated

def atom (c : Cursor) : Except Complaint (Atom × Cursor) :=
  match c.rest with
  | [] => .error ⟨.escapeUnfinished, c.here⟩
  | '\\' :: _ => Escape.read c
  | '.' :: _ => .ok (.dot c.next, c.step)
  | '^' :: _ => .ok (.anchor c.next .lineStart, c.step)
  | '$' :: _ => .ok (.anchor c.next .lineEnd, c.step)
  | char :: _ => .ok (.literal ⟨c.next, char, false⟩, c.step)

def add (r : Reader) (part : Expression) (cursor : Cursor) : Reader :=
  { r with cursor, current := r.current.add part }

/-- Reads what begins with a character that comes next. -/
def step (r : Reader) (char : Char) : Except Complaint Reader :=
  match char with
  | '(' => r.group
  | ')' => r.closeGroup
  | '|' => .ok r.branch
  | '[' => (Bracket.read r.cursor).map fun (part, c) => r.add part c
  | '?' => r.simpleRepetition 0 (some 1)
  | '*' => r.simpleRepetition 0 none
  | '+' => r.simpleRepetition 1 none
  | '\x7b' => r.countedRepetition
  | _ => (atom r.cursor).map fun (part, c) => r.add part.toExpression c

/-- Reads on, for at most `count` steps. -/
def readOn : Nat → Reader → Except Complaint Reader
  | 0, r => .ok r
  | count + 1, r =>
    let r := { r with cursor := r.cursor.settle }
    match r.cursor.rest with
    | [] => .ok r
    | char :: _ => do readOn count (← r.step char)

/-- The expression that was read, if nothing is unfinished. -/
def finish (r : Reader) : Except Complaint Expression :=
  let stop := r.cursor.position
  let last := r.current.close stop
  match r.frames with
  | [] => .ok last
  | [.alternation start branches] => .ok (alternation start stop (last :: branches))
  | .group _ span .. :: _ | .alternation .. :: .group _ span .. :: _ => .error ⟨.groupUnclosed, span⟩
  | .alternation start _ :: _ => .error ⟨.groupUnclosed, ⟨start, start⟩⟩

end Reader

/-- How deep parts of a pattern may lie. -/
def depthLimit : Nat := 250

/-- Reads a pattern. Each step takes a character at least. -/
def Expression.read (text : String) : Except Complaint Expression := do
  let r ← (Reader.ofText text).readOn (text.length + 1)
  let e ← r.finish
  match e.tooDeep? depthLimit with
  | some span => .error ⟨.tooDeep depthLimit, span⟩
  | none => return e

end Chip8.Pattern
