import Chip8.Pattern.Automaton.Characters
import Chip8.Pattern.Automaton.Texts
import Chip8.Pattern.Matcher

/-!
# Automata

How large the automaton of a matcher is that reads bytes, with counted repetitions written out. It reads forwards or
backwards, and remembers the places of groups only forwards.
-/

namespace Chip8.Pattern

inductive Direction
  | forwards
  | backwards
deriving DecidableEq, Repr

/-- The bytes of a text in the order in which they are read; backwards, so is the text. -/
def Direction.bytes (d : Direction) (text : List Char) : List Nat :=
  match d with
  | forwards => Utf8.textBytes text
  | backwards => text.flatMap fun c => (Utf8.bytes c.toNat).reverse

def Extent.addCharacter (d : Direction) (ranges : List CodeRange) (e : Extent) : Extent :=
  if CodeRange.areAscii ranges then e.addRanges ranges
  else
    match d with
    | .forwards => e.addForwards ranges
    | .backwards => e.addBackwards ranges

namespace Matcher

def literal? : Matcher → Option (List Char)
  | literal text => some text
  | _ => none

/-- Adds a repetition of what `once` adds; `visible` tells whether that surely takes a byte. A repetition that takes
more than `limit` bytes is left unfinished. -/
def extendRepeated (limit : Nat) (visible : Bool) (least : Nat) (most : Option Nat) (once : Extent → Extent)
    (e : Extent) : Extent :=
  match least, most with
  | 0, some 1 => (once (e.addFork 2)).addStates 1
  | 0, none => if visible then once (e.addFork 2) else (((once e).addFork 2).addFork 2).addStates 1
  | least, none => (Extent.addTimes limit once least e).addFork 2
  | least, some most =>
    let required := if least = 0 then e.addStates 1 else Extent.addTimes limit once least e
    if least = most then required
    else Extent.addTimes limit (fun e => once (e.addFork 2)) (most - least) (required.addStates 1)

mutual

/-- Adds the automaton of a matcher, which is given in the order in which it is read. -/
def extend (d : Direction) (limit : Nat) : Matcher → Extent → Extent
  | empty, e | condition _, e => e.addStates 1
  | literal text, e => e.addStates (Utf8.textSize text)
  | character _ ranges, e => e.addCharacter d ranges
  | repeated least most _ body, e =>
    extendRepeated limit (body.shortest?.any (0 < ·)) least most (body.extend d limit) e
  | captured body, e =>
    match d with
    | .forwards => (body.extend d limit (e.addStates 1)).addStates 1
    | .backwards => body.extend d limit e
  | sequence parts, e => extendAll d limit parts e
  | choice branches, e =>
    match branches.mapM literal? with
    | some texts => e.addTexts (texts.map d.bytes)
    | none => extendChoice d limit branches e

/-- Adds the automata of some matchers. -/
def extendAll (d : Direction) (limit : Nat) : List Matcher → Extent → Extent
  | [], e => e
  | m :: rest, e => extendAll d limit rest (m.extend d limit e)

/-- Adds the automata of some branches, and after the second one the states where they begin and end. -/
def extendChoice (d : Direction) (limit : Nat) : List Matcher → Extent → Extent
  | a :: b :: rest, e =>
    let both := b.extend d limit (a.extend d limit e)
    extendAll d limit rest ((both.addFork (rest.length + 2)).addStates 1)
  | ms, e => extendAll d limit ms e

end

/-- What comes before a pattern: unless every match begins where the reading does, any number of bytes is passed. -/
def entry (anchored : Bool) : Extent :=
  if anchored then Extent.none.addStates 1 else (Extent.none.addFork 2).addRanges [(0x00, 0xff)]

/-- The automaton of a whole pattern, which is itself a group. -/
def extent (limit : Nat) (m : Matcher) : Direction → Extent
  | .forwards => (m.captured.extend .forwards limit (entry (m.beginsWith .textStart))).addStates 1
  | .backwards =>
    (m.reversed.captured.extend .backwards limit (entry (m.reversed.beginsWith .textEnd))).addStates 1

end Matcher

end Chip8.Pattern
