import Chip8.Pattern.Matcher

/-!
# Searching

The search for a pattern in a text. A matcher takes a set of places to the set of places where a match that begins at
one of them can end. Sets of places are numbers whose bits say which places they hold.
-/

namespace Chip8.Pattern

/-- Where matches end in a text, for each set of places where they begin. -/
structure Route where
  ends : Nat → Nat
  /-- Something is repeated on the way, so that it takes long to find its ends. -/
  isLong : Bool

namespace Route

/-- The set of the numbers below `count` that satisfy `p`. -/
def places (p : Nat → Bool) : Nat → Nat
  | 0 => 0
  | n + 1 => places p n ||| if p n then 1 <<< n else 0

/-- Takes a step `count` times, or until it changes nothing. -/
def iterate (f : Nat → Nat) : Nat → Nat → Nat
  | 0, s => s
  | n + 1, s => if f s = s then s else iterate f n (f s)

/-- The places reached by up to `count` steps. -/
def spread (f : Nat → Nat) : Nat → Nat → Nat
  | 0, s => s
  | n + 1, s => if s ||| f s = s then s else spread f n (s ||| f s)

/-- Matches without width at the places that satisfy `keep`. -/
def standing (keep : Nat → Bool) (text : Array Char) : Route where
  ends starts := starts &&& places keep (text.size + 1)
  isLong := false

/-- The places after a character that satisfies `p`. -/
def past (text : Array Char) (p : Char → Bool) (starts : Nat) : Nat :=
  (starts &&& places (fun i => text[i]?.any p) text.size) <<< 1

/-- One character that satisfies `p`. -/
def character (p : Char → Bool) (text : Array Char) : Route where
  ends := past text p
  isLong := false

/-- One character after the other. -/
def literal (letters : List Char) (text : Array Char) : Route where
  ends starts := letters.foldl (fun starts c => if starts = 0 then 0 else past text (· = c) starts) starts
  isLong := false

/-- One route after the other. -/
def sequence (routes : List Route) : Route where
  ends starts := routes.foldl (fun starts r => if starts = 0 then 0 else r.ends starts) starts
  isLong := routes.any isLong

def choice (routes : List Route) : Route where
  ends starts := routes.foldl (fun found r => found ||| r.ends starts) 0
  isLong := routes.any isLong

/-- A long route as a table of where matches end that begin at each single place. -/
def tabulated (r : Route) (text : Array Char) : Route :=
  if r.isLong then
    let table := (List.range (text.size + 1)).map fun i => (i, Thunk.mk fun _ => r.ends (1 <<< i))
    { r with
      ends := fun starts =>
        table.foldl (fun found (i, ends) => if starts.testBit i then found ||| ends.get else found) 0 }
  else r

/-- The same route again and again. -/
def repeated (least : Nat) (most : Option Nat) (body : Route) (text : Array Char) : Route :=
  let step := body.tabulated text
  { ends := fun starts =>
      spread step.ends (most.elim (text.size + 1) (· - least)) (iterate step.ends least starts)
    isLong := true }

end Route

def before? (text : Array Char) (place : Nat) : Option Char :=
  if place = 0 then none else text[place - 1]?

namespace Matcher

mutual

/-- Where matches end. -/
def route (text : Array Char) : Matcher → Route
  | empty => .sequence []
  | literal letters => .literal letters text
  | character _ ranges => .character (CodeRange.holds ranges) text
  | condition c => .standing (fun i => c.holds (before? text i) text[i]?) text
  | repeated least most _ body => .repeated least most (body.route text) text
  | captured body => body.route text
  | sequence parts => .sequence (routes text parts)
  | choice branches => .choice (routes text branches)

/-- Where matches of each of some matchers end. -/
def routes (text : Array Char) : List Matcher → List Route
  | [] => []
  | m :: rest => m.route text :: routes text rest

end

def occursIn (m : Matcher) (text : String) : Bool :=
  let characters := text.toList.toArray
  (m.route characters).ends (Route.places (fun _ => true) (characters.size + 1)) ≠ 0

end Matcher

end Chip8.Pattern
