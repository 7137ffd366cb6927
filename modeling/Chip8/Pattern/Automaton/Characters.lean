import Chip8.Pattern.Automaton.Extent
import Chip8.Pattern.Utf8
import Std.Data.HashMap

/-!
# Automata of characters

An automaton that reads the UTF-8 form of one character of a set. Sequences of bytes that end alike share states: what
was built is remembered in a number of slots, and is built again after another part took its slot.
-/

namespace Chip8.Pattern

/-- What was built for a set, and what of it is remembered: for each slot in use, a key and the state that was built
for it. -/
structure Construction where
  extent : Extent
  known : Std.HashMap UInt64 (List Nat × Nat)

namespace Construction

/-- Nothing was built for the set. -/
def begin (e : Extent) : Construction where
  extent := e
  known := ∅

/-- The slot of a key, by the FNV-1a hash of its numbers. -/
def slot (count : UInt64) (key : List Nat) : UInt64 :=
  key.foldl (fun h n => (h ^^^ n.toUInt64) * 1099511628211) 14695981039346656037 % count

/-- The state for a key. Unless it is remembered it is built, with a number of ways that depend on the next byte. -/
def state (slots : UInt64) (ways : Nat) (key : List Nat) (c : Construction) : Nat × Construction :=
  let slot := slot slots key
  let built : Nat × Construction :=
    (c.extent.states, ⟨c.extent.addSwitch ways, c.known.insert slot (key, c.extent.states)⟩)
  match c.known[slot]? with
  | some (known, state) => if known = key then (state, c) else built
  | none => built

/-- The state from which the rests of some sequences, of at most `length` ranges each, lead to a target. Sequences that
begin with the same range stand together. -/
def forwards (target : Nat) : (length : Nat) → List (List CodeRange) → Construction → Nat × Construction
  | 0, _, c => (target, c)
  | length + 1, sequences, c =>
    let groups := sequences.splitBy fun a b => a.head? = b.head?
    let (key, c) := groups.foldl (fun (key, c) group =>
      match group with
      | (range :: _) :: _ =>
        let (next, c) := forwards target length (group.map List.tail) c
        (key ++ [range.1, range.2, next], c)
      | _ => (key, c)) ([], c)
    if key.isEmpty then (target, c) else c.state 10000 (key.length / 3) key

/-- Builds a state for each range of a sequence, from the first one on, which leads to a target. -/
def backwards (target : Nat) (sequence : List CodeRange) (c : Construction) : Construction :=
  (sequence.foldl (fun (next, c) range => c.state 1000 0 [next, range.1, range.2]) (target, c)).2

end Construction

namespace Extent

/-- Adds the automaton of one byte of some ranges. -/
def addRanges (ranges : List CodeRange) (e : Extent) : Extent :=
  (e.addStates 1).addSwitch ranges.length

/-- Adds the automaton of some characters that is read forwards. -/
def addForwards (ranges : List CodeRange) (e : Extent) : Extent :=
  (Construction.forwards e.states 4 (Utf8.sequences ranges) (.begin (e.addStates 1))).2.extent

/-- Adds the automaton of some characters that is read backwards: a way for each sequence. -/
def addBackwards (ranges : List CodeRange) (e : Extent) : Extent :=
  let sequences := Utf8.sequences ranges
  let target := e.states + 1
  let c := Construction.begin ((e.addFork sequences.length).addStates 1)
  (sequences.foldl (fun c sequence => c.backwards target sequence) c).extent

end Extent

end Chip8.Pattern
