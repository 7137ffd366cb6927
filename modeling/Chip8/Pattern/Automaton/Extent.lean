/-!
# Extents of automata

What the states of an automaton take. A state takes 32 bytes, and where it chooses between ways to go on it takes more:
8 bytes for each way if the next byte decides, and 4 bytes if nothing does.
-/

namespace Chip8.Pattern

/-- What an automaton takes. -/
structure Extent where
  states : Nat
  bytes : Nat
deriving DecidableEq, Repr

namespace Extent

def none : Extent where
  states := 0
  bytes := 0

/-- Some states more that do not choose. -/
def addStates (e : Extent) (count : Nat) : Extent where
  states := e.states + count
  bytes := e.bytes + 32 * count

/-- A state more that chooses freely. -/
def addFork (e : Extent) (ways : Nat) : Extent where
  states := e.states + 1
  bytes := e.bytes + 32 + 4 * ways

/-- A state more that chooses by the next byte. -/
def addSwitch (e : Extent) (ways : Nat) : Extent where
  states := e.states + 1
  bytes := e.bytes + 32 + 8 * ways

/-- Adds `count` times, unless more than `limit` bytes are taken. -/
def addTimes (limit : Nat) (add : Extent → Extent) : Nat → Extent → Extent
  | 0, e => e
  | n + 1, e => if limit < e.bytes then e else addTimes limit add n (add e)

end Extent

end Chip8.Pattern
