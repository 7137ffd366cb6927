/-!
# Conditions on places

What a pattern can ask of the characters before and after a place. Words are made of ASCII letters, digits and
underscores.
-/

namespace Chip8.Pattern

/-- Conditions on the words around a place. -/
inductive WordEdge
  | boundary
  | noBoundary
  | start
  | stop
  | startHalf
  | stopHalf
deriving DecidableEq, Repr

/-- Whether a condition holds between two characters of which it is known whether they belong to words. -/
def WordEdge.holds (before after : Bool) : WordEdge → Bool
  | boundary => before ≠ after
  | noBoundary => before = after
  | start => !before && after
  | stop => before && !after
  | startHalf => !before
  | stopHalf => !after

/-- Conditions on a place. With `carriageReturns` a carriage return ends a line too, alone or before a line feed. -/
inductive Condition
  | textStart
  | textEnd
  | lineStart (carriageReturns : Bool)
  | lineEnd (carriageReturns : Bool)
  | word (unicode : Bool) (edge : WordEdge)
deriving DecidableEq, Repr

/-- Whether a character belongs to a word. -/
def isWordLetter (c : Char) : Bool :=
  c.isAlphanum || c = '_'

/-- Whether a condition holds between two characters; there is none at an end of the text. -/
def Condition.holds (before after : Option Char) : Condition → Bool
  | textStart => before.isNone
  | textEnd => after.isNone
  | lineStart false => before.all (· = '\n')
  | lineEnd false => after.all (· = '\n')
  | lineStart true => before.all fun c => c = '\n' || (c = '\r' && after ≠ some '\n')
  | lineEnd true => after.all fun c => c = '\r' || (c = '\n' && before ≠ some '\r')
  | word _ edge => edge.holds (before.any isWordLetter) (after.any isWordLetter)

end Chip8.Pattern
