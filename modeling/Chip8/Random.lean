/-!
# Random sources

Where random words come from. A machine takes one word at a time and never looks at the source otherwise.
-/

namespace Chip8

/-- A source of 32-bit words. -/
class RandomSource (γ : Type) where
  /-- The next word, and the source behind it. -/
  next : γ → UInt32 × γ

namespace Random

/-- Given words in order, then zeros; counts how many were taken. -/
structure Scripted where
  words : List UInt32
  taken : Nat := 0
deriving DecidableEq, Repr

instance : RandomSource Scripted where
  next s := (s.words.headD 0, { words := s.words.tail, taken := s.taken + 1 })

/-- An endless sequence of words, read from a position on. -/
structure Stream where
  word : Nat → UInt32
  position : Nat := 0

instance : RandomSource Stream where
  next s := (s.word s.position, { s with position := s.position + 1 })

end Random

end Chip8
