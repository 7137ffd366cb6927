import Chip8.Fault

/-!
# Byte sources

A program of unknown length arrives in pieces: each reading gives some bytes or fails, and a reading without bytes
is the end. A reading that was interrupted is tried again.
-/

namespace Chip8

/-- The answers of successive readings. After the last one there is nothing more to read. -/
abbrev ByteSource := List (Except IoError (List UInt8))

namespace ByteSource

/-- All bytes up to the end, or the first failure before it that is not an interruption. -/
def readAll : ByteSource → Except IoError (List UInt8)
  | [] => .ok []
  | .error e :: rest => if e.isInterruption then readAll rest else .error e
  | .ok [] :: _ => .ok []
  | .ok (b :: bytes) :: rest => (readAll rest).map ((b :: bytes) ++ ·)

/-- Delivers bytes in one piece. -/
def whole (bytes : List UInt8) : ByteSource :=
  [.ok bytes]

/-- Delivers bytes in pieces of at most `size`, and fails once `limit` bytes or more were delivered, at the end of
the bytes too. Pieces without bytes are an end at once. -/
def paced (size : Nat) (limit : Option (Nat × IoError)) (delivered : Nat) (bytes : List UInt8) : ByteSource :=
  match limit.filter (·.1 ≤ delivered) with
  | some (_, e) => [.error e]
  | none =>
    if size = 0 ∨ bytes = [] then [.ok []]
    else .ok (bytes.take size) :: paced size limit (delivered + (bytes.take size).length) (bytes.drop size)
termination_by bytes.length
decreasing_by
  have := List.length_pos_iff.2 (not_or.1 ‹_›).2
  have := Nat.pos_of_ne_zero (not_or.1 ‹_›).1
  simp only [List.length_drop]
  omega

end ByteSource

end Chip8
