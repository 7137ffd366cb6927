/-!
# Sets of characters

A set is a list of ranges of code points in ascending order, of which none overlaps or touches the next one.
Surrogates are no characters: what comes after U+D7FF is U+E000, yet ranges that end and begin there do not touch.
Without Unicode the numbers are bytes.
-/

namespace Chip8.Pattern

/-- First and last of a range of code points. -/
abbrev CodeRange := Nat × Nat

namespace CodeRange

/-- The character after one. -/
def next (n : Nat) : Nat :=
  if n = 0xd7ff then 0xe000 else n + 1

/-- The character before one. -/
def previous (n : Nat) : Nat :=
  if n = 0xe000 then 0xd7ff else n - 1

/-- What two ranges share. -/
def meet (a b : CodeRange) : List CodeRange :=
  let first := max a.1 b.1
  let last := min a.2 b.2
  if first ≤ last then [(first, last)] else []

/-- What a range leaves of another one. -/
def cut (removed range : CodeRange) : List CodeRange :=
  if (meet removed range).isEmpty then [range]
  else
    (if range.1 < removed.1 then [(range.1, previous removed.1)] else [])
      ++ if removed.2 < range.2 then [(next removed.2, range.2)] else []

/-- What lies between two ranges. Where only surrogates do, it is the two characters around them. -/
def between (a b : CodeRange) : CodeRange :=
  (min (next a.2) (previous b.1), max (next a.2) (previous b.1))

/-- The part of a range that lies within another one, moved up by `up` and then down by `down`. -/
def moved (window : CodeRange) (up down : Nat) (range : CodeRange) : List CodeRange :=
  (meet range window).map fun r => (r.1 + up - down, r.2 + up - down)

/-- A range more among ascending ones; it becomes one with those that it overlaps or touches. -/
def insert (range : CodeRange) : List CodeRange → List CodeRange
  | [] => [range]
  | r :: rest =>
    if range.2 + 1 < r.1 then range :: r :: rest
    else if r.2 + 1 < range.1 then r :: insert range rest
    else insert (min range.1 r.1, max range.2 r.2) rest

/-- More ranges among ascending ones. -/
def insertAll (ranges more : List CodeRange) : List CodeRange :=
  more.foldl (fun ranges r => insert r ranges) ranges

/-- Whether a character lies in one of some ranges. -/
def holds (ranges : List CodeRange) (c : Char) : Bool :=
  ranges.any fun r => r.1 ≤ c.toNat && c.toNat ≤ r.2

/-- Whether some ranges hold ASCII only. -/
def areAscii (ranges : List CodeRange) : Bool :=
  ranges.all fun r => r.2 < 0x80

end CodeRange

/-- A set of characters, and whether it is known to hold the other case of each of its members. -/
structure CharSet where
  ranges : List CodeRange
  caseClosed : Bool
deriving DecidableEq, Repr

namespace CharSet

/-- The last of all characters, or of all bytes. -/
def greatest (unicode : Bool) : Nat :=
  if unicode then 0x10ffff else 0xff

/-- The set without members. -/
def none : CharSet where
  ranges := []
  caseClosed := true

def everything (unicode : Bool) : CharSet where
  ranges := [(0, greatest unicode)]
  caseClosed := true

def isEmpty (s : CharSet) : Bool :=
  s.ranges.isEmpty

/-- The members of either set. -/
def union (a b : CharSet) : CharSet :=
  if b.isEmpty || a.ranges = b.ranges then a
  else { ranges := CodeRange.insertAll a.ranges b.ranges, caseClosed := a.caseClosed && b.caseClosed }

/-- A range more. -/
def add (s : CharSet) (first last : Nat) : CharSet :=
  s.union { ranges := [(first, last)], caseClosed := false }

/-- The members of both sets. -/
def intersection (a b : CharSet) : CharSet :=
  if a.isEmpty then a
  else if b.isEmpty then none
  else
    { ranges := a.ranges.flatMap fun r => b.ranges.flatMap (CodeRange.meet r)
      caseClosed := a.caseClosed && b.caseClosed }

/-- The members of the first set that are not in the second one. -/
def difference (a b : CharSet) : CharSet :=
  if a.isEmpty || b.isEmpty then a
  else
    { ranges := b.ranges.foldl (fun left r => left.flatMap (CodeRange.cut r)) a.ranges
      caseClosed := a.caseClosed && b.caseClosed }

/-- The members of one set only. -/
def symmetricDifference (a b : CharSet) : CharSet :=
  (a.union b).difference (a.intersection b)

/-- Everything that is not a member. -/
def complement (unicode : Bool) (s : CharSet) : CharSet :=
  match s.ranges.head?, s.ranges.getLast? with
  | some first, some last =>
    { s with
      ranges := (if 0 < first.1 then [(0, CodeRange.previous first.1)] else [])
        ++ List.zipWith CodeRange.between s.ranges s.ranges.tail
        ++ if last.2 < greatest unicode then [(CodeRange.next last.2, greatest unicode)] else [] }
  | _, _ => everything unicode

/-- The set with the other case of each of its ASCII letters. -/
def closeAsciiCase (s : CharSet) : CharSet :=
  if s.caseClosed then s
  else
    let small := s.ranges.flatMap (CodeRange.moved (0x41, 0x5a) 0x20 0)
    let capital := s.ranges.flatMap (CodeRange.moved (0x61, 0x7a) 0 0x20)
    { ranges := CodeRange.insertAll s.ranges (small ++ capital), caseClosed := true }

end CharSet

end Chip8.Pattern
