import Chip8.Pattern.CharSet

/-!
# Ranges of bytes

The UTF-8 forms of the characters of a range, as few sequences of ranges of bytes: a sequence stands for all forms
that take a byte from each of its ranges.
-/

namespace Chip8.Pattern.Utf8

/-- How many bytes the form of a code point takes. -/
def size (n : Nat) : Nat :=
  if n < 0x80 then 1 else if n < 0x800 then 2 else if n < 0x10000 then 3 else 4

/-- The form of a code point. -/
def bytes (n : Nat) : List Nat :=
  match size n with
  | 1 => [n]
  | 2 => [0xc0 + n / 64, 0x80 + n % 64]
  | 3 => [0xe0 + n / 4096, 0x80 + n / 64 % 64, 0x80 + n % 64]
  | _ => [0xf0 + n / 262144, 0x80 + n / 4096 % 64, 0x80 + n / 64 % 64, 0x80 + n % 64]

def textBytes (text : List Char) : List Nat :=
  text.flatMap fun c => bytes c.toNat

/-- How many bytes the form of a text takes. -/
def textSize (text : List Char) : Nat :=
  text.foldl (fun n c => n + size c.toNat) 0

/-- A range in parts that lie within given ones. -/
def within (windows : List CodeRange) (range : CodeRange) : List CodeRange :=
  windows.flatMap (CodeRange.meet range)

/-- The code points whose forms have equal sizes, without surrogates. -/
def equalSizes : List CodeRange :=
  [(0, 0x7f), (0x80, 0x7ff), (0x800, 0xd7ff), (0xe000, 0xffff), (0x10000, 0x10ffff)]

/-- Cuts a range where only some of the code points between two multiples of `block` belong to it, unless it lies
between two of them. -/
def cutBlocks (block : Nat) (range : CodeRange) : List CodeRange :=
  if range.1 / block = range.2 / block then [range]
  else
    let start := (range.1 + block - 1) / block * block
    let stop := (range.2 + 1) / block * block
    (if range.1 < start then [(range.1, start - 1)] else [])
      ++ (if start < stop then [(start, stop - 1)] else [])
      ++ if stop ≤ range.2 then [(stop, range.2)] else []

/-- A range in parts whose forms are all sequences of bytes between those of the first and of the last one. -/
def parts (range : CodeRange) : List CodeRange :=
  (within equalSizes range).flatMap fun r =>
    if r.2 < 0x80 then [r]
    else ((cutBlocks 64 r).flatMap (cutBlocks 4096)).flatMap (cutBlocks 262144)

/-- The forms of the characters of some ranges. -/
def sequences (ranges : List CodeRange) : List (List CodeRange) :=
  (ranges.flatMap parts).map fun r => (bytes r.1).zip (bytes r.2)

end Chip8.Pattern.Utf8
