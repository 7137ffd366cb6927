/-!
# White space

The characters that a text is cut at and trimmed of: tab to carriage return, the space, and every other character
that is white space in Unicode.
-/

namespace Chip8.Blank

/-- White space beyond ASCII: first and last code points, ascending. -/
def wideRanges : List (Nat × Nat) :=
  [(0x85, 0x85), (0xa0, 0xa0), (0x1680, 0x1680), (0x2000, 0x200a), (0x2028, 0x2029), (0x202f, 0x202f),
   (0x205f, 0x205f), (0x3000, 0x3000)]

/-- Whether a character is white space. -/
def isBlank (c : Char) : Bool :=
  let n := c.toNat
  (9 ≤ n && n ≤ 13) || n = 0x20 || wideRanges.any fun (first, last) => first ≤ n && n ≤ last

/-- A text without the white space around it. -/
def trimmed (s : String) : String :=
  String.ofList ((s.toList.dropWhile isBlank).reverse.dropWhile isBlank).reverse

end Chip8.Blank
