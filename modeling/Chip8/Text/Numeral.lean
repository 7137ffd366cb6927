/-!
# Numerals

Numbers in text: plain decimal, and hexadecimal filled up with zeros on the left to a least number of digits.
-/

namespace Chip8.Numeral

/-- Fills a numeral with zeros on the left up to `width` digits; a longer one stays as it is. -/
def padded (width : Nat) (digits : List Char) : List Char :=
  List.replicate (width - digits.length) '0' ++ digits

/-- Decimal digits without leading zeros. -/
def decimal (n : Nat) : String :=
  String.ofList (Nat.toDigits 10 n)

/-- Lower-case hexadecimal digits, at least `width` of them. -/
def hex (width n : Nat) : String :=
  String.ofList (padded width (Nat.toDigits 16 n))

/-- Upper-case hexadecimal digits without leading zeros. -/
def upperHex (n : Nat) : String :=
  String.ofList ((Nat.toDigits 16 n).map Char.toUpper)

/-- An address: `0x` and at least three digits. -/
def address (n : Nat) : String :=
  "0x" ++ hex 3 n

/-- A byte operand: `0x` and at least two digits. -/
def byte (n : Nat) : String :=
  "0x" ++ hex 2 n

/-- An instruction word: at least four digits and no `0x`. -/
def word (n : Nat) : String :=
  hex 4 n

/-- Bytes as pairs of hexadecimal digits without separators. -/
def bytes (bs : List UInt8) : String :=
  String.join (bs.map fun b => hex 2 b.toNat)

end Chip8.Numeral
