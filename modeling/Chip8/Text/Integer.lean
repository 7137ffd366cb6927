/-!
# Typed integers

Reading a decimal integer that somebody typed: a sign is allowed, blanks and separators are not, and the value has
to lie in a given range.
-/

namespace Chip8.Integer

/-- The value of a non-empty run of ASCII digits. -/
def ofDigits? : List Char → Option Nat
  | [] => none
  | digits =>
    if digits.all Char.isDigit then
      some (digits.foldl (fun value c => value * 10 + (c.toNat - '0'.toNat)) 0)
    else none

/-- A number from 0 to `most`, with or without a plus sign. -/
def natural? (most : Nat) (text : String) : Option Nat :=
  let digits := match text.toList with
    | '+' :: rest => rest
    | cs => cs
  (ofDigits? digits).filter (· ≤ most)

/-- A number from 0 to `most`. A minus sign is read too, so that minus zero counts as zero. -/
def signedNatural? (most : Nat) (text : String) : Option Nat :=
  match text.toList with
  | '-' :: rest => (ofDigits? rest).filter (· = 0)
  | _ => natural? most text

end Chip8.Integer
