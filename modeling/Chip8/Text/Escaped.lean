import Chip8.Text.Numeral
import Chip8.Text.Unprintable

/-!
# Quoted text

A character or a string between quotes, with a backslash before what would end or blur it: the quote itself, the
backslash, the usual control characters, and code points that have no shape of their own.
-/

namespace Chip8.Escaped

/-- One character inside the quotes `quote`. -/
def inside (quote c : Char) : String :=
  if c = quote then String.ofList ['\\', c]
  else match c with
    | '\x00' => "\\0"
    | '\t' => "\\t"
    | '\n' => "\\n"
    | '\r' => "\\r"
    | '\\' => "\\\\"
    | c =>
      if Unprintable.contains c then "\\u\x7b" ++ Numeral.hex 1 c.toNat ++ "\x7d"
      else String.singleton c

/-- A character in single quotes. -/
def char (c : Char) : String :=
  "'" ++ inside '\'' c ++ "'"

/-- A string in double quotes. -/
def string (s : String) : String :=
  "\"" ++ String.join (s.toList.map (inside '"')) ++ "\""

end Chip8.Escaped
