import Chip8.Pattern.Automaton
import Chip8.Pattern.FewTexts
import Chip8.Pattern.Meaning
import Chip8.Pattern.Reader
import Chip8.Pattern.Search

/-!
# Patterns

Regular expressions: from the text of a pattern to what it matches, or to the reason why it is refused.
-/

namespace Chip8.Pattern

/-- Why a pattern is refused. -/
inductive Refusal
  /-- It means nothing. -/
  | meaningless (text : String) (complaint : Complaint)
  /-- It asks for words beyond ASCII. -/
  | unicodeWords
  /-- It would need more bytes than the limit. -/
  | tooLarge (limit : Nat)
deriving DecidableEq, Repr

def Refusal.message : Refusal → String
  | meaningless text complaint => complaint.text text
  | unicodeWords => "error building NFA"
  | tooLarge limit => "Compiled regex exceeds size limit of " ++ Numeral.decimal limit ++ " bytes."

/-- How many bytes an automaton may take. -/
def extentLimit : Nat := 10485760

/-- Whether an automaton of a pattern takes too much. -/
def Matcher.isTooLarge (m : Matcher) (d : Direction) : Bool :=
  extentLimit < (m.extent extentLimit d).bytes

/-- Why there is no automaton for a matcher. -/
def Matcher.obstacle? (m : Matcher) : Option Refusal :=
  if m.isTooLarge .forwards then some (.tooLarge extentLimit)
  else if m.asksUnicodeWords then some .unicodeWords
  else if m.isTooLarge .backwards then some (.tooLarge extentLimit)
  else none

/-- Why a matcher is refused. A few texts need no automaton. -/
def Matcher.refusal? (m : Matcher) : Option Refusal :=
  m.obstacle?.filter fun _ => !m.isFewTexts

def Matcher.read (text : String) : Except Refusal Matcher :=
  match Expression.read text with
  | .error complaint => .error (.meaningless text complaint)
  | .ok expression =>
    match expression.meaning {} with
    | .error complaint => .error (.meaningless text complaint)
    | .ok (m, _) =>
      match m.refusal? with
      | some refusal => .error refusal
      | none => .ok m

end Chip8.Pattern
