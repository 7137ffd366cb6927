import Chip8.Pattern.Condition
import Chip8.Pattern.Utf8

/-!
# Matchers

What a pattern means, in a simple form. The functions `ofText`, `ofRanges`, `ofRepeated`, `ofSequence` and `ofChoice`
build it: no sequence holds sequences, empty texts or two literals in a row; no choice holds choices, or sets of
characters and nothing else; and parts that all branches of a choice begin with stand before it.
-/

namespace Chip8.Pattern

/-- What a pattern means. -/
inductive Matcher
  /-- The empty text. -/
  | empty
  /-- A text that is not empty. -/
  | literal (text : List Char)
  /-- One character of some ranges. -/
  | character (unicode : Bool) (ranges : List CodeRange)
  | condition (c : Condition)
  /-- Its body as often as is allowed, rather more often if it is greedy. -/
  | repeated (least : Nat) (most : Option Nat) (greedy : Bool) (body : Matcher)
  /-- The same as its body, of which the place would be remembered. -/
  | captured (body : Matcher)
  /-- All parts, one after the other. -/
  | sequence (parts : List Matcher)
  /-- One of the branches. -/
  | choice (branches : List Matcher)
deriving Repr

namespace Matcher

/-! ## Equality -/

mutual

/-- Whether two matchers are written alike. Groups whose places would be remembered differ from each other. -/
def alike : Matcher → Matcher → Bool
  | empty, empty => true
  | literal a, literal b => a = b
  | character u a, character v b => u = v && a = b
  | condition c, condition d => c = d
  | repeated l m g a, repeated k n h b => l = k && m = n && g = h && a.alike b
  | sequence as, sequence bs => allAlike as bs
  | choice as, choice bs => allAlike as bs
  | _, _ => false

/-- Whether the matchers of two lists are written alike. -/
def allAlike : List Matcher → List Matcher → Bool
  | [], [] => true
  | a :: as, b :: bs => a.alike b && allAlike as bs
  | _, _ => false

end

/-! ## Lengths -/

mutual

/-- Whether only the empty text can match. -/
def isZeroWidth : Matcher → Bool
  | empty | condition _ => true
  | literal _ | character .. => false
  | repeated _ most _ body => most.isSome && body.isZeroWidth
  | captured body => body.isZeroWidth
  | sequence parts | choice parts => areZeroWidth parts

/-- Whether only the empty text can match any of some matchers. -/
def areZeroWidth : List Matcher → Bool
  | [] => true
  | m :: rest => m.isZeroWidth && areZeroWidth rest

end

mutual

/-- How many bytes a match takes at least. Where a part matches nothing at all there is no answer. -/
def shortest? : Matcher → Option Nat
  | empty | condition _ => some 0
  | literal text => some (Utf8.textSize text)
  | character _ ranges => ranges.head?.map fun r => Utf8.size r.1
  | repeated least _ _ body => body.shortest?.map (least * ·)
  | captured body => body.shortest?
  | sequence parts => (allShortest? parts).map (·.foldl (· + ·) 0)
  | choice branches => (allShortest? branches).bind List.min?

/-- How many bytes the matches of some matchers take at least. -/
def allShortest? : List Matcher → Option (List Nat)
  | [] => some []
  | m :: rest =>
    match m.shortest?, allShortest? rest with
    | some n, some ns => some (n :: ns)
    | _, _ => none

end

/-! ## Building -/

def ofText (text : List Char) : Matcher :=
  if text.isEmpty then empty else literal text

def nothing : Matcher :=
  character false []

def ofRanges (unicode : Bool) (ranges : List CodeRange) : Matcher :=
  match ranges with
  | [] => nothing
  | [(first, last)] => if first = last then literal [Char.ofNat first] else character unicode ranges
  | _ => character unicode ranges

/-- A repetition. An empty text is repeated once at most, and what is repeated at most no times is the empty text,
whatever it is. -/
def ofRepeated (least : Nat) (most : Option Nat) (greedy : Bool) (body : Matcher) : Matcher :=
  let once := body.isZeroWidth
  let least := if once then min least 1 else least
  let most := if once then some (most.elim 1 (min · 1)) else most
  if least = 0 && most = some 0 then empty
  else if least = 1 && most = some 1 then body
  else repeated least most greedy body

/-- The parts of a sequence; anything else is a part itself. -/
def parts : Matcher → List Matcher
  | sequence ms => ms
  | m => [m]

/-- Puts a part before others. -/
def consPart : Matcher → List Matcher → List Matcher
  | empty, rest => rest
  | literal a, literal b :: rest => literal (a ++ b) :: rest
  | m, rest => m :: rest

/-- One after the other. -/
def ofSequence (ms : List Matcher) : Matcher :=
  match (ms.flatMap parts).foldr consPart [] with
  | [] => empty
  | [m] => m
  | parts => sequence parts

/-- The branches of a choice; anything else is a branch itself. -/
def branches : Matcher → List Matcher
  | choice ms => ms
  | m => [m]

/-- The character of a literal that has only one. -/
def single? : Matcher → Option CodeRange
  | literal [c] => some (c.toNat, c.toNat)
  | _ => none

/-- The ranges of a character that is not a literal. -/
def ranges? : Matcher → Option (List CodeRange)
  | character _ ranges => some ranges
  | _ => none

def sequence? : Matcher → Option (List Matcher)
  | sequence parts => some parts
  | _ => none

/-- One of some branches. Characters become one set, if all branches are characters of one kind. -/
def ofBranches (ms : List Matcher) : Matcher :=
  match ms.flatMap branches with
  | [] => nothing
  | [m] => m
  | branches =>
    match branches.mapM single?, branches.mapM ranges? with
    | some singles, _ => ofRanges true (CodeRange.insertAll [] singles)
    | none, some sets => ofRanges true (CodeRange.insertAll [] sets.flatten)
    | none, none => choice branches

/-- How many matchers two lists have in common at their beginnings. -/
def commonLength : List Matcher → List Matcher → Nat
  | a :: as, b :: bs => if a.alike b then commonLength as bs + 1 else 0
  | _, _ => 0

def commonStart : List (List Matcher) → List Matcher
  | [] => []
  | first :: rest => rest.foldl (fun start ms => start.take (commonLength start ms)) first

/-- One of some branches. What all of them begin with comes first, if all are sequences. -/
def ofChoice (ms : List Matcher) : Matcher :=
  match ofBranches ms with
  | choice branches =>
    match branches.mapM sequence? with
    | none => choice branches
    | some lists =>
      let start := commonStart lists
      if start.isEmpty then choice branches
      else ofSequence (start ++ [ofBranches (lists.map fun ms => ofSequence (ms.drop start.length))])
  | m => m

/-! ## Conditions -/

mutual

/-- Whether words beyond ASCII are asked for. -/
def asksUnicodeWords : Matcher → Bool
  | condition (.word unicode _) => unicode
  | repeated _ _ _ body | captured body => body.asksUnicodeWords
  | sequence ms | choice ms => anyAsksUnicodeWords ms
  | _ => false

/-- Whether any of some matchers asks for words beyond ASCII. -/
def anyAsksUnicodeWords : List Matcher → Bool
  | [] => false
  | m :: rest => m.asksUnicodeWords || anyAsksUnicodeWords rest

end

mutual

def beginsWith (c : Condition) : Matcher → Bool
  | condition d => d = c
  | repeated least _ _ body => 0 < least && body.beginsWith c
  | captured body => body.beginsWith c
  | sequence parts => firstBeginsWith c parts
  | choice branches => allBeginWith c branches
  | _ => false

/-- Whether the first part of a sequence begins with a condition, or the next one if that has no width. -/
def firstBeginsWith (c : Condition) : List Matcher → Bool
  | [] => false
  | m :: rest => m.beginsWith c || (m.isZeroWidth && firstBeginsWith c rest)

def allBeginWith (c : Condition) : List Matcher → Bool
  | [] => true
  | m :: rest => m.beginsWith c && allBeginWith c rest

end

/-! ## Order -/

mutual

/-- The same matcher with all texts and sequences in opposite order. -/
def reversed : Matcher → Matcher
  | literal text => literal text.reverse
  | repeated least most greedy body => repeated least most greedy body.reversed
  | captured body => captured body.reversed
  | sequence parts => sequence (reversedOnto parts [])
  | choice branches => choice (allReversed branches)
  | m => m

/-- Reverses the parts of a sequence, and puts them before others in opposite order. -/
def reversedOnto : List Matcher → List Matcher → List Matcher
  | [], later => later
  | m :: rest, later => reversedOnto rest (m.reversed :: later)

/-- Reverses all branches of a choice. -/
def allReversed : List Matcher → List Matcher
  | [] => []
  | m :: rest => m.reversed :: allReversed rest

end

end Matcher

end Chip8.Pattern
