import Chip8.Pattern.Expression
import Chip8.Pattern.Matcher

/-!
# The meaning of expressions

Flags hold from where they are given to the end of the group around them, also in later branches. What is known
about characters beyond ASCII is only that they differ: there are no properties, no shorthand classes and no other
cases of them, and a pattern that asks for these under Unicode means nothing. Without Unicode there are, for ASCII.
-/

namespace Chip8.Pattern

/-- What holds at a part of a pattern. -/
structure Flags where
  ignoreCase : Bool := false
  multiLine : Bool := false
  dotMatchesLineFeed : Bool := false
  swapGreed : Bool := false
  unicode : Bool := true
  carriageReturns : Bool := false
deriving DecidableEq, Repr

namespace Flags

/-- Switches one flag. Whether a pattern is spaced has no influence on what matches. -/
def set (f : Flags) (change : Flag × Bool) : Flags :=
  match change with
  | (.ignoreCase, on) => { f with ignoreCase := on }
  | (.multiLine, on) => { f with multiLine := on }
  | (.dotMatchesLineFeed, on) => { f with dotMatchesLineFeed := on }
  | (.swapGreed, on) => { f with swapGreed := on }
  | (.unicode, on) => { f with unicode := on }
  | (.carriageReturns, on) => { f with carriageReturns := on }
  | (.spaced, _) => f

def change (f : Flags) (changes : FlagChanges) : Flags :=
  changes.foldl set f

end Flags

/-- The members of a named class. -/
def AsciiName.ranges : AsciiName → List CodeRange
  | alnum => [(0x30, 0x39), (0x41, 0x5a), (0x61, 0x7a)]
  | alpha => [(0x41, 0x5a), (0x61, 0x7a)]
  | ascii => [(0x00, 0x7f)]
  | blank => [(0x09, 0x09), (0x20, 0x20)]
  | cntrl => [(0x00, 0x1f), (0x7f, 0x7f)]
  | digit => [(0x30, 0x39)]
  | graph => [(0x21, 0x7e)]
  | lower => [(0x61, 0x7a)]
  | print => [(0x20, 0x7e)]
  | punct => [(0x21, 0x2f), (0x3a, 0x40), (0x5b, 0x60), (0x7b, 0x7e)]
  | space => [(0x09, 0x0d), (0x20, 0x20)]
  | upper => [(0x41, 0x5a)]
  | word => [(0x30, 0x39), (0x41, 0x5a), (0x5f, 0x5f), (0x61, 0x7a)]
  | xdigit => [(0x30, 0x39), (0x41, 0x46), (0x61, 0x66)]

/-- The ASCII members of a shorthand class. -/
def Shorthand.ascii : Shorthand → AsciiName
  | digit => .digit
  | space => .space
  | word => .word

/-- Closes a set under case if case is ignored. -/
def closeCase (flags : Flags) (span : Span) (set : CharSet) : Except Complaint CharSet :=
  if !flags.ignoreCase then .ok set
  else if !flags.unicode then .ok set.closeAsciiCase
  else if set.isEmpty || set.caseClosed then .ok set
  else .error ⟨.caseUnknown, span⟩

/-- A set as it stands in a pattern: closed under case first, and negated then. Without Unicode only ASCII may be
left. -/
def settled (flags : Flags) (span : Span) (negated : Bool) (set : CharSet) : Except Complaint CharSet := do
  let closed ← closeCase flags span set
  let result := if negated then closed.complement flags.unicode else closed
  if !flags.unicode && !CodeRange.areAscii result.ranges then .error ⟨.notText, span⟩
  return result

def AsciiClass.meaning (flags : Flags) (c : AsciiClass) : Except Complaint CharSet :=
  settled flags c.span c.negated ⟨c.name.ranges, false⟩

def ShorthandClass.meaning (flags : Flags) (c : ShorthandClass) : Except Complaint CharSet :=
  if flags.unicode then .error ⟨.shorthandUnknown, c.span⟩
  else settled { flags with ignoreCase := false } c.span c.negated ⟨c.kind.ascii.ranges, false⟩

/-- The name of a property without what makes no difference: case, blanks, hyphens, underscores, characters beyond
ASCII, and `is` at its beginning. -/
def propertyName (name : List Char) : List Char :=
  let lower := name.map Char.toLower
  let stem := if lower.take 2 = ['i', 's'] then name.drop 2 else name
  let kept := (stem.filter fun c => c.toNat < 0x80 && !([' ', '_', '-'].contains c)).map Char.toLower
  if lower.take 2 = ['i', 's'] && kept = ['c'] then ['i', 's', 'c'] else kept

/-- Why there is no class for a property. Three short names are taken for values, and all others for properties. -/
def PropertyClass.complaint (flags : Flags) (c : PropertyClass) : Complaint :=
  if !flags.unicode then ⟨.beyondAscii, c.span⟩
  else if [['c', 'f'], ['s', 'c'], ['l', 'c']].contains (propertyName c.name) then ⟨.propertyValueUnknown, c.span⟩
  else ⟨.propertyUnknown, c.span⟩

/-- The code point of a literal in a class. -/
def Literal.inClass (flags : Flags) (l : Literal) : Except Complaint Nat :=
  if flags.unicode || l.char.toNat < 0x80 then .ok l.char.toNat
  else if l.asByte then .error ⟨.notText, l.span⟩
  else .error ⟨.beyondAscii, l.span⟩

/-- Combines two sets. -/
def SetOperator.apply (a b : CharSet) : SetOperator → CharSet
  | intersection => a.intersection b
  | difference => a.difference b
  | symmetricDifference => a.symmetricDifference b

mutual

/-- Adds to a set what stands between brackets. -/
def ClassSet.addTo (flags : Flags) (set : CharSet) : ClassSet → Except Complaint CharSet
  | .empty _ => .ok set
  | .literal l => do
    let n ← l.inClass flags
    return set.add n n
  | .range _ first last => do
    let low ← first.inClass flags
    let high ← last.inClass flags
    return set.add low high
  | .ascii c => do return set.union (← c.meaning flags)
  | .property c => .error (c.complaint flags)
  | .shorthand c => do return set.union (← c.meaning flags)
  | .bracketed span negated inner => do
    return set.union (← settled flags span negated (← inner.addTo flags .none))
  | .union _ sets => ClassSet.addAllTo flags set sets
  | .combined _ operator left right => do
    let a ← left.addTo flags .none
    let b ← right.addTo flags .none
    let b ← closeCase flags right.span b
    let a ← closeCase flags left.span a
    return set.union (operator.apply a b)

/-- Adds to a set what several parts of a class stand for. -/
def ClassSet.addAllTo (flags : Flags) (set : CharSet) : List ClassSet → Except Complaint CharSet
  | [] => .ok set
  | part :: rest => do ClassSet.addAllTo flags (← part.addTo flags set) rest

end

def Matcher.ofSet (flags : Flags) (set : CharSet) : Matcher :=
  .ofRanges flags.unicode set.ranges

def Literal.meaning (flags : Flags) (l : Literal) : Except Complaint Matcher :=
  let n := l.char.toNat
  if !flags.unicode && l.asByte && 0x80 ≤ n then .error ⟨.notText, l.span⟩
  else if flags.ignoreCase then do return .ofSet flags (← closeCase flags l.span (CharSet.none.add n n))
  else .ok (.ofText [l.char])

/-- Any character, but for what ends a line. -/
def dotMeaning (flags : Flags) (span : Span) : Except Complaint Matcher :=
  if !flags.unicode then .error ⟨.notText, span⟩
  else
    let breaks := if flags.dotMatchesLineFeed then CharSet.none
      else if flags.carriageReturns then (CharSet.none.add 10 10).add 13 13 else CharSet.none.add 10 10
    .ok (.ofSet flags ((CharSet.everything true).difference breaks))

def Anchor.meaning (flags : Flags) : Anchor → Condition
  | lineStart => if flags.multiLine then .lineStart flags.carriageReturns else .textStart
  | lineEnd => if flags.multiLine then .lineEnd flags.carriageReturns else .textEnd
  | textStart => .textStart
  | textEnd => .textEnd
  | wordBoundary => .word flags.unicode .boundary
  | noWordBoundary => .word flags.unicode .noBoundary
  | wordStart => .word flags.unicode .start
  | wordEnd => .word flags.unicode .stop
  | wordStartHalf => .word flags.unicode .startHalf
  | wordEndHalf => .word flags.unicode .stopHalf

mutual

/-- What an expression means under some flags, and the flags that hold after it. -/
def Expression.meaning (flags : Flags) : Expression → Except Complaint (Matcher × Flags)
  | .empty _ => .ok (.empty, flags)
  | .flags _ changes => .ok (.empty, flags.change changes)
  | .literal l => do return (← l.meaning flags, flags)
  | .dot span => do return (← dotMeaning flags span, flags)
  | .anchor _ kind => .ok (.condition (kind.meaning flags), flags)
  | .property c => .error (c.complaint flags)
  | .shorthand c => do return (.ofSet flags (← c.meaning flags), flags)
  | .bracketed span negated set => do
    return (.ofSet flags (← settled flags span negated (← set.addTo flags .none)), flags)
  | .repetition _ least most greedy body => do
    let (m, after) ← body.meaning flags
    return (.ofRepeated least most (greedy ≠ flags.swapGreed) m, after)
  | .group _ .capture body => do
    let (m, _) ← body.meaning flags
    return (.captured m, flags)
  | .group _ (.flagged changes) body => do
    let (m, _) ← body.meaning (flags.change changes)
    return (m, flags)
  | .alternation _ branches => do
    let (ms, after) ← Expression.meanings flags branches
    return (.ofChoice ms, after)
  | .sequence _ parts => do
    let (ms, after) ← Expression.meanings flags parts
    return (.ofSequence ms, after)

/-- What some expressions mean, each under the flags that hold after the one before it. -/
def Expression.meanings (flags : Flags) : List Expression → Except Complaint (List Matcher × Flags)
  | [] => .ok ([], flags)
  | part :: rest => do
    let (first, flags) ← part.meaning flags
    let (later, flags) ← Expression.meanings flags rest
    return (first :: later, flags)

end

end Chip8.Pattern
