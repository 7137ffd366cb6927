import Chip8.Pattern.Complaint

/-!
# Expressions

A pattern as it is written: every part remembers where it stands. What it means depends on flags and is the
business of another module.
-/

namespace Chip8.Pattern

/-- A character that stands for itself. -/
structure Literal where
  span : Span
  char : Char
  /-- It was written as two hexadecimal digits. -/
  asByte : Bool
deriving DecidableEq, Repr

/-- Classes with a letter of their own. -/
inductive Shorthand
  | digit
  | space
  | word
deriving DecidableEq, Repr

structure ShorthandClass where
  span : Span
  kind : Shorthand
  negated : Bool
deriving DecidableEq, Repr

/-- Classes of ASCII characters with a name. -/
inductive AsciiName
  | alnum
  | alpha
  | ascii
  | blank
  | cntrl
  | digit
  | graph
  | lower
  | print
  | punct
  | space
  | upper
  | word
  | xdigit
deriving DecidableEq, Repr

def AsciiName.ofName? (name : List Char) : Option AsciiName :=
  [("alnum", alnum), ("alpha", alpha), ("ascii", ascii), ("blank", blank), ("cntrl", cntrl), ("digit", digit),
    ("graph", graph), ("lower", lower), ("print", print), ("punct", punct), ("space", space), ("upper", upper),
    ("word", word), ("xdigit", xdigit)].lookup (String.ofList name)

/-- A named class in a pattern. -/
structure AsciiClass where
  span : Span
  name : AsciiName
  negated : Bool
deriving DecidableEq, Repr

/-- A character property in a pattern. -/
structure PropertyClass where
  span : Span
  name : List Char
  negated : Bool
deriving DecidableEq, Repr

/-- How two classes are combined. -/
inductive SetOperator
  | intersection
  | difference
  | symmetricDifference
deriving DecidableEq, Repr

/-- What stands between brackets. -/
inductive ClassSet
  | empty (span : Span)
  | literal (l : Literal)
  | range (span : Span) (first last : Literal)
  | ascii (c : AsciiClass)
  | property (c : PropertyClass)
  | shorthand (c : ShorthandClass)
  | bracketed (span : Span) (negated : Bool) (set : ClassSet)
  | union (span : Span) (sets : List ClassSet)
  | combined (span : Span) (operator : SetOperator) (left right : ClassSet)
deriving Repr

/-- Where a set stands. -/
def ClassSet.span : ClassSet → Span
  | .empty span | .range span .. | .bracketed span .. | .union span _ | .combined span .. => span
  | .literal l => l.span
  | .ascii c => c.span
  | .property c => c.span
  | .shorthand c => c.span

/-- Conditions on a place. -/
inductive Anchor
  | lineStart
  | lineEnd
  | textStart
  | textEnd
  | wordBoundary
  | noWordBoundary
  | wordStart
  | wordEnd
  | wordStartHalf
  | wordEndHalf
deriving DecidableEq, Repr

/-- What changes the meaning of what follows. -/
inductive Flag
  | ignoreCase
  | multiLine
  | dotMatchesLineFeed
  | swapGreed
  | unicode
  | carriageReturns
  | spaced
deriving DecidableEq, Repr

/-- Flags that are switched on or off. -/
abbrev FlagChanges := List (Flag × Bool)

inductive GroupKind
  | capture
  | flagged (changes : FlagChanges)
deriving DecidableEq, Repr

inductive Expression
  | empty (span : Span)
  | flags (span : Span) (changes : FlagChanges)
  | literal (l : Literal)
  | dot (span : Span)
  | anchor (span : Span) (anchor : Anchor)
  | property (c : PropertyClass)
  | shorthand (c : ShorthandClass)
  | bracketed (span : Span) (negated : Bool) (set : ClassSet)
  | repetition (span : Span) (least : Nat) (most : Option Nat) (greedy : Bool) (body : Expression)
  | group (span : Span) (kind : GroupKind) (body : Expression)
  | alternation (span : Span) (branches : List Expression)
  | sequence (span : Span) (parts : List Expression)
deriving Repr

/-- Where an expression stands. -/
def Expression.span : Expression → Span
  | .empty span | .flags span _ | .dot span | .anchor span _ | .bracketed span .. | .repetition span ..
  | .group span .. | .alternation span _ | .sequence span _ => span
  | .literal l => l.span
  | .property c => c.span
  | .shorthand c => c.span

/-! ## Nesting -/

mutual

/-- The first part that lies deeper than `room` levels. -/
def ClassSet.tooDeep? (room : Nat) : ClassSet → Option Span
  | .bracketed span _ set => if room = 0 then some span else set.tooDeep? (room - 1)
  | .union span sets => if room = 0 then some span else ClassSet.anyTooDeep? (room - 1) sets
  | .combined span _ left right =>
    if room = 0 then some span else (left.tooDeep? (room - 1)).or (right.tooDeep? (room - 1))
  | _ => none

/-- The first part of some sets that lies deeper than `room` levels. -/
def ClassSet.anyTooDeep? (room : Nat) : List ClassSet → Option Span
  | [] => none
  | set :: rest => (set.tooDeep? room).or (ClassSet.anyTooDeep? room rest)

end

mutual

/-- The first part that lies deeper than `room` levels. -/
def Expression.tooDeep? (room : Nat) : Expression → Option Span
  | .bracketed span _ set => if room = 0 then some span else set.tooDeep? (room - 1)
  | .repetition span _ _ _ body | .group span _ body => if room = 0 then some span else body.tooDeep? (room - 1)
  | .alternation span parts | .sequence span parts =>
    if room = 0 then some span else Expression.anyTooDeep? (room - 1) parts
  | _ => none

/-- The first part of some expressions that lies deeper than `room` levels. -/
def Expression.anyTooDeep? (room : Nat) : List Expression → Option Span
  | [] => none
  | part :: rest => (part.tooDeep? room).or (Expression.anyTooDeep? room rest)

end

end Chip8.Pattern
