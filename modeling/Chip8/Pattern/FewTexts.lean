import Chip8.Pattern.Matcher

/-!
# Patterns that mean a few texts

Some patterns match a few texts and nothing else. They are found by comparing, whatever an automaton would take, unless
it is faster to look for what the texts begin with.
-/

namespace Chip8.Pattern

/-! ## The texts -/

/-- The bytes of all texts that match, the preferred ones first, or `none` if they are more than a few or too long. -/
abbrev FewTexts := Option (List (List Nat))

namespace FewTexts

/-- The texts of a list, if they are at most 250 of at most 100 bytes. Equal ones that follow each other count once. -/
def ofList (texts : List (List Nat)) : FewTexts :=
  if texts.length ≤ 250 && texts.all (·.length ≤ 100) then some texts.eraseReps else none

/-- One of some characters. They are at most ten. -/
def ofRanges (ranges : List CodeRange) : FewTexts :=
  if ranges.foldl (fun n r => n + (r.2 - r.1 + 1)) 0 ≤ 10 then
    ofList (ranges.flatMap fun r => (List.range' r.1 (r.2 - r.1 + 1)).map Utf8.bytes)
  else none

def or (texts : List (List Nat)) (b : FewTexts) : FewTexts := do
  ofList (texts ++ (← b))

/-- One of some texts, and then one of the others. -/
def followedBy (texts : List (List Nat)) (b : FewTexts) : FewTexts := do
  let later ← b
  ofList (texts.flatMap fun text => later.map (text ++ ·))

/-- A number of times one after the other. Where there are no texts nothing can follow. -/
def times (once : FewTexts) : Nat → List (List Nat) → FewTexts
  | 0, texts => some texts
  | n + 1, texts => if texts.isEmpty then some [] else (followedBy texts once).bind (times once n)

/-- A repetition. More than ten times, or not a fixed number of times, only nothing at all can be repeated. -/
def ofRepeated (least : Nat) (most : Option Nat) (greedy : Bool) (once : FewTexts) : FewTexts := do
  if least = 0 then
    let texts ← once
    if most ≠ some 1 && !texts.isEmpty then none
    if greedy then or texts (some [[]]) else or [[]] once
  else
    let texts ← times once (min least 10) [[]]
    if (most ≠ some least || 10 < least) && !texts.isEmpty then none
    return texts

end FewTexts

namespace Matcher

mutual

/-- The texts that match. Conditions are taken for met. -/
def fewTexts : Matcher → FewTexts
  | empty | condition _ => some [[]]
  | literal text => .ofList [Utf8.textBytes text]
  | character _ ranges => .ofRanges ranges
  | repeated least most greedy body => .ofRepeated least most greedy body.fewTexts
  | captured body => body.fewTexts
  | sequence parts => fewTextsOfAll [[]] parts
  | choice branches => fewTextsOfAny [] branches

/-- The texts that match some parts, after some others. -/
def fewTextsOfAll (texts : List (List Nat)) : List Matcher → FewTexts
  | [] => some texts
  | m :: rest =>
    if texts.isEmpty then some []
    else
      match FewTexts.followedBy texts m.fewTexts with
      | some texts => fewTextsOfAll texts rest
      | none => none

/-- Some texts, and those that match any of some branches. -/
def fewTextsOfAny (texts : List (List Nat)) : List Matcher → FewTexts
  | [] => some texts
  | m :: rest =>
    match FewTexts.or texts m.fewTexts with
    | some texts => fewTextsOfAny texts rest
    | none => none

end

mutual

/-- Whether there are neither groups nor conditions. -/
def isPlain : Matcher → Bool
  | condition _ | captured _ => false
  | repeated _ _ _ body => body.isPlain
  | sequence ms | choice ms => arePlain ms
  | _ => true

/-- Whether there are neither groups nor conditions in some matchers. -/
def arePlain : List Matcher → Bool
  | [] => true
  | m :: rest => m.isPlain && arePlain rest

end

end Matcher

/-! ## What texts begin with -/

/-- Bytes that a text begins with, and whether they are all of it. -/
structure Beginning where
  bytes : List Nat
  isWhole : Bool
deriving DecidableEq, Repr

namespace Beginning

/-- At most `count` bytes. -/
def cut (count : Nat) (b : Beginning) : Beginning where
  bytes := b.bytes.take count
  isWhole := b.isWhole && b.bytes.length ≤ count

/-- Without those that begin with an earlier one. -/
def minimal (bs : List Beginning) : List Beginning :=
  (bs.foldl (fun kept b => if kept.any (·.bytes.isPrefixOf b.bytes) then kept else b :: kept) []).reverse

/-- Cuts beginnings down to a number of bytes as long as they are too many, and then to other numbers. -/
def shorten : (attempts : List (Nat × Nat)) → List Beginning → List Beginning
  | [], bs => bs
  | (count, most) :: rest, bs => if bs.length ≤ most then bs else shorten rest (minimal (bs.map (cut count)))

/-- What two lists of bytes begin with. -/
def commonStart : List Nat → List Nat → List Nat
  | a :: as, b :: bs => if a = b then a :: commonStart as bs else []
  | _, _ => []

def isCommon (byte : Nat) : Bool :=
  0x80 ≤ byte || ("\n\r (),-./0129:_abcdefghilmnoprstuvxy|".toList.map Char.toNat).contains byte

/-- Whether it is faster to look for less than some texts. One rare byte is enough if all begin with it, and so is a
longer common start; many are cut down unless they become too short or stay too many. -/
def suffice (texts : List (List Nat)) : Bool :=
  let kept := minimal (texts.map fun text => ⟨text, true⟩)
  let start := (kept.tail.map (·.bytes)).foldl commonStart ((kept.head?.map (·.bytes)).getD [])
  let isLonger (count : Nat) := kept.any (count < ·.bytes.length)
  if 1 < texts.length && start.length ≤ 3 && start.head?.any (!isCommon ·) then isLonger 1
  else if 4 < start.length || (1 < start.length && 16 < kept.length) then isLonger start.length
  else
    let short := shorten [(5, 10), (4, 10), (3, 64), (2, 64), (1, 10)] kept
    short.any (!·.isWhole) && short.all (2 < ·.bytes.length) && short.length ≤ 64

end Beginning

/-- Whether a pattern means nothing but a few texts, which are looked for as they are. -/
def Matcher.isFewTexts (m : Matcher) : Bool :=
  m.isPlain && m.fewTexts.any fun texts =>
    !texts.isEmpty && texts.all (!·.isEmpty) && !Beginning.suffice texts

end Chip8.Pattern
