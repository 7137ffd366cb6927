import Chip8.Pattern.Escape

/-!
# Classes between brackets

Characters, ranges, named classes and classes within classes, joined or combined by `&&`, `--` and `~~`, which
all bind alike and to the left.
-/

namespace Chip8.Pattern.Bracket

/-- The parts of a class that were read so far, newest first, and where they stand. -/
structure Parts where
  span : Span
  sets : List ClassSet

namespace Parts

def none (c : Cursor) : Parts where
  span := c.here
  sets := []

def add (p : Parts) (set : ClassSet) : Parts where
  span := ⟨if p.sets.isEmpty then set.span.start else p.span.start, set.span.stop⟩
  sets := set :: p.sets

def close (p : Parts) : ClassSet :=
  match p.sets with
  | [] => .empty p.span
  | [set] => set
  | sets => .union p.span sets.reverse

end Parts

/-- What was begun and is not finished. -/
inductive Frame
  /-- A class within the parts of another one; `span` is its beginning. -/
  | opened (outer : Parts) (span : Span) (negated : Bool)
  /-- An operator whose right side is being read. -/
  | operator (operator : SetOperator) (left : ClassSet)

/-- Finishes an operator, if one waits for its right side. -/
def finish (frames : List Frame) (right : ClassSet) : ClassSet × List Frame :=
  match frames with
  | .operator operator left :: rest => (.combined ⟨left.span.start, right.span.stop⟩ operator left right, rest)
  | _ => (right, frames)

/-- The complaint that the innermost class does not end. -/
def unclosed (c : Cursor) : List Frame → Complaint
  | [] => ⟨.classUnclosed, c.here⟩
  | .opened _ span _ :: _ => ⟨.classUnclosed, span⟩
  | .operator .. :: rest => unclosed c rest

/-- A named class such as `[:alpha:]`, if that is what comes next. -/
def asciiClass? (c : Cursor) : Option (AsciiClass × Cursor) := do
  let inside ← c.accept? ['[', ':']
  let negated := inside.rest.head? = some '^'
  let inside := if negated then inside.step else inside
  let letters := inside.rest.takeWhile (· ≠ ':')
  let name ← AsciiName.ofName? letters
  let stop ← (inside.steps letters.length).accept? [':', ']']
  return (⟨stop.since c.position, name, negated⟩, stop)

/-- The hyphens at the beginning of a class, which stand for themselves. -/
def hyphens (start : Position) (parts : Parts) (c : Cursor) : Except Complaint (Parts × Cursor) :=
  match _h : c.rest with
  | '-' :: _ =>
    if c.advance.atEnd then .error ⟨.classUnclosed, ⟨start, start⟩⟩
    else hyphens start (parts.add (.literal ⟨c.next, '-', false⟩)) c.advance
  | _ => .ok (parts, c)
termination_by c.rest.length
decreasing_by exact Cursor.length_rest_advance_lt (by simp [_h])

/-- The beginning of a class: whether it is negated, and what can only stand first for itself. -/
def openClass (c : Cursor) : Except Complaint ((Span × Bool × Parts) × Cursor) := do
  let start := c.position
  let inside := c.advance
  if inside.atEnd then .error ⟨.classUnclosed, inside.since start⟩
  let negated := inside.rest.head? = some '^'
  let first := if negated then inside.advance else inside
  if first.atEnd then .error ⟨.classUnclosed, first.since start⟩
  let (parts, next) ← hyphens start (.none first) first
  if parts.sets.isEmpty && next.rest.head? = some ']' then
    let after := next.advance
    if after.atEnd then .error ⟨.classUnclosed, after.since start⟩
    return ((after.since start, negated, parts.add (.literal ⟨next.next, ']', false⟩)), after)
  return ((next.since start, negated, parts), next)

/-- One character or escape. -/
def atom (c : Cursor) : Except Complaint (Atom × Cursor) :=
  match c.rest with
  | [] => .error ⟨.escapeUnfinished, c.here⟩
  | '\\' :: _ => Escape.read c
  | char :: _ => .ok (.literal ⟨c.next, char, false⟩, c.step)

/-- A range, or a single character or escape. A hyphen before the closing bracket or before another hyphen makes
no range. -/
def part (frames : List Frame) (c : Cursor) : Except Complaint (ClassSet × Cursor) := do
  let (first, c) ← atom c
  let c := c.settle
  if c.atEnd then .error (unclosed c frames)
  let ends := c.rest.head? ≠ some '-' || c.second? = some ']' || c.second? = some '-'
  if ends then return (← first.toClassSet, c)
  let c := c.advance
  if c.atEnd then .error (unclosed c frames)
  let (last, c) ← atom c
  let span := Span.mk first.span.start last.span.stop
  let low ← first.toRangeEnd
  let high ← last.toRangeEnd
  if high.char < low.char then .error ⟨.classRangeOrder, span⟩
  return (.range span low high, c)

/-- The operator that two characters make. -/
def operator? : List Char → Option SetOperator
  | '&' :: '&' :: _ => some .intersection
  | '-' :: '-' :: _ => some .difference
  | '~' :: '~' :: _ => some .symmetricDifference
  | _ => none

/-- Reads on in a class, for at most `count` of its parts, brackets and operators. -/
def readOn : Nat → List Frame → Parts → Cursor → Except Complaint (Expression × Cursor)
  | 0, frames, _, c => .error (unclosed c frames)
  | count + 1, frames, parts, c =>
    let c := c.settle
    match c.rest, operator? c.rest with
    | [], _ => .error (unclosed c frames)
    | '[' :: _, _ =>
      match if frames.isEmpty then none else asciiClass? c with
      | some (named, c) => readOn count frames (parts.add (.ascii named)) c
      | none => do
        let ((span, negated, inner), c) ← openClass c
        readOn count (.opened parts span negated :: frames) inner c
    | ']' :: _, _ =>
      let (set, outer) := finish frames parts.close
      let c := c.step
      match outer with
      | [.opened _ span negated] => .ok (.bracketed ⟨span.start, c.position⟩ negated set, c)
      | .opened before span negated :: rest =>
        readOn count rest (before.add (.bracketed ⟨span.start, c.position⟩ negated set)) c
      | _ => .error (unclosed c frames)
    | _, some operator =>
      let (left, outer) := finish frames parts.close
      let c := c.steps 2
      readOn count (.operator operator left :: outer) (.none c) c
    | _, none => do
      let (set, c) ← part frames c
      readOn count frames (parts.add set) c

/-- A class; the cursor stands at its opening bracket. Each part takes a character at least. -/
def read (c : Cursor) : Except Complaint (Expression × Cursor) :=
  readOn (c.rest.length + 1) [] (.none c) c

end Chip8.Pattern.Bracket
