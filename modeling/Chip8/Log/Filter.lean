import Chip8.Log
import Chip8.Pattern
import Chip8.Text.Blank

/-!
# Log filters

A filter is written as directives separated by commas: a level alone, the name of a part of the program, or
`name=level`. The directive with the longest name that the origin of a record begins with decides. A pattern after
a slash has to match somewhere in the message. Without any directive errors pass and nothing else.
-/

namespace Chip8.Log

/-- Lets records from origins that begin with a name pass up to a rank; without a name, from all origins. -/
structure Directive where
  name : Option String
  rank : Nat
deriving DecidableEq, Repr

/-- Which records pass. -/
structure Filter where
  directives : List Directive
  pattern : Option Pattern.Matcher
deriving Repr

/-- The rank that a level's name stands for, in small or capital letters. -/
def rank? (text : String) : Option Nat :=
  let names := [("OFF", 0)] ++ [Level.error, .warn, .info, .debug, .trace].map fun l => (l.name, l.rank)
  names.lookup (text.map Char.toUpper)

def highestRank : Nat :=
  Level.trace.rank

/-- One directive, or the part of it that means nothing. -/
def Directive.read (text : String) : Except String Directive :=
  match text.splitOn "=" with
  | [single] =>
    match rank? single with
    | some rank => .ok ⟨none, rank⟩
    | none => .ok ⟨some single, highestRank⟩
  | [name, level] =>
    let level := Blank.trimmed level
    if level.isEmpty then .ok ⟨some name, highestRank⟩
    else
      match rank? level with
      | some rank => .ok ⟨some name, rank⟩
      | none => .error level
  | _ => .error text

/-- Adds a directive; one with the same name gives way to it. -/
def Directive.insert (directives : List Directive) (d : Directive) : List Directive :=
  if directives.any (·.name = d.name) then directives.map fun e => if e.name = d.name then d else e
  else directives ++ [d]

namespace Filter

/-- Errors pass and nothing else. -/
def errorsOnly : Filter where
  directives := [⟨none, Level.error.rank⟩]
  pattern := none

/-- A filter from directives; an empty list is no choice. -/
def ofDirectives (directives : List Directive) (pattern : Option Pattern.Matcher) : Filter :=
  if directives.isEmpty then { errorsOnly with pattern } else { directives, pattern }

/-- The warning for a part of a specification that means nothing. -/
def warning (part : String) : String :=
  "warning: invalid logging spec " ++ part ++ ", ignoring it"

/-- The pattern after a slash, or a warning if it is refused. -/
def readPattern (text : String) : Option Pattern.Matcher × List String :=
  match Pattern.Matcher.read text with
  | .ok m => (some m, [])
  | .error refusal => (none, ["warning: invalid regex filter - " ++ refusal.message ++ ", ignoring it"])

/-- The filter of a specification, and a warning for each part that means nothing; that for the pattern comes
last. -/
def read (spec : String) : Filter × List String :=
  match spec.splitOn "/" with
  | directives :: rest =>
    if rest.length ≤ 1 then
      let parts := ((directives.splitOn ",").map Blank.trimmed).filter (!·.isEmpty)
      let readings := parts.map Directive.read
      let good := readings.filterMap fun | .ok d => some d | .error _ => none
      let bad := readings.filterMap fun | .ok _ => none | .error part => some (warning ("'" ++ part ++ "'"))
      let (pattern, refused) := (rest.head?.map readPattern).getD (none, [])
      (ofDirectives (good.foldl Directive.insert []) pattern, bad ++ refused)
    else (errorsOnly, [warning ("'" ++ spec ++ "' (too many '/'s)")])
  | [] => (errorsOnly, [])

def nameLength (d : Directive) : Nat :=
  (d.name.getD "").utf8ByteSize

/-- The directive that decides on records from an origin. -/
def decisive? (f : Filter) (origin : String) : Option Directive :=
  (f.directives.mergeSort fun a b => nameLength a ≤ nameLength b).reverse.find? fun d =>
    d.name.all fun name => name.toList.isPrefixOf origin.toList

def passes (f : Filter) (r : Record) : Bool :=
  (f.decisive? r.origin).any (r.level.rank ≤ ·.rank)
    && f.pattern.all (·.occursIn r.message)

end Filter

/-- A record as a line of a log, with the level filled up to five columns. -/
def Record.filedLine (r : Record) : String :=
  let level := r.level.name
  "[" ++ level ++ String.ofList (List.replicate (5 - level.length) ' ') ++ " " ++ r.origin ++ "] " ++ r.message

end Chip8.Log
