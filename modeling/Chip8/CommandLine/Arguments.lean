import Chip8.Settings
import Chip8.Text.Integer

/-!
# Command line arguments

One program file, options with a value (`--frames 3` or `--frames=3`) and flags. Nothing may be given twice, a
value does not begin with a minus sign unless it follows an equals sign, and `--` ends the options.
-/

namespace Chip8.CommandLine

inductive ValueOption
  | speed
  | frames
  | seed
deriving DecidableEq, Repr

/-- Options without a value. -/
inductive Flag
  | mute
  | shiftReadsVy
  | blockMovesIndex
  | logicClearsFlag
  | jumpReadsVx
deriving DecidableEq, Repr

def ValueOption.ofName? : String → Option ValueOption
  | "speed" => some .speed
  | "frames" => some .frames
  | "seed" => some .seed
  | _ => none

def Flag.ofName? : String → Option Flag
  | "mute" => some .mute
  | "shift-uses-vy" => some .shiftReadsVy
  | "load-store-bumps-index" => some .blockMovesIndex
  | "logic-resets-vf" => some .logicClearsFlag
  | "jump-uses-vx" => some .jumpReadsVx
  | _ => none

/-- The value that a text gives to an option, if it is in the option's range. -/
def ValueOption.value? : ValueOption → String → Option Nat
  | speed => Integer.signedNatural? 4294967295
  | frames | seed => Integer.natural? 18446744073709551615

inductive Argument
  | file (name : String)
  | valued (option : ValueOption) (attached : Option String)
  | flag (flag : Flag)
  | help
  | endOfOptions
  | unknown
deriving DecidableEq, Repr

/-- Whether an argument cannot be a value or a file name before the options have ended. -/
def looksLikeOption (text : String) : Bool :=
  match text.toList with
  | '-' :: _ :: _ => true
  | _ => false

/-- An option with its name and the text after the equals sign, if there is one. -/
def Argument.ofLong (name : String) (attached : Option String) : Argument :=
  match ValueOption.ofName? name, Flag.ofName? name, attached with
  | some given, _, attached => .valued given attached
  | none, some given, none => .flag given
  | none, none, none => if name = "help" then .help else .unknown
  | _, _, _ => .unknown

def Argument.ofText (text : String) : Argument :=
  match text.toList with
  | ['-', '-'] => .endOfOptions
  | '-' :: '-' :: rest =>
    let name := String.ofList (rest.takeWhile (· ≠ '='))
    match rest.dropWhile (· ≠ '=') with
    | [] => .ofLong name none
    | _ :: value => .ofLong name (some (String.ofList value))
  | '-' :: 'h' :: _ => .help
  | '-' :: _ :: _ => .unknown
  | _ => .file text

/-- Why arguments were not accepted. -/
inductive Refusal
  /-- The user asks for help. -/
  | helpWanted
  | misuse
deriving DecidableEq, Repr

/-- What was given so far. -/
structure Given where
  file : Option String := none
  values : List (ValueOption × Nat) := []
  flags : List Flag := []
deriving DecidableEq, Repr

namespace Given

/-- Takes a file name, unless it is empty or the second. -/
def addFile (g : Given) (name : String) : Except Refusal Given :=
  if g.file.isSome ∨ name = "" then .error .misuse else .ok { g with file := some name }

/-- Takes the value of an option, unless it is out of range or the second. -/
def addValue (g : Given) (option : ValueOption) (text : String) : Except Refusal Given :=
  match option.value? text, g.values.lookup option with
  | some value, none => .ok { g with values := (option, value) :: g.values }
  | _, _ => .error .misuse

/-- Takes a flag, unless it was given before. -/
def addFlag (g : Given) (flag : Flag) : Except Refusal Given :=
  if flag ∈ g.flags then .error .misuse else .ok { g with flags := flag :: g.flags }

/-- Takes arguments in order. -/
def addAll (g : Given) : List String → Except Refusal Given
  | [] => .ok g
  | text :: rest =>
    match Argument.ofText text with
    | .file name => do (← g.addFile name).addAll rest
    | .flag flag => do (← g.addFlag flag).addAll rest
    | .valued option (some value) => do (← g.addValue option value).addAll rest
    | .valued option none =>
      match rest with
      | value :: rest =>
        if looksLikeOption value then .error .misuse
        else do (← g.addValue option value).addAll rest
      | [] => .error .misuse
    | .endOfOptions => rest.foldlM addFile g
    | .help => .error .helpWanted
    | .unknown => .error .misuse

def value? (g : Given) (option : ValueOption) : Option Nat :=
  g.values.lookup option

end Given

/-- What the command line asks for. -/
structure Arguments where
  file : String
  mute : Bool
  settings : Settings
deriving DecidableEq, Repr

/-- The settings that were given, with defaults for the others. -/
def Given.settings (g : Given) : Settings where
  cyclesPerFrame := (g.value? .speed).getD 10
  maxFrames := g.value? .frames
  seed := (g.value? .seed).map UInt64.ofNat
  dialect :=
    { shiftReadsVy := g.flags.contains .shiftReadsVy
      blockMovesIndex := g.flags.contains .blockMovesIndex
      logicClearsFlag := g.flags.contains .logicClearsFlag
      jumpReadsVx := g.flags.contains .jumpReadsVx }

/-- Reads the command line. -/
def Arguments.read (texts : List String) : Except Refusal Arguments := do
  let given ← ({} : Given).addAll texts
  match given.file with
  | some file => return { file, mute := given.flags.contains .mute, settings := given.settings }
  | none => .error .misuse

end Chip8.CommandLine
