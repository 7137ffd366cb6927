import Chip8.CommandLine.Arguments
import Chip8.Host.Loop
import Chip8.Host.Rehearsal
import Chip8.Host.Terminal
import Chip8.Log.Filter
import Chip8.Random.ChaCha
import Chip8.Text.Lines

/-!
# A session at the command line

From the arguments to the exit code and the lines on the error stream: the program file is opened and read, the
host loop runs on a terminal, and the session ends with a summary or with the fault that stopped it. The loop runs in one
go if all that is typed is there beforehand (`play`), or turn by turn while somebody types (`playTurn`).
-/

namespace Chip8.CommandLine

/-- The answer of the file system to the wish to read a file. -/
abbrev Files := String → Except IoError ByteSource

/-- What a session leaves: its exit code and the lines on the error stream. -/
structure Outcome where
  exitCode : Nat
  lines : List String
deriving DecidableEq, Repr

namespace Outcome

/-- Lines that were written before. -/
def after (earlier : List String) (o : Outcome) : Outcome :=
  { o with lines := earlier ++ o.lines }

/-- The session ends with a fault. -/
def failure (diagnostic : String) : Outcome where
  exitCode := 1
  lines := ["Error: " ++ diagnostic]

/-- The arguments were not accepted. What is said about that is not part of the outcome. -/
def refusal : Refusal → Outcome
  | .helpWanted => ⟨0, []⟩
  | .misuse => ⟨2, []⟩

/-- The last line of a session that ended well. -/
def summaryLine (s : Host.Summary) : String :=
  Numeral.decimal s.frames ++ " frames, " ++ Numeral.decimal s.cycles ++ " cycles"
    ++ if s.quit then " (quit)" else ""

/-- The session ends as its loop did. -/
def ofResult : Except Fault Host.Summary → Outcome
  | .ok s => ⟨0, [summaryLine s]⟩
  | .error fault => failure fault.diagnostic

end Outcome

/-- Columns and rows of the terminal. -/
structure TerminalSize where
  columns : Nat
  rows : Nat
deriving DecidableEq, Repr

def logLines (filter : Log.Filter) (records : List Log.Record) : List String :=
  (records.filter filter.passes).map Log.Record.filedLine

def recordsOf (entries : List Host.Entry) : List Log.Record :=
  entries.filterMap fun
    | .reported record => some record
    | .called .. => none

/-- The host of a session before its first frame. -/
def hostOf {σ : Type} (settings : Settings) (size : TerminalSize) (keyboard : Terminal.Keyboard) (speaker : σ)
    (interpreter : Interpreter Random.Seeded) : Host Random.Seeded Terminal.Viewer Terminal.Keyboard σ where
  interpreter
  display := .start size.columns size.rows 64 32
  input := keyboard
  speaker
  settings

/-- Runs the loop of a session, for at most `fuel` frames. -/
def play {ι σ : Type} [Host.InputDevice ι] [Host.Speaker σ] (fuel : Nat) (filter : Log.Filter)
    (host : Host Random.Seeded Terminal.Viewer ι σ) : Option Outcome :=
  (host.loop fuel).map fun (result, after) =>
    (Outcome.ofResult result).after (logLines filter (recordsOf after.history))

/-- A loop under way on a terminal. -/
abbrev Playing (σ : Type) := Host.Running Random.Seeded Terminal.Viewer Terminal.Keyboard σ

/-- One turn of a session at a terminal where `bytes` were typed since the last turn: the lines of what happens in this
turn, and how the session goes on or ends. -/
def playTurn {σ : Type} [Host.Speaker σ] (filter : Log.Filter) (bytes : List UInt8) (now : Playing σ) :
    List String × (Outcome ⊕ Playing σ) :=
  let host := { now.host with input := now.host.input.type bytes }.forget
  let linesOf (h : Host Random.Seeded Terminal.Viewer Terminal.Keyboard σ) := logLines filter (recordsOf h.history)
  match { now with host }.next with
  | .inl (result, after) => (linesOf after, .inl (.ofResult result))
  | .inr later => (linesOf later.host, .inr later)

/-- Plays a program that was read, with or without sound. -/
def playProgram (fuel : Nat) (filter : Log.Filter) (arguments : Arguments) (size : TerminalSize)
    (typed : List UInt8) (interpreter : Interpreter Random.Seeded) : Option Outcome :=
  let keyboard := Terminal.Keyboard.silent.type typed
  if arguments.mute then
    play fuel filter (hostOf arguments.settings size keyboard ({} : Host.SilentSpeaker) interpreter)
  else
    play fuel filter (hostOf arguments.settings size keyboard ({} : Host.BuiltInSpeaker) interpreter)

/-- The random source of a session; without a seed among the settings it is that of `unseeded`. -/
def randomOf (settings : Settings) (unseeded : UInt64) : Random.Seeded :=
  .ofSeed (settings.seed.getD unseeded)

/-- A session with arguments that were accepted. A file that cannot be opened is not a fault of the machine and
has its own diagnostic. -/
def sessionWith (fuel : Nat) (files : Files) (size : TerminalSize) (typed : List UInt8) (unseeded : UInt64)
    (filter : Log.Filter) (arguments : Arguments) : Option Outcome :=
  match files arguments.file with
  | .error e => some (.failure e.diagnostic)
  | .ok source =>
    let outcome : Option Outcome :=
      match Interpreter.startFrom source (randomOf arguments.settings unseeded) arguments.settings.dialect with
      | .error fault => some (.failure fault.diagnostic)
      | .ok interpreter => playProgram fuel filter arguments size typed interpreter
    outcome.map (.after (logLines filter (Interpreter.startFromLog source)))

/-- A whole session with bytes typed beforehand; `none` if its loop has not ended after `fuel` frames. -/
def session (fuel : Nat) (files : Files) (size : TerminalSize) (typed : List UInt8) (unseeded : UInt64)
    (logSpec : Option String) (texts : List String) : Option Outcome :=
  let (filter, warnings) := Log.Filter.read (logSpec.getD "")
  let outcome : Option Outcome :=
    match Arguments.read texts with
    | .error refusal => some (.refusal refusal)
    | .ok arguments => sessionWith fuel files size typed unseeded filter arguments
  outcome.map (.after (warnings.flatMap Lines.split))

end Chip8.CommandLine
