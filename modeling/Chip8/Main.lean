import Chip8.CommandLine.Session

/-!
# The program

Runs a session on the terminal that the program was started from. This is the only module that reads, writes and
waits; what happens in a turn of the session is decided by `CommandLine.playTurn`.
-/

namespace Chip8.Main

open CommandLine Host

/-- What is said to arguments that are not accepted. -/
def usage : String :=
  "Run a CHIP-8 program in the terminal. Esc quits.\n\n" ++
  "Usage: chip8 [OPTIONS] <ROM>\n\n" ++
  "Options:\n" ++
  "  --speed <SPEED>            instructions per 60Hz frame (default: 10)\n" ++
  "  --frames <FRAMES>          stop after this many frames (default: run until Esc)\n" ++
  "  --seed <SEED>              seed for the random number instruction\n" ++
  "  --mute                     don't use the PC speaker\n" ++
  "  --shift-uses-vy            8xy6/8xyE shift VY into VX\n" ++
  "  --load-store-bumps-index   Fx55/Fx65 advance I\n" ++
  "  --logic-resets-vf          8xy1/8xy2/8xy3 reset VF\n" ++
  "  --jump-uses-vx             Bxnn jumps to xnn + VX"

/-- The alternate page, and no cursor. -/
def takeTerminal : String := "\x1b[?1049h\x1b[?25l"

/-- The cursor, and the scrolling text. -/
def giveTerminalBack : String := "\x1b[?25h\x1b[?1049l"

/-- A page as control sequences and text; white cells are full blocks. -/
def pageText (page : Terminal.Page) : String :=
  "\x1b[H" ++ "\r\n".intercalate (page.lines.map fun line => line.map fun c =>
    if c = '#' then '█' else if c = '.' then ' ' else c)

/-- The cause of a failure of the operating system. -/
def ioErrorOf (e : IO.Error) : IoError :=
  match e with
  | .noFileOrDirectory _ _ _ => .system .notFound
  | .inappropriateType _ code _ =>
    if code = 21 then .system .isADirectory
    else if code = 20 then .system .notADirectory
    else .refused .other (toString e)
  | .invalidArgument _ code _ => if code = 36 then .system .nameTooLong else .refused .other (toString e)
  | _ => .refused .other (toString e)

/-- Reads a file; a directory can be opened but not read. -/
def readFile (path : String) : IO (Except IoError ByteSource) := do
  try
    return .ok (ByteSource.whole (← IO.FS.readBinFile path).toList)
  catch e =>
    match ioErrorOf e with
    | .system .isADirectory => return .ok [.error (.system .isADirectory)]
    | cause => return .error cause

/-- A seed that nobody chose. -/
def unpredictableSeed : IO UInt64 := do
  let bytes ← IO.getRandomBytes 8
  return bytes.foldl (fun seed b => seed * 256 + b.toUInt64) 0

/-- Collects what is typed, until the input ends. -/
partial def listen (input : IO.FS.Stream) (typed : IO.Ref (List UInt8)) : IO Unit := do
  let bytes ← input.read 64
  if bytes.isEmpty then return
  typed.modify (· ++ bytes.toList)
  listen input typed

/-- Plays turn by turn, with what was typed in between, and waits out the rest of each frame. -/
partial def play {σ : Type} [Speaker σ] (filter : Log.Filter) (typed : IO.Ref (List UInt8)) (now : Playing σ) :
    IO Outcome := do
  let began ← IO.monoNanosNow
  let bytes ← typed.modifyGet fun bytes => (bytes, [])
  let (lines, next) := playTurn filter bytes now
  lines.forM fun line => IO.eprintln line
  match next with
  | .inl outcome => return outcome
  | .inr later =>
    let output ← IO.getStdout
    if later.host.journal.contains (.called .draw true) then
      output.putStr (pageText later.host.display.page)
    if later.host.journal.contains (.called .beep true) then
      output.putStr "\x07"
    output.flush
    let spent := (← IO.monoNanosNow) - began
    IO.sleep (UInt32.ofNat ((later.host.settings.frameNanoseconds - spent) / 1000000))
    play filter typed later

def session (filter : Log.Filter) (arguments : Arguments) (interpreter : Interpreter Random.Seeded) :
    IO Outcome := do
  let output ← IO.getStdout
  let typed ← IO.mkRef []
  let _ ← IO.asTask (listen (← IO.getStdin) typed) .dedicated
  output.putStr takeTerminal
  output.flush
  let outcome ←
    if arguments.mute then
      play filter typed { host := hostOf arguments.settings ⟨140, 70⟩ .silent ({} : SilentSpeaker) interpreter }
    else
      play filter typed { host := hostOf arguments.settings ⟨140, 70⟩ .silent ({} : BuiltInSpeaker) interpreter }
  output.putStr giveTerminalBack
  output.flush
  return outcome

end Chip8.Main

open Chip8 Chip8.CommandLine Chip8.Main

/-- Loads the program that the arguments name and runs it. -/
def main (texts : List String) : IO UInt32 := do
  let (filter, warnings) := Log.Filter.read ((← IO.getEnv "RUST_LOG").getD "")
  warnings.forM fun line => IO.eprintln line
  match Arguments.read texts with
  | .error refusal =>
    IO.println usage
    return UInt32.ofNat (Outcome.refusal refusal).exitCode
  | .ok arguments =>
    let seed ← unpredictableSeed
    let outcome ← match ← readFile arguments.file with
      | .error e => pure (Outcome.failure e.diagnostic)
      | .ok source => do
        (logLines filter (Interpreter.startFromLog source)).forM fun line => IO.eprintln line
        match Interpreter.startFrom source (randomOf arguments.settings seed) arguments.settings.dialect with
        | .error fault => pure (Outcome.failure fault.diagnostic)
        | .ok interpreter => Chip8.Main.session filter arguments interpreter
    outcome.lines.forM fun line => IO.eprintln line
    return UInt32.ofNat outcome.exitCode
