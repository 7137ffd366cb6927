import Chip8.Fault
import Chip8.Instruction.Assembly
import Chip8.Terminal.Event

/-!
# Log records

What the machine and its host report while they run. A record is a cause with its fields; its level, the part of
the program that it comes from and its text are functions of it.
-/

namespace Chip8.Log

/-- How serious a record is, most serious first. -/
inductive Level
  | error
  | warn
  | info
  | debug
  | trace
deriving DecidableEq, Repr

namespace Level

/-- Rank among the levels; 0 is left for a filter that lets nothing pass. -/
def rank : Level → Nat
  | error => 1
  | warn => 2
  | info => 3
  | debug => 4
  | trace => 5

/-- The name in capitals. -/
def name : Level → String
  | error => "ERROR"
  | warn => "WARN"
  | info => "INFO"
  | debug => "DEBUG"
  | trace => "TRACE"

end Level

/-- Something worth reporting. -/
inductive Record
  /-- A program of `length` bytes is about to be written at `address`. -/
  | loadingProgram (length : Nat) (address : UInt16)
  /-- The word at `pc` is about to be executed. -/
  | executing (pc word : UInt16) (instruction : Instruction Reg)
  /-- The word at `pc` means nothing. -/
  | unknownWord (pc word : UInt16)
  /-- A machine code routine is passed over. -/
  | ignoredRoutine (address pc : UInt16)
  /-- The source of terminal input with this number is watched from now on. -/
  | watching (source : Nat)
  /-- A typed character without a place on the keypad. -/
  | unmappedCharacter (c : Char)
  /-- A typed key that is neither a character nor Esc. -/
  | ignoredKey (key : Terminal.Key)
  /-- A terminal event that is no key. -/
  | ignoredMouse (event : Terminal.MouseEvent)
  /-- A terminal event that is no key either. -/
  | ignoredResize (columns rows : Nat)
  /-- The host loop ended without a fault. -/
  | stopped (frames cycles : Nat)
  /-- The host loop ended with a fault. -/
  | halted (pc : UInt16) (frames : Nat) (fault : Fault)
  /-- The tone could not be stopped when the loop ended. -/
  | toneStuck (reason : String)
deriving DecidableEq, Repr

namespace Record

def level : Record → Level
  | executing .. | watching _ => .trace
  | loadingProgram .. | ignoredRoutine .. | unmappedCharacter _ | ignoredKey _ | ignoredMouse _
  | ignoredResize .. => .debug
  | stopped .. => .info
  | unknownWord .. | toneStuck _ => .warn
  | halted .. => .error

/-- The part of the program that a record comes from. -/
def origin : Record → String
  | loadingProgram .. => "chip8::memory"
  | executing .. | unknownWord .. | ignoredRoutine .. => "chip8::interpreter"
  | watching _ => "mio::poll"
  | unmappedCharacter _ | ignoredKey _ | ignoredMouse _ | ignoredResize .. => "chip8::input"
  | stopped .. | halted .. | toneStuck _ => "chip8::environment"

def message : Record → String
  | loadingProgram length address =>
    "loading " ++ Numeral.decimal length ++ " byte program at " ++ Numeral.address address.toNat
  | executing pc word instruction =>
    Numeral.address pc.toNat ++ ": " ++ Numeral.word word.toNat ++ "  " ++ instruction.text
  | unknownWord pc word =>
    "unknown opcode " ++ Numeral.word word.toNat ++ " at " ++ Numeral.address pc.toNat ++ "; skipping"
  | ignoredRoutine address pc =>
    "ignoring machine code routine " ++ Numeral.address address.toNat ++ " at " ++ Numeral.address pc.toNat
  | watching source =>
    "registering event source with poller: token=Token(" ++ Numeral.decimal source ++ "), interests=READABLE"
  | unmappedCharacter c => "can't map " ++ Escaped.char c ++ " to a COSMAC key"
  | ignoredKey key => "ignoring key " ++ key.name
  | ignoredMouse event => "ignoring event " ++ event.text
  | ignoredResize columns rows =>
    "ignoring event Resize(" ++ Numeral.decimal columns ++ ", " ++ Numeral.decimal rows ++ ")"
  | stopped frames cycles =>
    "stopped after " ++ Numeral.decimal frames ++ " frames (" ++ Numeral.decimal cycles ++ " cycles)"
  | halted pc frames fault =>
    "halted at " ++ Numeral.address pc.toNat ++ " after " ++ Numeral.decimal frames ++ " frames: " ++ fault.message
  | toneStuck reason => "could not stop tone: " ++ reason

/-- Level and text. -/
def line (r : Record) : String :=
  r.level.name ++ " " ++ r.message

end Record

end Chip8.Log
