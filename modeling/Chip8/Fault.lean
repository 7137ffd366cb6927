import Chip8.Text.Escaped
import Chip8.Text.Numeral

/-!
# Faults

What stops a machine or its host, as causes. `message` is the text for a reader, `diagnostic` the text that shows
the cause with its fields. Words that the instruction set does not define are not faults.
-/

namespace Chip8

/-- What the operating system answers instead of a file or its bytes. -/
inductive SystemError
  | notFound
  | interrupted
  | notADirectory
  | isADirectory
  | nameTooLong
deriving DecidableEq, Repr

namespace SystemError

def code : SystemError → Nat
  | notFound => 2
  | interrupted => 4
  | notADirectory => 20
  | isADirectory => 21
  | nameTooLong => 36

def name : SystemError → String
  | notFound => "NotFound"
  | interrupted => "Interrupted"
  | notADirectory => "NotADirectory"
  | isADirectory => "IsADirectory"
  | nameTooLong => "InvalidFilename"

/-- The system's own words. -/
def text : SystemError → String
  | notFound => "No such file or directory"
  | interrupted => "Interrupted system call"
  | notADirectory => "Not a directory"
  | isADirectory => "Is a directory"
  | nameTooLong => "File name too long"

end SystemError

/-- How a device failed without the system's doing. -/
inductive RefusalKind
  | invalidInput
  | interrupted
  | other
deriving DecidableEq, Repr

def RefusalKind.name : RefusalKind → String
  | invalidInput => "InvalidInput"
  | interrupted => "Interrupted"
  | other => "Other"

/-- A failure to read or to show something. -/
inductive IoError
  | system (cause : SystemError)
  | refused (kind : RefusalKind) (text : String)
deriving DecidableEq, Repr

namespace IoError

/-- Whether the operation was only interrupted and can be tried again. -/
def isInterruption : IoError → Bool
  | system .interrupted | refused .interrupted _ => true
  | _ => false

def kindName : IoError → String
  | system cause => cause.name
  | refused kind _ => kind.name

/-- The text for a reader. -/
def message : IoError → String
  | system cause => cause.text ++ " (os error " ++ Numeral.decimal cause.code ++ ")"
  | refused _ text => text

/-- The text with all fields. -/
def diagnostic : IoError → String
  | system cause =>
    "Os \x7b code: " ++ Numeral.decimal cause.code ++ ", kind: " ++ cause.name
      ++ ", message: " ++ Escaped.string cause.text ++ " \x7d"
  | refused kind text =>
    "Custom \x7b kind: " ++ kind.name ++ ", error: " ++ Escaped.string text ++ " \x7d"

end IoError

/-- What stops a machine or its host. -/
inductive Fault
  /-- `length` bytes at `address` do not lie inside memory. -/
  | outOfBounds (address length : Nat)
  /-- A call at `pc` with no frame left. -/
  | stackOverflow (pc : UInt16)
  /-- A return at `pc` without a call. -/
  | stackUnderflow (pc : UInt16)
  /-- A program of `length` bytes for a room of `capacity`. -/
  | programTooLarge (length capacity : Nat)
  /-- The speaker failed. -/
  | audio (reason : String)
  /-- A file, the keyboard or the display failed. -/
  | io (error : IoError)
deriving DecidableEq, Repr

namespace Fault

def isStackFault : Fault → Bool
  | stackOverflow _ | stackUnderflow _ => true
  | _ => false

/-- The text for a reader. -/
def message : Fault → String
  | outOfBounds address length =>
    "memory access out of bounds: " ++ Numeral.decimal length ++ " byte(s) at " ++ Numeral.address address
  | stackOverflow pc => "stack overflow calling from " ++ Numeral.address pc.toNat
  | stackUnderflow pc => "stack underflow returning from " ++ Numeral.address pc.toNat
  | programTooLarge length capacity =>
    "program of " ++ Numeral.decimal length ++ " bytes does not fit in " ++ Numeral.decimal capacity
      ++ " bytes of program memory"
  | audio reason => "audio error: " ++ reason
  | io error => "io error: " ++ error.message

/-- The text with all fields. -/
def diagnostic : Fault → String
  | outOfBounds address length =>
    "OutOfBounds \x7b addr: " ++ Numeral.decimal address ++ ", len: " ++ Numeral.decimal length ++ " \x7d"
  | stackOverflow pc => "StackOverflow \x7b pc: " ++ Numeral.decimal pc.toNat ++ " \x7d"
  | stackUnderflow pc => "StackUnderflow \x7b pc: " ++ Numeral.decimal pc.toNat ++ " \x7d"
  | programTooLarge length capacity =>
    "RomTooLarge \x7b len: " ++ Numeral.decimal length ++ ", capacity: " ++ Numeral.decimal capacity ++ " \x7d"
  | audio reason => "Audio(" ++ Escaped.string reason ++ ")"
  | io error => "Io(" ++ error.diagnostic ++ ")"

end Fault

end Chip8
