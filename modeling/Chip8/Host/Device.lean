import Chip8.Fault
import Chip8.Keypad
import Chip8.Log
import Chip8.Raster

/-!
# Devices

What a host needs to know of a display, an input device and a speaker. A device is a state; an operation answers
with its result and with the state it leaves. Devices do not see each other.
-/

namespace Chip8.Host

/-- The operations of devices that a host records. -/
inductive Call
  | poll
  | draw
  | beep
  | stop
deriving DecidableEq, Repr

def Call.name : Call → String
  | poll => "poll"
  | draw => "draw"
  | beep => "beep"
  | stop => "stop"

/-- What one look at an input device gives. -/
structure Polled (ι : Type) where
  result : Except IoError KeyReport
  log : List Log.Record
  after : ι

/-- A device that shows frames. -/
class Display (δ : Type) where
  /-- Shows a whole frame. -/
  draw : δ → Raster → Except IoError Unit × δ

/-- A device that reports keys. -/
class InputDevice (ι : Type) where
  /-- Gathers whatever happened since the last look. -/
  poll : ι → Polled ι

/-- A device that makes the tone. -/
class Speaker (σ : Type) where
  /-- Starts the tone. -/
  beep : σ → Except String Unit × σ
  /-- Stops the tone. -/
  stop : σ → Except String Unit × σ
  /-- Whether the tone sounds. -/
  isBeeping : σ → Bool

end Chip8.Host
