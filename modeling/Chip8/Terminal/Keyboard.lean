import Chip8.Log
import Chip8.Terminal.Decoder
import Chip8.Terminal.HeldKeys

/-!
# The keyboard

A terminal as the input device. Typed bytes wait until they are read, and what was read waits until a look at the
keyboard hands it over. A look reads only if something was typed since the last reading, and then goes on, at most
`readingSize` bytes at a time, until they mean something or nothing is left: what it leaves waits until more is typed.
A report of the cursor's place ends a look, and what follows it is handed over by the next one.
-/

namespace Chip8.Terminal

/-- What an event that presses no key reports. -/
def Event.complaint? : Event → Option Log.Record
  | .key (.char c) => if (keyOf? c).isSome then none else some (.unmappedCharacter c)
  | .key .escape => none
  | .key k => some (.ignoredKey k)
  | .mouse e => some (.ignoredMouse e)
  | .resize columns rows => some (.ignoredResize columns rows)

/-- How many bytes are read at a time at most. -/
def readingSize : Nat := 1204

/-- A terminal as the input device. -/
structure Keyboard where
  /-- Bytes that were not read. -/
  typed : List UInt8
  /-- Something was typed since the last reading. -/
  fresh : Bool
  /-- The bytes of a sequence that is not finished. -/
  unfinished : List UInt8
  /-- What was read and not handed over. -/
  received : List Received
  held : HeldKeys
  /-- The keyboard was looked at before. -/
  watched : Bool

namespace Keyboard

/-- Nothing was typed yet. -/
def silent : Keyboard where
  typed := []
  fresh := false
  unfinished := []
  received := []
  held := .none
  watched := false

def type (k : Keyboard) (bytes : List UInt8) : Keyboard :=
  { k with typed := k.typed ++ bytes, fresh := k.fresh || !bytes.isEmpty }

/-- Reads once. A reading that is full does not know that nothing follows. -/
def readOnce (k : Keyboard) : Keyboard :=
  let bytes := k.typed.take readingSize
  let decoded := decodeBytes (bytes.length = readingSize) k.unfinished bytes
  { k with
    typed := k.typed.drop readingSize
    fresh := false
    unfinished := decoded.2
    received := k.received ++ decoded.1 }

theorem length_typed_readOnce (k : Keyboard) : k.readOnce.typed.length = k.typed.length - readingSize := by
  simp [readOnce]

/-- Reads until something more is received or nothing is left to read. -/
def read (k : Keyboard) : Keyboard :=
  if readingSize < k.typed.length ∧ k.readOnce.received.length = k.received.length then k.readOnce.read
  else k.readOnce
termination_by k.typed.length
decreasing_by
  rename_i more
  rw [length_typed_readOnce]
  have : 0 < readingSize := by decide
  omega

/-- Reads if there is something new, unless a report of the cursor's place waits. -/
def refreshed (k : Keyboard) : Keyboard :=
  if k.fresh && !k.received.contains .cursorPlace then k.read else k

/-- The events that the next look hands over. -/
def waiting (k : Keyboard) : List Event :=
  (k.refreshed.received.takeWhile (· ≠ .cursorPlace)).filterMap Received.event?

/-- One look hands over the events up to a report of the cursor's place, and drops that report. -/
def look (k : Keyboard) : Keyboard :=
  { k.refreshed with
    received := (k.refreshed.received.dropWhile (· ≠ .cursorPlace)).drop 1
    held := (k.held.look k.waiting).held
    watched := true }

/-- What the next look tells. -/
def report (k : Keyboard) : KeyReport :=
  Terminal.report k.held k.waiting

/-- What the next look has to say of the events that press no key. -/
def complaints (k : Keyboard) : List Log.Record :=
  k.waiting.filterMap Event.complaint?

/-- What the next look reports. The first one begins to watch the terminal and its changes of size. -/
def log (k : Keyboard) : List Log.Record :=
  (if k.watched then [] else [.watching 0, .watching 1]) ++ k.complaints

end Keyboard

end Chip8.Terminal
