import Chip8.Terminal.Event
import Chip8.Text.Integer

/-!
# From typed bytes to events

A terminal sends a printable character as its UTF-8 bytes, a control key as one byte, and other keys as sequences
that begin with Esc. Bytes are read one at a time: a sequence that is not finished waits for more bytes, and one
that means nothing is dropped as a whole. A lone Esc is the Esc key when no byte follows it.

In a control sequence that begins with a digit the last byte alone names the key, whatever stands before it: the
keys held together with it make no difference. Only the numbers before `~`, of a mouse report and of the cursor's
place are read.
-/

namespace Chip8.Terminal

/-- What the bytes of a sequence amount to so far. -/
inductive Reading
  /-- More bytes are needed. -/
  | incomplete
  /-- The sequence is finished and means something. -/
  | finished (item : Received)
  /-- The sequence is finished and means nothing. -/
  | dropped
deriving DecidableEq, Repr

namespace Reading

def key (k : Key) : Reading :=
  finished (.event (.key k))

/-- A finished sequence that is an event if it means anything. -/
def ofEvent? : Option Event → Reading
  | some e => finished (.event e)
  | none => dropped

end Reading

/-- The number of bytes that a UTF-8 character with this first byte has. -/
def utf8Length? (first : UInt8) : Option Nat :=
  if first < 0x80 then some 1
  else if 0xc0 ≤ first ∧ first < 0xe0 then some 2
  else if 0xe0 ≤ first ∧ first < 0xf0 then some 3
  else if 0xf0 ≤ first ∧ first < 0xf8 then some 4
  else none

def utf8Text? (bytes : List UInt8) : Option String :=
  String.fromUTF8? (ByteArray.mk bytes.toArray)

def readCharacter (bytes : List UInt8) : Reading :=
  match utf8Text? bytes with
  | some text =>
    match text.toList with
    | c :: _ => .key (.char c)
    | [] => .dropped
  | none =>
    match bytes with
    | [] => .incomplete
    | first :: rest =>
      match utf8Length? first with
      | none => .dropped
      | some length =>
        if rest.all (fun b => b &&& 0xc0 = 0x80) && rest.length + 1 < length then .incomplete else .dropped

/-- A sequence that does not begin with Esc: a control key or a character. Ctrl with a letter is the letter. -/
def readPlain : List UInt8 → Reading
  | [] => .incomplete
  | first :: rest =>
    if first = 0x0d then .key .enter
    else if first = 0x09 then .key .tab
    else if first = 0x7f then .key .backspace
    else if first = 0x00 then .key (.char ' ')
    else if first ≤ 0x1a then .key (.char (Char.ofNat (first.toNat - 0x01 + 'a'.toNat)))
    else if 0x1c ≤ first ∧ first ≤ 0x1f then .key (.char (Char.ofNat (first.toNat - 0x1c + '4'.toNat)))
    else readCharacter (first :: rest)

/-- What the button byte of a mouse report says: the buttons in bits 0, 1, 6 and 7, held keys in bits 2 to 4, and
whether the mouse moved in bit 5. -/
def mouseButton? (code : Nat) : Option (MouseAction × Modifiers) :=
  let modifiers : Modifiers := ⟨code.testBit 2, code.testBit 4, code.testBit 3⟩
  let action : Option MouseAction :=
    match code % 4 + code / 64 % 4 * 4, code.testBit 5 with
    | 0, false => some (.down .left)
    | 1, false => some (.down .middle)
    | 2, false => some (.down .right)
    | 0, true => some (.drag .left)
    | 1, true => some (.drag .middle)
    | 2, true => some (.drag .right)
    | 3, false => some (.up .left)
    | 3, true | 4, true | 5, true => some .moved
    | 4, false => some .scrollUp
    | 5, false => some .scrollDown
    | _, _ => none
  action.map (·, modifiers)

/-- A mouse event; reports count columns and rows from 1. -/
def mouseEvent? (code column row : Nat) : Option Event :=
  (mouseButton? code).map fun (action, modifiers) => .mouse ⟨action, column - 1, row - 1, modifiers⟩

/-- The parameters of a control sequence: texts between semicolons. -/
def parameters? (bytes : List UInt8) : Option (List String) :=
  (utf8Text? bytes).map (·.splitOn ";")

/-- A parameter of a control sequence as a number. -/
def parameter? (most : Nat) (texts : List String) (position : Nat) : Option Nat :=
  (texts[position]?).bind (Integer.natural? most)

/-- The button, column and row of a mouse report in decimal. -/
def decimalMouse? (bytes : List UInt8) (base : Nat) : Option Event := do
  let texts ← parameters? bytes
  let code ← parameter? 255 texts 0
  let column ← parameter? 65535 texts 1
  let row ← parameter? 65535 texts 2
  if code < base then none else mouseEvent? (code - base) column row

/-- A mouse report that ends in `M` for a press and in `m` for a release. -/
def readTaggedMouse (bytes : List UInt8) : Reading :=
  match bytes.getLast? with
  | some 0x4d => .ofEvent? (decimalMouse? bytes.dropLast 0)
  | some 0x6d =>
    .ofEvent? ((decimalMouse? bytes.dropLast 0).map fun
      | .mouse ⟨.down button, column, row, modifiers⟩ => .mouse ⟨.up button, column, row, modifiers⟩
      | other => other)
  | _ => .incomplete

/-- A mouse report of three bytes, each above its value by 32. -/
def readPackedMouse : List UInt8 → Reading
  | code :: column :: row :: _ =>
    if code < 32 then .dropped
    else .ofEvent? (mouseEvent? (code.toNat - 32) (column.toNat - 32) (row.toNat - 32))
  | _ => .incomplete

/-- The key that a number before `~` names. -/
def numberedKey? (number : Nat) : Option Key :=
  if number = 1 ∨ number = 7 then some .home
  else if number = 2 then some .insert
  else if number = 3 then some .delete
  else if number = 4 ∨ number = 8 then some .endKey
  else if number = 5 then some .pageUp
  else if number = 6 then some .pageDown
  else if 11 ≤ number ∧ number ≤ 15 then some (.function (number - 10))
  else if 17 ≤ number ∧ number ≤ 21 then some (.function (number - 11))
  else if 23 ≤ number ∧ number ≤ 26 then some (.function (number - 12))
  else if 28 ≤ number ∧ number ≤ 29 then some (.function (number - 15))
  else if 31 ≤ number ∧ number ≤ 34 then some (.function (number - 17))
  else none

/-- The key that the last letter of a control sequence names. -/
def letteredKey? (last : UInt8) : Option Key :=
  match last.toNat with
  | 0x41 => some .up
  | 0x42 => some .down
  | 0x43 => some .right
  | 0x44 => some .left
  | 0x46 => some .endKey
  | 0x48 => some .home
  | 0x50 => some (.function 1)
  | 0x51 => some (.function 2)
  | 0x53 => some (.function 4)
  | _ => none

/-- Whether parameters are the row and the column of the cursor. -/
def isCursorPlace (body : List UInt8) : Bool :=
  (parameters? body).any fun texts =>
    (parameter? 65535 texts 0).isSome && (parameter? 65535 texts 1).isSome

/-- The key of a control sequence that ends in `~`. -/
def tildeKey? (body : List UInt8) : Option Key := do
  let texts ← parameters? body
  let number ← parameter? 255 texts 0
  numberedKey? number

/-- A control sequence that begins with a digit, after Esc and `[`. It ends with a byte from 64 to 126, which is at
least its second one. -/
def readNumbered (bytes : List UInt8) : Reading :=
  match bytes.length, bytes.getLast? with
  | 0, _ | 1, _ | _, none => .incomplete
  | _, some last =>
    let body := bytes.dropLast
    if last < 64 ∨ 126 < last then .incomplete
    else if last = 0x4d then .ofEvent? (decimalMouse? body 32)
    else if last = 0x7e then .ofEvent? ((tildeKey? body).map .key)
    else if last = 0x52 then if isCursorPlace body then .finished .cursorPlace else .dropped
    else .ofEvent? ((letteredKey? last).map .key)

/-- A control sequence after Esc and `[`. -/
def readControl : List UInt8 → Reading
  | [] => .incomplete
  | first :: rest =>
    match first.toNat with
    | 0x41 => .key .up
    | 0x42 => .key .down
    | 0x43 => .key .right
    | 0x44 => .key .left
    | 0x46 => .key .endKey
    | 0x48 => .key .home
    | 0x5a => .key .backTab
    | 0x4d => readPackedMouse rest
    | 0x3c => readTaggedMouse rest
    | 0x5b =>
      match rest with
      | [] => .incomplete
      | letter :: _ =>
        if 0x41 ≤ letter ∧ letter ≤ 0x45 then .key (.function (letter.toNat - 0x40)) else .dropped
    | _ => if 0x30 ≤ first ∧ first ≤ 0x39 then readNumbered (first :: rest) else .dropped

/-- A sequence, with the answer to whether more bytes follow it. Esc before a character is Alt with it. -/
def readSequence (more : Bool) : List UInt8 → Reading
  | 0x1b :: [] => if more then .incomplete else .key .escape
  | 0x1b :: 0x1b :: _ => .key .escape
  | 0x1b :: 0x4f :: [] => .incomplete
  | 0x1b :: 0x4f :: letter :: _ =>
    if 0x50 ≤ letter ∧ letter ≤ 0x53 then .key (.function (letter.toNat - 0x4f)) else .dropped
  | 0x1b :: 0x5b :: rest => readControl rest
  | 0x1b :: rest => readPlain rest
  | bytes => readPlain bytes

/-- What typed bytes amount to, after the bytes of an unfinished sequence, and the bytes that are unfinished then;
`more` tells whether further bytes are known to follow. -/
def decodeBytes (more : Bool) (unfinished : List UInt8) : List UInt8 → List Received × List UInt8
  | [] => ([], unfinished)
  | b :: rest =>
    match readSequence (more || !rest.isEmpty) (unfinished ++ [b]) with
    | .incomplete => decodeBytes more (unfinished ++ [b]) rest
    | .dropped => decodeBytes more [] rest
    | .finished item =>
      let after := decodeBytes more [] rest
      (item :: after.1, after.2)

end Chip8.Terminal
