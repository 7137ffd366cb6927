import Chip8.Instruction

/-!
# From words to instructions

An instruction word is four nibbles. `Nibbles.instruction?` reads them, and also reads fields wider than a nibble
as they are; `Instruction.decode` reads a word, whose fields always are nibbles. Both answer `none` where the
instruction set defines nothing.
-/

namespace Chip8

/-- The four fields of an instruction, most significant first. -/
structure Nibbles where
  op : UInt8
  x : UInt8
  y : UInt8
  n : UInt8
deriving DecidableEq, Repr

namespace Nibbles

def ofWord (word : UInt16) : Nibbles where
  op := (word >>> 12).toUInt8
  x := (word >>> 8 &&& 0xf).toUInt8
  y := (word >>> 4 &&& 0xf).toUInt8
  n := (word &&& 0xf).toUInt8

/-- The three lower fields as an address. Fields wider than a nibble overlap. -/
def nnn (o : Nibbles) : UInt16 :=
  o.x.toUInt16 <<< 8 ||| o.y.toUInt16 <<< 4 ||| o.n.toUInt16

/-- The two lower fields as a byte. -/
def nn (o : Nibbles) : UInt8 :=
  o.y <<< 4 ||| o.n

/-- The operation that the last field of 8xyn names. -/
def aluOp? (o : Nibbles) : Option AluOp :=
  match o.n.toNat with
  | 0x0 => some .copy
  | 0x1 => some .or
  | 0x2 => some .and
  | 0x3 => some .xor
  | 0x4 => some .add
  | 0x5 => some .sub
  | 0x6 => some .shiftRight
  | 0x7 => some .subReverse
  | 0xe => some .shiftLeft
  | _ => none

/-- The 0nnn group: two instructions of the machine, all else a machine code routine. -/
def systemInstruction (o : Nibbles) : Instruction Nat :=
  match o.x.toNat, o.y.toNat, o.n.toNat with
  | 0x0, 0xe, 0x0 => .clearScreen
  | 0x0, 0xe, 0xe => .returnFromCall
  | _, _, _ => .machineRoutine o.nnn

/-- The Exnn group. -/
def keyInstruction? (o : Nibbles) : Option (Instruction Nat) :=
  match o.y.toNat, o.n.toNat with
  | 0x9, 0xe => some (.skip (.keyDown o.x.toNat))
  | 0xa, 0x1 => some (.skip (.keyUp o.x.toNat))
  | _, _ => none

/-- The Fxnn group. -/
def deviceInstruction? (o : Nibbles) : Option (Instruction Nat) :=
  match o.y.toNat, o.n.toNat with
  | 0x0, 0x7 => some (.readDelay o.x.toNat)
  | 0x0, 0xa => some (.awaitKey o.x.toNat)
  | 0x1, 0x5 => some (.writeDelay o.x.toNat)
  | 0x1, 0x8 => some (.writeSound o.x.toNat)
  | 0x1, 0xe => some (.addIndex o.x.toNat)
  | 0x2, 0x9 => some (.pointToGlyph o.x.toNat)
  | 0x3, 0x3 => some (.storeDecimal o.x.toNat)
  | 0x5, 0x5 => some (.storeRegisters o.x.toNat)
  | 0x6, 0x5 => some (.loadRegisters o.x.toNat)
  | _, _ => none

/-- The instruction that the fields name, if there is one. -/
def instruction? (o : Nibbles) : Option (Instruction Nat) :=
  match o.op.toNat with
  | 0x0 => some o.systemInstruction
  | 0x1 => some (.jump o.nnn)
  | 0x2 => some (.call o.nnn)
  | 0x3 => some (.skip (.equalsByte o.x.toNat o.nn))
  | 0x4 => some (.skip (.differsFromByte o.x.toNat o.nn))
  | 0x5 => if o.n = 0 then some (.skip (.equalsRegister o.x.toNat o.y.toNat)) else none
  | 0x6 => some (.loadByte o.x.toNat o.nn)
  | 0x7 => some (.addByte o.x.toNat o.nn)
  | 0x8 => o.aluOp?.map (.alu · o.x.toNat o.y.toNat)
  | 0x9 => if o.n = 0 then some (.skip (.differsFromRegister o.x.toNat o.y.toNat)) else none
  | 0xa => some (.loadIndex o.nnn)
  | 0xb => some (.jumpOffset o.nnn)
  | 0xc => some (.random o.x.toNat o.nn)
  | 0xd => some (.draw o.x.toNat o.y.toNat o.n)
  | 0xe => o.keyInstruction?
  | 0xf => o.deviceInstruction?
  | _ => none

end Nibbles

/-- The instruction of a word, if the instruction set defines one. A nibble is a register number as it is. -/
def Instruction.decode (word : UInt16) : Option (Instruction Reg) :=
  (Nibbles.ofWord word).instruction?.map (Instruction.map Reg.ofNat)

end Chip8
