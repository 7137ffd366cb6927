import Chip8.Instruction
import Chip8.Text.Numeral

/-!
# Assembly text

An instruction is written as an operation and its operands, as in `LD V3, 0x12`. Several instructions share an
operation and differ in the shape of their operands.
-/

namespace Chip8

/-- An operand as the assembler sees it. -/
inductive Operand
  | register (number : Nat)
  | address (value : UInt16)
  | byte (value : UInt8)
  /-- A count of rows, written in decimal. -/
  | count (value : UInt8)
  | index
  /-- The memory that the index register points at. -/
  | atIndex
  | delayTimer
  | soundTimer
  | key
  | font
  | decimalDigits
deriving DecidableEq, Repr

def Operand.text : Operand → String
  | .register number => "V" ++ Numeral.upperHex number
  | .address value => Numeral.address value.toNat
  | .byte value => Numeral.byte value.toNat
  | .count value => Numeral.decimal value.toNat
  | .index => "I"
  | .atIndex => "[I]"
  | .delayTimer => "DT"
  | .soundTimer => "ST"
  | .key => "K"
  | .font => "F"
  | .decimalDigits => "B"

def AluOp.operation : AluOp → String
  | .copy => "LD"
  | .or => "OR"
  | .and => "AND"
  | .xor => "XOR"
  | .add => "ADD"
  | .sub => "SUB"
  | .shiftRight => "SHR"
  | .subReverse => "SUBN"
  | .shiftLeft => "SHL"

namespace SkipWhen

/-- The operation of a skip: a condition and its negation differ in one letter. -/
def operation : SkipWhen Nat → String
  | equalsByte .. | equalsRegister .. => "SE"
  | differsFromByte .. | differsFromRegister .. => "SNE"
  | keyDown .. => "SKP"
  | keyUp .. => "SKNP"

def operands : SkipWhen Nat → List Operand
  | equalsByte x v | differsFromByte x v => [.register x, .byte v]
  | equalsRegister x y | differsFromRegister x y => [.register x, .register y]
  | keyDown x | keyUp x => [.register x]

end SkipWhen

namespace Instruction

def operation : Instruction Nat → String
  | clearScreen => "CLS"
  | returnFromCall => "RET"
  | machineRoutine _ => "SYS"
  | jump _ | jumpOffset _ => "JP"
  | call _ => "CALL"
  | skip c => c.operation
  | alu op _ _ => op.operation
  | random .. => "RND"
  | draw .. => "DRW"
  | addByte .. | addIndex _ => "ADD"
  | loadByte .. | loadIndex _ | readDelay _ | awaitKey _ | writeDelay _ | writeSound _ | pointToGlyph _
  | storeDecimal _ | storeRegisters _ | loadRegisters _ => "LD"

/-- The operands of an instruction, target first. -/
def operands : Instruction Nat → List Operand
  | clearScreen | returnFromCall => []
  | machineRoutine a | jump a | call a => [.address a]
  | skip c => c.operands
  | loadByte x v | addByte x v | random x v => [.register x, .byte v]
  | alu _ x y => [.register x, .register y]
  | loadIndex a => [.index, .address a]
  | jumpOffset a => [.register 0, .address a]
  | draw x y rows => [.register x, .register y, .count rows]
  | readDelay x => [.register x, .delayTimer]
  | awaitKey x => [.register x, .key]
  | writeDelay x => [.delayTimer, .register x]
  | writeSound x => [.soundTimer, .register x]
  | addIndex x => [.index, .register x]
  | pointToGlyph x => [.font, .register x]
  | storeDecimal x => [.decimalDigits, .register x]
  | storeRegisters x => [.atIndex, .register x]
  | loadRegisters x => [.register x, .atIndex]

/-- Operands after their operation: the first after a space, each further one after a comma. -/
def joinOperands : List Operand → String
  | [] => ""
  | first :: rest => " " ++ first.text ++ String.join (rest.map fun operand => ", " ++ operand.text)

/-- The assembly text of an instruction with any register numbers. -/
def assembly (i : Instruction Nat) : String :=
  i.operation ++ joinOperands i.operands

/-- The assembly text of an instruction of the machine. -/
def text (i : Instruction Reg) : String :=
  (i.map Fin.val).assembly

end Instruction

end Chip8
