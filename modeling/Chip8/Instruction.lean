/-!
# Instructions

The CHIP-8 instruction set. A register operand has a type of its own, so that an instruction of the machine
(registers `V0` to `VF`) and one read from unchecked fields (any register number) share one definition.
-/

namespace Chip8

/-- One of the sixteen general registers. -/
abbrev Reg := Fin 16

/-- A hexadecimal digit is less than sixteen. -/
theorem Reg.mod_lt (n : Nat) : n % 16 < 16 :=
  Nat.mod_lt n (by decide)

/-- The register that the lowest hexadecimal digit of a number names. -/
def Reg.ofNat (n : Nat) : Reg :=
  ⟨n % 16, Reg.mod_lt n⟩

/-- What is computed from two registers `Vx` and `Vy` into `Vx`. -/
inductive AluOp
  /-- `Vx := Vy`. -/
  | copy
  | or
  | and
  | xor
  /-- The flag is the carry. -/
  | add
  /-- `Vx - Vy`; the flag is set when nothing is borrowed. -/
  | sub
  /-- The flag is the bit shifted out. -/
  | shiftRight
  /-- `Vy - Vx`; the flag is set when nothing is borrowed. -/
  | subReverse
  /-- The flag is the bit shifted out. -/
  | shiftLeft
deriving DecidableEq, Repr

inductive SkipWhen (ρ : Type)
  | equalsByte (x : ρ) (value : UInt8)
  | differsFromByte (x : ρ) (value : UInt8)
  | equalsRegister (x y : ρ)
  | differsFromRegister (x y : ρ)
  | keyDown (x : ρ)
  | keyUp (x : ρ)
deriving DecidableEq, Repr

/-- An instruction whose register operands are of type `ρ`. -/
inductive Instruction (ρ : Type)
  /-- 00E0. -/
  | clearScreen
  /-- 00EE. -/
  | returnFromCall
  /-- 0nnn, a routine in the machine code of the host computer; it is not run. -/
  | machineRoutine (address : UInt16)
  /-- 1nnn. -/
  | jump (address : UInt16)
  /-- 2nnn. -/
  | call (address : UInt16)
  /-- 3xnn, 4xnn, 5xy0, 9xy0, Ex9E and ExA1. -/
  | skip (condition : SkipWhen ρ)
  /-- 6xnn. -/
  | loadByte (x : ρ) (value : UInt8)
  /-- 7xnn; no flag. -/
  | addByte (x : ρ) (value : UInt8)
  /-- 8xy0 to 8xy7 and 8xyE. -/
  | alu (op : AluOp) (x y : ρ)
  /-- Annn. -/
  | loadIndex (address : UInt16)
  /-- Bnnn. -/
  | jumpOffset (address : UInt16)
  /-- Cxnn. -/
  | random (x : ρ) (mask : UInt8)
  /-- Dxyn. -/
  | draw (x y : ρ) (rows : UInt8)
  /-- Fx07. -/
  | readDelay (x : ρ)
  /-- Fx0A. -/
  | awaitKey (x : ρ)
  /-- Fx15. -/
  | writeDelay (x : ρ)
  /-- Fx18. -/
  | writeSound (x : ρ)
  /-- Fx1E. -/
  | addIndex (x : ρ)
  /-- Fx29. -/
  | pointToGlyph (x : ρ)
  /-- Fx33. -/
  | storeDecimal (x : ρ)
  /-- Fx55. -/
  | storeRegisters (x : ρ)
  /-- Fx65. -/
  | loadRegisters (x : ρ)
deriving DecidableEq, Repr

variable {ρ σ : Type}

/-- Renames the registers of a skip condition. -/
def SkipWhen.map (f : ρ → σ) : SkipWhen ρ → SkipWhen σ
  | .equalsByte x v => .equalsByte (f x) v
  | .differsFromByte x v => .differsFromByte (f x) v
  | .equalsRegister x y => .equalsRegister (f x) (f y)
  | .differsFromRegister x y => .differsFromRegister (f x) (f y)
  | .keyDown x => .keyDown (f x)
  | .keyUp x => .keyUp (f x)

/-- Renames the registers of an instruction. -/
def Instruction.map (f : ρ → σ) : Instruction ρ → Instruction σ
  | .clearScreen => .clearScreen
  | .returnFromCall => .returnFromCall
  | .machineRoutine a => .machineRoutine a
  | .jump a => .jump a
  | .call a => .call a
  | .skip c => .skip (c.map f)
  | .loadByte x v => .loadByte (f x) v
  | .addByte x v => .addByte (f x) v
  | .alu op x y => .alu op (f x) (f y)
  | .loadIndex a => .loadIndex a
  | .jumpOffset a => .jumpOffset a
  | .random x mask => .random (f x) mask
  | .draw x y rows => .draw (f x) (f y) rows
  | .readDelay x => .readDelay (f x)
  | .awaitKey x => .awaitKey (f x)
  | .writeDelay x => .writeDelay (f x)
  | .writeSound x => .writeSound (f x)
  | .addIndex x => .addIndex (f x)
  | .pointToGlyph x => .pointToGlyph (f x)
  | .storeDecimal x => .storeDecimal (f x)
  | .storeRegisters x => .storeRegisters (f x)
  | .loadRegisters x => .loadRegisters (f x)

end Chip8
