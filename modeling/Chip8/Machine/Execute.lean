import Chip8.Machine
import Chip8.Random
import Chip8.Settings

/-!
# Executing an instruction

An instruction changes the machine and tells how the program counter moves, or it cannot be executed and changes
nothing: every check comes before the first change.
-/

namespace Chip8

/-- How the program counter moves. -/
inductive Advance
  | next
  /-- Past the next instruction. -/
  | skip
  | goto (address : UInt16)
  /-- The same instruction again. -/
  | wait
deriving DecidableEq, Repr

/-- The program counter after a move from `pc`. -/
def Advance.target (pc : UInt16) : Advance → UInt16
  | next => pc + 2
  | skip => pc + 4
  | goto address => address
  | wait => pc

/-- What an instruction leaves behind: the machine, the random source, and how the program counter moves or why
the instruction could not be executed. -/
structure Effect (γ : Type) where
  machine : Machine
  random : γ
  advance : Except Fault Advance

namespace AluOp

/-- The value that 8xyn computes from `Vx` and `Vy`. -/
def result (op : AluOp) (dialect : Dialect) (a b : UInt8) : UInt8 :=
  let shifted := if dialect.shiftReadsVy then b else a
  match op with
  | copy => b
  | or => a ||| b
  | and => a &&& b
  | xor => a ^^^ b
  | add => a + b
  | sub => a - b
  | shiftRight => shifted >>> 1
  | subReverse => b - a
  | shiftLeft => shifted <<< 1

/-- The flag that 8xyn writes after its result, if it writes one. -/
def flag? (op : AluOp) (dialect : Dialect) (a b : UInt8) : Option Bool :=
  let shifted := if dialect.shiftReadsVy then b else a
  match op with
  | copy => none
  | or | and | xor => if dialect.logicClearsFlag then some false else none
  | add => some (256 ≤ a.toNat + b.toNat)
  | sub => some (b ≤ a)
  | shiftRight => some (shifted &&& 1 = 1)
  | subReverse => some (a ≤ b)
  | shiftLeft => some (shifted >>> 7 = 1)

end AluOp

namespace Machine

variable {γ : Type}

/-- The instruction after the next one if a condition holds, otherwise the next one. -/
def skipIf (condition : Bool) : Advance :=
  if condition then .skip else .next

/-- The key that a register names with its low four bits. -/
def keyAt (m : Machine) (x : Reg) : Bool :=
  m.keys.isDown (m.reg x).toNat

def holds (m : Machine) : SkipWhen Reg → Bool
  | .equalsByte x value => m.reg x = value
  | .differsFromByte x value => m.reg x ≠ value
  | .equalsRegister x y => m.reg x = m.reg y
  | .differsFromRegister x y => m.reg x ≠ m.reg y
  | .keyDown x => m.keyAt x
  | .keyUp x => !m.keyAt x

/-- Executes 8xyn: the result first, then the flag, so that the flag wins in the flag register. -/
def compute (m : Machine) (dialect : Dialect) (op : AluOp) (x y : Reg) : Machine :=
  let a := m.reg x
  let b := m.reg y
  let after := m.setReg x (op.result dialect a b)
  match op.flag? dialect a b with
  | some flag => after.setFlag flag
  | none => after

/-- The decimal digits of a byte, hundreds first. -/
def decimalDigits (value : UInt8) : List UInt8 :=
  [value / 100, value / 10 % 10, value % 10]

/-- The index after a block of registers was stored or loaded. -/
def indexAfterBlock (m : Machine) (dialect : Dialect) (x : Reg) : UInt16 :=
  if dialect.blockMovesIndex then m.index + UInt16.ofNat (x + 1) else m.index

/-- Replaces the first registers by bytes, as far as there are bytes. -/
def overlayRegisters (registers : Vector UInt8 16) (bytes : List UInt8) : Vector UInt8 16 :=
  Vector.ofFn fun k => bytes.getD k (registers.get k)

/-- Executes an instruction, but for the program counter. -/
def perform [RandomSource γ] (m : Machine) (random : γ) (dialect : Dialect) : Instruction Reg → Effect γ
  | .clearScreen => ⟨{ m with screen := m.screen.clear, redraw := true }, random, .ok .next⟩
  | .returnFromCall =>
    match m.stack.pop with
    | some (caller, stack) => ⟨{ m with stack }, random, .ok (.goto (caller + 2))⟩
    | none => ⟨m, random, .error (.stackUnderflow m.pc)⟩
  | .machineRoutine _ => ⟨m, random, .ok .next⟩
  | .jump address => ⟨m, random, .ok (.goto address)⟩
  | .call address =>
    match m.stack.push m.pc with
    | some stack => ⟨{ m with stack }, random, .ok (.goto address)⟩
    | none => ⟨m, random, .error (.stackOverflow m.pc)⟩
  | .skip condition => ⟨m, random, .ok (skipIf (m.holds condition))⟩
  | .loadByte x value => ⟨m.setReg x value, random, .ok .next⟩
  | .addByte x value => ⟨m.setReg x (m.reg x + value), random, .ok .next⟩
  | .alu op x y => ⟨m.compute dialect op x y, random, .ok .next⟩
  | .loadIndex address => ⟨{ m with index := address }, random, .ok .next⟩
  | .jumpOffset address =>
    let base := if dialect.jumpReadsVx then m.reg (.ofNat (address >>> 8).toNat) else m.reg (.ofNat 0)
    ⟨m, random, .ok (.goto (address + base.toUInt16))⟩
  | .random x mask =>
    let drawn := RandomSource.next random
    ⟨m.setReg x (drawn.1.toUInt8 &&& mask), drawn.2, .ok .next⟩
  | .draw x y rows =>
    match m.ram.read m.index rows.toNat with
    | .ok sprite =>
      let drawn := m.screen.draw (m.reg x).toNat (m.reg y).toNat sprite
      ⟨{ m with screen := drawn.1, redraw := true }.setFlag drawn.2, random, .ok .next⟩
    | .error fault => ⟨m, random, .error fault⟩
  | .readDelay x => ⟨m.setReg x m.delay, random, .ok .next⟩
  | .awaitKey x =>
    match m.keys.lowest? with
    | some key => ⟨m.setReg x (UInt8.ofNat key), random, .ok .next⟩
    | none => ⟨m, random, .ok .wait⟩
  | .writeDelay x => ⟨{ m with delay := m.reg x }, random, .ok .next⟩
  | .writeSound x => ⟨{ m with sound := m.reg x }, random, .ok .next⟩
  | .addIndex x => ⟨{ m with index := m.index + (m.reg x).toUInt16 }, random, .ok .next⟩
  | .pointToGlyph x => ⟨{ m with index := Font.address (m.reg x) }, random, .ok .next⟩
  | .storeDecimal x =>
    match m.ram.write m.index (decimalDigits (m.reg x)) with
    | .ok ram => ⟨{ m with ram }, random, .ok .next⟩
    | .error fault => ⟨m, random, .error fault⟩
  | .storeRegisters x =>
    match m.ram.write m.index (m.firstRegisters x) with
    | .ok ram => ⟨{ m with ram, index := m.indexAfterBlock dialect x }, random, .ok .next⟩
    | .error fault => ⟨m, random, .error fault⟩
  | .loadRegisters x =>
    match m.ram.read m.index (x + 1) with
    | .ok bytes =>
      ⟨{ m with registers := overlayRegisters m.registers bytes, index := m.indexAfterBlock dialect x }, random,
        .ok .next⟩
    | .error fault => ⟨m, random, .error fault⟩

/-- What the execution of an instruction reports. -/
def performLog (m : Machine) : Instruction Reg → List Log.Record
  | .machineRoutine address => [.ignoredRoutine address m.pc]
  | _ => []

end Machine

end Chip8
