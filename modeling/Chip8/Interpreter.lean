import Chip8.ByteSource
import Chip8.Instruction.Decode
import Chip8.Machine.Execute

/-!
# The interpreter

A machine with its random source and its dialect. A step fetches, decodes and executes one instruction; a word that
means nothing is passed over. Operations answer with their result and with the interpreter they leave, whether they
succeed or not.
-/

namespace Chip8

/-- A machine, its random source and its dialect. -/
structure Interpreter (γ : Type) where
  machine : Machine
  random : γ
  dialect : Dialect

namespace Interpreter

variable {γ : Type}

/-- An interpreter at the start of a program, if the program fits. -/
def start (program : List UInt8) (random : γ) (dialect : Dialect) : Except Fault (Interpreter γ) :=
  (Machine.start program).map fun machine => { machine, random, dialect }

def startLog (program : List UInt8) : List Log.Record :=
  Ram.initial.loadLog program

/-- An interpreter at the start of a program that is read from a source. A failure to read comes before the question
whether the program fits. -/
def startFrom (source : ByteSource) (random : γ) (dialect : Dialect) : Except Fault (Interpreter γ) :=
  match source.readAll with
  | .ok program => start program random dialect
  | .error e => .error (.io e)

def startFromLog (source : ByteSource) : List Log.Record :=
  match source.readAll with
  | .ok program => startLog program
  | .error _ => []

/-- Executes an instruction and moves the program counter. -/
def execute [RandomSource γ] (i : Interpreter γ) (instruction : Instruction Reg) :
    Except Fault Unit × Interpreter γ :=
  let effect := i.machine.perform i.random i.dialect instruction
  match effect.advance with
  | .ok advance =>
    (.ok (),
      { i with machine := { effect.machine with pc := advance.target i.machine.pc }, random := effect.random })
  | .error fault => (.error fault, { i with machine := effect.machine, random := effect.random })

/-- Passes over a word that means nothing. -/
def passOver (i : Interpreter γ) : Interpreter γ :=
  { i with machine := { i.machine with pc := i.machine.pc + 2 } }

/-- What a step leaves: its result, the interpreter after it, and its records. -/
structure StepReport (γ : Type) where
  result : Except Fault Unit
  after : Interpreter γ
  log : List Log.Record

/-- Fetches, decodes and executes one instruction. The word is reported before it is executed, and execution may have
something to report after that; without a word to fetch there is nothing to report. -/
def takeStep [RandomSource γ] (i : Interpreter γ) : StepReport γ :=
  match i.machine.fetch with
  | .error fault => { result := .error fault, after := i, log := [] }
  | .ok word =>
    match Instruction.decode word with
    | some instruction =>
      let executed := i.execute instruction
      { result := executed.1
        after := executed.2
        log := .executing i.machine.pc word instruction :: i.machine.performLog instruction }
    | none => { result := .ok (), after := i.passOver, log := [.unknownWord i.machine.pc word] }

def step [RandomSource γ] (i : Interpreter γ) : Except Fault Unit × Interpreter γ :=
  (i.takeStep.result, i.takeStep.after)

/-- What the next step reports. -/
def stepLog [RandomSource γ] (i : Interpreter γ) : List Log.Record :=
  i.takeStep.log

/-- Changes the machine without executing anything. -/
def modifyMachine (i : Interpreter γ) (f : Machine → Machine) : Interpreter γ :=
  { i with machine := f i.machine }

end Interpreter

/-- What can be done to an interpreter: a step, and what a host does between steps. -/
inductive Action
  | step
  | tick
  | setKey (number : Nat) (down : Bool)
  | acknowledge
deriving DecidableEq, Repr

namespace Interpreter

variable {γ : Type} [RandomSource γ]

/-- One action. Only a step can fail. -/
def act (i : Interpreter γ) : Action → Except Fault Unit × Interpreter γ
  | .step => i.step
  | .tick => (.ok (), i.modifyMachine .tick)
  | .setKey number down => (.ok (), i.modifyMachine (·.setKey number down))
  | .acknowledge => (.ok (), i.modifyMachine .acknowledge)

def actLog (i : Interpreter γ) : Action → List Log.Record
  | .step => i.stepLog
  | _ => []

/-- The interpreter after actions in order. A failed step does not end them. -/
def run (i : Interpreter γ) (actions : List Action) : Interpreter γ :=
  actions.foldl (fun i action => (i.act action).2) i

/-- The results of actions in order. -/
def results (i : Interpreter γ) : List Action → List (Except Fault Unit)
  | [] => []
  | action :: rest => (i.act action).1 :: (i.act action).2.results rest

/-- What actions in order report. -/
def runLog (i : Interpreter γ) : List Action → List Log.Record
  | [] => []
  | action :: rest => i.actLog action ++ (i.act action).2.runLog rest

end Interpreter

end Chip8
