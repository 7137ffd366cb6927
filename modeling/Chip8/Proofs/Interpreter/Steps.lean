import Chip8.Interpreter
import Chip8.Proofs.Machine.Perform

/-!
# Steps and runs

A step fails, passes over a word without meaning, or executes an instruction that can be executed (`Stepped`). A
property that every action keeps is kept by every run.
-/

namespace Chip8

/-- Why the next step fails, if it does. -/
def Machine.stepFault? (m : Machine) : Option Fault :=
  match m.fetch with
  | .error fault => some fault
  | .ok word => (Instruction.decode word).bind m.fault?

namespace Interpreter

variable {γ : Type} [RandomSource γ]

/-! ## One step -/

/-- An instruction was executed, and the program counter moved. -/
def afterInstruction (i : Interpreter γ) (instruction : Instruction Reg) (advance : Advance) : Interpreter γ :=
  let effect := i.machine.perform i.random i.dialect instruction
  { i with machine := { effect.machine with pc := advance.target i.machine.pc }, random := effect.random }

/-- What a step can be. -/
inductive Stepped (i : Interpreter γ) : Except Fault Unit × Interpreter γ → Prop
  | failed {fault} : i.machine.stepFault? = some fault → Stepped i (.error fault, i)
  | passedOver {word} : i.machine.fetch = .ok word → Instruction.decode word = none →
      Stepped i (.ok (), i.passOver)
  | executed {word instruction advance} : i.machine.fetch = .ok word →
      Instruction.decode word = some instruction → i.machine.fault? instruction = none →
      (i.machine.perform i.random i.dialect instruction).advance = .ok advance →
      Stepped i (.ok (), i.afterInstruction instruction advance)

theorem step_stepped (i : Interpreter γ) : Stepped i i.step := by
  cases hf : i.machine.fetch with
  | error fault =>
    simp only [step, takeStep, hf]
    exact .failed (by simp [Machine.stepFault?, hf])
  | ok word =>
    cases hd : Instruction.decode word with
    | none =>
      simp only [step, takeStep, hf, hd]
      exact .passedOver hf hd
    | some instruction =>
      simp only [step, takeStep, hf, hd, execute]
      cases hn : i.machine.fault? instruction with
      | some fault =>
        rw [Machine.perform_of_fault hn]
        exact .failed (by simp [Machine.stepFault?, hf, hd, hn])
      | none =>
        obtain ⟨advance, ha⟩ := Machine.advance_of_no_fault i.random i.dialect hn
        rw [ha]
        exact .executed hf hd hn ha

theorem step_of_decode {i : Interpreter γ} {word : UInt16} {instruction : Instruction Reg}
    (hf : i.machine.fetch = .ok word) (hd : Instruction.decode word = some instruction) :
    i.step = i.execute instruction := by
  simp [step, takeStep, hf, hd]

theorem step_of_fault {i : Interpreter γ} {fault : Fault} (h : i.machine.stepFault? = some fault) :
    i.step = (.error fault, i) := by
  have hs := i.step_stepped
  generalize i.step = result at hs ⊢
  cases hs with
  | failed h' => rw [h] at h'; cases h'; rfl
  | passedOver hf hd => simp [Machine.stepFault?, hf, hd] at h
  | executed hf hd hn => simp [Machine.stepFault?, hf, hd, hn] at h

theorem step_of_no_fault {i : Interpreter γ} (h : i.machine.stepFault? = none) : i.step.1 = .ok () := by
  have hs := i.step_stepped
  generalize i.step = result at hs ⊢
  cases hs with
  | failed h' => rw [h] at h'; cases h'
  | passedOver | executed => rfl

/-- Whether a step fails, and why, is decided by the machine before it. -/
theorem step_eq_error_iff {i : Interpreter γ} {fault : Fault} :
    i.step.1 = .error fault ↔ i.machine.stepFault? = some fault := by
  constructor
  · intro h
    cases hm : i.machine.stepFault? with
    | none => rw [step_of_no_fault hm] at h; cases h
    | some other => rw [step_of_fault hm] at h; cases h; rfl
  · intro h
    rw [step_of_fault h]

theorem step_of_ite {i : Interpreter γ} {fault : Fault} {P : Prop} [Decidable P]
    (h : i.machine.stepFault? = if P then some fault else none) :
    i.step.1 = if P then .error fault else .ok () := by
  split at h
  · rw [step_of_fault h, if_pos ‹_›]
  · rw [step_of_no_fault h, if_neg ‹_›]

theorem eq_ok_of_toOption {ε α : Type} {result : Except ε α} {a : α} (h : result.toOption = some a) :
    result = .ok a := by
  cases result with
  | error => cases h
  | ok => cases h; rfl

/-! ## The start -/

omit [RandomSource γ] in
theorem exists_of_start {program : List UInt8} {random : γ} {dialect : Dialect} {i : Interpreter γ}
    (h : start program random dialect = .ok i) :
    ∃ ram, Ram.initial.load program = .ok ram ∧ i = { machine := .withMemory ram, random, dialect } := by
  cases hl : Ram.initial.load program with
  | error fault => simp [start, Machine.start, hl, Except.map] at h
  | ok ram =>
    simp only [start, Machine.start, hl, Except.map, Except.ok.injEq] at h
    exact ⟨ram, rfl, h.symm⟩

/-! ## Runs -/

theorem dialect_act (i : Interpreter γ) (action : Action) : (i.act action).2.dialect = i.dialect := by
  cases action with
  | step =>
    have hs := i.step_stepped
    rw [act]
    generalize i.step = result at hs ⊢
    cases hs <;> rfl
  | tick | setKey | acknowledge => rfl

@[simp] theorem run_nil (i : Interpreter γ) : i.run [] = i := rfl

@[simp] theorem run_cons (i : Interpreter γ) (action : Action) (rest : List Action) :
    i.run (action :: rest) = (i.act action).2.run rest := rfl

theorem run_append (i : Interpreter γ) (first second : List Action) :
    i.run (first ++ second) = (i.run first).run second :=
  List.foldl_append

theorem run_invariant {I : Interpreter γ → Prop} (hact : ∀ i action, I i → I (i.act action).2)
    {i : Interpreter γ} (actions : List Action) (hi : I i) : I (i.run actions) := by
  induction actions generalizing i with
  | nil => exact hi
  | cons action rest ih => exact ih (hact i action hi)

theorem dialect_run (i : Interpreter γ) (actions : List Action) : (i.run actions).dialect = i.dialect :=
  run_invariant (I := fun j => j.dialect = i.dialect) (fun j action => (j.dialect_act action).trans) actions rfl

end Interpreter

end Chip8
