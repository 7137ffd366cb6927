import Chip8.Proofs.Interpreter.Steps

/-!
# Failed steps

A failed step changes nothing, and it is final: nothing that a host can do between steps touches what the fault
depends on.
-/

namespace Chip8.Interpreter

variable {γ : Type} [RandomSource γ] {i : Interpreter γ} {fault : Fault}

theorem stepFault_act (action : Action) (h : i.machine.stepFault? = some fault) :
    (i.act action).2.machine.stepFault? = some fault := by
  cases action with
  | step => rw [act, step_of_fault h]; exact h
  -- the fault is read off memory, stack, index and program counter, which no other action touches
  | tick | setKey | acknowledge => exact h

/-- A failed step changes nothing, and whatever is done after it, every later step fails with the same fault and
changes nothing. -/
theorem failed_step_final (h : i.step.1 = .error fault) :
    i.step.2 = i ∧
      ∀ actions : List Action, (i.run (.step :: actions)).step = (.error fault, i.run (.step :: actions)) := by
  have hf := step_eq_error_iff.1 h
  constructor
  · rw [step_of_fault hf]
  · intro actions
    exact step_of_fault (run_invariant (I := fun i => i.machine.stepFault? = some fault)
      (fun _ action => stepFault_act action) (.step :: actions) hf)

theorem failed_step_final_full_stack :
    ∃ i : Interpreter Random.Scripted, start [0x22, 0x00] { words := [] } {} = .ok i ∧
      let full := i.run (List.replicate 16 .step)
      full.step.1 = .error (.stackOverflow 0x200) ∧ full.step.2 = full ∧
        (full.run [.step, .tick, .setKey 3 true, .step]).step =
          (.error (.stackOverflow 0x200), full.run [.step, .tick, .setKey 3 true, .step]) := by
  refine ⟨_, rfl, ?_⟩
  intro full
  have h : full.step.1 = .error (.stackOverflow 0x200) := step_eq_error_iff.2 (by decide +kernel)
  exact ⟨h, (failed_step_final h).1, (failed_step_final h).2 [.tick, .setKey 3 true, .step]⟩

end Chip8.Interpreter
