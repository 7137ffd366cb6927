import Chip8.Proofs.Interpreter.Executions

/-!
# Random words over whole runs

The random source is read by Cxnn alone, one word each time (`random_step`), so the words of a stream are used up in
order, and their number on a run is the number of Cxnn that it executes (`random_run`).
-/

namespace Chip8

/-- Whether an instruction is Cxnn. -/
def Instruction.isRandom : Instruction Reg → Bool
  | .random _ _ => true
  | _ => false

theorem random_footprint (dialect : Dialect) (instruction : Instruction Reg) :
    (instruction.footprint dialect).random = instruction.isRandom := by
  cases instruction <;> rfl

namespace Interpreter

section Source

variable {γ : Type} [RandomSource γ] {i : Interpreter γ}

/-- The number of Cxnn that a run executes. -/
def randoms (i : Interpreter γ) (actions : List Action) : Nat :=
  (i.executions actions).countP Instruction.isRandom

theorem random_step_of_random {x : Reg} {mask : UInt8} (h : i.executed? = some (.random x mask)) :
    i.step.2.random = (RandomSource.next i.random).2 ∧
      i.step.2.machine.reg x = (RandomSource.next i.random).1.toUInt8 &&& mask ∧
      ∀ r ≠ x, i.step.2.machine.reg r = i.machine.reg r := by
  have hw := within_of_executed h
  obtain ⟨advance, _, hs⟩ := step_of_executed h
  refine ⟨?_, ?_, ?_⟩
  · rw [hs]
    rfl
  · rw [hs]
    exact Machine.reg_setReg_self ..
  · intro r hr
    exact hw.registers r (beq_eq_false_iff_ne.2 hr)

theorem random_step_of_not_random (h : ∀ instruction, i.executed? = some instruction → instruction.isRandom = false) :
    i.step.2.random = i.random := by
  cases he : i.executed? with
  | none => exact (within_of_not_executed he).random rfl
  | some instruction =>
    apply (within_of_executed he).random
    rw [random_footprint]
    exact h instruction he

end Source

variable {i : Interpreter Random.Stream}

theorem random_step (i : Interpreter Random.Stream) :
    i.step.2.random =
      { i.random with position := i.random.position + i.executed?.toList.countP Instruction.isRandom } := by
  cases he : i.executed? with
  | none => rw [random_step_of_not_random (by simp [he])]; rfl
  | some instruction =>
    cases hr : instruction.isRandom with
    | false =>
      rw [random_step_of_not_random (by simp [he, hr])]
      simp [hr]
    | true =>
      cases instruction <;> cases hr
      rw [(random_step_of_random he).1]
      rfl

theorem random_run (i : Interpreter Random.Stream) (actions : List Action) :
    (i.run actions).random = { i.random with position := i.random.position + i.randoms actions } := by
  induction actions generalizing i with
  | nil => rfl
  | cons action rest ih =>
    rw [run_cons, ih]
    cases action with
    | step => simp [act, random_step, randoms, executions, observe, Nat.add_assoc]
    | tick | setKey | acknowledge => rfl

/-- On a run from the start of a program, with any stream of random words: the run takes exactly as many words as it
executes Cxnn, and the Cxnn that comes after `k` others takes word `k`. It leaves in `Vx` what the mask leaves of the
lowest byte of that word, and no other register changes. -/
theorem random_words_in_order {program : List UInt8} {dialect : Dialect} {word : Nat → UInt32}
    (h : start program ({ word } : Random.Stream) dialect = .ok i) (actions : List Action) :
    let now := i.run actions
    let k := i.randoms actions
    now.random = { word, position := k } ∧
    ∀ x mask, now.executed? = some (.random x mask) →
      now.step.2.machine.reg x = (word k).toUInt8 &&& mask ∧
        ∀ r ≠ x, now.step.2.machine.reg r = now.machine.reg r := by
  intro now k
  have hrun : now.random = { word, position := k } := by
    obtain ⟨ram, _, rfl⟩ := exists_of_start h
    simp [now, k, random_run]
  refine ⟨hrun, ?_⟩
  intro x mask he
  obtain ⟨-, hx, hr⟩ := random_step_of_random he
  rw [hrun] at hx
  exact ⟨hx, hr⟩

/-- A zero mask, a word without meaning and a return without a call, before the third random number. -/
theorem random_words_in_order_third :
    ∃ i : Interpreter Random.Stream,
      start [0xff, 0xff, 0xc0, 0x00, 0xc1, 0xff, 0xc2, 0x0f, 0x00, 0xee]
        { word := fun k => UInt32.ofNat (0x1111 * k + 0xab70) } {} = .ok i ∧
      let actions : List Action := [.step, .step, .tick, .step, .setKey 3 true]
      i.randoms actions = 2 ∧ (i.run actions).random.position = 2 ∧
        (i.run actions).step.2.machine.reg (.ofNat 2) = 0x02 ∧
        (i.run actions).step.2.machine.reg (.ofNat 1) = 0x81 ∧
        (i.run (actions ++ [.step, .step, .step])).random.position = 3 := by
  obtain ⟨i, hstart, hk, hlast, he, hother⟩ : ∃ i : Interpreter Random.Stream,
      start [0xff, 0xff, 0xc0, 0x00, 0xc1, 0xff, 0xc2, 0x0f, 0x00, 0xee]
        { word := fun k => UInt32.ofNat (0x1111 * k + 0xab70) } {} = .ok i ∧
      let actions : List Action := [.step, .step, .tick, .step, .setKey 3 true]
      i.randoms actions = 2 ∧ i.randoms (actions ++ [.step, .step, .step]) = 3 ∧
        (i.run actions).executed? = some (.random (.ofNat 2) 0x0f) ∧
        (i.run actions).machine.reg (.ofNat 1) = 0x81 :=
    ⟨_, rfl, by decide +kernel⟩
  obtain ⟨hrandom, hreg⟩ := random_words_in_order hstart [.step, .step, .tick, .step, .setKey 3 true]
  obtain ⟨hafter, _⟩ := random_words_in_order hstart
    ([.step, .step, .tick, .step, .setKey 3 true] ++ [.step, .step, .step])
  obtain ⟨hx, hr⟩ := hreg _ _ he
  refine ⟨i, hstart, hk, ?_, ?_, ?_, ?_⟩
  · exact (congrArg Random.Stream.position hrandom).trans hk
  · rw [hx, hk]
    decide
  · rw [hr (.ofNat 1) (by decide)]
    exact hother
  · exact (congrArg Random.Stream.position hafter).trans hlast

end Interpreter

end Chip8
