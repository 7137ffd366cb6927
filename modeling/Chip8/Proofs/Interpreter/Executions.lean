import Chip8.Proofs.Interpreter.Footprint

/-!
# What the steps of a run do

What can be seen at the steps of a run, in order (`observe`): the words that they fetch, their results, the instructions
that they execute. A step writes nothing outside the footprint of the instruction it executes, and only the program
counter if it executes none.
-/

namespace Chip8.Interpreter

variable {γ : Type} [RandomSource γ] {i : Interpreter γ} {instruction : Instruction Reg}

/-- The instruction that the next step executes. There is none if the step fails or its word means nothing. -/
def executed? (i : Interpreter γ) : Option (Instruction Reg) :=
  match i.machine.fetch, i.step.1 with
  | .ok word, .ok () => Instruction.decode word
  | _, _ => none

/-- What a look at every step of a run shows, in order. -/
def observe {α : Type} (look : Interpreter γ → List α) (i : Interpreter γ) : List Action → List α
  | [] => []
  | .step :: rest => look i ++ i.step.2.observe look rest
  | action :: rest => (i.act action).2.observe look rest

/-- The words that the steps of a run fetch. -/
def words (i : Interpreter γ) (actions : List Action) : List UInt16 :=
  i.observe (fun i => i.machine.fetch.toOption.toList) actions

/-- Every instruction whose word the steps of a run fetch has a property, whether it is executed or fails. -/
def FetchesOnly (P : Instruction Reg → Prop) (i : Interpreter γ) (actions : List Action) : Prop :=
  ∀ word ∈ i.words actions, ∀ instruction : Instruction Reg, instruction.EncodedBy word → P instruction

/-- The results of the steps of a run. -/
def stepResults (i : Interpreter γ) (actions : List Action) : List (Except Fault Unit) :=
  i.observe (fun i => [i.step.1]) actions

/-- The instructions that a run executes. -/
def executions (i : Interpreter γ) (actions : List Action) : List (Instruction Reg) :=
  i.observe (fun i => i.executed?.toList) actions

/-! ## One step -/

theorem executed?_eq_some_iff :
    i.executed? = some instruction ↔
      ∃ word, i.machine.fetch = .ok word ∧ instruction.EncodedBy word ∧ i.step.1 = .ok () := by
  simp only [executed?]
  constructor
  · intro h
    split at h
    · rename_i word hf hs
      exact ⟨word, hf, decode_eq_some_iff.1 h, hs⟩
    · cases h
  · rintro ⟨word, hf, he, hs⟩
    rw [hf, hs]
    exact decode_of_encoded he

theorem step_of_executed (h : i.executed? = some instruction) :
    ∃ advance, i.machine.fault? instruction = none ∧ i.step = (.ok (), i.afterInstruction instruction advance) := by
  obtain ⟨word, hf, he, hok⟩ := executed?_eq_some_iff.1 h
  have hd := decode_of_encoded he
  have hs := i.step_stepped
  generalize i.step = result at hok hs ⊢
  cases hs with
  | failed => cases hok
  | passedOver hf' hd' =>
    cases hf.symm.trans hf'
    cases hd.symm.trans hd'
  | executed hf' hd' hn ha =>
    cases hf.symm.trans hf'
    cases hd.symm.trans hd'
    exact ⟨_, hn, rfl⟩

theorem step_of_not_executed (h : i.executed? = none) : i.step.2 = i ∨ i.step.2 = i.passOver := by
  have hs := i.step_stepped
  simp only [executed?] at h
  generalize i.step = result at h hs ⊢
  cases hs with
  | failed => exact .inl rfl
  | passedOver => exact .inr rfl
  | executed hf hd => simp [hf, hd] at h

theorem within_of_executed (h : i.executed? = some instruction) :
    Within (instruction.footprint i.dialect) i i.step.2 := by
  obtain ⟨advance, _, hs⟩ := step_of_executed h
  rw [hs]
  exact i.within_afterInstruction instruction advance

theorem within_of_not_executed (h : i.executed? = none) : Within {} i i.step.2 := by
  rcases step_of_not_executed h with hs | hs <;> rw [hs] <;> constructor <;> intros <;> trivial

/-! ## Runs -/

theorem observe_append {α : Type} (look : Interpreter γ → List α) (i : Interpreter γ) (first second : List Action) :
    i.observe look (first ++ second) = i.observe look first ++ (i.run first).observe look second := by
  induction first generalizing i with
  | nil => rfl
  | cons action rest ih =>
    cases action with
    | step => simp only [List.cons_append, observe, ih, List.append_assoc, run_cons, act]
    | tick | setKey | acknowledge => exact ih _

variable {P Q : Instruction Reg → Prop}

theorem fetchesOnly_append (first second : List Action) :
    i.FetchesOnly P (first ++ second) ↔ i.FetchesOnly P first ∧ (i.run first).FetchesOnly P second := by
  simp only [FetchesOnly, words, observe_append, List.mem_append, or_imp, forall_and]

theorem fetchesOnly_cons {action : Action} {rest : List Action} :
    i.FetchesOnly P (action :: rest) ↔ i.FetchesOnly P [action] ∧ (i.act action).2.FetchesOnly P rest :=
  fetchesOnly_append [action] rest

theorem FetchesOnly.mono {actions : List Action} (h : i.FetchesOnly P actions)
    (hpq : ∀ instruction, P instruction → Q instruction) : i.FetchesOnly Q actions :=
  fun word hw instruction he => hpq instruction (h word hw instruction he)

theorem FetchesOnly.of_decode {word : UInt16} (h : i.FetchesOnly P [.step]) (hf : i.machine.fetch = .ok word)
    (hd : Instruction.decode word = some instruction) : P instruction :=
  h word (by simp [words, observe, hf, Except.toOption]) instruction (decode_eq_some_iff.1 hd)

/-- A change of the interpreter that leaves the word at the program counter alone can be made before a step or after
it, if that is so for the instruction of the word. -/
theorem step_comm {f : Interpreter γ → Interpreter γ} (h : i.FetchesOnly P [.step])
    (hfetch : (f i).machine.fetch = i.machine.fetch) (hpass : (f i).passOver = f i.passOver)
    (hexecute : ∀ instruction, P instruction →
      (f i).execute instruction = ((i.execute instruction).1, f (i.execute instruction).2)) :
    (f i).step = (i.step.1, f i.step.2) := by
  cases hf : i.machine.fetch with
  | error fault => simp only [step, takeStep, hfetch, hf]
  | ok word =>
    cases hd : Instruction.decode word with
    | none => simp only [step, takeStep, hfetch, hf, hd, hpass]
    | some instruction => simp only [step, takeStep, hfetch, hf, hd, hexecute instruction (h.of_decode hf hd)]

end Chip8.Interpreter
