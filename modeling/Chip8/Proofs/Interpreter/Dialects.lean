import Chip8.Proofs.Interpreter.Executions

/-!
# Dialects

Every switch of a dialect belongs to a family of words (`Switch.Family`), and an instruction reads at most one switch,
that of the family its word is in (`family_of_switch`). So two dialects make no difference to a run that fetches no word
of the family of a switch that they set differently (`dialects_agree_off_families`).
-/

namespace Chip8

inductive Switch
  | shiftReadsVy
  | blockMovesIndex
  | logicClearsFlag
  | jumpReadsVx
deriving DecidableEq, Repr

def Dialect.setting (d : Dialect) : Switch → Bool
  | .shiftReadsVy => d.shiftReadsVy
  | .blockMovesIndex => d.blockMovesIndex
  | .logicClearsFlag => d.logicClearsFlag
  | .jumpReadsVx => d.jumpReadsVx

/-- The words that a switch is about: 8xy6 and 8xyE; Fx55 and Fx65; 8xy1, 8xy2 and 8xy3; Bnnn. -/
def Switch.Family (word : UInt16) : Switch → Prop
  | .shiftReadsVy => word.toNat / 0x1000 = 0x8 ∧ (word.toNat % 0x10 = 0x6 ∨ word.toNat % 0x10 = 0xe)
  | .blockMovesIndex => word.toNat / 0x1000 = 0xf ∧ (word.toNat % 0x100 = 0x55 ∨ word.toNat % 0x100 = 0x65)
  | .logicClearsFlag =>
    word.toNat / 0x1000 = 0x8 ∧
      (word.toNat % 0x10 = 0x1 ∨ word.toNat % 0x10 = 0x2 ∨ word.toNat % 0x10 = 0x3)
  | .jumpReadsVx => word.toNat / 0x1000 = 0xb

/-! ## Switches and instructions -/

/-- The switch that 8xyn reads. -/
def AluOp.switch? : AluOp → Option Switch
  | .or | .and | .xor => some .logicClearsFlag
  | .shiftRight | .shiftLeft => some .shiftReadsVy
  | .copy | .add | .sub | .subReverse => none

def Instruction.switch? : Instruction Reg → Option Switch
  | .alu op _ _ => op.switch?
  | .jumpOffset _ => some .jumpReadsVx
  | .storeRegisters _ | .loadRegisters _ => some .blockMovesIndex
  | _ => none

/-- Two dialects agree on the switch that an instruction reads. -/
def Dialect.AgreeOn (d d' : Dialect) (instruction : Instruction Reg) : Prop :=
  ∀ s, instruction.switch? = some s → d.setting s = d'.setting s

theorem family_of_switch {word : UInt16} {instruction : Instruction Reg} {s : Switch}
    (he : instruction.EncodedBy word) (hs : instruction.switch? = some s) : s.Family word := by
  have hn := he.2
  cases instruction with
  | alu op x y =>
    have hx := x.isLt
    have hy := y.isLt
    cases op <;> cases hs <;> simp only [Instruction.number, AluOp.digit] at hn <;>
      simp only [Switch.Family] <;> omega
  | jumpOffset address =>
    have ha : address.toNat < 0x1000 := he.1
    cases hs
    simp only [Instruction.number] at hn
    simp only [Switch.Family]
    omega
  | storeRegisters x | loadRegisters x =>
    have hx := x.isLt
    cases hs
    simp only [Instruction.number] at hn
    simp only [Switch.Family]
    omega
  | _ => cases hs

section Perform

variable {d d' : Dialect}

theorem AluOp.result_congr {op : AluOp} (h : ∀ s, op.switch? = some s → d.setting s = d'.setting s) (a b : UInt8) :
    op.result d a b = op.result d' a b := by
  cases op with
  | shiftRight | shiftLeft =>
    have hs : d.shiftReadsVy = d'.shiftReadsVy := h .shiftReadsVy rfl
    simp only [AluOp.result, hs]
  | _ => rfl

theorem AluOp.flag?_congr {op : AluOp} (h : ∀ s, op.switch? = some s → d.setting s = d'.setting s) (a b : UInt8) :
    op.flag? d a b = op.flag? d' a b := by
  cases op with
  | shiftRight | shiftLeft =>
    have hs : d.shiftReadsVy = d'.shiftReadsVy := h .shiftReadsVy rfl
    simp only [AluOp.flag?, hs]
  | or | and | xor =>
    have hl : d.logicClearsFlag = d'.logicClearsFlag := h .logicClearsFlag rfl
    simp only [AluOp.flag?, hl]
  | _ => rfl

theorem Machine.indexAfterBlock_congr (h : d.blockMovesIndex = d'.blockMovesIndex) (m : Machine) (x : Reg) :
    m.indexAfterBlock d x = m.indexAfterBlock d' x := by
  simp only [Machine.indexAfterBlock, h]

theorem Machine.perform_congr {γ : Type} [RandomSource γ] {instruction : Instruction Reg}
    (h : d.AgreeOn d' instruction) (m : Machine) (random : γ) :
    m.perform random d instruction = m.perform random d' instruction := by
  cases instruction with
  | alu op x y => simp only [perform, compute, AluOp.result_congr h, AluOp.flag?_congr h]
  | jumpOffset address =>
    have hj : d.jumpReadsVx = d'.jumpReadsVx := h .jumpReadsVx rfl
    simp only [perform, hj]
  | storeRegisters x | loadRegisters x =>
    simp only [perform, indexAfterBlock_congr (h .blockMovesIndex rfl)]
  | _ => rfl

end Perform

namespace Interpreter

variable {γ : Type} [RandomSource γ] {i : Interpreter γ} {dialect : Dialect}

/-! ## Runs -/

def withDialect (i : Interpreter γ) (dialect : Dialect) : Interpreter γ :=
  { i with dialect }

theorem step_withDialect (h : i.FetchesOnly (i.dialect.AgreeOn dialect) [.step]) :
    (i.withDialect dialect).step = (i.step.1, i.step.2.withDialect dialect) := by
  apply step_comm (f := (·.withDialect dialect)) h
  · rfl
  · rfl
  · intro instruction hagree
    have hp := Machine.perform_congr hagree i.machine i.random
    simp only [execute, withDialect, ← hp]
    cases (i.machine.perform i.random i.dialect instruction).advance <;> rfl

theorem act_withDialect {action : Action} (h : i.FetchesOnly (i.dialect.AgreeOn dialect) [action]) :
    (i.withDialect dialect).act action = ((i.act action).1, (i.act action).2.withDialect dialect) := by
  cases action with
  | step => exact step_withDialect h
  | tick | setKey | acknowledge => rfl

theorem run_withDialect {actions : List Action} (h : i.FetchesOnly (i.dialect.AgreeOn dialect) actions) :
    (i.withDialect dialect).run actions = (i.run actions).withDialect dialect ∧
      (i.withDialect dialect).results actions = i.results actions := by
  induction actions generalizing i with
  | nil => exact ⟨rfl, rfl⟩
  | cons action rest ih =>
    obtain ⟨hnow, hlater⟩ := fetchesOnly_cons.1 h
    rw [← i.dialect_act action] at hlater
    obtain ⟨hrun, hresults⟩ := ih hlater
    have ha := act_withDialect hnow
    constructor
    · rw [run_cons, run_cons, ha, hrun]
    · rw [results, results, ha, hresults]

theorem fetchesOnly_agreeOn {actions : List Action}
    (h : ∀ word ∈ i.words actions, ∀ s : Switch, i.dialect.setting s ≠ dialect.setting s → ¬ s.Family word) :
    i.FetchesOnly (i.dialect.AgreeOn dialect) actions := by
  intro word hw instruction he s hs
  by_cases heq : i.dialect.setting s = dialect.setting s
  · exact heq
  · exact absurd (family_of_switch he hs) (h word hw s heq)

/-- If a run fetches no word of the family of a switch that another dialect sets differently, then under the other
dialect everything is the same: after any number of actions the machine and the random source, and the results of all
actions. -/
theorem dialects_agree_off_families (i : Interpreter γ) (dialect : Dialect) (actions : List Action)
    (h : ∀ word ∈ i.words actions, ∀ s : Switch, i.dialect.setting s ≠ dialect.setting s → ¬ s.Family word) :
    (∀ n, (i.withDialect dialect).run (actions.take n) = { i.run (actions.take n) with dialect }) ∧
      (i.withDialect dialect).results actions = i.results actions := by
  have hagree := fetchesOnly_agreeOn h
  -- the words of the first `n` actions are among those of all
  refine ⟨?_, (run_withDialect hagree).2⟩
  intro n
  have hsplit : i.FetchesOnly (i.dialect.AgreeOn dialect) (actions.take n ++ actions.drop n) := by
    rwa [List.take_append_drop]
  exact (run_withDialect ((fetchesOnly_append _ _).1 hsplit).1).1

/-- The dialects differ on jumps with an offset and on blocks of registers. The run shifts, draws a random number and
combines registers; at a jump with an offset the two part. -/
theorem dialects_agree_off_families_until_jump :
    ∃ i : Interpreter Random.Scripted,
      start [0x60, 0x05, 0x80, 0x06, 0xc2, 0xff, 0x80, 0x21, 0xb2, 0x00] { words := [0x1234] }
        { shiftReadsVy := true } = .ok i ∧
      let dialect : Dialect := { shiftReadsVy := true, jumpReadsVx := true, blockMovesIndex := true }
      let actions : List Action := [.step, .step, .tick, .step, .setKey 3 true, .step]
      (i.withDialect dialect).run actions = { i.run actions with dialect } ∧
        (i.withDialect dialect).results actions = i.results actions ∧
        ((i.withDialect dialect).run (actions ++ [.step])).machine.pc ≠ (i.run (actions ++ [.step])).machine.pc := by
  obtain ⟨i, hstart, hdialect, hwords, hpart⟩ : ∃ i : Interpreter Random.Scripted,
      start [0x60, 0x05, 0x80, 0x06, 0xc2, 0xff, 0x80, 0x21, 0xb2, 0x00] { words := [0x1234] }
        { shiftReadsVy := true } = .ok i ∧
      let dialect : Dialect := { shiftReadsVy := true, jumpReadsVx := true, blockMovesIndex := true }
      let actions : List Action := [.step, .step, .tick, .step, .setKey 3 true, .step]
      i.dialect = { shiftReadsVy := true } ∧
        (i.words actions).all (fun word => word.toNat / 0x1000 ≠ 0xf && word.toNat / 0x1000 ≠ 0xb) = true ∧
        ((i.withDialect dialect).run (actions ++ [.step])).machine.pc ≠ (i.run (actions ++ [.step])).machine.pc :=
    ⟨_, rfl, rfl, by decide +kernel⟩
  obtain ⟨hrun, hresults⟩ := dialects_agree_off_families i
    { shiftReadsVy := true, jumpReadsVx := true, blockMovesIndex := true }
    [.step, .step, .tick, .step, .setKey 3 true, .step] <| by
      intro word hw s hs hfamily
      have hother := List.all_eq_true.1 hwords word hw
      simp only [Bool.and_eq_true, decide_eq_true_eq] at hother
      rw [hdialect] at hs
      cases s with
      | shiftReadsVy | logicClearsFlag => exact hs rfl
      | blockMovesIndex => exact hother.1 hfamily.1
      | jumpReadsVx => exact hother.2 hfamily
  exact ⟨i, hstart, hrun 6, hresults, hpart⟩

end Interpreter

end Chip8
