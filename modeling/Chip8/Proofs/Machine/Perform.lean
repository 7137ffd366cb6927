import Chip8.Machine.Execute

/-!
# What an instruction can do

Whether an instruction can be executed is decided by the stack, the index and the program counter alone (`fault?`),
and an instruction that cannot be executed changes nothing. Of the others, only calls and returns change the stack,
and only drawing instructions change the screen.
-/

namespace Chip8.Machine

variable {γ : Type} [RandomSource γ] {m : Machine} {random : γ} {dialect : Dialect}
variable {instruction : Instruction Reg} {fault : Fault}

/-! ## Faults -/

/-- What is wrong with a block of bytes at the index, if it does not lie inside memory. -/
def blockFault? (m : Machine) (length : Nat) : Option Fault :=
  if Ram.Holds m.index length then none else some (Ram.outside m.index length)

/-- Why an instruction cannot be executed, if it cannot. -/
def fault? (m : Machine) : Instruction Reg → Option Fault
  | .returnFromCall => if m.stack.frames = [] then some (.stackUnderflow m.pc) else none
  | .call _ => if m.stack.frames.length = 16 then some (.stackOverflow m.pc) else none
  | .draw _ _ rows => m.blockFault? rows.toNat
  | .storeDecimal _ => m.blockFault? 3
  | .storeRegisters x | .loadRegisters x => m.blockFault? (x + 1)
  | _ => none

@[simp] theorem length_firstRegisters (m : Machine) (x : Reg) : (m.firstRegisters x).length = x + 1 := by
  have := x.isLt
  rw [firstRegisters, List.length_take, Vector.length_toList]
  omega

theorem blockFault?_eq_some_iff {length : Nat} :
    m.blockFault? length = some fault ↔ ¬ Ram.Holds m.index length ∧ fault = Ram.outside m.index length := by
  rw [blockFault?, Option.ite_none_left_eq_some, Option.some.injEq, eq_comm]

theorem blockFault?_eq_none_iff {length : Nat} : m.blockFault? length = none ↔ Ram.Holds m.index length := by
  simp [blockFault?]

theorem read_of_blockFault {length : Nat} (h : m.blockFault? length = some fault) :
    m.ram.read m.index length = .error fault := by
  obtain ⟨hout, rfl⟩ := blockFault?_eq_some_iff.1 h
  exact if_neg hout

theorem write_of_blockFault (data : List UInt8) (h : m.blockFault? data.length = some fault) :
    m.ram.write m.index data = .error fault := by
  obtain ⟨hout, rfl⟩ := blockFault?_eq_some_iff.1 h
  exact if_neg hout

theorem perform_of_fault (h : m.fault? instruction = some fault) :
    m.perform random dialect instruction = ⟨m, random, .error fault⟩ := by
  cases instruction with
  | returnFromCall =>
    simp only [fault?, Option.ite_none_right_eq_some, Option.some.injEq] at h
    obtain ⟨hs, rfl⟩ := h
    simp [perform, CallStack.pop_eq_none_iff.2 hs]
  | call address =>
    simp only [fault?, Option.ite_none_right_eq_some, Option.some.injEq] at h
    obtain ⟨hs, rfl⟩ := h
    simp [perform, CallStack.push_eq_none_iff.2 hs]
  | draw x y rows => simp [perform, read_of_blockFault h]
  | storeDecimal x => simp [perform, write_of_blockFault (decimalDigits (m.reg x)) h]
  | storeRegisters x =>
    have hw := write_of_blockFault (m.firstRegisters x) (by rwa [length_firstRegisters])
    simp [perform, hw]
  | loadRegisters x => simp [perform, read_of_blockFault h]
  | _ => simp [fault?] at h

theorem read_of_not_blockFault {length : Nat} (h : m.blockFault? length = none) :
    ∃ bytes, m.ram.read m.index length = .ok bytes :=
  ⟨_, if_pos (blockFault?_eq_none_iff.1 h)⟩

theorem write_of_not_blockFault (data : List UInt8) (h : m.blockFault? data.length = none) :
    ∃ ram, m.ram.write m.index data = .ok ram :=
  ⟨_, if_pos (blockFault?_eq_none_iff.1 h)⟩

theorem advance_of_no_fault (random : γ) (dialect : Dialect) (h : m.fault? instruction = none) :
    ∃ advance, (m.perform random dialect instruction).advance = .ok advance := by
  cases instruction with
  | returnFromCall =>
    cases hs : m.stack.pop with
    | none => simp [fault?, CallStack.pop_eq_none_iff.1 hs] at h
    | some popped => exact ⟨.goto (popped.1 + 2), by simp [perform, hs]⟩
  | call address =>
    cases hs : m.stack.push m.pc with
    | none => simp [fault?, CallStack.push_eq_none_iff.1 hs] at h
    | some stack => exact ⟨.goto address, by simp [perform, hs]⟩
  | draw x y rows =>
    obtain ⟨sprite, hr⟩ := read_of_not_blockFault h
    exact ⟨.next, by simp [perform, hr]⟩
  | awaitKey x =>
    cases hk : m.keys.lowest? with
    | none => exact ⟨.wait, by simp [perform, hk]⟩
    | some key => exact ⟨.next, by simp [perform, hk]⟩
  | storeDecimal x =>
    obtain ⟨ram, hw⟩ := write_of_not_blockFault (decimalDigits (m.reg x)) h
    exact ⟨.next, by simp [perform, hw]⟩
  | storeRegisters x =>
    obtain ⟨ram, hw⟩ := write_of_not_blockFault (m.firstRegisters x) (by rwa [length_firstRegisters])
    exact ⟨.next, by simp [perform, hw]⟩
  | loadRegisters x =>
    obtain ⟨bytes, hr⟩ := read_of_not_blockFault h
    exact ⟨.next, by simp [perform, hr]⟩
  | _ => exact ⟨_, rfl⟩

/-! ## What is left alone -/

theorem compute_eq (op : AluOp) (x y : Reg) :
    m.compute dialect op x y = { m with registers := (m.compute dialect op x y).registers } := by
  simp only [compute]
  split <;> rfl

theorem perform_stack (hc : ∀ address, instruction ≠ .call address) (hr : instruction ≠ .returnFromCall) :
    (m.perform random dialect instruction).machine.stack = m.stack := by
  cases instruction with
  | call address => exact absurd rfl (hc address)
  | returnFromCall => exact absurd rfl hr
  | alu op x y => rw [perform, compute_eq]
  | draw | awaitKey | storeDecimal | storeRegisters | loadRegisters => simp only [perform]; split <;> rfl
  | _ => rfl

/-- The screen, and whether something was drawn on it since it was last shown, change only with a drawing
instruction, and that one notes the drawing. -/
theorem perform_screen :
    (m.perform random dialect instruction).machine.redraw = true ∨
      (m.perform random dialect instruction).machine.redraw = m.redraw ∧
        (m.perform random dialect instruction).machine.screen = m.screen := by
  cases instruction with
  | clearScreen => exact .inl rfl
  | draw x y rows =>
    simp only [perform]
    split
    · exact .inl rfl
    · exact .inr ⟨rfl, rfl⟩
  | alu op x y => rw [perform, compute_eq]; exact .inr ⟨rfl, rfl⟩
  | returnFromCall | call | awaitKey | storeDecimal | storeRegisters | loadRegisters =>
    simp only [perform]; split <;> exact .inr ⟨rfl, rfl⟩
  | _ => exact .inr ⟨rfl, rfl⟩

end Chip8.Machine
