import Chip8.Proofs.Interpreter.Footprint

/-!
# Arithmetic on two registers

What 8xyn computes, as numbers (`AluOp.value`, `AluOp.flagValue?`), and where it ends up, whichever of `x`, `y` and the
flag register are the same register (`alu_under_aliasing`).
-/

namespace Chip8

namespace AluOp

/-- The number that 8xyn computes from the numbers in `Vx` and `Vy`. -/
def value (op : AluOp) (dialect : Dialect) (a b : Nat) : Nat :=
  let s := if dialect.shiftReadsVy then b else a
  match op with
  | copy => b
  | or => a ||| b
  | and => a &&& b
  | xor => a ^^^ b
  | add => (a + b) % 256
  | sub => ((a - b : Int) % 256).toNat
  | shiftRight => s / 2
  | subReverse => ((b - a : Int) % 256).toNat
  | shiftLeft => 2 * s % 256

/-- The number that 8xyn puts into the flag register, if it writes the flag. -/
def flagValue? (op : AluOp) (dialect : Dialect) (a b : Nat) : Option Nat :=
  let s := if dialect.shiftReadsVy then b else a
  match op with
  | copy => none
  | or | and | xor => if dialect.logicClearsFlag then some 0 else none
  | add => some (if 255 < a + b then 1 else 0)
  | sub => some (if b ≤ a then 1 else 0)
  | shiftRight => some (s % 2)
  | subReverse => some (if a ≤ b then 1 else 0)
  | shiftLeft => some (s / 128)

theorem toNat_result (op : AluOp) (dialect : Dialect) (a b : UInt8) :
    (op.result dialect a b).toNat = op.value dialect a.toNat b.toNat := by
  have ha := a.toNat_lt
  have hb := b.toNat_lt
  cases op with
  | copy => rfl
  | or => exact UInt8.toNat_or ..
  | and => exact UInt8.toNat_and ..
  | xor => exact UInt8.toNat_xor ..
  | add => exact UInt8.toNat_add ..
  | sub =>
    rw [result, value, UInt8.toNat_sub]
    omega
  | subReverse =>
    rw [result, value, UInt8.toNat_sub]
    omega
  | shiftRight =>
    simp only [result, value]
    split <;> simp [Nat.shiftRight_eq_div_pow]
  | shiftLeft =>
    simp only [result, value]
    split <;> simp [Nat.shiftLeft_eq] <;> omega

theorem toNat_decide (p : Prop) [Decidable p] : (decide p).toNat = if p then 1 else 0 := by
  by_cases h : p <;> simp [h]

theorem toNat_lowBit (s : UInt8) : (decide (s &&& 1 = 1)).toNat = s.toNat % 2 := by
  have hs : (s &&& 1).toNat = s.toNat % 2 := by
    rw [UInt8.toNat_and]
    exact Nat.and_one_is_mod _
  have hbit : s &&& 1 = 1 ↔ s.toNat % 2 = 1 := by rw [← UInt8.toNat_inj, hs, UInt8.toNat_one]
  simp only [toNat_decide, hbit]
  split <;> omega

theorem toNat_highBit (s : UInt8) : (decide (s >>> 7 = 1)).toNat = s.toNat / 128 := by
  have hlt := s.toNat_lt
  have hs : (s >>> 7).toNat = s.toNat / 128 := by simp [Nat.shiftRight_eq_div_pow]
  have hbit : s >>> 7 = 1 ↔ s.toNat / 128 = 1 := by rw [← UInt8.toNat_inj, hs, UInt8.toNat_one]
  simp only [toNat_decide, hbit]
  split <;> omega

theorem toNat_flag? (op : AluOp) (dialect : Dialect) (a b : UInt8) :
    (op.flag? dialect a b).map Bool.toNat = op.flagValue? dialect a.toNat b.toNat := by
  cases op with
  | copy => rfl
  | or | and | xor =>
    simp only [flag?, flagValue?]
    split <;> rfl
  | add | sub | subReverse => exact congrArg some (toNat_decide _)
  | shiftRight =>
    simp only [flag?, flagValue?, Option.map_some, toNat_lowBit]
    split <;> rfl
  | shiftLeft =>
    simp only [flag?, flagValue?, Option.map_some, toNat_highBit]
    split <;> rfl

end AluOp

namespace Machine

variable {m : Machine} {dialect : Dialect}

theorem reg_compute_flag {op : AluOp} {x y : Reg} {flag : Bool}
    (h : op.flag? dialect (m.reg x) (m.reg y) = some flag) :
    (m.compute dialect op x y).reg flagRegister = if flag then 1 else 0 := by
  simp only [compute, h]
  exact reg_setReg_self ..

theorem reg_compute_of_no_flag {op : AluOp} {x y r : Reg}
    (h : r ≠ flagRegister ∨ op.flag? dialect (m.reg x) (m.reg y) = none) :
    (m.compute dialect op x y).reg r = if r = x then op.result dialect (m.reg x) (m.reg y) else m.reg r := by
  simp only [compute]
  split
  · rename_i hflag
    have hr : r ≠ flagRegister := by simpa [hflag] using h
    rw [reg_setFlag_of_ne _ hr, reg_setReg]
  · exact reg_setReg ..

end Machine

namespace Interpreter

variable {γ : Type} [RandomSource γ]

/-- Whichever of `x`, `y` and the flag register are the same, 8xyn computes from the numbers that `Vx` and `Vy` hold
before it. The flag is written last: if there is one, the flag register holds it, and a result in the flag register is
lost. No other register changes, and nothing else but the program counter. -/
theorem alu_under_aliasing (i : Interpreter γ) (op : AluOp) (x y : Reg) :
    let a := (i.machine.reg x).toNat
    let b := (i.machine.reg y).toNat
    let flag? := op.flagValue? i.dialect a b
    let done := i.execute (.alu op x y)
    let after := done.2.machine
    done.1 = .ok () ∧
    (∀ flag, flag? = some flag → (after.reg Machine.flagRegister).toNat = flag) ∧
    (x ≠ Machine.flagRegister ∨ flag? = none → (after.reg x).toNat = op.value i.dialect a b) ∧
    (∀ r, r ≠ x → r ≠ Machine.flagRegister ∨ flag? = none → after.reg r = i.machine.reg r) ∧
    done.2 = { i with machine :=
      { i.machine with registers := after.registers, pc := i.machine.pc + 2 } } ∧
    ∀ word, i.machine.fetch = .ok word → word.toNat = 0x8000 + 0x100 * x + 0x10 * y + op.digit → i.step = done := by
  intro a b flag? done after
  have hreg : ∀ r, after.reg r = (i.machine.compute i.dialect op x y).reg r := fun _ => rfl
  have hflag : (op.flag? i.dialect (i.machine.reg x) (i.machine.reg y)).map Bool.toNat = flag? :=
    AluOp.toNat_flag? ..
  have hnone : flag? = none ↔ op.flag? i.dialect (i.machine.reg x) (i.machine.reg y) = none := by
    rw [← hflag, Option.map_eq_none_iff]
  refine ⟨rfl, ?_, ?_, ?_, ?_, ?_⟩
  · intro flag hsome
    obtain ⟨bit, hbit, rfl⟩ := Option.map_eq_some_iff.1 (hflag.trans hsome)
    rw [hreg, Machine.reg_compute_flag hbit]
    cases bit <;> rfl
  · intro hx
    rw [hreg, Machine.reg_compute_of_no_flag (hx.imp_right hnone.1), if_pos rfl, AluOp.toNat_result]
  · intro r hr hkept
    rw [hreg, Machine.reg_compute_of_no_flag (hkept.imp_right hnone.1), if_neg hr]
  · exact congrArg (fun m => { i with machine := { m with pc := i.machine.pc + 2 } }) (Machine.compute_eq op x y)
  · intro word hf hw
    exact step_of_decode hf (decode_alu hw.symm)

/-- First the flag register is taken away from another register, then that register is added to it. -/
theorem alu_under_aliasing_flag_register :
    ∃ i : Interpreter Random.Scripted,
      start [0x60, 0x05, 0x6f, 0x0a, 0x80, 0xf5, 0x8f, 0x04] { words := [] } {} = .ok i ∧
      let now := i.run [.step, .step]
      let next := now.step.2
      now.machine.fetch = .ok 0x80f5 ∧ now.step.1 = .ok () ∧
        (next.machine.reg (.ofNat 0)).toNat = 251 ∧ (next.machine.reg Machine.flagRegister).toNat = 0 ∧
        next.machine.reg (.ofNat 1) = now.machine.reg (.ofNat 1) ∧
        next.machine.fetch = .ok 0x8f04 ∧ (next.step.2.machine.reg Machine.flagRegister).toNat = 0 := by
  obtain ⟨i, hstart, hd, hx, hy, hf, hd', hf'⟩ : ∃ i : Interpreter Random.Scripted,
      start [0x60, 0x05, 0x6f, 0x0a, 0x80, 0xf5, 0x8f, 0x04] { words := [] } {} = .ok i ∧
      let now := i.run [.step, .step]
      now.dialect = {} ∧ (now.machine.reg (.ofNat 0)).toNat = 5 ∧
        (now.machine.reg Machine.flagRegister).toNat = 10 ∧ now.machine.fetch.toOption = some 0x80f5 ∧
        now.step.2.dialect = {} ∧ now.step.2.machine.fetch.toOption = some 0x8f04 :=
    ⟨_, rfl, by decide +kernel⟩
  have hf := eq_ok_of_toOption hf
  have hf' := eq_ok_of_toOption hf'
  obtain ⟨hok, hflag, hvalue, hkept, _, hstep⟩ :=
    alu_under_aliasing (i.run [.step, .step]) .sub (.ofNat 0) Machine.flagRegister
  rw [← hstep _ hf (by decide)] at hok hflag hvalue hkept
  rw [hd, hx, hy] at hflag hvalue
  have hresult := hvalue (.inl (by decide))
  have hborrow := hflag 0 rfl
  obtain ⟨_, hflag', _, _, _, hstep'⟩ :=
    alu_under_aliasing (i.run [.step, .step]).step.2 .add Machine.flagRegister (.ofNat 0)
  rw [← hstep' _ hf' (by decide), hd', hresult, hborrow] at hflag'
  exact ⟨i, hstart, hf, hok, hresult, hborrow, hkept _ (by decide) (.inl (by decide)), hf', hflag' 0 rfl⟩

end Interpreter

end Chip8
