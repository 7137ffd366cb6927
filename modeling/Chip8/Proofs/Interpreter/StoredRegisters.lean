import Chip8.Proofs.Interpreter.Executions

/-!
# Registers stored and loaded

Fx55 and Fx33 are the only instructions that write memory (`writes`, `byteAt_run`). So registers that Fx55 stored come
back with Fx65, whatever was executed in between, unless a part of them was written over (`stored_registers_load_back`).
-/

namespace Chip8

namespace Machine

variable {m : Machine} {x : Reg}

theorem getElem?_firstRegisters {r : Reg} (h : r ≤ x) : (m.firstRegisters x)[(r : Nat)]? = some (m.reg r) := by
  have hlt : (r : Nat) < x + 1 := Nat.lt_succ_of_le h
  simp [firstRegisters, reg, hlt]

theorem byteAt_of_write_firstRegisters {ram : Ram} {r : Reg}
    (hw : m.ram.write m.index (m.firstRegisters x) = .ok ram) (h : r ≤ x) :
    ram.byteAt (m.index.toNat + r) = m.reg r := by
  have hlt : (r : Nat) < (m.firstRegisters x).length := by
    rw [length_firstRegisters]
    exact Nat.lt_succ_of_le h
  exact Option.some.inj ((Ram.getElem?_of_write hw hlt).symm.trans (getElem?_firstRegisters h))

theorem reg_overlayRegisters_of_some {bytes : List UInt8} {r : Reg} {byte : UInt8}
    (h : bytes[(r : Nat)]? = some byte) :
    { m with registers := overlayRegisters m.registers bytes }.reg r = byte := by
  simp [overlayRegisters, reg, h]

theorem toNat_indexAfterBlock (dialect : Dialect) (h : Ram.Holds m.index (x + 1)) :
    (m.indexAfterBlock dialect x).toNat = m.index.toNat + if dialect.blockMovesIndex then (x : Nat) + 1 else 0 := by
  have hle : m.index.toNat + (x + 1) ≤ 4096 := h
  simp only [indexAfterBlock]
  split
  · rw [UInt16.toNat_add, UInt16.toNat_ofNat']
    omega
  · rfl

end Machine

namespace Interpreter

variable {γ : Type} [RandomSource γ] {i : Interpreter γ} {x y : Reg}

/-! ## Bytes that stay -/

/-- The addresses that the next step writes: three for the digits of a register (Fx33), one for each register of a
block (Fx55). -/
def writes (i : Interpreter γ) : List Nat :=
  match i.executed? with
  | some (.storeDecimal _) => List.range' i.machine.index.toNat 3
  | some (.storeRegisters x) => List.range' i.machine.index.toNat (x + 1)
  | _ => []

theorem byteAt_step {address : Nat} (h : address ∉ i.writes) :
    i.step.2.machine.ram.byteAt address = i.machine.ram.byteAt address := by
  cases he : i.executed? with
  | none => exact (within_of_not_executed he).memory address (by simp)
  | some instruction =>
    refine (within_of_executed he).memory address ?_
    simp only [writes, he] at h
    cases instruction with
    | storeDecimal | storeRegisters => rwa [List.mem_range'_1] at h
    | _ => simp [Instruction.footprint]

theorem byteAt_run {address : Nat} {actions : List Action} (h : address ∉ i.observe writes actions) :
    (i.run actions).machine.ram.byteAt address = i.machine.ram.byteAt address := by
  induction actions generalizing i with
  | nil => rfl
  | cons action rest ih =>
    cases action with
    | step =>
      rw [observe, List.mem_append, not_or] at h
      exact (ih h.2).trans (byteAt_step h.1)
    | tick | setKey | acknowledge => exact ih h

/-! ## Blocks of registers -/

theorem execute_storeRegisters (h : Ram.Holds i.machine.index (x + 1)) :
    ∃ ram, i.machine.ram.write i.machine.index (i.machine.firstRegisters x) = .ok ram ∧
      i.execute (.storeRegisters x) = (.ok (), { i with machine :=
        { i.machine with ram, index := i.machine.indexAfterBlock i.dialect x, pc := i.machine.pc + 2 } }) := by
  obtain ⟨ram, hw⟩ := Machine.write_of_not_blockFault (i.machine.firstRegisters x)
    (by rwa [Machine.length_firstRegisters, Machine.blockFault?_eq_none_iff])
  refine ⟨ram, hw, ?_⟩
  simp only [execute, Machine.perform, hw]
  rfl

theorem execute_loadRegisters (h : Ram.Holds i.machine.index (y + 1)) :
    ∃ bytes, i.machine.ram.read i.machine.index (y + 1) = .ok bytes ∧
      i.execute (.loadRegisters y) = (.ok (), { i with machine :=
        { i.machine with
          registers := Machine.overlayRegisters i.machine.registers bytes
          index := i.machine.indexAfterBlock i.dialect y
          pc := i.machine.pc + 2 } }) := by
  obtain ⟨bytes, hr⟩ := Machine.read_of_not_blockFault (Machine.blockFault?_eq_none_iff.2 h)
  refine ⟨bytes, hr, ?_⟩
  simp only [execute, Machine.perform, hr]
  rfl

/-- After Fx55 has stored `V0` to `Vx` at the index, a run may do anything but write over these bytes. If the index is
back where it was, Fy65 with `y` at most `x` gives `V0` to `Vy` the values they had when they were stored and leaves the
other registers alone. Either instruction moves the index behind its bytes if the dialect says so, and leaves it where
it is otherwise. -/
theorem stored_registers_load_back (i : Interpreter γ) (x y : Reg) (actions : List Action) (hyx : y ≤ x)
    (hfits : i.machine.index.toNat + x + 1 ≤ 4096) :
    let a := i.machine.index.toNat
    let moved (z : Reg) : Nat := if i.dialect.blockMovesIndex then z + 1 else 0
    let stored := i.execute (.storeRegisters x)
    let now := stored.2.run actions
    let loaded := now.execute (.loadRegisters y)
    (stored.1 = .ok () ∧ stored.2.machine.index.toNat = a + moved x ∧
      ∀ word, i.machine.fetch = .ok word → word.toNat = 0xf055 + 0x100 * x → i.step = stored) ∧
    ((∀ address ∈ stored.2.observe writes actions, ¬ (a ≤ address ∧ address ≤ a + x)) →
      now.machine.index.toNat = a →
      (loaded.1 = .ok () ∧ loaded.2.machine.index.toNat = a + moved y ∧
        ∀ word, now.machine.fetch = .ok word → word.toNat = 0xf065 + 0x100 * y → now.step = loaded) ∧
      (∀ r, r ≤ y → loaded.2.machine.reg r = i.machine.reg r) ∧
      ∀ r, y < r → loaded.2.machine.reg r = now.machine.reg r) := by
  intro a moved stored now loaded
  obtain ⟨ram, hw, hstored⟩ := execute_storeRegisters hfits
  refine ⟨⟨congrArg Prod.fst hstored, ?_, ?_⟩, ?_⟩
  · exact (congrArg (·.2.machine.index.toNat) hstored).trans (Machine.toNat_indexAfterBlock _ hfits)
  · intro word hf hword
    exact step_of_decode hf (decode_of_encoded ⟨trivial, hword.symm⟩)
  intro hkept hindex
  have hle : (y : Nat) ≤ x := hyx
  have hfits' : Ram.Holds now.machine.index (y + 1) := by
    show now.machine.index.toNat + (y + 1) ≤ 4096
    omega
  obtain ⟨bytes, hr, hloaded⟩ := execute_loadRegisters hfits'
  have hreg : ∀ r, loaded.2.machine.reg r =
      { now.machine with registers := Machine.overlayRegisters now.machine.registers bytes }.reg r :=
    fun r => congrArg (·.2.machine.reg r) hloaded
  refine ⟨⟨congrArg Prod.fst hloaded, ?_, ?_⟩, ?_, ?_⟩
  · have hdialect : now.dialect = i.dialect :=
      (stored.2.dialect_run actions).trans (congrArg (·.2.dialect) hstored)
    have hmoved := (congrArg (·.2.machine.index.toNat) hloaded).trans (Machine.toNat_indexAfterBlock _ hfits')
    rw [hindex, hdialect] at hmoved
    exact hmoved
  · intro word hf hword
    exact step_of_decode hf (decode_of_encoded ⟨trivial, hword.symm⟩)
  · intro r hry
    have hrx : r ≤ x := Nat.le_trans hry hyx
    have hstays : now.machine.ram.byteAt (a + r) = stored.2.machine.ram.byteAt (a + r) :=
      byteAt_run fun hm => hkept _ hm ⟨Nat.le_add_right .., Nat.add_le_add_left hrx _⟩
    have hbyte : stored.2.machine.ram.byteAt (a + r) = i.machine.reg r :=
      (congrArg (·.2.machine.ram.byteAt (a + r)) hstored).trans (Machine.byteAt_of_write_firstRegisters hw hrx)
    rw [hreg]
    apply Machine.reg_overlayRegisters_of_some
    rw [Ram.getElem?_of_read hr, if_pos (Nat.lt_succ_of_le hry), hindex, hstays, hbyte]
  · intro r hr'
    rw [hreg]
    apply Machine.reg_overlayRegisters
    rw [Ram.length_of_read hr]
    exact hr'

/-- Another byte is written right behind the block, and a register changes. The index moves. -/
theorem stored_registers_load_back_beside_digits :
    ∃ i : Interpreter Random.Scripted,
      start [0x60, 0x01, 0x61, 0x02, 0xa3, 0x00, 0xf1, 0x55, 0x60, 0xff, 0xf0, 0x33, 0xa3, 0x00, 0xf0, 0x65]
        { words := [] } { blockMovesIndex := true } = .ok i ∧
      let x : Reg := .ofNat 1
      let y : Reg := .ofNat 0
      let now := i.run [.step, .step, .step]
      let actions : List Action := [.step, .tick, .step, .setKey 3 true, .step]
      let later := now.step.2.run actions
      now.machine.index.toNat + x + 1 ≤ 4096 ∧ now.machine.fetch = .ok 0xf155 ∧ now.step.1 = .ok () ∧
        now.step.2.observe writes actions = [0x302, 0x303, 0x304] ∧
        later.machine.reg y = 255 ∧ later.machine.index.toNat = 0x300 ∧ later.machine.fetch = .ok 0xf065 ∧
        later.step.1 = .ok () ∧ later.step.2.machine.reg y = now.machine.reg y ∧
        later.step.2.machine.reg x = later.machine.reg x ∧ later.step.2.machine.index.toNat = 0x301 := by
  obtain ⟨i, hstart, hmoves, hindex, hf, hwrites, hreg, hback, hf'⟩ : ∃ i : Interpreter Random.Scripted,
      start [0x60, 0x01, 0x61, 0x02, 0xa3, 0x00, 0xf1, 0x55, 0x60, 0xff, 0xf0, 0x33, 0xa3, 0x00, 0xf0, 0x65]
        { words := [] } { blockMovesIndex := true } = .ok i ∧
      let now := i.run [.step, .step, .step]
      let actions : List Action := [.step, .tick, .step, .setKey 3 true, .step]
      let later := now.step.2.run actions
      now.dialect.blockMovesIndex = true ∧ now.machine.index.toNat = 0x300 ∧
        now.machine.fetch.toOption = some 0xf155 ∧ now.step.2.observe writes actions = [0x302, 0x303, 0x304] ∧
        later.machine.reg (.ofNat 0) = 255 ∧ later.machine.index.toNat = 0x300 ∧
        later.machine.fetch.toOption = some 0xf065 :=
    ⟨_, rfl, by decide +kernel⟩
  have hf := eq_ok_of_toOption hf
  have hf' := eq_ok_of_toOption hf'
  have hfits : (i.run [.step, .step, .step]).machine.index.toNat + (Reg.ofNat 1 : Nat) + 1 ≤ 4096 := by
    rw [hindex]
    decide
  obtain ⟨⟨hok, _, hstep⟩, hload⟩ := stored_registers_load_back (i.run [.step, .step, .step]) (.ofNat 1) (.ofNat 0)
    [.step, .tick, .step, .setKey 3 true, .step] (by decide) hfits
  rw [← hstep _ hf (by decide)] at hok hload
  rw [hwrites, hindex, hback] at hload
  obtain ⟨⟨hok', hmoved, hstep'⟩, hsame, hothers⟩ := hload (by decide) rfl
  rw [← hstep' _ hf' (by decide)] at hok' hmoved hsame hothers
  rw [hmoves] at hmoved
  exact ⟨i, hstart, hfits, hf, hok, hwrites, hreg, hback, hf', hok', hsame _ (by decide), hothers _ (by decide), hmoved⟩

end Interpreter

end Chip8
