import Chip8.Proofs.Interpreter.Steps
import Chip8.Proofs.Machine.Encoding

/-!
# What a step may write

Every instruction has a footprint: the parts of the machine and of the random source that it may write, apart from
the program counter. A step that succeeds stays inside the footprint of the instruction that its word encodes
(`step_within_footprint`).
-/

namespace Chip8

/-- The parts that an instruction may write, apart from the program counter. The redraw request belongs to the
screen. -/
structure Footprint where
  /-- The number of bytes in memory from the index on. -/
  bytes : Nat := 0
  registers : Reg → Bool := fun _ => false
  index : Bool := false
  stack : Bool := false
  delay : Bool := false
  sound : Bool := false
  screen : Bool := false
  random : Bool := false

/-- Whether 8xyn writes the flag register besides `Vx`. -/
def AluOp.writesFlag (op : AluOp) (dialect : Dialect) : Bool :=
  match op with
  | copy => false
  | or | and | xor => dialect.logicClearsFlag
  | add | sub | shiftRight | subReverse | shiftLeft => true

/-- What an instruction may write. -/
def Instruction.footprint (dialect : Dialect) : Instruction Reg → Footprint
  | .clearScreen => { screen := true }
  | .returnFromCall | .call _ => { stack := true }
  | .machineRoutine _ | .jump _ | .skip _ | .jumpOffset _ => {}
  | .loadByte x _ | .addByte x _ | .readDelay x | .awaitKey x => { registers := fun r => r == x }
  | .alu op x _ => { registers := fun r => r == x || (op.writesFlag dialect && r == Machine.flagRegister) }
  | .loadIndex _ | .addIndex _ | .pointToGlyph _ => { index := true }
  | .random x _ => { registers := fun r => r == x, random := true }
  | .draw _ _ _ => { registers := fun r => r == Machine.flagRegister, screen := true }
  | .writeDelay _ => { delay := true }
  | .writeSound _ => { sound := true }
  | .storeDecimal _ => { bytes := 3 }
  | .storeRegisters x => { bytes := x + 1, index := dialect.blockMovesIndex }
  | .loadRegisters x => { registers := fun r => r ≤ x, index := dialect.blockMovesIndex }

namespace Machine

variable {γ : Type} [RandomSource γ] {m : Machine} {random : γ} {dialect : Dialect} {instruction : Instruction Reg}

/-! ## Registers -/

@[simp] theorem reg_setReg_self (m : Machine) (x : Reg) (value : UInt8) : (m.setReg x value).reg x = value := by
  simp [reg, setReg]

theorem reg_setReg_of_ne {x r : Reg} (value : UInt8) (h : r ≠ x) : (m.setReg x value).reg r = m.reg r := by
  have : (x : Nat) ≠ r := fun he => h (Fin.ext he.symm)
  simp [reg, setReg, this]

theorem reg_setReg (x r : Reg) (value : UInt8) : (m.setReg x value).reg r = if r = x then value else m.reg r := by
  split
  · rename_i h
    rw [h, reg_setReg_self]
  · exact reg_setReg_of_ne _ ‹_›

theorem reg_setFlag_of_ne {r : Reg} (flag : Bool) (h : r ≠ flagRegister) : (m.setFlag flag).reg r = m.reg r :=
  reg_setReg_of_ne _ h

theorem flag_of_not_writesFlag {op : AluOp} (a b : UInt8) (h : op.writesFlag dialect = false) :
    op.flag? dialect a b = none := by
  cases op <;> simp_all [AluOp.writesFlag, AluOp.flag?]

theorem reg_compute {op : AluOp} {x y r : Reg} (hx : r ≠ x)
    (hf : op.writesFlag dialect = true → r ≠ flagRegister) : (m.compute dialect op x y).reg r = m.reg r := by
  simp only [compute]
  cases hw : op.writesFlag dialect with
  | false =>
    rw [flag_of_not_writesFlag _ _ hw]
    exact reg_setReg_of_ne _ hx
  | true =>
    split
    · rw [reg_setFlag_of_ne _ (hf hw), reg_setReg_of_ne _ hx]
    · exact reg_setReg_of_ne _ hx

theorem reg_overlayRegisters {bytes : List UInt8} {r : Reg} (h : bytes.length ≤ r) :
    (overlayRegisters m.registers bytes)[r] = m.reg r := by
  simp [overlayRegisters, reg, h]
  rfl

/-! ## Memory -/

theorem perform_memory {a : Nat}
    (ha : m.index.toNat ≤ a → m.index.toNat + (instruction.footprint dialect).bytes ≤ a) :
    (m.perform random dialect instruction).machine.ram.byteAt a = m.ram.byteAt a := by
  cases instruction with
  | storeDecimal x =>
    simp only [perform]
    split
    · rename_i ram hw
      exact Ram.byteAt_of_write hw ha
    · rfl
  | storeRegisters x =>
    simp only [perform]
    split
    · rename_i ram hw
      exact Ram.byteAt_of_write hw (by rwa [length_firstRegisters])
    · rfl
  | alu op x y => rw [perform, compute_eq]
  | returnFromCall | call | draw | awaitKey | loadRegisters => simp only [perform]; split <;> rfl
  | _ => rfl

theorem perform_programStart :
    (m.perform random dialect instruction).machine.ram.programStart = m.ram.programStart := by
  cases instruction with
  | storeDecimal | storeRegisters =>
    simp only [perform]
    split
    · rename_i hw
      exact Ram.programStart_of_write hw
    · rfl
  | alu op x y => rw [perform, compute_eq]
  | returnFromCall | call | draw | awaitKey | loadRegisters => simp only [perform]; split <;> rfl
  | _ => rfl

/-! ## The other parts -/

theorem perform_registers {r : Reg} (hr : (instruction.footprint dialect).registers r = false) :
    (m.perform random dialect instruction).machine.reg r = m.reg r := by
  cases instruction with
  | loadByte | addByte | random | readDelay =>
    exact reg_setReg_of_ne _ (by simpa [Instruction.footprint] using hr)
  | awaitKey x =>
    simp only [perform]
    split
    · exact reg_setReg_of_ne _ (by simpa [Instruction.footprint] using hr)
    · rfl
  | alu op x y =>
    simp only [Instruction.footprint, Bool.or_eq_false_iff, beq_eq_false_iff_ne, Bool.and_eq_false_imp] at hr
    exact reg_compute hr.1 hr.2
  | draw x y rows =>
    simp only [perform]
    split
    · rw [reg_setFlag_of_ne _ (by simpa [Instruction.footprint] using hr)]
      rfl
    · rfl
  | loadRegisters x =>
    simp only [perform]
    split
    · rename_i bytes hb
      have hlen := Ram.length_of_read hb
      simp only [Instruction.footprint, decide_eq_false_iff_not, Fin.not_le, Fin.lt_def] at hr
      exact reg_overlayRegisters (by omega)
    · rfl
  | returnFromCall | call | storeDecimal | storeRegisters => simp only [perform]; split <;> rfl
  | _ => rfl

theorem perform_index (hi : (instruction.footprint dialect).index = false) :
    (m.perform random dialect instruction).machine.index = m.index := by
  cases instruction with
  | loadIndex | addIndex | pointToGlyph => cases hi
  | storeRegisters | loadRegisters =>
    have hb : dialect.blockMovesIndex = false := hi
    simp only [perform]
    split
    · simp [indexAfterBlock, hb]
    · rfl
  | alu op x y => rw [perform, compute_eq]
  | returnFromCall | call | draw | awaitKey | storeDecimal => simp only [perform]; split <;> rfl
  | _ => rfl

theorem perform_timers :
    ((instruction.footprint dialect).delay = false →
      (m.perform random dialect instruction).machine.delay = m.delay) ∧
    ((instruction.footprint dialect).sound = false →
      (m.perform random dialect instruction).machine.sound = m.sound) := by
  cases instruction with
  | writeDelay => exact ⟨Bool.noConfusion, fun _ => rfl⟩
  | writeSound => exact ⟨fun _ => rfl, Bool.noConfusion⟩
  | alu op x y => rw [perform, compute_eq]; exact ⟨fun _ => rfl, fun _ => rfl⟩
  | returnFromCall | call | draw | awaitKey | storeDecimal | storeRegisters | loadRegisters =>
    simp only [perform]; split <;> exact ⟨fun _ => rfl, fun _ => rfl⟩
  | _ => exact ⟨fun _ => rfl, fun _ => rfl⟩

theorem perform_picture (hs : (instruction.footprint dialect).screen = false) :
    (m.perform random dialect instruction).machine.screen = m.screen ∧
      (m.perform random dialect instruction).machine.redraw = m.redraw := by
  cases instruction with
  | clearScreen | draw => cases hs
  | alu op x y => rw [perform, compute_eq]; exact ⟨rfl, rfl⟩
  | returnFromCall | call | awaitKey | storeDecimal | storeRegisters | loadRegisters =>
    simp only [perform]; split <;> exact ⟨rfl, rfl⟩
  | _ => exact ⟨rfl, rfl⟩

/-- No instruction presses a key or ticks. -/
theorem perform_keys :
    (m.perform random dialect instruction).machine.keys = m.keys ∧
      (m.perform random dialect instruction).machine.soundStopped = m.soundStopped := by
  cases instruction with
  | alu op x y => rw [perform, compute_eq]; exact ⟨rfl, rfl⟩
  | returnFromCall | call | draw | awaitKey | storeDecimal | storeRegisters | loadRegisters =>
    simp only [perform]; split <;> exact ⟨rfl, rfl⟩
  | _ => exact ⟨rfl, rfl⟩

theorem perform_random (hr : (instruction.footprint dialect).random = false) :
    (m.perform random dialect instruction).random = random := by
  cases instruction with
  | random => cases hr
  | returnFromCall | call | draw | awaitKey | storeDecimal | storeRegisters | loadRegisters =>
    simp only [perform]; split <;> rfl
  | _ => rfl

end Machine

namespace Interpreter

variable {γ : Type} [RandomSource γ] {i : Interpreter γ}

/-! ## Steps -/

/-- Nothing but the program counter changes outside a footprint. What a host writes between steps, keys and the end
of a tone, has no place in any footprint. -/
structure Within (footprint : Footprint) (before after : Interpreter γ) : Prop where
  memory (address : Nat) :
    ¬ (before.machine.index.toNat ≤ address ∧ address < before.machine.index.toNat + footprint.bytes) →
      after.machine.ram.byteAt address = before.machine.ram.byteAt address
  programStart : after.machine.ram.programStart = before.machine.ram.programStart
  registers (r : Reg) : footprint.registers r = false → after.machine.reg r = before.machine.reg r
  index : footprint.index = false → after.machine.index = before.machine.index
  stack : footprint.stack = false → after.machine.stack = before.machine.stack
  delay : footprint.delay = false → after.machine.delay = before.machine.delay
  sound : footprint.sound = false → after.machine.sound = before.machine.sound
  screen : footprint.screen = false →
    after.machine.screen = before.machine.screen ∧ after.machine.redraw = before.machine.redraw
  random : footprint.random = false → after.random = before.random
  keys : after.machine.keys = before.machine.keys
  soundStopped : after.machine.soundStopped = before.machine.soundStopped
  dialect : after.dialect = before.dialect

theorem within_afterInstruction (i : Interpreter γ) (instruction : Instruction Reg) (advance : Advance) :
    Within (instruction.footprint i.dialect) i (i.afterInstruction instruction advance) where
  memory _ ha := Machine.perform_memory fun h => Nat.le_of_not_lt fun h' => ha ⟨h, h'⟩
  programStart := Machine.perform_programStart
  registers _ := Machine.perform_registers
  index := Machine.perform_index
  stack hs := Machine.perform_stack (by rintro _ rfl; cases hs) (by rintro rfl; cases hs)
  delay := Machine.perform_timers.1
  sound := Machine.perform_timers.2
  screen := Machine.perform_picture
  random := Machine.perform_random
  keys := Machine.perform_keys.1
  soundStopped := Machine.perform_keys.2
  dialect := rfl

theorem index_afterInstruction {x : Reg} {instruction : Instruction Reg} (advance : Advance)
    (hn : i.machine.fault? instruction = none)
    (hx : instruction = .storeRegisters x ∨ instruction = .loadRegisters x)
    (hb : i.dialect.blockMovesIndex = true) :
    (i.afterInstruction instruction advance).machine.index = i.machine.index + UInt16.ofNat (x + 1) := by
  rcases hx with rfl | rfl
  · obtain ⟨ram, hw⟩ := Machine.write_of_not_blockFault (i.machine.firstRegisters x)
      (by rwa [Machine.length_firstRegisters])
    simp [afterInstruction, Machine.perform, hw, Machine.indexAfterBlock, hb]
  · obtain ⟨bytes, hr⟩ := Machine.read_of_not_blockFault hn
    simp [afterInstruction, Machine.perform, hr, Machine.indexAfterBlock, hb]

theorem step_machineRoutine {word : UInt16} (hf : i.machine.fetch = .ok word) (hw : word.toNat < 0x1000)
    (hclear : word ≠ 0x00e0) (hreturn : word ≠ 0x00ee) : i.step.2 = i.passOver := by
  have hd := decode_eq_machineRoutine_iff.2 ⟨⟨hw, hclear, hreturn⟩, rfl⟩
  simp only [step, takeStep, hf, hd]
  rfl

/-- A step that succeeds writes only what the instruction of its word may write. Where Fx55 and Fx65 move the index,
they move it behind the bytes they touched. A routine of the machine code, and a word that encodes no instruction,
change the program counter and nothing else. -/
theorem step_within_footprint (hs : i.step.1 = .ok ()) :
    ∃ word, i.machine.fetch = .ok word ∧
      (∀ instruction : Instruction Reg, instruction.EncodedBy word →
        Within (instruction.footprint i.dialect) i i.step.2 ∧
        ∀ x, instruction = .storeRegisters x ∨ instruction = .loadRegisters x →
          i.dialect.blockMovesIndex = true → i.step.2.machine.index = i.machine.index + UInt16.ofNat (x + 1)) ∧
      ((word.toNat < 0x1000 ∧ word ≠ 0x00e0 ∧ word ≠ 0x00ee) ∨
          (¬ ∃ instruction : Instruction Reg, instruction.EncodedBy word) →
        i.step.2 = { i with machine := { i.machine with pc := i.machine.pc + 2 } }) := by
  have hroutine : ∀ word, i.machine.fetch = .ok word →
      word.toNat < 0x1000 ∧ word ≠ 0x00e0 ∧ word ≠ 0x00ee → i.step.2 = i.passOver :=
    fun word hf hw => step_machineRoutine hf hw.1 hw.2.1 hw.2.2
  have hstepped := i.step_stepped
  generalize i.step = result at hs hroutine hstepped ⊢
  cases hstepped with
  | failed => cases hs
  | @passedOver word hf hd =>
    refine ⟨word, hf, ?_, fun _ => rfl⟩
    intro instruction he
    rw [decode_of_encoded he] at hd
    cases hd
  | @executed word instruction advance hf hd hn ha =>
    refine ⟨word, hf, ?_, ?_⟩
    · intro other he
      obtain rfl : instruction = other := Option.some.inj (hd.symm.trans (decode_of_encoded he))
      exact ⟨i.within_afterInstruction instruction advance, fun x => index_afterInstruction advance hn⟩
    · rintro (hw | hw)
      · exact hroutine word hf hw
      · exact absurd ⟨instruction, decode_eq_some_iff.1 hd⟩ hw

theorem step_within_footprint_store :
    ∃ i : Interpreter Random.Scripted,
      start [0xa3, 0x00, 0xf1, 0x55] { words := [] } { blockMovesIndex := true } = .ok i ∧
      let now := i.run [.step]
      now.step.1 = .ok () ∧ now.machine.fetch = .ok 0xf155 ∧
        Within ((Instruction.storeRegisters (.ofNat 1)).footprint now.dialect) now now.step.2 ∧
        now.step.2.machine.index = now.machine.index + 2 := by
  refine ⟨_, rfl, ?_⟩
  intro now
  have hs : now.step.1 = .ok () := step_of_no_fault (by decide +kernel)
  have hf : now.machine.fetch = .ok 0xf155 := eq_ok_of_toOption (by decide +kernel)
  obtain ⟨word, hword, hencoded, _⟩ := step_within_footprint hs
  obtain rfl : 0xf155 = word := Except.ok.inj (hf.symm.trans hword)
  obtain ⟨hwithin, hindex⟩ := hencoded (.storeRegisters (.ofNat 1)) ⟨trivial, by decide +kernel⟩
  have hmoves : now.dialect.blockMovesIndex = true := by decide +kernel
  exact ⟨hs, hf, hwithin, hindex (.ofNat 1) (.inl rfl) hmoves⟩

end Interpreter

end Chip8
