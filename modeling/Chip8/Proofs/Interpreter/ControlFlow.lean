import Chip8.Proofs.Interpreter.Addresses
import Chip8.Proofs.Interpreter.Faults

/-!
# Where a step leads

The digits of the word at the program counter say where a step that succeeds leads (`Machine.following`), for every word
and not only for instructions (`step_leads_by_word`). Skips come in pairs of which exactly one skips.
-/

namespace Chip8

/-- The skip with the same operands and the opposite condition. -/
def SkipWhen.opposite {ρ : Type} : SkipWhen ρ → SkipWhen ρ
  | .equalsByte x value => .differsFromByte x value
  | .differsFromByte x value => .equalsByte x value
  | .equalsRegister x y => .differsFromRegister x y
  | .differsFromRegister x y => .equalsRegister x y
  | .keyDown x => .keyUp x
  | .keyUp x => .keyDown x

namespace Machine

variable {γ : Type} [RandomSource γ] {m : Machine} {random : γ} {dialect : Dialect}
variable {word : UInt16} {instruction : Instruction Reg}

/-- Whether a word is a skip whose condition holds. The low four bits of a register name a key. -/
def skips (m : Machine) (word : Nat) : Bool :=
  let vx := (m.reg (.ofNat (word / 0x100))).toNat
  let vy := (m.reg (.ofNat (word / 0x10))).toNat
  let down := m.keys.get ⟨vx % 0x10, Reg.mod_lt vx⟩
  match word / 0x1000 with
  | 0x3 => vx = word % 0x100
  | 0x4 => vx ≠ word % 0x100
  | 0x5 => word % 0x10 = 0 ∧ vx = vy
  | 0x9 => word % 0x10 = 0 ∧ vx ≠ vy
  | 0xe => word % 0x100 = 0x9e ∧ down ∨ word % 0x100 = 0xa1 ∧ ¬ down
  | _ => false

/-- Where a word leads from the program counter. Only the sum after a return can leave the range of 16 bits. -/
def following (m : Machine) (dialect : Dialect) (word : Nat) : Nat :=
  let pc := m.pc.toNat
  let nnn := word % 0x1000
  match word / 0x1000 with
  | 0x0 => if word = 0x00ee then ((m.stack.frames.getLast?.getD 0).toNat + 2) % 0x10000 else pc + 2
  | 0x1 | 0x2 => nnn
  | 0xb => nnn + (m.reg (.ofNat (if dialect.jumpReadsVx then nnn / 0x100 else 0))).toNat
  | 0xf => if word % 0x100 = 0x0a ∧ m.keys = .none then pc else pc + 2
  | _ => if m.skips word then pc + 4 else pc + 2

/-! ## Groups of words -/

theorem skips_eq_holds {condition : SkipWhen Reg} {n : Nat} (h : condition.number = n) :
    m.skips n = m.holds condition := by
  cases condition with
  | equalsByte x value =>
    obtain ⟨hop, hx, hv⟩ := digits_xnn 3 h
    simp [skips, holds, hop, hx, hv, UInt8.toNat_inj]
  | differsFromByte x value =>
    obtain ⟨hop, hx, hv⟩ := digits_xnn 4 h
    simp [skips, holds, hop, hx, hv, UInt8.toNat_inj]
  | equalsRegister x y =>
    obtain ⟨hop, hx, hy, hlast⟩ := digits_xyn 5 0 (by decide) h
    simp [skips, holds, hop, hx, hy, hlast, UInt8.toNat_inj]
  | differsFromRegister x y =>
    obtain ⟨hop, hx, hy, hlast⟩ := digits_xyn 9 0 (by decide) h
    simp [skips, holds, hop, hx, hy, hlast, UInt8.toNat_inj]
  | keyDown x =>
    obtain ⟨hop, hx, hlow⟩ := digits_x 14 0x9e (by decide) h
    simp [skips, holds, keyAt, Keys.isDown_eq_get, hop, hx, hlow]
  | keyUp x =>
    obtain ⟨hop, hx, hlow⟩ := digits_x 14 0xa1 (by decide) h
    simp [skips, holds, keyAt, Keys.isDown_eq_get, hop, hx, hlow]

theorem following_skip {n : Nat} (hop : n / 0x1000 ∈ [0x3, 0x4, 0x5, 0x9, 0xe]) :
    m.following dialect n = m.pc.toNat + if m.skips n then 4 else 2 := by
  simp only [List.mem_cons, List.not_mem_nil, or_false] at hop
  rcases hop with hop | hop | hop | hop | hop <;> simp only [following, hop] <;> split <;> rfl

theorem following_next {n : Nat} (hop : n / 0x1000 ∈ [0x6, 0x7, 0x8, 0xa, 0xc, 0xd]) :
    m.following dialect n = m.pc.toNat + 2 := by
  simp only [List.mem_cons, List.not_mem_nil, or_false] at hop
  rcases hop with hop | hop | hop | hop | hop | hop <;> simp [following, skips, hop]

theorem following_device {n : Nat} (hop : n / 0x1000 = 0xf) (hlow : n % 0x100 ≠ 0x0a) :
    m.following dialect n = m.pc.toNat + 2 := by
  simp [following, hop, hlow]

/-- A word that means nothing leads to the next one. -/
theorem following_of_undefined (h : Instruction.decode word = none) :
    m.following dialect word.toNat = m.pc.toNat + 2 := by
  have hr : (Nibbles.ofWord word).instruction? = none := Option.map_eq_none_iff.1 h
  have hop := Nibbles.toNat_ofWord_op word
  have hy := Nibbles.toNat_ofWord_y word
  have hn := Nibbles.toNat_ofWord_n word
  have hlt := word.toNat_lt
  simp only [Nibbles.instruction?] at hr
  -- only in these groups is there a word without meaning
  split at hr
  case h_6 heq | h_10 heq =>
    have hlast : word.toNat % 0x10 ≠ 0 := by
      intro hzero
      have hn : (Nibbles.ofWord word).n = 0 := UInt8.toNat_inj.1 (by rw [hn, hzero]; rfl)
      simp [hn] at hr
    have hskips : m.skips word.toNat = false := by simp [skips, ← hop, heq, hlast]
    rw [following_skip (by simp [← hop, heq]), hskips]
    rfl
  case h_9 heq => exact following_next (by simp [← hop, heq])
  case h_15 heq =>
    have hdown : word.toNat % 0x100 ≠ 0x9e := by
      intro hlow
      have hy : (Nibbles.ofWord word).y.toNat = 0x9 := by omega
      have hn : (Nibbles.ofWord word).n.toNat = 0xe := by omega
      simp [Nibbles.keyInstruction?, hy, hn] at hr
    have hup : word.toNat % 0x100 ≠ 0xa1 := by
      intro hlow
      have hy : (Nibbles.ofWord word).y.toNat = 0xa := by omega
      have hn : (Nibbles.ofWord word).n.toNat = 0x1 := by omega
      simp [Nibbles.keyInstruction?, hy, hn] at hr
    have hskips : m.skips word.toNat = false := by simp [skips, ← hop, heq, hdown, hup]
    rw [following_skip (by simp [← hop, heq]), hskips]
    rfl
  case h_16 heq =>
    refine following_device (by omega) ?_
    intro hlow
    have hy : (Nibbles.ofWord word).y.toNat = 0x0 := by omega
    have hn : (Nibbles.ofWord word).n.toNat = 0xa := by omega
    simp [Nibbles.deviceInstruction?, hy, hn] at hr
  case h_17 =>
    simp only [imp_false] at *
    omega
  all_goals cases hr

theorem following_eq_destination (he : instruction.EncodedBy word) (hr : instruction ≠ .returnFromCall) :
    m.following dialect word.toNat = m.destination dialect instruction := by
  obtain ⟨hfits, h⟩ := he
  cases instruction with
  | returnFromCall => exact absurd rfl hr
  | clearScreen =>
    rw [← h]
    rfl
  | machineRoutine address =>
    have hword : address.toNat = word.toNat := h
    have hop : word.toNat / 0x1000 = 0 := by
      have := hfits.1
      omega
    have hreturn : word.toNat ≠ 0x00ee := hword ▸ hfits.2.2
    simp [following, hop, hreturn, destination]
  | jump address =>
    obtain ⟨hop, hnnn⟩ := digits_nnn 1 hfits h
    simp [following, hop, hnnn, destination]
  | call address =>
    obtain ⟨hop, hnnn⟩ := digits_nnn 2 hfits h
    simp [following, hop, hnnn, destination]
  | jumpOffset address =>
    obtain ⟨hop, hnnn⟩ := digits_nnn 11 hfits h
    simp only [following, hop, hnnn, destination]
    split <;> rfl
  | loadIndex address => exact following_next (by simp [(digits_nnn 10 hfits h).1])
  | skip condition =>
    have hop : word.toNat / 0x1000 ∈ [0x3, 0x4, 0x5, 0x9, 0xe] := by
      cases condition with
      | equalsByte => simp [(digits_xnn 3 h).1]
      | differsFromByte => simp [(digits_xnn 4 h).1]
      | equalsRegister => simp [(digits_xyn 5 0 (by decide) h).1]
      | differsFromRegister => simp [(digits_xyn 9 0 (by decide) h).1]
      | keyDown => simp [(digits_x 14 0x9e (by decide) h).1]
      | keyUp => simp [(digits_x 14 0xa1 (by decide) h).1]
    rw [following_skip hop, skips_eq_holds h, destination]
  | awaitKey x =>
    obtain ⟨hop, -, hlow⟩ := digits_x 15 0x0a (by decide) h
    by_cases hk : m.keys = .none
    · simp [following, hop, hlow, destination, hk, Keys.lowest?_eq_none_iff.2 rfl]
    · have hlowest : m.keys.lowest?.isSome := Option.isSome_iff_ne_none.2 (mt Keys.lowest?_eq_none_iff.1 hk)
      simp [following, hop, hlow, destination, hk, hlowest]
  | loadByte x value => exact following_next (by simp [(digits_xnn 6 h).1])
  | addByte x value => exact following_next (by simp [(digits_xnn 7 h).1])
  | random x mask => exact following_next (by simp [(digits_xnn 12 h).1])
  | alu op x y =>
    have hlast : op.digit < 0x10 := by cases op <;> decide
    exact following_next (by simp [(digits_xyn 8 _ hlast h).1])
  | draw x y rows => exact following_next (by simp [(digits_xyn 13 _ hfits h).1])
  | readDelay x | writeDelay x | writeSound x | addIndex x | pointToGlyph x | storeDecimal x | storeRegisters x
  | loadRegisters x =>
    have hx := x.isLt
    simp only [Instruction.number] at h
    exact following_device (by omega) (by omega)

theorem following_of_return {caller : UInt16} {stack : CallStack} (hp : m.stack.pop = some (caller, stack)) :
    m.following dialect 0x00ee = (caller + 2).toNat := by
  simp [following, CallStack.frames_pop hp, UInt16.toNat_add]

theorem holds_opposite (m : Machine) (condition : SkipWhen Reg) : m.holds condition.opposite = !m.holds condition := by
  cases condition <;> simp [SkipWhen.opposite, holds]

end Machine

namespace Interpreter

variable {γ : Type} [RandomSource γ] {i : Interpreter γ}

theorem following_step (hok : i.step.1 = .ok ()) :
    i.step.2.machine.pc.toNat = i.machine.following i.dialect i.machine.wordNumber := by
  have hs := i.step_stepped
  generalize i.step = result at hok hs ⊢
  cases hs with
  | failed => cases hok
  | passedOver hf hd =>
    obtain ⟨hpc, hword⟩ := Machine.fetch_eq_ok_iff.1 hf
    rw [← hword, Machine.following_of_undefined hd]
    exact Machine.toNat_add_two (by omega)
  | @executed word instruction advance hf hd hn ha =>
    obtain ⟨hpc, hword⟩ := Machine.fetch_eq_ok_iff.1 hf
    show (advance.target i.machine.pc).toNat = _
    rw [← hword]
    by_cases hr : instruction = .returnFromCall
    · subst hr
      obtain ⟨caller, stack, hp, ht⟩ := Machine.target_of_return ha
      rw [ht, word_of_decode_return hd]
      exact (Machine.following_of_return hp).symm
    · rw [Machine.target_of_ne_return (by omega) hd hr ha,
        Machine.following_eq_destination (decode_eq_some_iff.1 hd) hr]

theorem pc_step_skip {word : UInt16} {condition : SkipWhen Reg} (hf : i.machine.fetch = .ok word)
    (he : (Instruction.skip condition).EncodedBy word) :
    i.step.2.machine.pc = i.machine.pc + if i.machine.holds condition then 4 else 2 := by
  rw [step_of_decode hf (decode_of_encoded he)]
  simp only [execute, Machine.perform, Machine.skipIf]
  split <;> rfl

/-- A step that succeeds leads where the digits of its word say, on every machine. Of two skips with the same operands
and opposite conditions exactly one skips, whichever of them stands in the memory of a machine. -/
theorem step_leads_by_word (i : Interpreter γ) :
    (i.step.1 = .ok () → i.step.2.machine.pc.toNat = i.machine.following i.dialect i.machine.wordNumber) ∧
    ∀ (condition : SkipWhen Reg) (ram : Ram) (word opposite : UInt16),
      let pc := i.machine.pc
      let other := i.modifyMachine fun m => { m with ram }
      (Instruction.skip condition).EncodedBy word → (Instruction.skip condition.opposite).EncodedBy opposite →
      i.machine.fetch = .ok word → other.machine.fetch = .ok opposite →
      (i.step.2.machine.pc = pc + 4 ∧ other.step.2.machine.pc = pc + 2) ∨
        (i.step.2.machine.pc = pc + 2 ∧ other.step.2.machine.pc = pc + 4) := by
  refine ⟨following_step, ?_⟩
  intro condition ram word opposite pc other he ho hf hf'
  have hother : other.machine.holds condition.opposite = !i.machine.holds condition :=
    other.machine.holds_opposite condition
  rw [pc_step_skip hf he, pc_step_skip hf' ho, hother]
  cases i.machine.holds condition with
  | true => exact .inl ⟨rfl, rfl⟩
  | false => exact .inr ⟨rfl, rfl⟩

/-- Register V0 holds 0x25, which names key 5. That key is down. -/
theorem step_leads_by_word_key_pair :
    ∃ i j : Interpreter Random.Scripted,
      start [0x60, 0x25, 0xe0, 0x9e] { words := [] } {} = .ok i ∧
      start [0x60, 0x25, 0xe0, 0xa1] { words := [] } {} = .ok j ∧
      let now := i.run [.step, .setKey 5 true]
      let other := now.modifyMachine fun m => { m with ram := j.machine.ram }
      now.machine.fetch = .ok 0xe09e ∧ now.step.1 = .ok () ∧ now.step.2.machine.pc.toNat = 0x206 ∧
        other.machine.fetch = .ok 0xe0a1 ∧ other.step.2.machine.pc = now.machine.pc + 2 := by
  obtain ⟨i, j, hstart, hstart', hf, hfault, hleads, hf', hpc⟩ : ∃ i j : Interpreter Random.Scripted,
      start [0x60, 0x25, 0xe0, 0x9e] { words := [] } {} = .ok i ∧
      start [0x60, 0x25, 0xe0, 0xa1] { words := [] } {} = .ok j ∧
      let now := i.run [.step, .setKey 5 true]
      let other := now.modifyMachine fun m => { m with ram := j.machine.ram }
      now.machine.fetch.toOption = some 0xe09e ∧ now.machine.stepFault? = none ∧
        now.machine.following now.dialect now.machine.wordNumber = 0x206 ∧
        other.machine.fetch.toOption = some 0xe0a1 ∧ now.machine.pc = 0x202 :=
    ⟨_, _, rfl, rfl, by decide +kernel⟩
  have hf := eq_ok_of_toOption hf
  have hf' := eq_ok_of_toOption hf'
  have hok := step_of_no_fault hfault
  obtain ⟨hfollows, hpairs⟩ := step_leads_by_word (i.run [.step, .setKey 5 true])
  have hnext := (hfollows hok).trans hleads
  refine ⟨i, j, hstart, hstart', hf, hok, hnext, hf', ?_⟩
  rcases hpairs (.keyDown (.ofNat 0)) j.machine.ram _ _ ⟨trivial, rfl⟩ ⟨trivial, rfl⟩ hf hf' with h | h
  · exact h.2
  · rw [h.1, hpc] at hnext
    cases hnext

end Interpreter

end Chip8
