import Chip8.Proofs.Interpreter.Steps
import Chip8.Proofs.Machine.Encoding

/-!
# Addresses on a run

Program counter and return addresses stay far below the range of their type (`Bounded`), because a word can be fetched
only inside memory. So every sum that moves the program counter is exact (`addresses_exact`).
-/

namespace Chip8

namespace Machine

variable {γ : Type} [RandomSource γ] {m : Machine} {random : γ} {dialect : Dialect}
variable {word : UInt16} {instruction : Instruction Reg} {advance : Advance}

/-- The program counter is at most where the farthest jump leads, and calls were made inside memory. -/
structure Bounded (m : Machine) : Prop where
  pc : m.pc.toNat ≤ 0x10fe
  frames : ∀ caller ∈ m.stack.frames, caller.toNat ≤ 0xffe

/-- Where an instruction leads, computed without a bound on numbers. -/
def destination (m : Machine) (dialect : Dialect) : Instruction Reg → Nat
  | .returnFromCall => (m.stack.frames.getLast?.getD 0).toNat + 2
  | .jump address | .call address => address.toNat
  | .skip condition => m.pc.toNat + if m.holds condition then 4 else 2
  | .jumpOffset address =>
    address.toNat +
      (if dialect.jumpReadsVx then m.reg (.ofNat (address.toNat / 256)) else m.reg (.ofNat 0)).toNat
  | .awaitKey _ => m.pc.toNat + if m.keys.lowest?.isSome then 2 else 0
  | _ => m.pc.toNat + 2

/-! ## Sums -/

theorem toNat_add_of_le {a b : UInt16} (ha : a.toNat ≤ 0x10fe) (hb : b.toNat ≤ 0xff) :
    (a + b).toNat = a.toNat + b.toNat := by
  rw [UInt16.toNat_add]
  omega

theorem toNat_add_two {a : UInt16} (h : a.toNat ≤ 0x10fe) : (a + 2).toNat = a.toNat + 2 :=
  toNat_add_of_le h (by decide)

theorem toNat_add_four {a : UInt16} (h : a.toNat ≤ 0x10fe) : (a + 4).toNat = a.toNat + 4 :=
  toNat_add_of_le h (by decide)

theorem toNat_add_byte {a : UInt16} (h : a.toNat < 0x1000) (b : UInt8) :
    (a + b.toUInt16).toNat = a.toNat + b.toNat := by
  have := b.toNat_lt
  rw [toNat_add_of_le (by omega) (by rw [UInt8.toNat_toUInt16]; omega), UInt8.toNat_toUInt16]

theorem toNat_shift_eight (a : UInt16) : (a >>> 8).toNat = a.toNat / 256 := by
  simp [Nat.shiftRight_eq_div_pow]

/-! ## One step -/

theorem pc_of_fetch (hf : m.fetch = .ok word) : m.pc.toNat ≤ 0xffe := by
  simp only [fetch, Ram.word] at hf
  split at hf
  · rename_i hin
    have hle : m.pc.toNat + 2 ≤ 4096 := hin
    omega
  · cases hf

theorem caller_of_pop {caller : UInt16} {stack : CallStack} (hb : m.Bounded)
    (hp : m.stack.pop = some (caller, stack)) : caller.toNat ≤ 0xffe :=
  hb.frames caller (by simp [CallStack.frames_pop hp])

theorem target_of_return (ha : (m.perform random dialect .returnFromCall).advance = .ok advance) :
    ∃ caller stack, m.stack.pop = some (caller, stack) ∧ advance.target m.pc = caller + 2 := by
  cases hp : m.stack.pop with
  | none => simp [perform, hp] at ha
  | some popped =>
    simp only [perform, hp, Except.ok.injEq] at ha
    subst ha
    exact ⟨popped.1, popped.2, rfl, rfl⟩

theorem target_of_ne_return (hpc : m.pc.toNat ≤ 0x10fe) (hd : Instruction.decode word = some instruction)
    (hr : instruction ≠ .returnFromCall) (ha : (m.perform random dialect instruction).advance = .ok advance) :
    (advance.target m.pc).toNat = m.destination dialect instruction := by
  have hfits := fits_of_decode hd
  cases instruction with
  | returnFromCall => exact absurd rfl hr
  | call address =>
    cases hp : m.stack.push m.pc with
    | none => simp [perform, hp] at ha
    | some stack =>
      simp only [perform, hp, Except.ok.injEq] at ha
      subst ha
      rfl
  | jump address =>
    cases ha
    rfl
  | skip condition =>
    cases ha
    cases hc : m.holds condition with
    | true => simp [destination, hc, skipIf, Advance.target, toNat_add_four hpc]
    | false => simp [destination, hc, skipIf, Advance.target, toNat_add_two hpc]
  | jumpOffset address =>
    cases ha
    rw [Advance.target, toNat_add_byte hfits, destination, toNat_shift_eight]
  | awaitKey x =>
    cases hk : m.keys.lowest? with
    | none =>
      simp only [perform, hk, Except.ok.injEq] at ha
      subst ha
      simp [destination, hk, Advance.target]
    | some key =>
      simp only [perform, hk, Except.ok.injEq] at ha
      subst ha
      simp [destination, hk, Advance.target, toNat_add_two hpc]
  | draw | storeDecimal | storeRegisters | loadRegisters =>
    simp only [perform] at ha
    split at ha
    · cases ha
      exact toNat_add_two hpc
    · cases ha
  | _ =>
    cases ha
    exact toNat_add_two hpc

/-- An instruction leads to its destination: no sum on the way overflows. -/
theorem target_eq_destination (hb : m.Bounded) (hd : Instruction.decode word = some instruction)
    (ha : (m.perform random dialect instruction).advance = .ok advance) :
    (advance.target m.pc).toNat = m.destination dialect instruction := by
  by_cases hr : instruction = .returnFromCall
  · subst hr
    obtain ⟨caller, stack, hp, ht⟩ := target_of_return ha
    have hcaller := caller_of_pop hb hp
    rw [ht, toNat_add_two (by omega), destination, CallStack.frames_pop hp]
    simp
  · exact target_of_ne_return hb.pc hd hr ha

theorem destination_le (hb : m.Bounded) (hf : m.fetch = .ok word)
    (hd : Instruction.decode word = some instruction) : m.destination dialect instruction ≤ 0x10fe := by
  have hpc := pc_of_fetch hf
  have hfits := fits_of_decode hd
  cases instruction with
  | returnFromCall =>
    cases hl : m.stack.frames.getLast? with
    | none => simp [destination, hl]
    | some caller =>
      have := hb.frames caller (List.mem_of_getLast? hl)
      simp only [destination, hl, Option.getD_some]
      omega
  | jump address | call address =>
    have hlt : address.toNat < 0x1000 := hfits
    simp only [destination]
    omega
  | skip condition | awaitKey x =>
    simp only [destination]
    split <;> omega
  | jumpOffset address =>
    have hlt : address.toNat < 0x1000 := hfits
    simp only [destination]
    have := UInt8.toNat_lt (if dialect.jumpReadsVx then m.reg (.ofNat (address.toNat / 256)) else m.reg (.ofNat 0))
    omega
  | _ =>
    simp only [destination]
    omega

theorem frames_perform (hb : m.Bounded) (hf : m.fetch = .ok word) :
    ∀ caller ∈ (m.perform random dialect instruction).machine.stack.frames, caller.toNat ≤ 0xffe := by
  cases instruction with
  | returnFromCall =>
    cases hp : m.stack.pop with
    | none =>
      simp only [perform, hp]
      exact hb.frames
    | some popped =>
      simp only [perform, hp]
      intro caller hm
      exact hb.frames caller (by simp [CallStack.frames_pop hp, hm])
  | call address =>
    cases hp : m.stack.push m.pc with
    | none =>
      simp only [perform, hp]
      exact hb.frames
    | some stack =>
      simp only [perform, hp, CallStack.frames_push hp]
      intro caller hm
      rcases List.mem_append.1 hm with hm | hm
      · exact hb.frames caller hm
      · obtain rfl := List.mem_singleton.1 hm
        exact pc_of_fetch hf
  | _ =>
    rw [perform_stack (by simp) (by simp)]
    exact hb.frames

end Machine

namespace Interpreter

variable {γ : Type} [RandomSource γ] {i : Interpreter γ}

theorem bounded_step (hb : i.machine.Bounded) : i.step.2.machine.Bounded := by
  have hs := i.step_stepped
  generalize i.step = result at hs ⊢
  cases hs with
  | failed => exact hb
  | passedOver hf hd =>
    have hpc := Machine.pc_of_fetch hf
    refine ⟨?_, hb.frames⟩
    show (i.machine.pc + 2).toNat ≤ 0x10fe
    rw [Machine.toNat_add_two hb.pc]
    omega
  | executed hf hd hn ha =>
    refine ⟨?_, Machine.frames_perform hb hf⟩
    show (Advance.target i.machine.pc _).toNat ≤ 0x10fe
    rw [Machine.target_eq_destination hb hd ha]
    exact Machine.destination_le hb hf hd

theorem bounded_act (action : Action) (hb : i.machine.Bounded) : (i.act action).2.machine.Bounded := by
  cases action with
  | step => exact bounded_step hb
  | tick | setKey | acknowledge => exact ⟨hb.pc, hb.frames⟩

/-- After a step that executes an instruction the program counter is the instruction's destination. -/
theorem pc_step {word : UInt16} {instruction : Instruction Reg} (hb : i.machine.Bounded)
    (hf : i.machine.fetch = .ok word) (hd : Instruction.decode word = some instruction) (hok : i.step.1 = .ok ()) :
    i.step.2.machine.pc.toNat = i.machine.destination i.dialect instruction := by
  have hs := i.step_stepped
  generalize i.step = result at hok hs ⊢
  cases hs with
  | failed => cases hok
  | passedOver hf' hd' =>
    cases hf.symm.trans hf'
    cases hd.symm.trans hd'
  | executed hf' hd' hn ha =>
    cases hf.symm.trans hf'
    cases hd.symm.trans hd'
    exact Machine.target_eq_destination hb hd ha

/-- From the start of a program on, whatever a run does, the program counter is at most 0x10fe and calls were made at
most at 0xffe. So whenever there is a word to execute, no sum of 16 bits that moves the program counter overflows: not
that of the next instruction, of a skip, of a return, or of a jump with an offset, where also the register is one of
the sixteen. A step leads exactly to the destination of its instruction. -/
theorem addresses_exact {program : List UInt8} {random : γ} {dialect : Dialect}
    (h : start program random dialect = .ok i) (actions : List Action) :
    let now := (i.run actions).machine
    now.pc.toNat ≤ 0x10fe ∧
    (∀ caller ∈ now.stack.frames, caller.toNat ≤ 0xffe) ∧
    ∀ word, now.fetch = .ok word →
      (now.pc + 2).toNat = now.pc.toNat + 2 ∧
      (now.pc + 4).toNat = now.pc.toNat + 4 ∧
      (∀ caller stack, now.stack.pop = some (caller, stack) → (caller + 2).toNat = caller.toNat + 2) ∧
      (∀ address, Instruction.decode word = some (.jumpOffset address) →
        (address >>> 8).toNat < 16 ∧
          ∀ x, (address + (now.reg x).toUInt16).toNat = address.toNat + (now.reg x).toNat) ∧
      ∀ instruction, Instruction.decode word = some instruction → (i.run actions).step.1 = .ok () →
        (i.run actions).step.2.machine.pc.toNat = now.destination (i.run actions).dialect instruction := by
  intro now
  have hb : now.Bounded := by
    refine run_invariant (I := fun i => i.machine.Bounded) (fun _ action => bounded_act action) actions ?_
    obtain ⟨ram, hl, rfl⟩ := exists_of_start h
    refine ⟨?_, ?_⟩
    · show ram.programStart.toNat ≤ 0x10fe
      rw [Ram.programStart_of_load hl]
      decide
    · intro caller hm
      cases hm
  refine ⟨hb.pc, hb.frames, ?_⟩
  intro word hf
  refine ⟨Machine.toNat_add_two hb.pc, Machine.toNat_add_four hb.pc, ?_, ?_, ?_⟩
  · intro caller stack hp
    have hcaller := Machine.caller_of_pop hb hp
    exact Machine.toNat_add_two (by omega)
  · intro address hd
    have hlt : address.toNat < 0x1000 := fits_of_decode hd
    refine ⟨?_, fun x => Machine.toNat_add_byte hlt _⟩
    rw [Machine.toNat_shift_eight]
    omega
  · intro instruction hd hok
    exact pc_step hb hf hd hok

theorem addresses_exact_farthest_jump :
    ∃ i : Interpreter Random.Scripted,
      start [0x60, 0xff, 0x22, 0x04, 0xbf, 0xff] { words := [] } {} = .ok i ∧
      let now := i.run [.step, .tick, .step]
      now.machine.stack.frames = [0x202] ∧ (∀ caller ∈ now.machine.stack.frames, caller.toNat ≤ 0xffe) ∧
        now.machine.fetch = .ok 0xbfff ∧
        (0xfff + (now.machine.reg (.ofNat 0)).toUInt16).toNat = 0xfff + (now.machine.reg (.ofNat 0)).toNat ∧
        now.step.2.machine.pc.toNat = 0x10fe := by
  obtain ⟨i, hstart, hframes, hf, hfault, hlast⟩ : ∃ i : Interpreter Random.Scripted,
      start [0x60, 0xff, 0x22, 0x04, 0xbf, 0xff] { words := [] } {} = .ok i ∧
      let now := i.run [.step, .tick, .step]
      now.machine.stack.frames = [0x202] ∧ now.machine.fetch.toOption = some 0xbfff ∧
        now.machine.stepFault? = none ∧ now.machine.destination now.dialect (.jumpOffset 0xfff) = 0x10fe :=
    ⟨_, rfl, by decide +kernel⟩
  have hf := eq_ok_of_toOption hf
  have hd : Instruction.decode 0xbfff = some (.jumpOffset 0xfff) := by decide +kernel
  obtain ⟨_, hcallers, hsums⟩ := addresses_exact hstart [.step, .tick, .step]
  obtain ⟨_, _, _, hoffset, hdestination⟩ := hsums _ hf
  refine ⟨i, hstart, hframes, hcallers, hf, (hoffset _ hd).2 _, ?_⟩
  rw [← hlast]
  exact hdestination _ hd (step_of_no_fault hfault)

end Interpreter

end Chip8
