import Chip8.Proofs.Interpreter.Steps
import Chip8.Proofs.Machine.Encoding
import Chip8.Proofs.Ram.Access

/-!
# When a step fails

A step fails if its word lies past the end of memory, at a return without a call, at a call with no frame left, and at
a word that touches bytes past the end of memory (`Machine.Fails`), and at no other word (`step_error_iff_fails`).
-/

namespace Chip8

namespace Machine

variable {m : Machine} {word : UInt16} {instruction : Instruction Reg} {fault : Fault}

/-! ## The word at the program counter -/

/-- The word at the program counter as a number, high byte first. -/
def wordNumber (m : Machine) : Nat :=
  0x100 * (m.ram.byteAt m.pc.toNat).toNat + (m.ram.byteAt (m.pc.toNat + 1)).toNat

theorem fetch_eq_ok_iff : m.fetch = .ok word ↔ m.pc.toNat + 2 ≤ 4096 ∧ word.toNat = m.wordNumber := by
  by_cases h : Ram.Holds m.pc 2
  · have hpc : m.pc.toNat + 2 ≤ 4096 := h
    rw [fetch, Ram.word, if_pos h, wordNumber, ← Ram.toNat_highByte_or, UInt16.toNat_inj, Except.ok.injEq, eq_comm]
    exact (and_iff_right hpc).symm
  · have hpc : ¬ m.pc.toNat + 2 ≤ 4096 := h
    simp [fetch, Ram.word, h, hpc]

theorem fetch_eq_error_iff :
    m.fetch = .error fault ↔ 4096 < m.pc.toNat + 2 ∧ fault = .outOfBounds m.pc.toNat 2 := by
  by_cases h : Ram.Holds m.pc 2
  · have hpc : m.pc.toNat + 2 ≤ 4096 := h
    simp [fetch, Ram.word, h]
    omega
  · have hpc : 4096 < m.pc.toNat + 2 := Nat.lt_of_not_le h
    simp [fetch, Ram.word, Ram.outside, h, hpc, eq_comm]

/-! ## Words that fail -/

/-- What makes a step fail, and with which fault. -/
inductive Fails (m : Machine) : Fault → Prop
  | pastEnd : 4096 < m.pc.toNat + 2 → Fails m (.outOfBounds m.pc.toNat 2)
  /-- 00EE. -/
  | noCall : m.pc.toNat + 2 ≤ 4096 → m.wordNumber = 0x00ee → m.stack.frames = [] → Fails m (.stackUnderflow m.pc)
  /-- 2nnn. -/
  | noFrame : m.pc.toNat + 2 ≤ 4096 → m.wordNumber / 0x1000 = 0x2 → m.stack.frames.length = 16 →
      Fails m (.stackOverflow m.pc)
  /-- Dxyn. -/
  | sprite (n : Nat) : m.pc.toNat + 2 ≤ 4096 → m.wordNumber / 0x1000 = 0xd → m.wordNumber % 0x10 = n →
      4096 < m.index.toNat + n → Fails m (.outOfBounds m.index.toNat n)
  /-- Fx33. -/
  | digits : m.pc.toNat + 2 ≤ 4096 → m.wordNumber / 0x1000 = 0xf → m.wordNumber % 0x100 = 0x33 →
      4096 < m.index.toNat + 3 → Fails m (.outOfBounds m.index.toNat 3)
  /-- Fx55 and Fx65. -/
  | block (x : Nat) : m.pc.toNat + 2 ≤ 4096 → m.wordNumber / 0x1000 = 0xf → m.wordNumber / 0x100 % 0x10 = x →
      m.wordNumber % 0x100 = 0x55 ∨ m.wordNumber % 0x100 = 0x65 → 4096 < m.index.toNat + x + 1 →
      Fails m (.outOfBounds m.index.toNat (x + 1))

theorem blockFault?_eq_some_iff_lt {length : Nat} :
    m.blockFault? length = some fault ↔
      4096 < m.index.toNat + length ∧ fault = .outOfBounds m.index.toNat length :=
  blockFault?_eq_some_iff.trans (and_congr_left fun _ => Nat.not_le)

theorem fails_of_fault (hf : m.fetch = .ok word) (he : instruction.EncodedBy word)
    (h : m.fault? instruction = some fault) : m.Fails fault := by
  obtain ⟨hpc, hword⟩ := fetch_eq_ok_iff.1 hf
  obtain ⟨hfits, hnumber⟩ := he
  rw [hword] at hnumber
  cases instruction with
  | returnFromCall =>
    simp only [fault?, Option.ite_none_right_eq_some, Option.some.injEq] at h
    obtain ⟨hempty, rfl⟩ := h
    exact .noCall hpc hnumber.symm hempty
  | call address =>
    simp only [fault?, Option.ite_none_right_eq_some, Option.some.injEq] at h
    obtain ⟨hfull, rfl⟩ := h
    simp only [Instruction.Fits, Instruction.number] at hfits hnumber
    exact .noFrame hpc (by omega) hfull
  | draw x y rows =>
    obtain ⟨hout, rfl⟩ := blockFault?_eq_some_iff_lt.1 h
    have hx := x.isLt
    have hy := y.isLt
    simp only [Instruction.Fits, Instruction.number] at hfits hnumber
    exact .sprite _ hpc (by omega) (by omega) hout
  | storeDecimal x =>
    obtain ⟨hout, rfl⟩ := blockFault?_eq_some_iff_lt.1 h
    have hx := x.isLt
    simp only [Instruction.number] at hnumber
    exact .digits hpc (by omega) (by omega) hout
  | storeRegisters x | loadRegisters x =>
    obtain ⟨hout, rfl⟩ := blockFault?_eq_some_iff_lt.1 h
    have hx := x.isLt
    simp only [Instruction.number] at hnumber
    exact .block _ hpc (by omega) (by omega) (by omega) hout
  | _ => cases h

theorem exists_of_fails (hf : m.fetch = .ok word) (h : m.Fails fault) :
    ∃ instruction : Instruction Reg, instruction.EncodedBy word ∧ m.fault? instruction = some fault := by
  obtain ⟨hpc, hword⟩ := fetch_eq_ok_iff.1 hf
  have hlt := word.toNat_lt
  cases h with
  | pastEnd hpast => omega
  | noCall _ hw hempty => exact ⟨.returnFromCall, ⟨trivial, by rw [hword, hw]; rfl⟩, by simp [fault?, hempty]⟩
  | noFrame _ hw hfull =>
    refine ⟨.call (.ofNat (word.toNat % 0x1000)), ⟨?_, ?_⟩, by simp [fault?, hfull]⟩
    · simp only [Instruction.Fits, UInt16.toNat_ofNat']
      omega
    · simp only [Instruction.number, UInt16.toNat_ofNat']
      omega
  | sprite n _ hw hn hout =>
    refine ⟨.draw (.ofNat (word.toNat / 0x100)) (.ofNat (word.toNat / 0x10)) (.ofNat n), ⟨?_, ?_⟩, ?_⟩
    · simp only [Instruction.Fits, UInt8.toNat_ofNat']
      omega
    · simp only [Instruction.number, Reg.ofNat, UInt8.toNat_ofNat']
      omega
    · have hrows : (UInt8.ofNat n).toNat = n := by
        rw [UInt8.toNat_ofNat']
        omega
      exact blockFault?_eq_some_iff_lt.2 (by rw [hrows]; exact ⟨hout, rfl⟩)
  | digits _ hw hlow hout =>
    refine ⟨.storeDecimal (.ofNat (word.toNat / 0x100)), ⟨trivial, ?_⟩, blockFault?_eq_some_iff_lt.2 ⟨hout, rfl⟩⟩
    simp only [Instruction.number, Reg.ofNat]
    omega
  | block x _ hw hx hlow hout =>
    have hreg : (Reg.ofNat x : Nat) = x := by
      simp only [Reg.ofNat]
      omega
    have hfault : m.blockFault? (Reg.ofNat x + 1) = some (.outOfBounds m.index.toNat (x + 1)) :=
      blockFault?_eq_some_iff_lt.2 (by rw [hreg]; exact ⟨by omega, rfl⟩)
    rcases hlow with hlow | hlow
    · refine ⟨.storeRegisters (.ofNat x), ⟨trivial, ?_⟩, hfault⟩
      simp only [Instruction.number, hreg]
      omega
    · refine ⟨.loadRegisters (.ofNat x), ⟨trivial, ?_⟩, hfault⟩
      simp only [Instruction.number, hreg]
      omega

end Machine

namespace Interpreter

variable {γ : Type} [RandomSource γ]

/-- A step fails exactly if it must, and with the fault that it must: the word at the program counter does not lie
inside memory; or it is a return without a call, a call with no frame left, or a word that touches bytes of which some
lie past the end of memory. No other word makes a step fail, whatever the machine, its random source and its dialect
are. -/
theorem step_error_iff_fails (i : Interpreter γ) (fault : Fault) :
    i.step.1 = .error fault ↔ i.machine.Fails fault := by
  rw [step_eq_error_iff, Machine.stepFault?]
  cases hf : i.machine.fetch with
  | error other =>
    obtain ⟨hpast, rfl⟩ := Machine.fetch_eq_error_iff.1 hf
    simp only [Option.some.injEq]
    constructor
    · rintro rfl
      exact .pastEnd hpast
    · intro h
      -- all other failures need a word inside memory
      cases h with
      | pastEnd => rfl
      | _ => omega
  | ok word =>
    simp only [Option.bind_eq_some_iff, decode_eq_some_iff]
    constructor
    · rintro ⟨instruction, he, h⟩
      exact Machine.fails_of_fault hf he h
    · exact Machine.exists_of_fails hf

end Interpreter

end Chip8
