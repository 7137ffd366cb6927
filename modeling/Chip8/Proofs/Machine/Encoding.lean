import Chip8.Proofs.Machine.Words

/-!
# The words of instructions

A word encodes an instruction if it is its number and the operands fit their fields (`EncodedBy`). A word is read as
an instruction exactly if it encodes it, so the words without meaning are those that encode nothing.
-/

namespace Chip8

/-- The operands fit their fields, and a routine of the machine code is none of the two instructions of its group. -/
def Instruction.Fits : Instruction Reg → Prop
  | .machineRoutine address => address.toNat < 0x1000 ∧ address.toNat ≠ 0x00e0 ∧ address.toNat ≠ 0x00ee
  | .jump address | .call address | .loadIndex address | .jumpOffset address => address.toNat < 0x1000
  | .draw _ _ rows => rows.toNat < 0x10
  | _ => True

/-- The word of an instruction. -/
def Instruction.EncodedBy (instruction : Instruction Reg) (word : UInt16) : Prop :=
  instruction.Fits ∧ instruction.number = word.toNat

/-! ## What is read fits -/

section Fits

variable {word : UInt16} {read : Instruction Nat}

theorem fits_of_system (h : word.toNat / 4096 = 0) (hr : (Nibbles.ofWord word).systemInstruction = read) :
    (read.map Reg.ofNat).Fits := by
  have hx := Nibbles.toNat_ofWord_x word
  have hy := Nibbles.toNat_ofWord_y word
  have hn := Nibbles.toNat_ofWord_n word
  have ha := Nibbles.toNat_nnn word
  simp only [Nibbles.systemInstruction] at hr
  split at hr
  · subst hr
    trivial
  · subst hr
    trivial
  · rename_i hclear hreturn
    subst hr
    refine ⟨by omega, ?_, ?_⟩
    · intro he
      exact hclear (by omega) (by omega) (by omega)
    · intro he
      exact hreturn (by omega) (by omega) (by omega)

theorem fits_of_key (hr : (Nibbles.ofWord word).keyInstruction? = some read) : (read.map Reg.ofNat).Fits := by
  simp only [Nibbles.keyInstruction?] at hr
  split at hr <;> simp only [Option.some.injEq, reduceCtorEq] at hr <;> subst hr <;> trivial

theorem fits_of_device (hr : (Nibbles.ofWord word).deviceInstruction? = some read) :
    (read.map Reg.ofNat).Fits := by
  simp only [Nibbles.deviceInstruction?] at hr
  split at hr <;> simp only [Option.some.injEq, reduceCtorEq] at hr <;> subst hr <;> trivial

theorem fits_of_decode {instruction : Instruction Reg} (h : Instruction.decode word = some instruction) :
    instruction.Fits := by
  obtain ⟨read, hr, rfl⟩ := Option.map_eq_some_iff.1 h
  have hop := Nibbles.toNat_ofWord_op word
  have hn := Nibbles.toNat_ofWord_n word
  have ha := Nibbles.toNat_nnn word
  simp only [Nibbles.instruction?] at hr
  split at hr
  case h_1 => exact fits_of_system (by omega) (Option.some.inj hr)
  case h_9 =>
    obtain ⟨op, _, rfl⟩ := Option.map_eq_some_iff.1 hr
    trivial
  case h_15 => exact fits_of_key hr
  case h_16 => exact fits_of_device hr
  all_goals simp only [Option.some.injEq, reduceCtorEq, Option.ite_none_right_eq_some] at hr
  case h_6 | h_10 =>
    obtain ⟨_, rfl⟩ := hr
    trivial
  case h_2 | h_3 | h_11 | h_12 | h_14 =>
    subst hr
    simp only [Instruction.map, Instruction.Fits]
    omega
  all_goals
    subst hr
    trivial

end Fits

/-! ## The digits of a number that encodes an instruction -/

section Digits

variable {n : Nat} {x y : Reg}

theorem Reg.ofNat_eq (h : n % 16 = x) : Reg.ofNat n = x :=
  Fin.ext h

theorem digits_nnn (op : Nat) {address : UInt16} (ha : address.toNat < 0x1000)
    (h : 0x1000 * op + address.toNat = n) : n / 0x1000 = op ∧ n % 0x1000 = address.toNat :=
  ⟨by omega, by omega⟩

theorem digits_xnn (op : Nat) {value : UInt8} (h : 0x1000 * op + 0x100 * x + value.toNat = n) :
    n / 0x1000 = op ∧ Reg.ofNat (n / 0x100) = x ∧ n % 0x100 = value.toNat := by
  have hx := x.isLt
  have hv := value.toNat_lt
  exact ⟨by omega, Reg.ofNat_eq (by omega), by omega⟩

theorem digits_xyn (op last : Nat) (hlast : last < 0x10) (h : 0x1000 * op + 0x100 * x + 0x10 * y + last = n) :
    n / 0x1000 = op ∧ Reg.ofNat (n / 0x100) = x ∧ Reg.ofNat (n / 0x10) = y ∧ n % 0x10 = last := by
  have hx := x.isLt
  have hy := y.isLt
  exact ⟨by omega, Reg.ofNat_eq (by omega), Reg.ofNat_eq (by omega), by omega⟩

theorem digits_x (op low : Nat) (hlow : low < 0x100) (h : 0x1000 * op + low + 0x100 * x = n) :
    n / 0x1000 = op ∧ Reg.ofNat (n / 0x100) = x ∧ n % 0x100 = low := by
  have hx := x.isLt
  exact ⟨by omega, Reg.ofNat_eq (by omega), by omega⟩

end Digits

/-! ## What encodes an instruction is read as it -/

section Encoded

variable {word : UInt16} {x y : Reg}

theorem reg_x (word : UInt16) : Reg.ofNat (Nibbles.ofWord word).x.toNat = Reg.ofNat (word.toNat / 0x100) := by
  rw [Nibbles.toNat_ofWord_x]
  exact Fin.ext (Nat.mod_mod ..)

theorem reg_y (word : UInt16) : Reg.ofNat (Nibbles.ofWord word).y.toNat = Reg.ofNat (word.toNat / 0x10) := by
  rw [Nibbles.toNat_ofWord_y]
  exact Fin.ext (Nat.mod_mod ..)

/-- The fields of a word with an address behind its first digit. -/
theorem fields_nnn (op : Nat) {address : UInt16} (ha : address.toNat < 0x1000)
    (h : 0x1000 * op + address.toNat = word.toNat) :
    (Nibbles.ofWord word).op.toNat = op ∧ (Nibbles.ofWord word).nnn = address := by
  obtain ⟨hop, hnnn⟩ := digits_nnn op ha h
  exact ⟨(Nibbles.toNat_ofWord_op word).trans hop, UInt16.toNat_inj.1 ((Nibbles.toNat_nnn word).trans hnnn)⟩

/-- The fields of a word with a register and a byte. -/
theorem fields_xnn (op : Nat) {value : UInt8} (h : 0x1000 * op + 0x100 * x + value.toNat = word.toNat) :
    (Nibbles.ofWord word).op.toNat = op ∧ Reg.ofNat (Nibbles.ofWord word).x.toNat = x ∧
      (Nibbles.ofWord word).nn = value := by
  obtain ⟨hop, hx, hv⟩ := digits_xnn op h
  exact ⟨(Nibbles.toNat_ofWord_op word).trans hop, (reg_x word).trans hx,
    UInt8.toNat_inj.1 ((Nibbles.toNat_nn word).trans hv)⟩

/-- The fields of a word with two registers and a last digit. -/
theorem fields_xyn (op : Nat) {n : Nat} (hn : n < 0x10) (h : 0x1000 * op + 0x100 * x + 0x10 * y + n = word.toNat) :
    (Nibbles.ofWord word).op.toNat = op ∧ Reg.ofNat (Nibbles.ofWord word).x.toNat = x ∧
      Reg.ofNat (Nibbles.ofWord word).y.toNat = y ∧ (Nibbles.ofWord word).n.toNat = n := by
  obtain ⟨hop, hx, hy, hlast⟩ := digits_xyn op n hn h
  exact ⟨(Nibbles.toNat_ofWord_op word).trans hop, (reg_x word).trans hx, (reg_y word).trans hy,
    (Nibbles.toNat_ofWord_n word).trans hlast⟩

/-- The fields of a word with a register and two fixed digits. -/
theorem fields_x (op low : Nat) (hl : low < 0x100) (h : 0x1000 * op + low + 0x100 * x = word.toNat) :
    (Nibbles.ofWord word).op.toNat = op ∧ Reg.ofNat (Nibbles.ofWord word).x.toNat = x ∧
      (Nibbles.ofWord word).y.toNat = low / 16 ∧ (Nibbles.ofWord word).n.toNat = low % 16 := by
  obtain ⟨hop, hx, hlow⟩ := digits_x op low hl h
  refine ⟨(Nibbles.toNat_ofWord_op word).trans hop, (reg_x word).trans hx, ?_, ?_⟩
  · rw [Nibbles.toNat_ofWord_y]
    omega
  · rw [Nibbles.toNat_ofWord_n]
    omega

theorem decode_system {instruction : Instruction Nat} (h : word.toNat < 0x1000)
    (hr : (Nibbles.ofWord word).systemInstruction = instruction) :
    Instruction.decode word = some (instruction.map Reg.ofNat) := by
  have hop : (Nibbles.ofWord word).op.toNat = 0 := by
    rw [Nibbles.toNat_ofWord_op]
    omega
  simp [Instruction.decode, Nibbles.instruction?, hop, hr]

theorem decode_alu {op : AluOp} (h : (Instruction.alu op x y).number = word.toNat) :
    Instruction.decode word = some (.alu op x y) := by
  have hd : op.digit < 0x10 := by cases op <;> decide
  obtain ⟨hop, hx, hy, hn⟩ := fields_xyn 8 hd h
  have ho : (Nibbles.ofWord word).aluOp? = some op := by
    rw [Nibbles.aluOp?, hn]
    cases op <;> rfl
  simp [Instruction.decode, Nibbles.instruction?, hop, ho, Instruction.map, hx, hy]

theorem decode_skip {condition : SkipWhen Reg} (h : condition.number = word.toNat) :
    Instruction.decode word = some (.skip condition) := by
  cases condition with
  | equalsByte x value =>
    obtain ⟨hop, hx, hv⟩ := fields_xnn 3 h
    simp [Instruction.decode, Nibbles.instruction?, hop, Instruction.map, SkipWhen.map, hx, hv]
  | differsFromByte x value =>
    obtain ⟨hop, hx, hv⟩ := fields_xnn 4 h
    simp [Instruction.decode, Nibbles.instruction?, hop, Instruction.map, SkipWhen.map, hx, hv]
  | equalsRegister x y =>
    obtain ⟨hop, hx, hy, hn⟩ := fields_xyn 5 (n := 0) (by decide) h
    have hn : (Nibbles.ofWord word).n = 0 := UInt8.toNat_inj.1 hn
    simp [Instruction.decode, Nibbles.instruction?, hop, hn, Instruction.map, SkipWhen.map, hx, hy]
  | differsFromRegister x y =>
    obtain ⟨hop, hx, hy, hn⟩ := fields_xyn 9 (n := 0) (by decide) h
    have hn : (Nibbles.ofWord word).n = 0 := UInt8.toNat_inj.1 hn
    simp [Instruction.decode, Nibbles.instruction?, hop, hn, Instruction.map, SkipWhen.map, hx, hy]
  | keyDown x =>
    obtain ⟨hop, hx, hy, hn⟩ := fields_x 14 0x9e (by decide) h
    simp [Instruction.decode, Nibbles.instruction?, Nibbles.keyInstruction?, hop, hy, hn, Instruction.map,
      SkipWhen.map, hx]
  | keyUp x =>
    obtain ⟨hop, hx, hy, hn⟩ := fields_x 14 0xa1 (by decide) h
    simp [Instruction.decode, Nibbles.instruction?, Nibbles.keyInstruction?, hop, hy, hn, Instruction.map,
      SkipWhen.map, hx]

theorem decode_of_encoded {instruction : Instruction Reg} (h : instruction.EncodedBy word) :
    Instruction.decode word = some instruction := by
  obtain ⟨hf, hnum⟩ := h
  cases instruction with
  | clearScreen =>
    obtain rfl : word = 0x00e0 := UInt16.toNat_inj.1 hnum.symm
    rfl
  | returnFromCall =>
    obtain rfl : word = 0x00ee := UInt16.toNat_inj.1 hnum.symm
    rfl
  | machineRoutine address =>
    obtain ⟨hlt, hclear, hreturn⟩ := hf
    obtain rfl : word = address := UInt16.toNat_inj.1 hnum.symm
    have hx := Nibbles.toNat_ofWord_x word
    have hy := Nibbles.toNat_ofWord_y word
    have hn := Nibbles.toNat_ofWord_n word
    have ha := (fields_nnn 0 hlt (Nat.zero_add _)).2
    rw [decode_system hlt rfl, Nibbles.systemInstruction]
    split
    · omega
    · omega
    · rw [ha]
      rfl
  | jump address =>
    obtain ⟨hop, ha⟩ := fields_nnn 1 hf hnum
    simp [Instruction.decode, Nibbles.instruction?, hop, ha, Instruction.map]
  | call address =>
    obtain ⟨hop, ha⟩ := fields_nnn 2 hf hnum
    simp [Instruction.decode, Nibbles.instruction?, hop, ha, Instruction.map]
  | skip condition => exact decode_skip hnum
  | loadByte x value =>
    obtain ⟨hop, hx, hv⟩ := fields_xnn 6 hnum
    simp [Instruction.decode, Nibbles.instruction?, hop, hx, hv, Instruction.map]
  | addByte x value =>
    obtain ⟨hop, hx, hv⟩ := fields_xnn 7 hnum
    simp [Instruction.decode, Nibbles.instruction?, hop, hx, hv, Instruction.map]
  | alu op x y => exact decode_alu hnum
  | loadIndex address =>
    obtain ⟨hop, ha⟩ := fields_nnn 10 hf hnum
    simp [Instruction.decode, Nibbles.instruction?, hop, ha, Instruction.map]
  | jumpOffset address =>
    obtain ⟨hop, ha⟩ := fields_nnn 11 hf hnum
    simp [Instruction.decode, Nibbles.instruction?, hop, ha, Instruction.map]
  | random x mask =>
    obtain ⟨hop, hx, hv⟩ := fields_xnn 12 hnum
    simp [Instruction.decode, Nibbles.instruction?, hop, hx, hv, Instruction.map]
  | draw x y rows =>
    obtain ⟨hop, hx, hy, hn⟩ := fields_xyn 13 hf hnum
    have hn : (Nibbles.ofWord word).n = rows := UInt8.toNat_inj.1 hn
    simp [Instruction.decode, Nibbles.instruction?, hop, hx, hy, hn, Instruction.map]
  | readDelay x =>
    obtain ⟨hop, hx, hy, hn⟩ := fields_x 15 0x07 (by decide) hnum
    simp [Instruction.decode, Nibbles.instruction?, Nibbles.deviceInstruction?, hop, hx, hy, hn, Instruction.map]
  | awaitKey x =>
    obtain ⟨hop, hx, hy, hn⟩ := fields_x 15 0x0a (by decide) hnum
    simp [Instruction.decode, Nibbles.instruction?, Nibbles.deviceInstruction?, hop, hx, hy, hn, Instruction.map]
  | writeDelay x =>
    obtain ⟨hop, hx, hy, hn⟩ := fields_x 15 0x15 (by decide) hnum
    simp [Instruction.decode, Nibbles.instruction?, Nibbles.deviceInstruction?, hop, hx, hy, hn, Instruction.map]
  | writeSound x =>
    obtain ⟨hop, hx, hy, hn⟩ := fields_x 15 0x18 (by decide) hnum
    simp [Instruction.decode, Nibbles.instruction?, Nibbles.deviceInstruction?, hop, hx, hy, hn, Instruction.map]
  | addIndex x =>
    obtain ⟨hop, hx, hy, hn⟩ := fields_x 15 0x1e (by decide) hnum
    simp [Instruction.decode, Nibbles.instruction?, Nibbles.deviceInstruction?, hop, hx, hy, hn, Instruction.map]
  | pointToGlyph x =>
    obtain ⟨hop, hx, hy, hn⟩ := fields_x 15 0x29 (by decide) hnum
    simp [Instruction.decode, Nibbles.instruction?, Nibbles.deviceInstruction?, hop, hx, hy, hn, Instruction.map]
  | storeDecimal x =>
    obtain ⟨hop, hx, hy, hn⟩ := fields_x 15 0x33 (by decide) hnum
    simp [Instruction.decode, Nibbles.instruction?, Nibbles.deviceInstruction?, hop, hx, hy, hn, Instruction.map]
  | storeRegisters x =>
    obtain ⟨hop, hx, hy, hn⟩ := fields_x 15 0x55 (by decide) hnum
    simp [Instruction.decode, Nibbles.instruction?, Nibbles.deviceInstruction?, hop, hx, hy, hn, Instruction.map]
  | loadRegisters x =>
    obtain ⟨hop, hx, hy, hn⟩ := fields_x 15 0x65 (by decide) hnum
    simp [Instruction.decode, Nibbles.instruction?, Nibbles.deviceInstruction?, hop, hx, hy, hn, Instruction.map]

end Encoded

/-- A word is read as an instruction exactly if it encodes it. -/
theorem decode_eq_some_iff {word : UInt16} {instruction : Instruction Reg} :
    Instruction.decode word = some instruction ↔ instruction.EncodedBy word :=
  ⟨fun h => ⟨fits_of_decode h, number_of_decode h⟩, decode_of_encoded⟩

/-- 0nnn, but neither 00E0 nor 00EE. -/
def NamesRoutine (word : UInt16) : Prop :=
  word.toNat < 0x1000 ∧ word ≠ 0x00e0 ∧ word ≠ 0x00ee
deriving Decidable

theorem decode_eq_machineRoutine_iff {word address : UInt16} :
    Instruction.decode word = some (.machineRoutine address) ↔ NamesRoutine word ∧ address = word := by
  rw [decode_eq_some_iff, Instruction.EncodedBy, Instruction.number, UInt16.toNat_inj]
  refine and_congr_left ?_
  rintro rfl
  simp only [Instruction.Fits, NamesRoutine, Ne, ← UInt16.toNat_inj]
  rfl

end Chip8
