import Chip8.Instruction.Decode

/-!
# Words and their instructions

Every instruction has a number, and a word means an instruction only if it is that number. So two words never mean
the same instruction.
-/

namespace Chip8

/-! ## The fields of a word -/

namespace Nibbles

variable (word : UInt16)

theorem toNat_ofWord_op : (ofWord word).op.toNat = word.toNat / 4096 := by
  have := word.toNat_lt
  simp [ofWord, Nat.shiftRight_eq_div_pow]
  omega

theorem and_fifteen (n : Nat) : n &&& 15 = n % 16 :=
  Nat.and_two_pow_sub_one_eq_mod n 4

theorem toNat_ofWord_x : (ofWord word).x.toNat = word.toNat / 256 % 16 := by
  simp [ofWord, Nat.shiftRight_eq_div_pow, and_fifteen]

theorem toNat_ofWord_y : (ofWord word).y.toNat = word.toNat / 16 % 16 := by
  simp [ofWord, Nat.shiftRight_eq_div_pow, and_fifteen]

theorem toNat_ofWord_n : (ofWord word).n.toNat = word.toNat % 16 := by
  simp [ofWord, and_fifteen]

theorem toNat_nn : (ofWord word).nn.toNat = word.toNat % 256 := by
  have hy : (word.toNat / 16 % 16) <<< 4 < 256 := by rw [Nat.shiftLeft_eq]; omega
  have hn : word.toNat % 16 < 2 ^ 4 := Nat.mod_lt _ (by decide)
  calc (ofWord word).nn.toNat
      = (word.toNat / 16 % 16) <<< 4 % 256 ||| word.toNat % 16 := by
        simp only [nn, UInt8.toNat_or, UInt8.toNat_shiftLeft, toNat_ofWord_y, toNat_ofWord_n]; rfl
    _ = word.toNat / 16 % 16 * 2 ^ 4 + word.toNat % 16 := by
        rw [Nat.mod_eq_of_lt hy, ← Nat.shiftLeft_add_eq_or_of_lt hn, Nat.shiftLeft_eq]
    _ = word.toNat % 256 := by omega

theorem toNat_nnn : (ofWord word).nnn.toNat = word.toNat % 4096 := by
  have hx : (word.toNat / 256 % 16) <<< 8 < 65536 := by rw [Nat.shiftLeft_eq]; omega
  have hy : (word.toNat / 16 % 16) <<< 4 < 65536 := by rw [Nat.shiftLeft_eq]; omega
  have hyb : (word.toNat / 16 % 16) <<< 4 < 2 ^ 8 := by rw [Nat.shiftLeft_eq]; omega
  have hn : word.toNat % 16 < 2 ^ 4 := Nat.mod_lt _ (by decide)
  have hhigh : (word.toNat / 256 % 16) <<< 8 ||| (word.toNat / 16 % 16) <<< 4 =
      (word.toNat / 256 % 16 * 16 + word.toNat / 16 % 16) <<< 4 := by
    rw [← Nat.shiftLeft_add_eq_or_of_lt hyb, Nat.shiftLeft_eq, Nat.shiftLeft_eq, Nat.shiftLeft_eq]
    omega
  calc (ofWord word).nnn.toNat
      = (word.toNat / 256 % 16) <<< 8 % 65536 ||| (word.toNat / 16 % 16) <<< 4 % 65536 ||| word.toNat % 16 := by
        simp only [nnn, UInt16.toNat_or, UInt16.toNat_shiftLeft, UInt8.toNat_toUInt16, toNat_ofWord_x,
          toNat_ofWord_y, toNat_ofWord_n]
        rfl
    _ = (word.toNat / 256 % 16 * 16 + word.toNat / 16 % 16) * 2 ^ 4 + word.toNat % 16 := by
        rw [Nat.mod_eq_of_lt hx, Nat.mod_eq_of_lt hy, hhigh, ← Nat.shiftLeft_add_eq_or_of_lt hn, Nat.shiftLeft_eq]
    _ = word.toNat % 4096 := by omega

end Nibbles

/-! ## The number of an instruction -/

/-- The last digit of 8xyn. -/
def AluOp.digit : AluOp → Nat
  | .copy => 0x0
  | .or => 0x1
  | .and => 0x2
  | .xor => 0x3
  | .add => 0x4
  | .sub => 0x5
  | .shiftRight => 0x6
  | .subReverse => 0x7
  | .shiftLeft => 0xe

/-- The number of the skip instruction with a condition. -/
def SkipWhen.number : SkipWhen Reg → Nat
  | .equalsByte x value => 0x3000 + 0x100 * x + value.toNat
  | .differsFromByte x value => 0x4000 + 0x100 * x + value.toNat
  | .equalsRegister x y => 0x5000 + 0x100 * x + 0x10 * y
  | .differsFromRegister x y => 0x9000 + 0x100 * x + 0x10 * y
  | .keyDown x => 0xe09e + 0x100 * x
  | .keyUp x => 0xe0a1 + 0x100 * x

/-- The word that means an instruction, as a number. -/
def Instruction.number : Instruction Reg → Nat
  | .clearScreen => 0x00e0
  | .returnFromCall => 0x00ee
  | .machineRoutine address => address.toNat
  | .jump address => 0x1000 + address.toNat
  | .call address => 0x2000 + address.toNat
  | .skip condition => condition.number
  | .loadByte x value => 0x6000 + 0x100 * x + value.toNat
  | .addByte x value => 0x7000 + 0x100 * x + value.toNat
  | .alu op x y => 0x8000 + 0x100 * x + 0x10 * y + op.digit
  | .loadIndex address => 0xa000 + address.toNat
  | .jumpOffset address => 0xb000 + address.toNat
  | .random x mask => 0xc000 + 0x100 * x + mask.toNat
  | .draw x y rows => 0xd000 + 0x100 * x + 0x10 * y + rows.toNat
  | .readDelay x => 0xf007 + 0x100 * x
  | .awaitKey x => 0xf00a + 0x100 * x
  | .writeDelay x => 0xf015 + 0x100 * x
  | .writeSound x => 0xf018 + 0x100 * x
  | .addIndex x => 0xf01e + 0x100 * x
  | .pointToGlyph x => 0xf029 + 0x100 * x
  | .storeDecimal x => 0xf033 + 0x100 * x
  | .storeRegisters x => 0xf055 + 0x100 * x
  | .loadRegisters x => 0xf065 + 0x100 * x

/-! ## Reading a word -/

section Decode

variable {word : UInt16} {read : Instruction Nat}

theorem number_of_system (h : word.toNat / 4096 = 0)
    (hr : (Nibbles.ofWord word).systemInstruction = read) : (read.map Reg.ofNat).number = word.toNat := by
  have hx := Nibbles.toNat_ofWord_x word
  have hy := Nibbles.toNat_ofWord_y word
  have hn := Nibbles.toNat_ofWord_n word
  have ha := Nibbles.toNat_nnn word
  simp only [Nibbles.systemInstruction] at hr
  split at hr <;> subst hr <;> simp only [Instruction.map, Instruction.number] <;> omega

theorem number_of_key (h : word.toNat / 4096 = 14)
    (hr : (Nibbles.ofWord word).keyInstruction? = some read) : (read.map Reg.ofNat).number = word.toNat := by
  have hx := Nibbles.toNat_ofWord_x word
  have hy := Nibbles.toNat_ofWord_y word
  have hn := Nibbles.toNat_ofWord_n word
  simp only [Nibbles.keyInstruction?] at hr
  split at hr <;> simp only [Option.some.injEq, reduceCtorEq] at hr <;> subst hr <;>
    simp only [Instruction.map, SkipWhen.map, Instruction.number, SkipWhen.number, Reg.ofNat] <;> omega

theorem number_of_device (h : word.toNat / 4096 = 15)
    (hr : (Nibbles.ofWord word).deviceInstruction? = some read) : (read.map Reg.ofNat).number = word.toNat := by
  have hx := Nibbles.toNat_ofWord_x word
  have hy := Nibbles.toNat_ofWord_y word
  have hn := Nibbles.toNat_ofWord_n word
  simp only [Nibbles.deviceInstruction?] at hr
  split at hr <;> simp only [Option.some.injEq, reduceCtorEq] at hr <;> subst hr <;>
    simp only [Instruction.map, Instruction.number, Reg.ofNat] <;> omega

theorem digit_of_aluOp {op : AluOp} (hr : (Nibbles.ofWord word).aluOp? = some op) :
    op.digit = word.toNat % 16 := by
  have hn := Nibbles.toNat_ofWord_n word
  simp only [Nibbles.aluOp?] at hr
  split at hr <;> simp only [Option.some.injEq, reduceCtorEq] at hr <;> subst hr <;>
    simp only [AluOp.digit] <;> omega

end Decode

/-- A word means an instruction only if it is the instruction's number. -/
theorem number_of_decode {word : UInt16} {instruction : Instruction Reg}
    (h : Instruction.decode word = some instruction) : instruction.number = word.toNat := by
  obtain ⟨read, hr, rfl⟩ := Option.map_eq_some_iff.1 h
  have hop := Nibbles.toNat_ofWord_op word
  have hx := Nibbles.toNat_ofWord_x word
  have hy := Nibbles.toNat_ofWord_y word
  have hn := Nibbles.toNat_ofWord_n word
  have hnn := Nibbles.toNat_nn word
  have hnnn := Nibbles.toNat_nnn word
  simp only [Nibbles.instruction?] at hr
  split at hr
  case h_1 heq =>
    exact number_of_system (by omega) (Option.some.inj hr)
  case h_9 heq =>
    obtain ⟨op, ho, rfl⟩ := Option.map_eq_some_iff.1 hr
    have := digit_of_aluOp ho
    simp only [Instruction.map, Instruction.number, Reg.ofNat]
    omega
  case h_15 heq => exact number_of_key (by omega) hr
  case h_16 heq => exact number_of_device (by omega) hr
  all_goals simp only [Option.some.injEq, reduceCtorEq, Option.ite_none_right_eq_some] at hr
  case h_6 | h_10 =>
    obtain ⟨h0, rfl⟩ := hr
    have := congrArg UInt8.toNat h0
    simp only [Instruction.map, SkipWhen.map, Instruction.number, SkipWhen.number, Reg.ofNat]
    simp at this
    omega
  all_goals
    subst hr
    simp only [Instruction.map, SkipWhen.map, Instruction.number, SkipWhen.number, Reg.ofNat]
    omega

theorem decode_call {word : UInt16} (h : word >>> 12 = 2) :
    Instruction.decode word = some (.call (Nibbles.ofWord word).nnn) := by
  have hop : (Nibbles.ofWord word).op.toNat = 2 := by simp [Nibbles.ofWord, h]
  simp [Instruction.decode, Nibbles.instruction?, hop, Instruction.map]

theorem decode_return : Instruction.decode 0x00ee = some .returnFromCall := rfl

/-- The address among the operands of an instruction. -/
def Instruction.address? : Instruction Reg → Option UInt16
  | .machineRoutine address | .jump address | .call address | .loadIndex address | .jumpOffset address =>
    some address
  | _ => none

theorem address_of_decode {word address : UInt16} {instruction : Instruction Reg}
    (h : Instruction.decode word = some instruction) (ha : instruction.address? = some address) :
    address.toNat = word.toNat % 4096 := by
  obtain ⟨read, hr, rfl⟩ := Option.map_eq_some_iff.1 h
  have hnnn := Nibbles.toNat_nnn word
  simp only [Nibbles.instruction?] at hr
  split at hr
  case h_1 =>
    simp only [Option.some.injEq, Nibbles.systemInstruction] at hr
    split at hr <;> subst hr <;> simp [Instruction.map, Instruction.address?] at ha
    rw [← ha, hnnn]
  case h_2 | h_3 | h_11 | h_12 =>
    simp only [Option.some.injEq] at hr
    subst hr
    simp [Instruction.map, Instruction.address?] at ha
    rw [← ha, hnnn]
  case h_9 =>
    obtain ⟨op, _, rfl⟩ := Option.map_eq_some_iff.1 hr
    cases ha
  case h_15 =>
    simp only [Nibbles.keyInstruction?] at hr
    split at hr <;> simp at hr <;> subst hr <;> cases ha
  case h_16 =>
    simp only [Nibbles.deviceInstruction?] at hr
    split at hr <;> simp at hr <;> subst hr <;> cases ha
  all_goals
    simp at hr
  case h_6 | h_10 =>
    obtain ⟨_, rfl⟩ := hr
    cases ha
  all_goals
    subst hr
    cases ha

theorem word_of_decode_call {word address : UInt16} (h : Instruction.decode word = some (.call address)) :
    word >>> 12 = 2 := by
  have hn := number_of_decode h
  have ha := address_of_decode h rfl
  simp only [Instruction.number] at hn
  apply UInt16.toNat_inj.1
  simp only [UInt16.toNat_shiftRight, Nat.shiftRight_eq_div_pow]
  show word.toNat / 4096 = 2
  omega

theorem word_of_decode_return {word : UInt16} (h : Instruction.decode word = some .returnFromCall) :
    word = 0x00ee :=
  UInt16.toNat_inj.1 (number_of_decode h).symm

end Chip8
