import Chip8.Instruction.Assembly
import Chip8.Proofs.Machine.Encoding
import Chip8.Proofs.Text.Numerals

/-!
# Assembly text read back

An assembler: it cuts a text at its blanks (`fields_assembly`), reads each operand by its first characters (`read_text`)
and finds the instruction by its operation and the shape of its operands (`assemble?_operands`). What it makes of the text
of an instruction is that instruction (`read?_assembly`), so no two instructions share a text, and no two words are
written alike.
-/

namespace Chip8

/-- What stands between the parts of a text: blanks and commas. -/
def isSeparator (c : Char) : Bool :=
  c == ' ' || c == ','

section Separators

variable {part : List Char}

theorem any_isSeparator_of_isAlphanum (h : ∀ c ∈ part, c.isAlphanum) : part.any isSeparator = false := by
  refine List.any_eq_false.2 fun c hc hseparator => ?_
  obtain rfl | rfl : c = ' ' ∨ c = ',' := by simpa [isSeparator] using hseparator
  all_goals exact absurd (h _ hc) (by decide)

theorem blank_not_mem (h : part.any isSeparator = false) : ' ' ∉ part :=
  fun hc => List.any_eq_false.1 h _ hc rfl

theorem filter_ne_comma (h : part.any isSeparator = false) : part.filter (· ≠ ',') = part := by
  refine List.filter_eq_self.2 fun c hc => decide_eq_true ?_
  rintro rfl
  exact List.any_eq_false.1 h _ hc rfl

end Separators

/-! ## Operands -/

namespace Operand

/-- The operand that a text stands for. A hexadecimal number of more than two digits is an address. -/
def read : List Char → Operand
  | 'V' :: digits => .register (Numeral.value 16 digits)
  | '0' :: 'x' :: digits =>
    let number := Numeral.value 16 digits
    if digits.length ≤ 2 then .byte (.ofNat number) else .address (.ofNat number)
  | ['I'] => .index
  | ['[', 'I', ']'] => .atIndex
  | ['D', 'T'] => .delayTimer
  | ['S', 'T'] => .soundTimer
  | ['K'] => .key
  | ['F'] => .font
  | ['B'] => .decimalDigits
  | digits => .count (.ofNat (Numeral.value 10 digits))

theorem read_of_digits {digits : List Char} (h : ∀ c ∈ digits, c.isDigit) :
    read digits = .count (.ofNat (Numeral.value 10 digits)) := by
  unfold read
  split
  case h_10 => rfl
  all_goals simp [Char.isDigit] at h

theorem read_hex (width n : Nat) :
    read ("0x" ++ Numeral.hex width n).toList =
      if width ≤ 2 ∧ (Nat.toDigits 16 n).length ≤ 2 then .byte (.ofNat n) else .address (.ofNat n) := by
  have hread : read ("0x" ++ Numeral.hex width n).toList =
      if (Numeral.hex width n).toList.length ≤ 2 then .byte (.ofNat (Numeral.value 16 (Numeral.hex width n).toList))
      else .address (.ofNat (Numeral.value 16 (Numeral.hex width n).toList)) := by
    rw [String.toList_append]
    rfl
  rw [hread, Numeral.length_hex, Numeral.value_hex]
  simp only [Nat.max_le]

/-- An operand is known by its text. -/
theorem read_text (operand : Operand) : read operand.text.toList = operand := by
  cases operand with
  | register number =>
    rw [text, String.toList_append]
    exact congrArg register (Numeral.value_upperHex number)
  | address value =>
    rw [text, Numeral.address, read_hex, if_neg fun h => absurd h.1 (by decide), UInt16.ofNat_toNat]
  | byte value =>
    -- an address is filled up to three digits, and a byte never needs more than two
    have hdigits : (Nat.toDigits 16 value.toNat).length ≤ 2 :=
      (Nat.length_toDigits_le_iff (by decide) (by decide)).2 value.toNat_lt
    rw [text, Numeral.byte, read_hex, if_pos ⟨Nat.le_refl 2, hdigits⟩, UInt8.ofNat_toNat]
  | count value =>
    rw [text, read_of_digits fun c hc => Numeral.isDigit_of_mem_decimal hc, Numeral.value_decimal, UInt8.ofNat_toNat]
  | index | atIndex | delayTimer | soundTimer | key | font | decimalDigits => rfl

theorem any_isSeparator_text (operand : Operand) : operand.text.toList.any isSeparator = false := by
  have hhex (width n : Nat) : ("0x" ++ Numeral.hex width n).toList.any isSeparator = false := by
    rw [String.toList_append, List.any_append,
      any_isSeparator_of_isAlphanum fun c hc => Numeral.isAlphanum_of_mem_hex hc]
    rfl
  cases operand with
  | register number =>
    rw [text, String.toList_append, List.any_append,
      any_isSeparator_of_isAlphanum fun c hc => Numeral.isAlphanum_of_mem_upperHex hc]
    rfl
  | address value => exact hhex 3 _
  | byte value => exact hhex 2 _
  | count value =>
    refine any_isSeparator_of_isAlphanum fun c hc => ?_
    simp [Char.isAlphanum, Numeral.isDigit_of_mem_decimal hc]
  | index | atIndex | delayTimer | soundTimer | key | font | decimalDigits => decide

end Operand

/-! ## Instructions -/

namespace Instruction

/-- The operation of arithmetic with a name. -/
def aluOp? : String → Option AluOp
  | "LD" => some .copy
  | "OR" => some .or
  | "AND" => some .and
  | "XOR" => some .xor
  | "ADD" => some .add
  | "SUB" => some .sub
  | "SHR" => some .shiftRight
  | "SUBN" => some .subReverse
  | "SHL" => some .shiftLeft
  | _ => none

/-- The instruction with an operation and operands, if there is one. -/
def assemble? (operation : String) : List Operand → Option (Instruction Nat)
  | [] =>
    match operation with
    | "CLS" => some .clearScreen
    | "RET" => some .returnFromCall
    | _ => none
  | [.address a] =>
    match operation with
    | "SYS" => some (.machineRoutine a)
    | "JP" => some (.jump a)
    | "CALL" => some (.call a)
    | _ => none
  | [.register x] =>
    match operation with
    | "SKP" => some (.skip (.keyDown x))
    | "SKNP" => some (.skip (.keyUp x))
    | _ => none
  | [.register x, .byte v] =>
    match operation with
    | "SE" => some (.skip (.equalsByte x v))
    | "SNE" => some (.skip (.differsFromByte x v))
    | "LD" => some (.loadByte x v)
    | "ADD" => some (.addByte x v)
    | "RND" => some (.random x v)
    | _ => none
  | [.register x, .register y] =>
    match operation with
    | "SE" => some (.skip (.equalsRegister x y))
    | "SNE" => some (.skip (.differsFromRegister x y))
    | _ => (aluOp? operation).map (.alu · x y)
  | [.index, .register x] => if operation = "ADD" then some (.addIndex x) else none
  | [.register 0, .address a] => if operation = "JP" then some (.jumpOffset a) else none
  | [.register x, .register y, .count n] => if operation = "DRW" then some (.draw x y n) else none
  | [.index, .address a] => if operation = "LD" then some (.loadIndex a) else none
  | [.register x, .delayTimer] => if operation = "LD" then some (.readDelay x) else none
  | [.register x, .key] => if operation = "LD" then some (.awaitKey x) else none
  | [.delayTimer, .register x] => if operation = "LD" then some (.writeDelay x) else none
  | [.soundTimer, .register x] => if operation = "LD" then some (.writeSound x) else none
  | [.font, .register x] => if operation = "LD" then some (.pointToGlyph x) else none
  | [.decimalDigits, .register x] => if operation = "LD" then some (.storeDecimal x) else none
  | [.atIndex, .register x] => if operation = "LD" then some (.storeRegisters x) else none
  | [.register x, .atIndex] => if operation = "LD" then some (.loadRegisters x) else none
  | _ => none

theorem assemble?_operands (i : Instruction Nat) : assemble? i.operation i.operands = some i := by
  cases i with
  | skip condition => cases condition <;> rfl
  | alu op x y => cases op <;> rfl
  | _ => rfl

/-- The pieces of a text between its blanks, without commas. -/
def fields (text : String) : List (List Char) :=
  (text.toList.filter (· ≠ ',')).splitOn ' '

theorem filter_joinOperands (operands : List Operand) :
    (joinOperands operands).toList.filter (· ≠ ',') = operands.flatMap fun operand => ' ' :: operand.text.toList := by
  have hself (operand : Operand) : operand.text.toList.filter (· ≠ ',') = operand.text.toList :=
    filter_ne_comma operand.any_isSeparator_text
  cases operands with
  | nil => rfl
  | cons first rest =>
    simp only [joinOperands, String.toList_append, String.toList_join, List.filter_append, List.flatMap_map, hself,
      List.filter_flatMap, List.flatMap_cons]
    rfl

theorem intercalate_cons_eq (first : List Char) (rest : List (List Char)) :
    [' '].intercalate (first :: rest) = first ++ rest.flatMap (' ' :: ·) := by
  induction rest generalizing first with
  | nil => simp
  | cons second rest ih =>
    rw [List.intercalate_cons_cons, ih, List.flatMap_cons]
    simp

theorem any_isSeparator_operation (i : Instruction Nat) : i.operation.toList.any isSeparator = false := by
  cases i with
  | skip condition => cases condition <;> (rw [operation, SkipWhen.operation]; decide)
  | alu op x y => cases op <;> (rw [operation, AluOp.operation]; decide)
  | _ => rw [operation]; decide

/-- The first field of a text is its operation, the others are its operands. -/
theorem fields_assembly (i : Instruction Nat) :
    fields i.assembly = i.operation.toList :: i.operands.map fun operand => operand.text.toList := by
  -- without its commas the text is its parts with one blank between each two of them
  rw [fields, assembly, String.toList_append, List.filter_append, filter_ne_comma i.any_isSeparator_operation,
    filter_joinOperands, ← List.flatMap_map, ← intercalate_cons_eq]
  refine List.splitOn_intercalate ' ' (List.forall_mem_cons.2 ⟨?_, fun field hfield => ?_⟩) (List.cons_ne_nil _ _)
  · exact blank_not_mem i.any_isSeparator_operation
  · obtain ⟨operand, _, rfl⟩ := List.mem_map.1 hfield
    exact blank_not_mem operand.any_isSeparator_text

/-- The instruction that a text stands for, if it stands for one. -/
def read? (text : String) : Option (Instruction Nat) :=
  match fields text with
  | [] => none
  | operation :: operands => assemble? (String.ofList operation) (operands.map Operand.read)

theorem read?_assembly (i : Instruction Nat) : read? i.assembly = some i := by
  have hoperands : (i.operands.map fun operand => operand.text.toList).map Operand.read = i.operands := by
    rw [List.map_map]
    exact List.map_id'' Operand.read_text _
  rw [read?, fields_assembly]
  simp only [hoperands, String.ofList_toList, assemble?_operands]

theorem assembly_injective {i j : Instruction Nat} (h : i.assembly = j.assembly) : i = j := by
  have hread := congrArg read? h
  rw [read?_assembly, read?_assembly] at hread
  exact Option.some.inj hread

/-- Registers of the machine are found again after their numbers were taken. -/
theorem map_ofNat_map_val (i : Instruction Reg) : (i.map Fin.val).map Reg.ofNat = i := by
  have hreg (x : Reg) : Reg.ofNat x.val = x := Fin.ext (Nat.mod_eq_of_lt x.isLt)
  cases i with
  | skip condition => cases condition <;> simp [map, SkipWhen.map, hreg]
  | _ => simp [map, hreg]

theorem eq_of_text_eq {i j : Instruction Reg} (h : i.text = j.text) : i = j := by
  rw [← map_ofNat_map_val i, assembly_injective h, map_ofNat_map_val]

/-- Assembly text loses nothing: instructions with the same text are the same, with any register numbers, and so are the
words that were read as instructions with the same text. -/
theorem assembly_loses_nothing :
    (∀ i j : Instruction Nat, i.assembly = j.assembly ↔ i = j) ∧
    ∀ {word other : UInt16} {i j : Instruction Reg}, decode word = some i → decode other = some j →
      (i.text = j.text ↔ word = other) := by
  refine ⟨fun i j => ⟨assembly_injective, congrArg assembly⟩, fun hi hj => ⟨fun h => ?_, fun h => ?_⟩⟩
  · obtain rfl := eq_of_text_eq h
    have hnumber := (decode_eq_some_iff.1 hi).2.symm.trans (decode_eq_some_iff.1 hj).2
    exact UInt16.toNat_inj.1 hnumber
  · subst h
    rw [Option.some.inj (hi.symm.trans hj)]

theorem assembly_loses_nothing_two_loads :
    ∃ i j, decode 0x6112 = some i ∧ decode 0x8110 = some j ∧ i.text = "LD V1, 0x12" ∧ j.text = "LD V1, V1" ∧
      i.text ≠ j.text := by
  obtain ⟨i, hi, htext⟩ : ∃ i, decode 0x6112 = some i ∧ i.text = "LD V1, 0x12" := ⟨_, rfl, by decide +kernel⟩
  obtain ⟨j, hj, hother⟩ : ∃ j, decode 0x8110 = some j ∧ j.text = "LD V1, V1" := ⟨_, rfl, by decide +kernel⟩
  exact ⟨i, j, hi, hj, htext, hother, mt (assembly_loses_nothing.2 hi hj).1 (by decide)⟩

end Instruction

end Chip8
