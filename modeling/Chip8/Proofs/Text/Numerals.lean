import Chip8.Text.Numeral

/-!
# Numerals read back

The value of a numeral is the number that it was written for, whatever the case of its letters and however many zeros
fill it up (`value_map_toDigits`, `value_padded`). So a numeral is the only one of its kind for its number.
-/

namespace Chip8.Numeral

/-- The value of a digit, with a letter of either case. -/
def digitValue (c : Char) : Nat :=
  if c.isDigit then c.toNat - '0'.toNat else c.toUpper.toNat - 'A'.toNat + 10

/-- The value of digits, most significant first. -/
def value (base : Nat) (digits : List Char) : Nat :=
  digits.foldl (fun value c => value * base + digitValue c) 0

variable {base width n : Nat}

theorem digitValue_digitChar : ∀ d < 16, digitValue d.digitChar = d := by decide

theorem digitValue_toUpper_digitChar : ∀ d < 16, digitValue d.digitChar.toUpper = d := by decide

@[simp] theorem value_singleton (c : Char) : value base [c] = digitValue c := by
  rw [value, List.foldl_cons, List.foldl_nil, Nat.zero_mul, Nat.zero_add]

@[simp] theorem value_concat (digits : List Char) (c : Char) :
    value base (digits ++ [c]) = value base digits * base + digitValue c :=
  List.foldl_append ..

/-- Digits written in a way that keeps their values are the number that they were taken from. -/
theorem value_map_toDigits {write : Char → Char} (hb : 1 < base) (hw : ∀ d < base, digitValue (write d.digitChar) = d)
    (n : Nat) : value base ((Nat.toDigits base n).map write) = n := by
  induction n using Nat.strongRecOn with
  | ind n ih =>
    by_cases h : n < base
    · rw [Nat.toDigits_of_lt_base h, List.map_singleton, value_singleton, hw n h]
    · have hlt : n / base < n := Nat.div_lt_self (by omega) hb
      have hmod : n % base < base := Nat.mod_lt n (by omega)
      rw [Nat.toDigits_of_base_le hb (Nat.le_of_not_lt h), List.map_append, List.map_singleton, value_concat, ih _ hlt,
        hw _ hmod, Nat.div_add_mod']

theorem value_toDigits (hb : 1 < base) (hb' : base ≤ 16) (n : Nat) : value base (Nat.toDigits base n) = n := by
  have h : value base ((Nat.toDigits base n).map id) = n :=
    value_map_toDigits hb (fun d hd => digitValue_digitChar d (Nat.lt_of_lt_of_le hd hb')) n
  rwa [List.map_id] at h

@[simp] theorem value_padded (digits : List Char) : value base (padded width digits) = value base digits := by
  have hzeros (k : Nat) : value base (List.replicate k '0') = 0 := by
    induction k with
    | zero => rfl
    | succ k ih =>
      rw [List.replicate_succ', value_concat, ih, Nat.zero_mul]
      rfl
  rw [value, padded, List.foldl_append, ← value, hzeros, ← value]

@[simp] theorem value_decimal (n : Nat) : value 10 (decimal n).toList = n := by
  rw [decimal, String.toList_ofList, value_toDigits (by decide) (by decide)]

@[simp] theorem value_hex (width n : Nat) : value 16 (hex width n).toList = n := by
  rw [hex, String.toList_ofList, value_padded, value_toDigits (by decide) (by decide)]

@[simp] theorem value_upperHex (n : Nat) : value 16 (upperHex n).toList = n := by
  rw [upperHex, String.toList_ofList, value_map_toDigits (by decide) digitValue_toUpper_digitChar]

/-! ## What a numeral looks like -/

@[simp] theorem length_hex (width n : Nat) :
    (hex width n).toList.length = max width (Nat.toDigits 16 n).length := by
  rw [hex, String.toList_ofList, padded, List.length_append, List.length_replicate]
  omega

theorem mem_toDigits {c : Char} (hb : 1 < base) (hc : c ∈ Nat.toDigits base n) : ∃ d < base, c = d.digitChar := by
  induction n using Nat.strongRecOn with
  | ind n ih =>
    by_cases h : n < base
    · rw [Nat.toDigits_of_lt_base h, List.mem_singleton] at hc
      exact ⟨n, h, hc⟩
    · rw [Nat.toDigits_of_base_le hb (Nat.le_of_not_lt h), List.mem_append, List.mem_singleton] at hc
      obtain hc | hc := hc
      · exact ih _ (Nat.div_lt_self (by omega) hb) hc
      · exact ⟨_, Nat.mod_lt n (by omega), hc⟩

theorem isAlphanum_of_mem_hex {c : Char} (hc : c ∈ (hex width n).toList) : c.isAlphanum := by
  have hdigit : ∀ d < 16, d.digitChar.isAlphanum := by decide
  rw [hex, String.toList_ofList, padded, List.mem_append, List.mem_replicate] at hc
  obtain ⟨-, rfl⟩ | hc := hc
  · rfl
  · obtain ⟨d, hd, rfl⟩ := mem_toDigits (by decide) hc
    exact hdigit d hd

theorem all_isAlphanum_hex (width n : Nat) : (hex width n).toList.all Char.isAlphanum :=
  List.all_eq_true.2 fun _ => isAlphanum_of_mem_hex

theorem toList_address (n : Nat) : (address n).toList = '0' :: 'x' :: (hex 3 n).toList := by
  rw [address, String.toList_append]
  rfl

theorem all_isAlphanum_address (n : Nat) : (address n).toList.all Char.isAlphanum := by
  rw [toList_address, List.all_cons, List.all_cons, all_isAlphanum_hex]
  rfl

theorem isAlphanum_of_mem_upperHex {c : Char} (hc : c ∈ (upperHex n).toList) : c.isAlphanum := by
  have hdigit : ∀ d < 16, d.digitChar.toUpper.isAlphanum := by decide
  rw [upperHex, String.toList_ofList, List.mem_map] at hc
  obtain ⟨_, hc, rfl⟩ := hc
  obtain ⟨d, hd, rfl⟩ := mem_toDigits (by decide) hc
  exact hdigit d hd

theorem isDigit_of_mem_decimal {c : Char} (hc : c ∈ (decimal n).toList) : c.isDigit := by
  rw [decimal, String.toList_ofList] at hc
  exact Nat.isDigit_of_mem_toDigits (by decide) (by decide) hc

end Chip8.Numeral
