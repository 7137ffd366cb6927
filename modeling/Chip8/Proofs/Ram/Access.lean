import Chip8.Ram

/-!
# Accesses to memory

What an access shows and what it leaves, byte by byte: a read lists the bytes from its address on (`read_eq`), a word is
made of two of them (`toNat_word`), and what a write leaves is the block that it put there, and everything else as before
(`byteAt_write`).
-/

namespace Chip8.Ram

variable {ram after : Ram}

/-! ## Reading -/

theorem read_eq (ram : Ram) (address : UInt16) (length : Nat) :
    ram.read address length =
      if address.toNat + length ≤ 4096 then .ok ((List.range' address.toNat length).map ram.byteAt)
      else .error (.outOfBounds address.toNat length) := by
  by_cases h : address.toNat + length ≤ 4096
  · obtain ⟨bytes, hr⟩ : ∃ bytes, ram.read address length = .ok bytes := ⟨_, if_pos h⟩
    rw [if_pos h, hr, Except.ok.injEq]
    apply List.ext_getElem?
    intro k
    rw [getElem?_of_read hr, List.getElem?_map]
    by_cases hk : k < length <;> simp [hk]
  · rw [if_neg h]
    exact if_neg h

theorem toNat_highByte_or (high low : UInt8) :
    (high.toUInt16 <<< 8 ||| low.toUInt16).toNat = 0x100 * high.toNat + low.toNat := by
  have hh : high.toNat <<< 8 < 65536 := by
    have := high.toNat_lt
    rw [Nat.shiftLeft_eq]
    omega
  have hl : low.toNat < 2 ^ 8 := low.toNat_lt
  calc (high.toUInt16 <<< 8 ||| low.toUInt16).toNat
      = high.toNat <<< 8 % 65536 ||| low.toNat := by
        simp only [UInt16.toNat_or, UInt16.toNat_shiftLeft, UInt8.toNat_toUInt16]
        rfl
    _ = high.toNat * 2 ^ 8 + low.toNat := by
        rw [Nat.mod_eq_of_lt hh, ← Nat.shiftLeft_add_eq_or_of_lt hl, Nat.shiftLeft_eq]
    _ = 0x100 * high.toNat + low.toNat := by omega

theorem toNat_word (ram : Ram) (address : UInt16) :
    (ram.word address).map UInt16.toNat =
      if address.toNat + 2 ≤ 4096 then
        .ok (0x100 * (ram.byteAt address.toNat).toNat + (ram.byteAt (address.toNat + 1)).toNat)
      else .error (.outOfBounds address.toNat 2) := by
  by_cases h : Holds address 2
  · have hle : address.toNat + 2 ≤ 4096 := h
    rw [word, if_pos h, if_pos hle, ← toNat_highByte_or]
    rfl
  · have hle : ¬ address.toNat + 2 ≤ 4096 := h
    rw [word, if_neg h, if_neg hle]
    rfl

/-! ## Writing -/

/-- Bytes from an address on. -/
structure Block where
  start : Nat
  bytes : List UInt8
deriving DecidableEq

/-- The byte of a block for an address, if the block covers it. -/
def Block.byte? (b : Block) (k : Nat) : Option UInt8 :=
  if b.start ≤ k then b.bytes[k - b.start]? else none

theorem Block.getD_byte? (b : Block) (k : Nat) (other : UInt8) :
    (b.byte? k).getD other =
      if b.start ≤ k ∧ k < b.start + b.bytes.length then b.bytes.getD (k - b.start) 0 else other := by
  rw [byte?, List.getD_eq_getElem?_getD]
  by_cases hstart : b.start ≤ k
  · rw [if_pos hstart]
    by_cases hend : k - b.start < b.bytes.length
    · rw [if_pos ⟨hstart, by omega⟩, List.getElem?_eq_getElem hend, Option.getD_some, Option.getD_some]
    · rw [if_neg (by omega), List.getElem?_eq_none (Nat.le_of_not_lt hend), Option.getD_none]
  · rw [if_neg hstart, if_neg fun h => hstart h.1, Option.getD_none]

theorem byteAt_write {address : UInt16} {data : List UInt8} (h : ram.write address data = .ok after) (k : Nat) :
    after.byteAt k = ((Block.mk address.toNat data).byte? k).getD (ram.byteAt k) := by
  by_cases hstart : address.toNat ≤ k
  · obtain ⟨j, rfl⟩ : ∃ j, k = address.toNat + j := ⟨k - address.toNat, by omega⟩
    rw [Block.byte?, if_pos hstart, Nat.add_sub_cancel_left]
    by_cases hend : j < data.length
    · rw [getElem?_of_write h hend, Option.getD_some]
    · rw [List.getElem?_eq_none (Nat.le_of_not_lt hend), Option.getD_none]
      exact byteAt_of_write h (by omega)
  · rw [Block.byte?, if_neg hstart, Option.getD_none]
    exact byteAt_of_write h (by omega)

theorem fill_eq_write (ram : Ram) (address : UInt16) (length : Nat) (value : UInt8) :
    ram.fill address length value = ram.write address (List.replicate length value) := by
  simp only [fill, write, List.length_replicate]
  split <;> rfl

/-! ## Loading -/

theorem load_eq (ram : Ram) (program : List UInt8) (hp : ram.programStart.toNat ≤ 4096) :
    ram.load program =
      if ram.programStart.toNat + program.length ≤ 4096 then
        .ok { ram with bytes := overlay ram.bytes ram.programStart.toNat program }
      else .error (.programTooLarge program.length (4096 - ram.programStart.toNat)) := by
  have hroom : program.length ≤ ram.capacity ↔ ram.programStart.toNat + program.length ≤ 4096 :=
    ⟨Nat.add_le_of_le_sub' hp, Nat.le_sub_of_add_le'⟩
  -- the room is checked first, and then the write finds nothing to refuse
  by_cases h : ram.programStart.toNat + program.length ≤ 4096
  · rw [load, if_pos (hroom.2 h), if_pos h]
    exact if_pos h
  · rw [load, if_neg (mt hroom.1 h), if_neg h]
    rfl

theorem byteAt_load {program : List UInt8} (h : ram.load program = .ok after) (k : Nat) :
    after.byteAt k = ((Block.mk ram.programStart.toNat program).byte? k).getD (ram.byteAt k) := by
  simp only [load] at h
  split at h
  · exact byteAt_write h k
  · cases h

/-! ## New memory -/

/-- The byte at an address of new memory: the font at the bottom, and zeros above it. -/
def initialByte (k : Nat) : UInt8 :=
  if k < 0x50 then Font.glyphs.getD k 0 else 0

theorem byteAt_initial (k : Nat) : initial.byteAt k = initialByte k := by
  have hlength : 0 + Font.glyphs.length = 0x50 := rfl
  by_cases hk : k < 4096
  · rw [byteAt, initial, getElem?_overlay _ _ _ _ hk, hlength, Nat.sub_zero, initialByte, List.getD_eq_getElem?_getD]
    by_cases hfont : k < 0x50
    · rw [if_pos ⟨Nat.zero_le k, hfont⟩, if_pos hfont]
    · rw [if_neg fun h => hfont h.2, if_neg hfont, Vector.getElem?_replicate, if_pos hk, Option.getD_some]
  · rw [initialByte, if_neg (by omega), byteAt, Vector.getElem?_eq_none (Nat.le_of_not_lt hk), Option.getD_none]

end Chip8.Ram
