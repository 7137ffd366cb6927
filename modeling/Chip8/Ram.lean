import Chip8.Fault
import Chip8.Font
import Chip8.Log

/-!
# Memory

4096 bytes with the font at the bottom. Every access is checked against the end of memory, nothing wraps around,
and an access that does not fit changes nothing.
-/

namespace Chip8

/-- Memory, and the address where programs are loaded. -/
structure Ram where
  bytes : Vector UInt8 4096
  programStart : UInt16
deriving DecidableEq

namespace Ram

/-- The number of bytes. -/
def size : Nat := 4096

/-- Writes a list of bytes from `start` on, as far as there is room. -/
def overlay (bytes : Vector UInt8 4096) (start : Nat) : List UInt8 → Vector UInt8 4096
  | [] => bytes
  | b :: rest => overlay (bytes.setIfInBounds start b) (start + 1) rest

/-- Zeros with the font below them; programs go to 0x200. -/
def initial : Ram where
  bytes := overlay (Vector.replicate 4096 0) 0 Font.glyphs
  programStart := 0x200

/-- The written range shows the data, and everything else is as before. -/
theorem getElem?_overlay (bytes : Vector UInt8 4096) (start : Nat) (data : List UInt8) (k : Nat) (hk : k < 4096) :
    (overlay bytes start data)[k]? = if start ≤ k ∧ k < start + data.length then data[k - start]? else bytes[k]? := by
  induction data generalizing bytes start with
  | nil => rw [overlay, if_neg (by rw [List.length_nil]; omega)]
  | cons b rest ih =>
    rw [overlay, ih, Vector.getElem?_setIfInBounds]
    by_cases h : start = k
    · subst h
      rw [if_neg (by omega), if_pos rfl, if_pos hk, if_pos (by simp)]
      simp
    · by_cases h' : start + 1 ≤ k ∧ k < start + 1 + rest.length
      · obtain ⟨j, rfl⟩ : ∃ j, k = start + 1 + j := ⟨k - (start + 1), by omega⟩
        have e : start + 1 + j - start = j + 1 := by omega
        have e' : start + 1 + j - (start + 1) = j := by omega
        rw [if_pos h', if_pos (by rw [List.length_cons]; omega), e, e', List.getElem?_cons_succ]
      · rw [if_neg h', if_neg h, if_neg (by rw [List.length_cons]; omega)]

/-- The byte at an address inside memory; 0 outside. -/
def byteAt (ram : Ram) (address : Nat) : UInt8 :=
  ram.bytes[address]?.getD 0

/-- Whether `length` bytes from `address` on lie inside memory. -/
def Holds (address : UInt16) (length : Nat) : Prop :=
  address.toNat + length ≤ size

instance (address : UInt16) (length : Nat) : Decidable (Holds address length) :=
  inferInstanceAs (Decidable (_ ≤ _))

/-- The fault of an access that does not fit. -/
def outside (address : UInt16) (length : Nat) : Fault :=
  .outOfBounds address.toNat length

/-- Reads `length` bytes. -/
def read (ram : Ram) (address : UInt16) (length : Nat) : Except Fault (List UInt8) :=
  if Holds address length then
    .ok (ram.bytes.toArray.extract address.toNat (address.toNat + length)).toList
  else .error (outside address length)

def write (ram : Ram) (address : UInt16) (data : List UInt8) : Except Fault Ram :=
  if Holds address data.length then
    .ok { ram with bytes := overlay ram.bytes address.toNat data }
  else .error (outside address data.length)

theorem length_of_read {ram : Ram} {address : UInt16} {length : Nat} {bytes : List UInt8}
    (h : ram.read address length = .ok bytes) : bytes.length = length := by
  simp only [read] at h
  split at h
  · rename_i hin
    have hle : address.toNat + length ≤ 4096 := hin
    cases h
    simp
    omega
  · cases h

/-- A read shows the bytes from its address on. -/
theorem getElem?_of_read {ram : Ram} {address : UInt16} {length : Nat} {bytes : List UInt8}
    (h : ram.read address length = .ok bytes) (k : Nat) :
    bytes[k]? = if k < length then some (ram.byteAt (address.toNat + k)) else none := by
  have hlen := length_of_read h
  simp only [read] at h
  split at h
  · rename_i hin
    have hle : address.toNat + length ≤ 4096 := hin
    cases h
    by_cases hk : k < length
    · have hlt : address.toNat + k < 4096 := by omega
      simp [hk, hlt, byteAt]
    · rw [if_neg hk, List.getElem?_eq_none (by omega)]
  · cases h

/-- A write leaves the bytes outside its range alone. -/
theorem byteAt_of_write {ram after : Ram} {address : UInt16} {data : List UInt8} {k : Nat}
    (h : ram.write address data = .ok after) (hk : address.toNat ≤ k → address.toNat + data.length ≤ k) :
    after.byteAt k = ram.byteAt k := by
  simp only [write] at h
  split at h
  · cases h
    by_cases hlt : k < 4096
    · simp only [byteAt]
      rw [getElem?_overlay _ _ _ _ hlt, if_neg (by omega)]
    · simp [byteAt, hlt]
  · cases h

/-- A write puts the data into its range. -/
theorem getElem?_of_write {ram after : Ram} {address : UInt16} {data : List UInt8} {k : Nat}
    (h : ram.write address data = .ok after) (hk : k < data.length) :
    data[k]? = some (after.byteAt (address.toNat + k)) := by
  simp only [write] at h
  split at h
  · rename_i hin
    have hle : address.toNat + data.length ≤ 4096 := hin
    cases h
    have hoffset : address.toNat + k - address.toNat = k := by omega
    rw [byteAt, getElem?_overlay _ _ _ _ (by omega), if_pos (by omega), hoffset, List.getElem?_eq_getElem hk,
      Option.getD_some]
  · cases h

theorem programStart_of_write {ram after : Ram} {address : UInt16} {data : List UInt8}
    (h : ram.write address data = .ok after) : after.programStart = ram.programStart := by
  simp only [write] at h
  split at h
  · cases h
    rfl
  · cases h

/-- Writes one byte `length` times. -/
def fill (ram : Ram) (address : UInt16) (length : Nat) (value : UInt8) : Except Fault Ram :=
  if Holds address length then ram.write address (List.replicate length value)
  else .error (outside address length)

/-- Reads two bytes, high byte first. -/
def word (ram : Ram) (address : UInt16) : Except Fault UInt16 :=
  if Holds address 2 then
    .ok ((ram.byteAt address.toNat).toUInt16 <<< 8 ||| (ram.byteAt (address.toNat + 1)).toUInt16)
  else .error (outside address 2)

/-- The room for a program. -/
def capacity (ram : Ram) : Nat :=
  size - ram.programStart.toNat

/-- Writes a program at its place, or refuses it as a whole. -/
def load (ram : Ram) (program : List UInt8) : Except Fault Ram :=
  if program.length ≤ ram.capacity then ram.write ram.programStart program
  else .error (.programTooLarge program.length ram.capacity)

theorem programStart_of_load {ram after : Ram} {program : List UInt8} (h : ram.load program = .ok after) :
    after.programStart = ram.programStart := by
  simp only [load] at h
  split at h
  · exact programStart_of_write h
  · cases h

/-- What loading a program reports: a program that is refused is not mentioned. -/
def loadLog (ram : Ram) (program : List UInt8) : List Log.Record :=
  if program.length ≤ ram.capacity then [.loadingProgram program.length ram.programStart] else []

/-- A short description, without the contents. -/
def summary (_ : Ram) : String :=
  "Chip8MemoryMap(" ++ Numeral.decimal size ++ " bytes)"

end Ram

end Chip8
