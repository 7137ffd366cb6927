import Chip8.Proofs.Ram.Access

/-!
# What was written last

Writes, fills and loadings put blocks of bytes into memory, each as a whole or not at all (`act`). The blocks that were put
there, in order, decide every byte: it is that of the last block that covers the address (`byteAt_perform`). So new
memory, after any operations, is a store of 4096 bytes with exact bounds (`bounded_byte_store`).
-/

namespace Chip8.Ram

/-- What can be done to memory. -/
inductive Operation
  | write (address : UInt16) (data : List UInt8)
  | fill (address : UInt16) (length : Nat) (value : UInt8)
  | load (program : List UInt8)
  /-- Programs are loaded at this address from now on. -/
  | place (address : UInt16) (inside : address.toNat ≤ size)

def operate (ram : Ram) : Operation → Except Fault Ram
  | .write address data => ram.write address data
  | .fill address length value => ram.fill address length value
  | .load program => ram.load program
  | .place address _ => .ok { ram with programStart := address }

/-- The result of an operation, and the memory that it leaves. -/
def act (ram : Ram) (operation : Operation) : Except Fault Unit × Ram :=
  match ram.operate operation with
  | .ok after => (.ok (), after)
  | .error fault => (.error fault, ram)

/-- Memory after operations in order. One that fails does not end them. -/
def perform (ram : Ram) (operations : List Operation) : Ram :=
  operations.foldl (fun ram operation => (ram.act operation).2) ram

/-- The block that an operation is to put into memory. -/
def block? (ram : Ram) : Operation → Option Block
  | .write address data => some ⟨address.toNat, data⟩
  | .fill address length value => some ⟨address.toNat, List.replicate length value⟩
  | .load program => some ⟨ram.programStart.toNat, program⟩
  | .place .. => none

/-- The block that an operation puts into memory, if it succeeds. -/
def written? (ram : Ram) (operation : Operation) : Option Block :=
  match (ram.act operation).1 with
  | .ok _ => ram.block? operation
  | .error _ => none

def history (ram : Ram) : List Operation → List Block
  | [] => []
  | operation :: rest => (ram.written? operation).toList ++ (ram.act operation).2.history rest

/-- The byte of the last block that covers an address. -/
def lastByte? (blocks : List Block) (k : Nat) : Option UInt8 :=
  blocks.reverse.findSome? (·.byte? k)

theorem lastByte?_append (first second : List Block) (k : Nat) :
    lastByte? (first ++ second) k = (lastByte? second k).or (lastByte? first k) := by
  rw [lastByte?, List.reverse_append, List.findSome?_append, lastByte?, lastByte?]

variable {ram after : Ram} {operation : Operation}

/-! ## One operation -/

theorem act_of_ok (h : ram.operate operation = .ok after) : ram.act operation = (.ok (), after) := by
  rw [act, h]

theorem act_of_error {fault : Fault} (h : ram.operate operation = .error fault) :
    ram.act operation = (.error fault, ram) := by
  rw [act, h]

theorem byteAt_operate (h : ram.operate operation = .ok after) (k : Nat) :
    after.byteAt k = ((ram.block? operation).bind (·.byte? k)).getD (ram.byteAt k) := by
  cases operation with
  | write => exact byteAt_write h k
  | fill => exact byteAt_write ((fill_eq_write ..).symm.trans h) k
  | load => exact byteAt_load h k
  | place =>
    cases h
    rfl

theorem byteAt_act (ram : Ram) (operation : Operation) (k : Nat) :
    (ram.act operation).2.byteAt k = (lastByte? (ram.written? operation).toList k).getD (ram.byteAt k) := by
  cases h : ram.operate operation with
  | error => rw [written?, act_of_error h]; rfl
  | ok after =>
    rw [written?, act_of_ok h]
    simp only [byteAt_operate h]
    cases ram.block? operation with
    | none => rfl
    | some block => cases hb : block.byte? k <;> simp [lastByte?, hb]

theorem act_of_ite {fits : Prop} [Decidable fits] {fault : Fault}
    (h : ram.operate operation = if fits then .ok after else .error fault) :
    if fits then (ram.act operation).1 = .ok () else ram.act operation = (.error fault, ram) := by
  by_cases hfits : fits
  · rw [if_pos hfits] at h ⊢
    rw [act_of_ok h]
  · rw [if_neg hfits] at h ⊢
    exact act_of_error h

theorem act_write (ram : Ram) (address : UInt16) (data : List UInt8) :
    if address.toNat + data.length ≤ 4096 then (ram.act (.write address data)).1 = .ok ()
    else ram.act (.write address data) = (.error (.outOfBounds address.toNat data.length), ram) :=
  act_of_ite rfl

theorem act_fill (ram : Ram) (address : UInt16) (length : Nat) (value : UInt8) :
    if address.toNat + length ≤ 4096 then (ram.act (.fill address length value)).1 = .ok ()
    else ram.act (.fill address length value) = (.error (.outOfBounds address.toNat length), ram) := by
  have hwrite := ram.act_write address (List.replicate length value)
  rw [List.length_replicate] at hwrite
  simpa only [act, operate, fill_eq_write] using hwrite

theorem act_load (program : List UInt8) (hp : ram.programStart.toNat ≤ 4096) :
    if ram.programStart.toNat + program.length ≤ 4096 then (ram.act (.load program)).1 = .ok ()
    else ram.act (.load program) = (.error (.programTooLarge program.length (4096 - ram.programStart.toNat)), ram) :=
  act_of_ite (ram.load_eq program hp)

theorem programStart_operate (h : ram.operate operation = .ok after) (hp : ram.programStart.toNat ≤ 4096) :
    after.programStart.toNat ≤ 4096 := by
  cases operation with
  | write => rwa [programStart_of_write h]
  | fill => rwa [programStart_of_write ((fill_eq_write ..).symm.trans h)]
  | load => rwa [programStart_of_load h]
  | place _ inside =>
    cases h
    exact inside

theorem programStart_act (operation : Operation) (h : ram.programStart.toNat ≤ 4096) :
    (ram.act operation).2.programStart.toNat ≤ 4096 := by
  simp only [act]
  split
  · exact programStart_operate ‹_› h
  · exact h

/-! ## Operations in order -/

theorem programStart_perform (operations : List Operation) (h : ram.programStart.toNat ≤ 4096) :
    (ram.perform operations).programStart.toNat ≤ 4096 := by
  induction operations generalizing ram with
  | nil => exact h
  | cons operation rest ih => exact ih (programStart_act operation h)

theorem byteAt_perform (ram : Ram) (operations : List Operation) (k : Nat) :
    (ram.perform operations).byteAt k = (lastByte? (ram.history operations) k).getD (ram.byteAt k) := by
  induction operations generalizing ram with
  | nil => rfl
  | cons operation rest ih =>
    -- the blocks of the later operations come first, and behind them the block of this one
    calc (ram.perform (operation :: rest)).byteAt k
        = (lastByte? ((ram.act operation).2.history rest) k).getD ((ram.act operation).2.byteAt k) := ih _
      _ = (lastByte? (ram.history (operation :: rest)) k).getD (ram.byteAt k) := by
        rw [byteAt_act, history, lastByte?_append, Option.getD_or]

/-- New memory after any operations. It keeps its size. A write, a fill, a loading or a read succeeds exactly if its bytes
lie inside memory, and one that fails changes nothing. A read shows at each address the byte of the last block that was
put there, or the initial byte if there is none, and a word is two bytes, high byte first. -/
theorem bounded_byte_store (operations : List Operation) :
    let ram := initial.perform operations
    let byte (k : Nat) : UInt8 := (lastByte? (initial.history operations) k).getD (initialByte k)
    let p := ram.programStart.toNat
    ram.bytes.toList.length = 4096 ∧
    (∀ address data,
      if address.toNat + data.length ≤ 4096 then (ram.act (.write address data)).1 = .ok ()
      else ram.act (.write address data) = (.error (.outOfBounds address.toNat data.length), ram)) ∧
    (∀ address length value,
      if address.toNat + length ≤ 4096 then (ram.act (.fill address length value)).1 = .ok ()
      else ram.act (.fill address length value) = (.error (.outOfBounds address.toNat length), ram)) ∧
    (∀ program,
      if p + program.length ≤ 4096 then (ram.act (.load program)).1 = .ok ()
      else ram.act (.load program) = (.error (.programTooLarge program.length (4096 - p)), ram)) ∧
    (∀ address length,
      ram.read address length =
        if address.toNat + length ≤ 4096 then .ok ((List.range' address.toNat length).map byte)
        else .error (.outOfBounds address.toNat length)) ∧
    ∀ address,
      (ram.word address).map UInt16.toNat =
        if address.toNat + 2 ≤ 4096 then .ok (256 * (byte address.toNat).toNat + (byte (address.toNat + 1)).toNat)
        else .error (.outOfBounds address.toNat 2) := by
  intro ram byte p
  have hbyte : ram.byteAt = byte := by
    funext k
    rw [byteAt_perform, byteAt_initial]
  refine ⟨ram.bytes.length_toList, ram.act_write, ram.act_fill, ?_, ?_, ?_⟩
  · intro program
    exact act_load program (programStart_perform operations (by decide))
  · intro address length
    rw [read_eq, hbyte]
  · intro address
    rw [toNat_word, hbyte]

-- the second write reaches past the end, so it puts nothing into memory
example :
    initial.history [.write 0x300 [1, 2, 3], .write 0xfff [7, 8], .place 0x302 (by decide), .load [5], .fill 0x301 1 9] =
      [⟨0x300, [1, 2, 3]⟩, ⟨0x302, [5]⟩, ⟨0x301, [9]⟩] := by
  decide +kernel

end Chip8.Ram
