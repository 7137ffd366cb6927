import Chip8.Interpreter
import Chip8.Proofs.Ram.History

/-!
# The start of a program

A program is loaded as a whole or not at all (`program_loads_or_is_refused`), and a machine that is made for it is zero
everywhere but in the font and the program (`Machine.Fresh`).
-/

namespace Chip8

/-! ## A new machine -/

/-- A machine before its first step: the font, the program from 0x200 on, and zero everywhere else. -/
structure Machine.Fresh (m : Machine) (program : List UInt8) : Prop where
  memory : ∀ k, m.ram.byteAt k =
    if k < 0x50 then Font.glyphs.getD k 0
    else if 0x200 ≤ k ∧ k < 0x200 + program.length then program.getD (k - 0x200) 0
    else 0
  pc : m.pc = 0x200
  stack : m.stack.frames = []
  registers : ∀ x, m.reg x = 0
  index : m.index = 0
  delay : m.delay = 0
  sound : m.sound = 0
  soundStopped : m.soundStopped = false
  keys : ∀ number, m.keys.isDown number = false
  pixels : ∀ x y, m.screen.val.get x y = false
  redraw : m.redraw = false

namespace Machine

variable {program : List UInt8} {ram : Ram}

theorem fresh_withMemory (h : Ram.initial.load program = .ok ram) : (withMemory ram).Fresh program where
  memory k := by
    have hstart : Ram.initial.programStart.toNat = 0x200 := rfl
    rw [withMemory, Ram.byteAt_load h, Ram.Block.getD_byte?, hstart, Ram.byteAt_initial, Ram.initialByte]
    by_cases hfont : k < 0x50
    · have hbelow : ¬ 0x200 ≤ k := by omega
      rw [if_neg fun h => hbelow h.1, if_pos hfont, if_pos hfont]
    · rw [if_neg hfont, if_neg hfont]
  pc := Ram.programStart_of_load h
  stack := CallStack.frames_empty
  registers x := by simp [withMemory, reg]
  index := rfl
  delay := rfl
  sound := rfl
  soundStopped := rfl
  keys number := by
    rw [Keys.isDown_eq_get]
    exact Vector.getElem_replicate ..
  pixels x y := Vector.getElem_replicate ..
  redraw := rfl

end Machine

/-- A program is written at its place if it fits into the room there; it is refused otherwise, with its length and the
room, and memory stays as it was. So a machine is made exactly for programs of at most 3584 bytes. -/
theorem program_loads_or_is_refused {γ : Type} (ram : Ram) (program : List UInt8) (random : γ) (dialect : Dialect)
    (h : ram.programStart.toNat ≤ 4096) :
    let p := ram.programStart.toNat
    (if program.length ≤ 4096 - p then
      ∃ after, ram.act (.load program) = (.ok (), after) ∧
        ∀ k, after.byteAt k = if p ≤ k ∧ k < p + program.length then program.getD (k - p) 0 else ram.byteAt k
    else ram.act (.load program) = (.error (.programTooLarge program.length (4096 - p)), ram)) ∧
    if program.length ≤ 3584 then
      ∃ m, Machine.start program = .ok m ∧ Interpreter.start program random dialect = .ok { machine := m, random, dialect } ∧
        m.Fresh program
    else
      Machine.start program = .error (.programTooLarge program.length 3584) ∧
        Interpreter.start program random dialect = .error (.programTooLarge program.length 3584) := by
  intro p
  constructor
  · have hl := ram.load_eq program h
    by_cases hfits : program.length ≤ 4096 - p
    · rw [if_pos (Nat.add_le_of_le_sub' h hfits)] at hl
      rw [if_pos hfits]
      refine ⟨_, Ram.act_of_ok hl, ?_⟩
      intro k
      rw [Ram.byteAt_load hl, Ram.Block.getD_byte?]
    · rw [if_neg fun hle => hfits (Nat.le_sub_of_add_le' hle)] at hl
      rw [if_neg hfits]
      exact Ram.act_of_error hl
  · have hstart : Ram.initial.programStart.toNat = 0x200 := rfl
    have hl := Ram.initial.load_eq program (by decide)
    by_cases hfits : program.length ≤ 3584
    · rw [if_pos (by omega)] at hl
      rw [if_pos hfits]
      refine ⟨_, ?_, ?_, Machine.fresh_withMemory hl⟩
      · rw [Machine.start, hl]
        rfl
      · rw [Interpreter.start, Machine.start, hl]
        rfl
    · rw [if_neg (by omega), hstart] at hl
      rw [if_neg hfits, Interpreter.start, Machine.start, hl]
      exact ⟨rfl, rfl⟩

/-- Room for one byte, a program of one byte and a program of two. A machine for two bytes, and none for 3585. -/
theorem program_loads_or_is_refused_last_byte :
    let ram : Ram := { Ram.initial with programStart := 0xfff }
    ram.programStart.toNat ≤ 4096 ∧
      (∃ after, ram.act (.load [0xab]) = (.ok (), after) ∧ after.byteAt 0xfff = 0xab ∧ after.byteAt 0xffe = 0) ∧
      ram.act (.load [0xab, 0xcd]) = (.error (.programTooLarge 2 1), ram) ∧
      (∃ m, Machine.start [0xab, 0xcd] = .ok m ∧ m.Fresh [0xab, 0xcd]) ∧
      ∃ large, large.length = 3585 ∧ Machine.start large = .error (.programTooLarge 3585 3584) := by
  intro ram
  have hstart : ram.programStart.toNat = 4095 := by decide
  have hp : ram.programStart.toNat ≤ 4096 := by rw [hstart]; decide
  have hloads (program : List UInt8) :=
    program_loads_or_is_refused ram program ({ words := [] } : Random.Scripted) {} hp
  obtain ⟨hone, _⟩ := hloads [0xab]
  obtain ⟨htwo, hstarts⟩ := hloads [0xab, 0xcd]
  obtain ⟨large, hlarge⟩ : ∃ large : List UInt8, large.length = 3585 :=
    ⟨List.replicate 3585 0xff, List.length_replicate⟩
  obtain ⟨_, hrefused⟩ := hloads large
  rw [if_pos (by decide)] at hone hstarts
  rw [if_neg (by decide), hstart] at htwo
  rw [hlarge, if_neg (by decide)] at hrefused
  obtain ⟨after, hact, hbyte⟩ := hone
  obtain ⟨m, hm, _, hfresh⟩ := hstarts
  refine ⟨hp, ⟨after, hact, ?_, ?_⟩, htwo, ⟨m, hm, hfresh⟩, large, hlarge, hrefused.1⟩
  · exact (hbyte 0xfff).trans (by decide +kernel)
  · exact (hbyte 0xffe).trans (by decide +kernel)

end Chip8
