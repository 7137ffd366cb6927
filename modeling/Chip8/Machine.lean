import Chip8.CallStack
import Chip8.Instruction
import Chip8.Keypad
import Chip8.Ram
import Chip8.Raster

/-!
# The machine

Everything that instructions read and write, and what a host does to it between instructions: ticks of the timers,
key presses, and the acknowledgement of a redrawn screen.
-/

namespace Chip8

structure Machine where
  ram : Ram
  registers : Vector UInt8 16
  index : UInt16
  pc : UInt16
  stack : CallStack
  delay : UInt8
  sound : UInt8
  screen : Screen
  /-- A drawing instruction ran since the screen was last shown. -/
  redraw : Bool
  keys : Keys
  /-- The last tick took the sound timer from 1 to 0. -/
  soundStopped : Bool
deriving DecidableEq

namespace Machine

/-- The register that instructions use for carry, borrow and collision. -/
def flagRegister : Reg := .ofNat 15

/-- All zero, with a program loaded, at the program's first word. -/
def withMemory (ram : Ram) : Machine where
  ram
  registers := Vector.replicate 16 0
  index := 0
  pc := ram.programStart
  stack := .empty
  delay := 0
  sound := 0
  screen := .blank
  redraw := false
  keys := .none
  soundStopped := false

/-- A machine with a program, if the program fits. -/
def start (program : List UInt8) : Except Fault Machine :=
  (Ram.initial.load program).map withMemory

/-- The value of a register. -/
def reg (m : Machine) (x : Reg) : UInt8 :=
  m.registers[x]

/-- Changes a register. -/
def setReg (m : Machine) (x : Reg) (value : UInt8) : Machine :=
  { m with registers := m.registers.set x value }

/-- Changes the flag register. -/
def setFlag (m : Machine) (flag : Bool) : Machine :=
  m.setReg flagRegister (if flag then 1 else 0)

/-- Registers `V0` to `Vx`. -/
def firstRegisters (m : Machine) (x : Reg) : List UInt8 :=
  m.registers.toList.take (x + 1)

/-- The word at the program counter. -/
def fetch (m : Machine) : Except Fault UInt16 :=
  m.ram.word m.pc

/-- A timer one tick later; it stays at 0. -/
def countDown (timer : UInt8) : UInt8 :=
  if timer = 0 then 0 else timer - 1

/-- One tick of both timers. -/
def tick (m : Machine) : Machine :=
  { m with
    delay := countDown m.delay
    sound := countDown m.sound
    soundStopped := m.sound = 1 }

/-- Presses or releases a key; a number without a key changes nothing. -/
def setKey (m : Machine) (number : Nat) (down : Bool) : Machine :=
  { m with keys := m.keys.setKey number down }

/-- Presses or releases every key, one after the other. -/
def setKeys (m : Machine) (keys : Keys) : Machine :=
  (List.finRange 16).foldl (fun m (key : Fin 16) => m.setKey key (keys.get key)) m

/-- The screen was shown. -/
def acknowledge (m : Machine) : Machine :=
  { m with redraw := false }

/-- Whether the tone should sound. -/
def soundActive (m : Machine) : Bool :=
  0 < m.sound

variable {m : Machine}

theorem keys_setKey {number key : Fin 16} {down : Bool} :
    (m.setKey number down).keys.get key = if number = key then down else m.keys.get key := by
  simp only [Fin.ext_iff]
  exact Vector.getElem_setIfInBounds key.isLt

theorem keys_foldl_setKey (keys : Keys) (numbers : List (Fin 16)) (key : Fin 16) :
    (numbers.foldl (fun m (key : Fin 16) => m.setKey key (keys.get key)) m).keys.get key =
      if numbers.contains key then keys.get key else m.keys.get key := by
  induction numbers generalizing m with
  | nil => rfl
  | cons number rest ih =>
    rw [List.foldl_cons, ih, keys_setKey]
    by_cases hnow : number = key
    · simp [hnow]
    · simp [hnow, Ne.symm hnow]

theorem foldl_setKey_eq (m : Machine) (numbers : List (Fin 16)) (down : Fin 16 → Bool) :
    ∃ after, numbers.foldl (fun m (key : Fin 16) => m.setKey key (down key)) m = { m with keys := after } := by
  induction numbers generalizing m with
  | nil => exact ⟨m.keys, rfl⟩
  | cons number rest ih =>
    obtain ⟨after, h⟩ := ih (m.setKey number (down number))
    exact ⟨after, h⟩

/-- Setting the keys one after the other leaves exactly the given states, and nothing else is changed. -/
theorem setKeys_eq (m : Machine) (keys : Keys) : m.setKeys keys = { m with keys } := by
  obtain ⟨after, h⟩ := foldl_setKey_eq m (List.finRange 16) keys.get
  have hkey (key : Fin 16) : after.get key = keys.get key := by
    have hset := keys_foldl_setKey (m := m) keys (List.finRange 16) key
    rwa [h, if_pos (List.contains_iff_mem.2 (List.mem_finRange key))] at hset
  have hafter : after = keys := Vector.ext fun k hk => hkey ⟨k, hk⟩
  rw [setKeys, h, hafter]

end Machine

end Chip8
