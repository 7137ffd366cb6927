import Chip8.Proofs.Machine.Perform

/-!
# Interventions of a host

Between two steps a host can let the timers tick, change the keys and acknowledge the screen (`Intervention`). An
instruction that an intervention spares, because it neither reads nor writes what the intervention changes, does the
same before and after it (`perform_intervene`).
-/

namespace Chip8

/-- What a host changes between two steps. -/
structure Intervention where
  ticks : Bool := false
  keys : Keys → Keys := id
  acknowledges : Bool := false

namespace Instruction

/-- Fx07, Fx15 and Fx18. -/
def usesTimers : Instruction Reg → Bool
  | .readDelay _ | .writeDelay _ | .writeSound _ => true
  | _ => false

/-- Ex9E, ExA1 and Fx0A. -/
def readsKeys : Instruction Reg → Bool
  | .skip (.keyDown _) | .skip (.keyUp _) | .awaitKey _ => true
  | _ => false

/-- 00E0 and Dxyn. -/
def draws : Instruction Reg → Bool
  | .clearScreen | .draw _ _ _ => true
  | _ => false

end Instruction

/-- The instruction neither reads nor writes what the intervention changes. -/
structure Intervention.Spares (v : Intervention) (instruction : Instruction Reg) : Prop where
  timers : instruction.usesTimers = true → v.ticks = false
  keys : instruction.readsKeys = true → v.keys = id
  screen : instruction.draws = true → v.acknowledges = false

namespace Machine

variable {γ : Type} [RandomSource γ] {v : Intervention} {instruction : Instruction Reg}

def intervene (m : Machine) (v : Intervention) : Machine :=
  { m with
    delay := if v.ticks then countDown m.delay else m.delay
    sound := if v.ticks then countDown m.sound else m.sound
    redraw := if v.acknowledges then false else m.redraw
    keys := v.keys m.keys
    soundStopped := if v.ticks then decide (m.sound = 1) else m.soundStopped }

theorem intervene_compute (m : Machine) (v : Intervention) (dialect : Dialect) (op : AluOp) (x y : Reg) :
    (m.intervene v).compute dialect op x y = (m.compute dialect op x y).intervene v := by
  have hreg : ∀ r, (m.intervene v).reg r = m.reg r := fun _ => rfl
  simp only [compute, hreg]
  cases op.flag? dialect (m.reg x) (m.reg y) <;> rfl

theorem holds_intervene {condition : SkipWhen Reg} (h : v.Spares (.skip condition)) (m : Machine) :
    (m.intervene v).holds condition = m.holds condition := by
  obtain ⟨ticks, keys, acknowledges⟩ := v
  cases condition with
  | keyDown x | keyUp x =>
    obtain rfl : keys = id := h.keys rfl
    rfl
  | _ => rfl

/-- An instruction that an intervention spares does the same whether it comes before the intervention or after it. -/
theorem perform_intervene (h : v.Spares instruction) (m : Machine) (random : γ) (dialect : Dialect) :
    (m.intervene v).perform random dialect instruction =
      { m.perform random dialect instruction with
        machine := (m.perform random dialect instruction).machine.intervene v } := by
  have hstack : (m.intervene v).stack = m.stack := rfl
  have hpc : (m.intervene v).pc = m.pc := rfl
  have hram : (m.intervene v).ram = m.ram := rfl
  have hindex : (m.intervene v).index = m.index := rfl
  have hreg : ∀ r, (m.intervene v).reg r = m.reg r := fun _ => rfl
  have hfirst : ∀ x, (m.intervene v).firstRegisters x = m.firstRegisters x := fun _ => rfl
  cases instruction with
  | clearScreen =>
    obtain ⟨ticks, keys, acknowledges⟩ := v
    obtain rfl : acknowledges = false := h.screen rfl
    rfl
  | draw x y rows =>
    simp only [perform, hram, hindex]
    cases m.ram.read m.index rows.toNat with
    | error fault => rfl
    | ok sprite =>
      obtain ⟨ticks, keys, acknowledges⟩ := v
      obtain rfl : acknowledges = false := h.screen rfl
      rfl
  | readDelay | writeDelay | writeSound =>
    obtain ⟨ticks, keys, acknowledges⟩ := v
    obtain rfl : ticks = false := h.timers rfl
    rfl
  | awaitKey x =>
    have hkeys : (m.intervene v).keys = m.keys := congrFun (h.keys rfl) m.keys
    simp only [perform, hkeys]
    cases m.keys.lowest? <;> rfl
  | skip condition =>
    simp only [perform, holds_intervene h]
  | alu op x y => simp only [perform, intervene_compute]
  | returnFromCall =>
    simp only [perform, hstack]
    cases m.stack.pop <;> rfl
  | call address =>
    simp only [perform, hstack, hpc]
    cases m.stack.push m.pc <;> rfl
  | storeDecimal x =>
    simp only [perform, hram, hindex, hreg]
    cases m.ram.write m.index (decimalDigits (m.reg x)) <;> rfl
  | storeRegisters x =>
    simp only [perform, hram, hindex, hfirst]
    cases m.ram.write m.index (m.firstRegisters x) <;> rfl
  | loadRegisters x =>
    simp only [perform, hram, hindex]
    cases m.ram.read m.index (x + 1) <;> rfl
  | _ => rfl

end Machine

end Chip8
