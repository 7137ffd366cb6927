import Chip8.Proofs.Interpreter.Executions

/-!
# Timers over whole runs

At every point of a run a timer is the value last written to it less the ticks since then (`timer_run`), and a tick
reports the end of the tone exactly if it is the one that uses up the last value written (`soundStopped_run`). So a
value written to the sound timer ends at most one tone (`toneEnds_run`). Nothing else that a run does plays a part.
-/

namespace Chip8

/-- The two timers. -/
inductive Timer
  | delay
  | sound
deriving DecidableEq, Repr

def Machine.timer (m : Machine) : Timer → UInt8
  | .delay => m.delay
  | .sound => m.sound

/-- The register that an instruction copies to a timer: `Vx` for Fx15 and the delay timer, and for Fx18 and the sound
timer. -/
def Timer.operand? : Timer → Instruction Reg → Option Reg
  | .delay, .writeDelay x => some x
  | .sound, .writeSound x => some x
  | _, _ => none

/-- Whether a timer is among the parts that may be written. -/
def Footprint.timer (footprint : Footprint) : Timer → Bool
  | .delay => footprint.delay
  | .sound => footprint.sound

theorem timer_footprint (dialect : Dialect) (t : Timer) (instruction : Instruction Reg) :
    (instruction.footprint dialect).timer t = (t.operand? instruction).isSome := by
  cases t <;> cases instruction <;> rfl

namespace Interpreter

variable {γ : Type} [RandomSource γ] {i : Interpreter γ} {t : Timer}

/-- The value that the next step writes to a timer. -/
def written? (i : Interpreter γ) (t : Timer) : Option UInt8 :=
  (i.executed?.bind t.operand?).map i.machine.reg

/-- The last value that a run writes to a timer, and what the run does after that. -/
def lastWritten? (t : Timer) (i : Interpreter γ) : List Action → Option (UInt8 × List Action)
  | [] => none
  | action :: rest =>
    match (i.act action).2.lastWritten? t rest with
    | some later => some later
    | none => if action = .step then (i.written? t).map fun value => (value, rest) else none

/-- The number of ticks of a run that report the end of the tone. -/
def toneEnds (i : Interpreter γ) : List Action → Nat
  | [] => 0
  | action :: rest =>
    let after := (i.act action).2
    (if action = .tick ∧ after.machine.soundStopped = true then 1 else 0) + after.toneEnds rest

/-! ## One action -/

theorem timer_step_of_written {value : UInt8} (h : i.written? t = some value) :
    i.step.2.machine.timer t = value := by
  simp only [written?, Option.map_eq_some_iff, Option.bind_eq_some_iff] at h
  obtain ⟨x, ⟨instruction, he, ho⟩, rfl⟩ := h
  obtain ⟨advance, _, hs⟩ := step_of_executed he
  rw [hs]
  cases t <;> cases instruction <;> cases ho <;> rfl

omit [RandomSource γ] in
theorem Within.timer {footprint : Footprint} {after : Interpreter γ} (h : Within footprint i after)
    (hf : footprint.timer t = false) : after.machine.timer t = i.machine.timer t := by
  cases t with
  | delay => exact h.delay hf
  | sound => exact h.sound hf

/-- No instruction but Fx15 and Fx18 starts, stops or delays a timer. -/
theorem timer_step_of_not_written (h : i.written? t = none) : i.step.2.machine.timer t = i.machine.timer t := by
  cases he : i.executed? with
  | none =>
    apply (within_of_not_executed he).timer
    cases t <;> rfl
  | some instruction =>
    apply (within_of_executed he).timer
    rw [timer_footprint]
    simpa [written?, he] using h

theorem soundStopped_step (i : Interpreter γ) : i.step.2.machine.soundStopped = i.machine.soundStopped := by
  cases he : i.executed? with
  | none => exact (within_of_not_executed he).soundStopped
  | some instruction => exact (within_of_executed he).soundStopped

theorem toNat_countDown (timer : UInt8) : (Machine.countDown timer).toNat = timer.toNat - 1 := by
  simp only [Machine.countDown]
  split
  · rename_i h
    subst h
    rfl
  · rename_i h
    have hne : timer.toNat ≠ 0 := fun h' => h (UInt8.toNat_inj.1 h')
    have hlt := timer.toNat_lt
    rw [UInt8.toNat_sub_of_le timer 1 (UInt8.le_iff_toNat_le.2 (by simp; omega))]
    rfl

theorem timer_tick (m : Machine) (t : Timer) : (m.tick.timer t).toNat = (m.timer t).toNat - 1 := by
  cases t with
  | delay => exact toNat_countDown m.delay
  | sound => exact toNat_countDown m.sound

/-! ## The last value written -/

theorem lastWritten?_cons_eq_none {action : Action} {rest : List Action} :
    i.lastWritten? t (action :: rest) = none ↔
      (i.act action).2.lastWritten? t rest = none ∧ (action = .step → i.written? t = none) := by
  rw [lastWritten?]
  cases (i.act action).2.lastWritten? t rest with
  | some later => simp
  | none => simp

theorem exists_of_lastWritten {actions since : List Action} {value : UInt8}
    (h : i.lastWritten? t actions = some (value, since)) :
    ∃ before, actions = before ++ .step :: since ∧ (i.run before).written? t = some value ∧
      (i.run (before ++ [.step])).lastWritten? t since = none := by
  induction actions generalizing i with
  | nil => cases h
  | cons action rest ih =>
    rw [lastWritten?] at h
    split at h
    · rename_i later hl
      cases h
      obtain ⟨before, rfl, hw, hn⟩ := ih hl
      exact ⟨action :: before, rfl, hw, hn⟩
    · rename_i hn
      split at h
      · rename_i hstep
        subst hstep
        simp only [Option.map_eq_some_iff, Prod.mk.injEq] at h
        obtain ⟨_, hw, rfl, rfl⟩ := h
        exact ⟨[], rfl, hw, hn⟩
      · cases h

/-! ## Runs -/

theorem timer_run_of_not_written {since : List Action} (h : i.lastWritten? t since = none) :
    ((i.run since).machine.timer t).toNat = (i.machine.timer t).toNat - since.count .tick := by
  induction since generalizing i with
  | nil => rfl
  | cons action rest ih =>
    obtain ⟨hrest, hstep⟩ := lastWritten?_cons_eq_none.1 h
    rw [run_cons, ih hrest]
    cases action with
    | step => rw [act, timer_step_of_not_written (hstep rfl), List.count_cons_of_ne (by simp)]
    | tick =>
      rw [act, modifyMachine, timer_tick, List.count_cons_self]
      omega
    | setKey | acknowledge => rw [List.count_cons_of_ne (by simp)]; cases t <;> rfl

theorem toneEnds_run_of_not_written {since : List Action} (h : i.lastWritten? .sound since = none) :
    i.toneEnds since =
      if 1 ≤ i.machine.sound.toNat ∧ i.machine.sound.toNat ≤ since.count .tick then 1 else 0 := by
  induction since generalizing i with
  | nil =>
    rw [toneEnds, List.count_nil, if_neg (by omega)]
  | cons action rest ih =>
    obtain ⟨hrest, hstep⟩ := lastWritten?_cons_eq_none.1 h
    rw [toneEnds, ih hrest]
    cases action with
    | step =>
      have hs : i.step.2.machine.sound = i.machine.sound := timer_step_of_not_written (hstep rfl)
      rw [act, hs, List.count_cons_of_ne (by simp), if_neg (by simp), Nat.zero_add]
    | tick =>
      have hone : i.machine.sound = 1 ↔ i.machine.sound.toNat = 1 := UInt8.toNat_inj.symm
      have hstopped : (i.act .tick).2.machine.soundStopped = decide (i.machine.sound = 1) := rfl
      have hsound : (i.act .tick).2.machine.sound.toNat = i.machine.sound.toNat - 1 := timer_tick i.machine .sound
      rw [hsound, List.count_cons_self]
      simp only [hstopped, decide_eq_true_eq, hone, true_and]
      -- the tone ends with this tick, with a later one, or it was over before
      split <;> split <;> split <;> omega
    | setKey | acknowledge =>
      rw [List.count_cons_of_ne (by simp), if_neg (by simp), Nat.zero_add]
      rfl

theorem soundStopped_run_of_no_tick {actions : List Action} (h : .tick ∉ actions) :
    (i.run actions).machine.soundStopped = i.machine.soundStopped := by
  induction actions generalizing i with
  | nil => rfl
  | cons action rest ih =>
    rw [run_cons, ih fun hm => h (List.mem_cons_of_mem _ hm)]
    cases action with
    | step => exact soundStopped_step i
    | tick => exact absurd List.mem_cons_self h
    | setKey | acknowledge => rfl

/-! ## Runs from the start of a program -/

/-- What is left of the last value that a run writes to a timer, one less for every tick. -/
def remaining (i : Interpreter γ) (t : Timer) (actions : List Action) : Nat :=
  match i.lastWritten? t actions with
  | some (value, since) => value.toNat - since.count .tick
  | none => 0

variable {program : List UInt8} {random : γ} {dialect : Dialect}

theorem timer_run (h : start program random dialect = .ok i) (t : Timer) (actions : List Action) :
    ((i.run actions).machine.timer t).toNat = i.remaining t actions := by
  simp only [remaining]
  cases hl : i.lastWritten? t actions with
  | none =>
    obtain ⟨ram, _, rfl⟩ := exists_of_start h
    rw [timer_run_of_not_written hl]
    cases t <;> exact Nat.zero_sub _
  | some last =>
    obtain ⟨value, since⟩ := last
    obtain ⟨before, rfl, hw, hn⟩ := exists_of_lastWritten hl
    have hsplit : i.run (before ++ .step :: since) = (i.run (before ++ [.step])).run since := by
      rw [← run_append, List.append_assoc, List.singleton_append]
    have hvalue : (i.run (before ++ [.step])).machine.timer t = value := by
      rw [run_append]
      exact timer_step_of_written hw
    rw [hsplit, timer_run_of_not_written hn, hvalue]

theorem soundStopped_run (h : start program random dialect = .ok i) {before after : List Action}
    (ha : .tick ∉ after) :
    (i.run (before ++ .tick :: after)).machine.soundStopped = true ↔
      ∃ value since, i.lastWritten? .sound before = some (value, since) ∧
        value.toNat = since.count .tick + 1 := by
  have hlast : (i.run before).machine.sound.toNat = i.remaining .sound before := timer_run h .sound before
  have hone : (i.run before).machine.sound = 1 ↔ i.remaining .sound before = 1 := by
    rw [← hlast]
    exact UInt8.toNat_inj.symm
  have hstopped : ((i.run before).act .tick).2.machine.soundStopped = decide ((i.run before).machine.sound = 1) := rfl
  rw [run_append, run_cons, soundStopped_run_of_no_tick ha, hstopped, decide_eq_true_eq, hone, remaining]
  cases i.lastWritten? .sound before with
  | none => simp
  | some last =>
    simp only [Option.some.injEq, Prod.ext_iff]
    constructor
    · intro h'
      exact ⟨last.1, last.2, ⟨rfl, rfl⟩, by omega⟩
    · rintro ⟨value, since, ⟨rfl, rfl⟩, hv⟩
      omega

theorem toneEnds_run {before since : List Action} {value : UInt8} (hw : (i.run before).written? .sound = some value)
    (hn : (i.run (before ++ [.step])).lastWritten? .sound since = none) :
    (i.run (before ++ [.step])).toneEnds since =
      if 1 ≤ value.toNat ∧ value.toNat ≤ since.count .tick then 1 else 0 := by
  have hvalue : (i.run (before ++ [.step])).machine.sound = value := by
    rw [run_append]
    exact timer_step_of_written hw
  rw [toneEnds_run_of_not_written hn, hvalue]

/-- Timers from the start of a program on, whatever a run does. A timer is the last value that an instruction wrote to
it less the ticks since then, down to 0, and 0 if none was written. The end of the tone is not reported before the
first tick; after that it is reported exactly if the last tick used up the value that was last written to the sound
timer before it. So a value written to the sound timer is reported at most once until the next one is written, and
never if it is 0; and only Fx15 and Fx18 touch a timer. -/
theorem timers_count_down (h : start program random dialect = .ok i) (actions : List Action) :
    let now := i.run actions
    (∀ t, (now.machine.timer t).toNat = i.remaining t actions) ∧
    (.tick ∉ actions → now.machine.soundStopped = false) ∧
    (∀ before after, actions = before ++ .tick :: after → .tick ∉ after →
      (now.machine.soundStopped = true ↔
        ∃ value since, i.lastWritten? .sound before = some (value, since) ∧
          value.toNat = since.count .tick + 1)) ∧
    (∀ before since value, actions = before ++ .step :: since → (i.run before).written? .sound = some value →
      (i.run (before ++ [.step])).lastWritten? .sound since = none →
      (i.run (before ++ [.step])).toneEnds since =
        if 1 ≤ value.toNat ∧ value.toNat ≤ since.count .tick then 1 else 0) ∧
    (∀ t, now.written? t = none → now.step.2.machine.timer t = now.machine.timer t) ∧
    now.step.2.machine.soundStopped = now.machine.soundStopped := by
  intro now
  refine ⟨fun t => timer_run h t actions, ?_, ?_, ?_, fun t => timer_step_of_not_written, soundStopped_step now⟩
  · intro ht
    rw [soundStopped_run_of_no_tick ht]
    obtain ⟨ram, _, rfl⟩ := exists_of_start h
    rfl
  · rintro before after rfl ha
    exact soundStopped_run h ha
  · rintro before since value rfl hw hn
    exact toneEnds_run hw hn

/-- A tone of three ticks that is cut short by a tone of two. -/
theorem timers_count_down_restarted_tone :
    ∃ i : Interpreter Random.Scripted,
      start [0x60, 0x03, 0xf0, 0x18, 0x61, 0x02, 0xf1, 0x18, 0xf0, 0x15] { words := [] } {} = .ok i ∧
      let before : List Action := [.step, .step, .tick, .tick, .step, .step, .step, .tick]
      let actions : List Action := before ++ .tick :: [.setKey 3 true, .step]
      i.remaining .sound actions = 0 ∧ i.remaining .delay actions = 1 ∧
        (i.run actions).machine.delay.toNat = 1 ∧ (i.run actions).machine.soundStopped = true ∧
        (i.run (before.take 2)).toneEnds [.tick, .tick] = 0 := by
  obtain ⟨i, hstart, hs, hd, hlast, hw, hn⟩ : ∃ i : Interpreter Random.Scripted,
      start [0x60, 0x03, 0xf0, 0x18, 0x61, 0x02, 0xf1, 0x18, 0xf0, 0x15] { words := [] } {} = .ok i ∧
      let before : List Action := [.step, .step, .tick, .tick, .step, .step, .step, .tick]
      let actions : List Action := before ++ .tick :: [.setKey 3 true, .step]
      i.remaining .sound actions = 0 ∧ i.remaining .delay actions = 1 ∧
        i.lastWritten? .sound before = some (2, [.step, .tick]) ∧
        (i.run [.step]).written? .sound = some 3 ∧
        (i.run ([.step] ++ [.step])).lastWritten? .sound [.tick, .tick] = none :=
    ⟨_, rfl, by decide +kernel⟩
  obtain ⟨htimer, _, hend, _⟩ := timers_count_down hstart
    ([.step, .step, .tick, .tick, .step, .step, .step, .tick] ++ .tick :: [.setKey 3 true, .step])
  obtain ⟨_, _, _, htones, _⟩ := timers_count_down hstart [.step, .step, .tick, .tick]
  refine ⟨i, hstart, hs, hd, ?_, ?_, ?_⟩
  · exact (htimer .delay).trans hd
  · exact (hend _ _ rfl (by decide)).2 ⟨2, [.step, .tick], hlast, by decide⟩
  · exact htones [.step] [.tick, .tick] 3 rfl hw hn

end Interpreter

end Chip8
