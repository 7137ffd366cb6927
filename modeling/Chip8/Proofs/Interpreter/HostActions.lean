import Chip8.Proofs.Interpreter.Executions
import Chip8.Proofs.Machine.Interventions

/-!
# What a host does between steps

A tick, a change of a key and the acknowledgement of the screen can be moved to another place among steps whose words
have nothing to do with them (`steps_intervene`), and the keys make no difference to a run that fetches no key
instruction (`run_withoutKeys`).
-/

namespace Chip8

/-- Whether an instruction reads or writes what an action changes between steps. -/
def Instruction.meets (instruction : Instruction Reg) : Action → Bool
  | .step => false
  | .tick => instruction.usesTimers
  | .setKey _ _ => instruction.readsKeys
  | .acknowledge => instruction.draws

/-- What an action changes between steps. -/
def Action.intervention : Action → Intervention
  | .step => {}
  | .tick => { ticks := true }
  | .setKey number down => { keys := (·.setKey number down) }
  | .acknowledge => { acknowledges := true }

theorem spares_keys {instruction : Instruction Reg} (h : instruction.readsKeys = false) (keys : Keys → Keys) :
    ({ keys } : Intervention).Spares instruction :=
  ⟨fun _ => rfl, fun hk => absurd (hk.symm.trans h) (by decide), fun _ => rfl⟩

theorem spares_of_not_meets {action : Action} {instruction : Instruction Reg} (h : instruction.meets action = false) :
    action.intervention.Spares instruction := by
  cases action with
  | step => exact ⟨fun _ => rfl, fun _ => rfl, fun _ => rfl⟩
  | tick => exact ⟨fun ht => absurd (ht.symm.trans h) (by decide), fun _ => rfl, fun _ => rfl⟩
  | setKey => exact spares_keys h _
  | acknowledge => exact ⟨fun _ => rfl, fun _ => rfl, fun hs => absurd (hs.symm.trans h) (by decide)⟩

namespace Interpreter

variable {γ : Type} [RandomSource γ] {i other : Interpreter γ} {v : Intervention}

def intervene (i : Interpreter γ) (v : Intervention) : Interpreter γ :=
  i.modifyMachine (·.intervene v)

/-- All keys up. Interpreters that agree without their keys differ at most in their keys. -/
def withoutKeys (i : Interpreter γ) : Interpreter γ :=
  i.intervene { keys := fun _ => .none }

theorem act_eq_intervene {action : Action} (h : action ≠ .step) :
    i.act action = (.ok (), i.intervene action.intervention) := by
  cases action with
  | step => exact absurd rfl h
  | tick | setKey | acknowledge => rfl

/-! ## One step -/

theorem step_intervene (h : i.FetchesOnly v.Spares [.step]) :
    (i.intervene v).step = (i.step.1, i.step.2.intervene v) := by
  apply step_comm (f := (·.intervene v)) h
  · rfl
  · rfl
  · intro instruction hspares
    have hp := Machine.perform_intervene hspares i.machine i.random i.dialect
    simp only [execute, intervene, modifyMachine, hp]
    cases (i.machine.perform i.random i.dialect instruction).advance <;> rfl

theorem step_withoutKeys (h : i.FetchesOnly (·.readsKeys = false) [.step]) :
    i.withoutKeys.step = (i.step.1, i.step.2.withoutKeys) :=
  step_intervene (h.mono fun _ hk => spares_keys hk _)

theorem act_withoutKeys {action : Action} (hsame : other.withoutKeys = i.withoutKeys)
    (h : i.FetchesOnly (·.readsKeys = false) [action]) :
    (other.act action).1 = (i.act action).1 ∧
      (other.act action).2.withoutKeys = (i.act action).2.withoutKeys := by
  cases action with
  | step =>
    have hwords : other.words [.step] = i.words [.step] := congrArg (fun j => j.words [.step]) hsame
    have ho : other.FetchesOnly (·.readsKeys = false) [.step] := by
      rwa [FetchesOnly, hwords]
    apply Prod.mk.inj
    rw [act, act, ← step_withoutKeys h, ← step_withoutKeys ho, hsame]
  | tick => exact ⟨rfl, congrArg (fun j => (j.act .tick).2) hsame⟩
  | setKey => exact ⟨rfl, hsame⟩
  | acknowledge => exact ⟨rfl, congrArg (fun j => (j.act .acknowledge).2) hsame⟩

/-! ## Runs -/

theorem stepResults_cons {action : Action} (h : action ≠ .step) (rest : List Action) :
    i.stepResults (action :: rest) = (i.intervene action.intervention).stepResults rest := by
  cases action with
  | step => exact absurd rfl h
  | tick | setKey | acknowledge => rfl

theorem stepResults_append (first second : List Action) :
    i.stepResults (first ++ second) = i.stepResults first ++ (i.run first).stepResults second :=
  observe_append ..

theorem steps_intervene {n : Nat} (h : i.FetchesOnly v.Spares (.replicate n .step)) :
    (i.intervene v).run (.replicate n .step) = (i.run (.replicate n .step)).intervene v ∧
      (i.intervene v).stepResults (.replicate n .step) = i.stepResults (.replicate n .step) := by
  induction n generalizing i with
  | zero => exact ⟨rfl, rfl⟩
  | succ n ih =>
    rw [List.replicate_succ] at h ⊢
    obtain ⟨hnow, hlater⟩ := fetchesOnly_cons.1 h
    obtain ⟨hrun, hresults⟩ := ih (i := i.step.2) hlater
    have hs := step_intervene hnow
    constructor
    · rw [run_cons, run_cons, act, act, hs, hrun]
    · have hcons : ∀ j : Interpreter γ, j.stepResults (.step :: .replicate n .step) =
          j.step.1 :: j.step.2.stepResults (.replicate n .step) := fun _ => rfl
      rw [hcons, hcons, hs, hresults]

/-- An action before steps can as well come after them. -/
theorem act_steps_comm {action : Action} {n : Nat}
    (h : i.FetchesOnly (·.meets action = false) (.replicate n .step)) :
    i.run (action :: .replicate n .step) = i.run (.replicate n .step ++ [action]) ∧
      i.stepResults (action :: .replicate n .step) = i.stepResults (.replicate n .step ++ [action]) := by
  by_cases ha : action = .step
  · have hlist : action :: .replicate n .step = .replicate n .step ++ [action] := by
      rw [ha, ← List.replicate_succ, List.replicate_succ']
    rw [hlist]
    exact ⟨rfl, rfl⟩
  · obtain ⟨hrun, hresults⟩ := steps_intervene (h.mono fun _ hm => spares_of_not_meets hm)
    constructor
    · rw [run_append, run_cons, run_cons, run_nil, act_eq_intervene ha, act_eq_intervene ha, hrun]
    · rw [stepResults_append, stepResults_cons ha, stepResults_cons ha, hresults]
      exact (List.append_nil _).symm

theorem run_withoutKeys {actions : List Action} (hsame : other.withoutKeys = i.withoutKeys)
    (h : i.FetchesOnly (·.readsKeys = false) actions) :
    (other.run actions).withoutKeys = (i.run actions).withoutKeys ∧ other.results actions = i.results actions := by
  induction actions generalizing i other with
  | nil => exact ⟨hsame, rfl⟩
  | cons action rest ih =>
    obtain ⟨hnow, hlater⟩ := fetchesOnly_cons.1 h
    obtain ⟨hresult, hafter⟩ := act_withoutKeys hsame hnow
    obtain ⟨hrun, hresults⟩ := ih hafter hlater
    refine ⟨hrun, ?_⟩
    rw [results, results, hresult, hresults]

/-- An action after a run of steps can be moved to any place among them, if the steps fetch no word of an instruction
that it meets: the interpreter in the end and the results of all steps are the same. Interpreters that differ only in
their keys go on to differ only in their keys, with the same results, as long as no word of a key instruction is
fetched. -/
theorem host_actions_commute (i : Interpreter γ) :
    (∀ (action : Action) (before after : Nat),
      i.FetchesOnly (·.meets action = false) (.replicate (before + after) .step) →
      let moved := .replicate before .step ++ action :: .replicate after .step
      let last := .replicate (before + after) .step ++ [action]
      i.run moved = i.run last ∧ i.stepResults moved = i.stepResults last) ∧
    ∀ (other : Interpreter γ) (actions : List Action), other.withoutKeys = i.withoutKeys →
      i.FetchesOnly (·.readsKeys = false) actions →
      (other.run actions).withoutKeys = (i.run actions).withoutKeys ∧ other.results actions = i.results actions := by
  refine ⟨?_, fun other actions => run_withoutKeys⟩
  intro action before after h moved last
  have hsplit : List.replicate (before + after) Action.step = .replicate before .step ++ .replicate after .step :=
    List.replicate_append_replicate.symm
  have hlast : last = .replicate before .step ++ (.replicate after .step ++ [action]) := by
    rw [← List.append_assoc, ← hsplit]
  rw [hsplit] at h
  obtain ⟨hrun, hresults⟩ := act_steps_comm ((fetchesOnly_append _ _).1 h).2
  constructor
  · rw [hlast, run_append, run_append, hrun]
  · rw [hlast, stepResults_append, stepResults_append, hresults]

/-- A tick among steps that add to a register and then fail, and a key that is pressed meanwhile. -/
theorem host_actions_commute_failing :
    ∃ i : Interpreter Random.Scripted,
      start [0x60, 0x05, 0xf0, 0x15, 0x70, 0x01, 0x00, 0xee] { words := [] } {} = .ok i ∧
      let now := i.run [.step, .step]
      let other := now.run [.setKey 3 true]
      now.run [.step, .tick, .step, .step] = now.run [.step, .step, .step, .tick] ∧
        now.stepResults [.step, .tick, .step, .step] = now.stepResults [.step, .step, .step, .tick] ∧
        (now.run [.step, .step, .step, .tick]).machine.delay = 4 ∧
        (other.run [.step, .tick, .step]).withoutKeys = (now.run [.step, .tick, .step]).withoutKeys ∧
        other.results [.step, .tick, .step] = now.results [.step, .tick, .step] := by
  obtain ⟨i, hstart, hdelay, hsteps, hkeys⟩ : ∃ i : Interpreter Random.Scripted,
      start [0x60, 0x05, 0xf0, 0x15, 0x70, 0x01, 0x00, 0xee] { words := [] } {} = .ok i ∧
      let now := i.run [.step, .step]
      (now.run [.step, .step, .step, .tick]).machine.delay = 4 ∧
        (now.words [.step, .step, .step]).all (fun word => (Instruction.decode word).all (!·.meets .tick)) = true ∧
        (now.words [.step, .tick, .step]).all (fun word => (Instruction.decode word).all (!·.readsKeys)) = true :=
    ⟨_, rfl, by decide +kernel⟩
  obtain ⟨hmove, hother⟩ := host_actions_commute (i.run [.step, .step])
  obtain ⟨hrun, hresults⟩ := hmove .tick 1 2 fun word hw instruction he => by
    simpa [decode_of_encoded he] using List.all_eq_true.1 hsteps word hw
  obtain ⟨hsame, hsameResults⟩ := hother ((i.run [.step, .step]).run [.setKey 3 true]) [.step, .tick, .step] rfl
    fun word hw instruction he => by simpa [decode_of_encoded he] using List.all_eq_true.1 hkeys word hw
  exact ⟨i, hstart, hrun, hresults, hdelay, hsame, hsameResults⟩

end Interpreter

end Chip8
