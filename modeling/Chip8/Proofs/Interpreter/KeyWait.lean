import Chip8.Proofs.Interpreter.Executions
import Chip8.Proofs.Interpreter.Footprint

/-!
# Waiting for a key

At the word Fx0A a step without a key down changes nothing, so a run of such steps is the run of what the host does
between them (`run_waiting`). The first step with a key down gives the register the lowest of these keys, and what the
host did since the last step and undid is as if it came after it (`key_wait_changes_nothing`).
-/

namespace Chip8.Interpreter

variable {γ : Type}

/-- The word at the program counter is Fx0A. -/
def Awaits (i : Interpreter γ) (x : Reg) : Prop :=
  ∃ word, i.machine.fetch = .ok word ∧ word.toNat = 0xf00a + 0x100 * x

/-- A register gets the number of a key, and the wait is over. -/
def receive (i : Interpreter γ) (x : Reg) (key : Fin 16) : Interpreter γ :=
  i.modifyMachine fun m => { m.setReg x (UInt8.ofNat key) with pc := m.pc + 2 }

variable [RandomSource γ] {i : Interpreter γ} {x : Reg} {actions : List Action}

/-- The keys at each step of a run, in order. -/
def keysAtSteps (i : Interpreter γ) (actions : List Action) : List Keys :=
  i.observe (fun i => [i.machine.keys]) actions

/-! ## One step -/

theorem step_of_awaits (h : i.Awaits x) :
    i.step = (.ok (), (i.machine.keys.lowest?.map (i.receive x)).getD i) := by
  obtain ⟨word, hfetch, hword⟩ := h
  have hd : Instruction.decode word = some (.awaitKey x) := decode_of_encoded ⟨trivial, hword.symm⟩
  rw [step_of_decode hfetch hd]
  simp only [execute, Machine.perform]
  cases i.machine.keys.lowest? <;> rfl

theorem step_of_no_key (h : i.Awaits x) (hup : i.machine.keys = .none) : i.step = (.ok (), i) := by
  rw [step_of_awaits h, Keys.lowest?_eq_none_iff.2 hup]
  rfl

theorem step_of_key (h : i.Awaits x) (hdown : i.machine.keys ≠ .none) :
    ∃ key, i.machine.keys.get key = true ∧ (∀ lower < key, i.machine.keys.get lower = false) ∧
      i.step = (.ok (), i.receive x key) := by
  obtain ⟨key, hlowest⟩ := Option.ne_none_iff_exists'.1 (mt Keys.lowest?_eq_none_iff.1 hdown)
  obtain ⟨hkey, hlower⟩ := Keys.lowest?_eq_some_iff.1 hlowest
  refine ⟨key, hkey, hlower, ?_⟩
  rw [step_of_awaits h, hlowest]
  rfl

/-! ## What the host does between steps -/

theorem awaits_act {action : Action} (ha : action ≠ .step) (h : i.Awaits x) : (i.act action).2.Awaits x := by
  cases action with
  | step => exact absurd rfl ha
  | tick | setKey | acknowledge => exact h

theorem awaits_run_of_no_step (hhost : ∀ action ∈ actions, action ≠ .step) (h : i.Awaits x) :
    (i.run actions).Awaits x := by
  induction actions generalizing i with
  | nil => exact h
  | cons action rest ih =>
    obtain ⟨hnow, hlater⟩ := List.forall_mem_cons.1 hhost
    exact ih hlater (awaits_act hnow h)

theorem run_of_no_step (hhost : ∀ action ∈ actions, action ≠ .step) :
    ∃ delay sound redraw keys soundStopped,
      i.run actions = { i with machine := { i.machine with delay, sound, redraw, keys, soundStopped } } := by
  induction actions generalizing i with
  | nil => exact ⟨_, _, _, _, _, rfl⟩
  | cons action rest ih =>
    obtain ⟨hnow, hlater⟩ := List.forall_mem_cons.1 hhost
    obtain ⟨delay, sound, redraw, keys, soundStopped, hrun⟩ := ih (i := (i.act action).2) hlater
    refine ⟨delay, sound, redraw, keys, soundStopped, ?_⟩
    rw [run_cons, hrun]
    cases action with
    | step => exact absurd rfl hnow
    | tick | setKey | acknowledge => rfl

theorem receive_run (hhost : ∀ action ∈ actions, action ≠ .step) (key : Fin 16) :
    (i.receive x key).run actions = (i.run actions).receive x key := by
  induction actions generalizing i with
  | nil => rfl
  | cons action rest ih =>
    obtain ⟨hnow, hlater⟩ := List.forall_mem_cons.1 hhost
    rw [run_cons, run_cons, ← ih hlater]
    cases action with
    | step => exact absurd rfl hnow
    | tick | setKey | acknowledge => rfl

/-- What the host does between two steps makes no difference to the second, if it leaves the keys as they were. -/
theorem step_run_of_same_keys (h : i.Awaits x) (hhost : ∀ action ∈ actions, action ≠ .step)
    (hkeys : (i.run actions).machine.keys = i.machine.keys) :
    (i.run actions).step = (i.step.1, i.step.2.run actions) := by
  rw [step_of_awaits (awaits_run_of_no_step hhost h), step_of_awaits h, hkeys]
  cases i.machine.keys.lowest? with
  | none => rfl
  | some key => exact congrArg (Prod.mk _) (receive_run hhost key).symm

/-! ## Runs -/

theorem run_waiting (h : i.Awaits x) (hup : ∀ keys ∈ i.keysAtSteps actions, keys = .none) :
    i.run actions = i.run (actions.filter (· ≠ .step)) ∧ ∀ result ∈ i.results actions, result = .ok () := by
  induction actions generalizing i with
  | nil => exact ⟨rfl, List.forall_mem_nil _⟩
  | cons action rest ih =>
    cases action with
    | step =>
      obtain ⟨hnow, hlater⟩ := List.forall_mem_cons.1 hup
      have hs := step_of_no_key h hnow
      have hact : i.act .step = (.ok (), i) := hs
      -- the step left everything as it was, so the rest of the run starts from the same state
      rw [hs] at hlater
      obtain ⟨hrun, hresults⟩ := ih h hlater
      rw [run_cons, results, hact]
      exact ⟨hrun, List.forall_mem_cons.2 ⟨rfl, hresults⟩⟩
    | tick | setKey | acknowledge =>
      obtain ⟨hrun, hresults⟩ := ih (awaits_act (by simp) h) hup
      exact ⟨hrun, List.forall_mem_cons.2 ⟨rfl, hresults⟩⟩

/-- A run from the word Fx0A on, with no key down at any of its steps, does what the host does in it and nothing else: no
step fails, and only the timers, the end of the tone, the redraw request and the keys can be other than before. At the
first step with a key down the register gets the lowest of the keys, and the program counter moves on. What the host does
before any of these steps makes no difference to it, as long as it leaves the keys as they were. -/
theorem key_wait_changes_nothing (h : i.Awaits x) (hup : ∀ keys ∈ i.keysAtSteps actions, keys = .none) :
    let j := i.run actions
    (∀ result ∈ i.results actions, result = .ok ()) ∧
    j = i.run (actions.filter (· ≠ .step)) ∧
    (∃ delay sound redraw keys soundStopped,
      j = { i with machine := { i.machine with delay, sound, redraw, keys, soundStopped } }) ∧
    (j.machine.keys = .none → j.step = (.ok (), j)) ∧
    (j.machine.keys ≠ .none →
      ∃ key, j.machine.keys.get key = true ∧ (∀ lower < key, j.machine.keys.get lower = false) ∧
        let after := j.step.2
        j.step.1 = .ok () ∧
        after.machine.reg x = UInt8.ofNat key ∧ (∀ y, y ≠ x → after.machine.reg y = j.machine.reg y) ∧
        after = { j with machine :=
          { j.machine with registers := after.machine.registers, pc := i.machine.pc + 2 } }) ∧
    ∀ between : List Action, (∀ action ∈ between, action ≠ .step) →
      (j.run between).machine.keys = j.machine.keys → (j.run between).step = (j.step.1, j.step.2.run between) := by
  intro j
  have hhost : ∀ action ∈ actions.filter (· ≠ .step), action ≠ .step :=
    fun action ha => of_decide_eq_true (List.mem_filter.1 ha).2
  obtain ⟨hrun, hresults⟩ := run_waiting h hup
  obtain ⟨delay, sound, redraw, keys, soundStopped, hsame⟩ := run_of_no_step (i := i) hhost
  have hj : j.Awaits x := by
    rw [show j = _ from hrun]
    exact awaits_run_of_no_step hhost h
  have hpc : j.machine.pc = i.machine.pc := by
    rw [show j = _ from hrun, hsame]
  refine ⟨hresults, hrun, ⟨delay, sound, redraw, keys, soundStopped, hrun.trans hsame⟩, step_of_no_key hj, ?_,
    fun between => step_run_of_same_keys hj⟩
  intro hdown
  obtain ⟨key, hkey, hlower, hs⟩ := step_of_key hj hdown
  refine ⟨key, hkey, hlower, ?_⟩
  rw [hs, ← hpc]
  exact ⟨rfl, Machine.reg_setReg_self .., fun y hy => Machine.reg_setReg_of_ne _ hy, rfl⟩

/-- A key that is up again before the next step, and two keys of which the higher one is pressed first. -/
theorem key_wait_changes_nothing_two_keys :
    ∃ i : Interpreter Random.Scripted, start [0xf3, 0x0a] { words := [] } {} = .ok i ∧
      let actions : List Action := [.step, .setKey 9 true, .tick, .setKey 9 false, .step, .setKey 7 true, .setKey 4 true]
      let j := i.run actions
      i.Awaits (.ofNat 3) ∧ (∀ keys ∈ i.keysAtSteps actions, keys = .none) ∧
        j = i.run [.setKey 9 true, .tick, .setKey 9 false, .setKey 7 true, .setKey 4 true] ∧ j.machine.keys ≠ .none ∧
        j.step.1 = .ok () ∧ j.step.2.machine.reg (.ofNat 3) = 4 ∧ j.step.2.machine.reg (.ofNat 7) = 0 ∧
          j.step.2.machine.pc = 0x202 := by
  obtain ⟨i, hstart, hfetch, hup, hlowest, hother, hpc⟩ : ∃ i : Interpreter Random.Scripted,
      start [0xf3, 0x0a] { words := [] } {} = .ok i ∧
      let actions : List Action := [.step, .setKey 9 true, .tick, .setKey 9 false, .step, .setKey 7 true, .setKey 4 true]
      i.machine.fetch.toOption = some 0xf30a ∧ (i.keysAtSteps actions).all (· = .none) = true ∧
        (i.run actions).machine.keys.lowest?.map Fin.val = some 4 ∧ (i.run actions).machine.reg (.ofNat 7) = 0 ∧
        i.machine.pc + 2 = 0x202 :=
    ⟨_, rfl, by decide +kernel⟩
  refine ⟨i, hstart, ?_⟩
  intro actions j
  have hawaits : i.Awaits (.ofNat 3) := ⟨0xf30a, eq_ok_of_toOption hfetch, rfl⟩
  have hsteps : ∀ keys ∈ i.keysAtSteps actions, keys = .none :=
    fun keys hk => of_decide_eq_true (List.all_eq_true.1 hup keys hk)
  obtain ⟨_, hrun, _, _, hkey, _⟩ := key_wait_changes_nothing hawaits hsteps
  have hdown : j.machine.keys ≠ .none := by
    intro hnone
    rw [Keys.lowest?_eq_none_iff.2 hnone] at hlowest
    cases hlowest
  obtain ⟨key, hget, hlower, hok, hreceived, hkept, hafter⟩ := hkey hdown
  have hfour : key.val = 4 := by
    rw [Keys.lowest?_eq_some_iff.2 ⟨hget, hlower⟩] at hlowest
    exact Option.some.inj hlowest
  exact ⟨hawaits, hsteps, hrun, hdown, hok, hreceived.trans (congrArg UInt8.ofNat hfour),
    (hkept (.ofNat 7) (by decide)).trans hother, (congrArg (·.machine.pc) hafter).trans hpc⟩

end Chip8.Interpreter
