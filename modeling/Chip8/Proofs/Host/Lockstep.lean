import Chip8.Host.Rehearsal
import Chip8.Proofs.Host.Outcomes

/-!
# Hosts in lockstep

A host after a number of frames, whatever became of them (`afterFrames`). Input devices are only polled, once a frame,
so what their polls answer does not depend on the rest of the host (`answer`). Two hosts with the same interpreter that
are polled alike and have the same calls refused stay together (`Alike`), whatever displays and speakers they have.
-/

namespace Chip8.Host

/-! ## Input devices by themselves -/

section Input

variable {ι : Type} [InputDevice ι]

/-- An input device after a number of polls. -/
def inputAfter (s : ι) : Nat → ι
  | 0 => s
  | n + 1 => (InputDevice.poll (inputAfter s n)).after

/-- What an input device answers to its polls, counted from 0. -/
def answer (s : ι) (n : Nat) : Except IoError KeyReport :=
  (InputDevice.poll (inputAfter s n)).result

end Input

variable {γ δ ι σ : Type} [RandomSource γ] [Display δ] [InputDevice ι] [Speaker σ]

/-! ## Frames in a row -/

/-- The host after a number of frames. A frame that fails does not end them. -/
def afterFrames (h : Host γ δ ι σ) : Nat → Host γ δ ι σ
  | 0 => h
  | n + 1 => (h.afterFrames n).runFrame.2

theorem afterFrames_input_settings (h : Host γ δ ι σ) (n : Nat) :
    (h.afterFrames n).input = inputAfter h.input n ∧ (h.afterFrames n).settings = h.settings := by
  induction n with
  | zero => exact ⟨rfl, rfl⟩
  | succ n ih =>
    obtain ⟨hinput, hsettings⟩ := (h.afterFrames n).runFrame_input_settings
    rw [ih.1] at hinput
    exact ⟨hinput, hsettings.trans ih.2⟩

/-- A frame in a row: the poll answers what the input device answers by itself. -/
theorem afterFrames_framed (h : Host γ δ ι σ) (n : Nat) :
    ∃ calls, (h.afterFrames (n + 1)).calls = (h.afterFrames n).calls ++ calls ∧
      Framed (h.afterFrames n).interpreter h.settings.cyclesPerFrame (answer h.input n)
        (h.afterFrames (n + 1)).refused? (h.afterFrames n).runFrame.1 (h.afterFrames (n + 1)).interpreter calls := by
  obtain ⟨calls, hcalls, hf⟩ := (h.afterFrames n).runFrame_framed
  obtain ⟨hinput, hsettings⟩ := h.afterFrames_input_settings n
  rw [hinput, hsettings] at hf
  exact ⟨calls, hcalls, hf⟩

/-! ## Two hosts -/

variable {δ' ι' σ' : Type} [Display δ'] [InputDevice ι'] [Speaker σ']

/-- Two hosts begin with the same interpreter, and in each of `n` frames they are polled alike and the same call of
their displays and speakers is refused, if one is. -/
structure Alike (h : Host γ δ ι σ) (g : Host γ δ' ι' σ') (n : Nat) : Prop where
  interpreter : g.interpreter = h.interpreter
  cycles : g.settings.cyclesPerFrame = h.settings.cyclesPerFrame
  polls : ∀ k < n, answer g.input k = answer h.input k
  refusals : ∀ k < n, (g.afterFrames (k + 1)).refused? = (h.afterFrames (k + 1)).refused?

namespace Alike

variable {h : Host γ δ ι σ} {g : Host γ δ' ι' σ'} {n : Nat}

theorem mono {k : Nat} (ha : Alike h g n) (hk : k ≤ n) : Alike h g k where
  interpreter := ha.interpreter
  cycles := ha.cycles
  polls j hj := ha.polls j (Nat.lt_of_lt_of_le hj hk)
  refusals j hj := ha.refusals j (Nat.lt_of_lt_of_le hj hk)

/-- Hosts that were alike and are together stay together for one more frame. -/
theorem frame {k : Nat} (ha : Alike h g n) (hk : k < n)
    (hi : (g.afterFrames k).interpreter = (h.afterFrames k).interpreter) :
    (g.afterFrames (k + 1)).interpreter = (h.afterFrames (k + 1)).interpreter ∧
      (g.afterFrames k).runFrame.1.toOption = (h.afterFrames k).runFrame.1.toOption ∧
      ((h.afterFrames (k + 1)).refused? = none → (g.afterFrames k).runFrame.1 = (h.afterFrames k).runFrame.1) := by
  obtain ⟨_, _, hf⟩ := h.afterFrames_framed k
  obtain ⟨_, _, hg⟩ := g.afterFrames_framed k
  rw [hi, ha.cycles, ha.polls k hk, ha.refusals k hk] at hg
  exact hf.unique hg

/-- By induction on the frames: display and speaker tell a machine nothing but that they refused. -/
theorem interpreters (ha : Alike h g n) : (g.afterFrames n).interpreter = (h.afterFrames n).interpreter := by
  induction n with
  | zero => exact ha.interpreter
  | succ n ih => exact (ha.frame (Nat.lt_succ_self n) (ih (ha.mono (Nat.le_succ n)))).1

end Alike

/-- What a frame does to the machine depends on the devices only through the poll and the call that is refused. The
frame calls its devices in order and none after a refusal. Unless it is asked to quit, it leaves the machine with exactly
the polled keys; a drawing that the display refused is still to be shown after it, and none is once the frame came to its
last part. Hosts that differ in their devices alone, but are polled alike and refused alike, agree on the machine after
any number of frames. -/
theorem frame_refines_machine (h : Host γ δ ι σ) :
    (∃ calls, h.runFrame.2.calls = h.calls ++ calls ∧
      Framed h.interpreter h.settings.cyclesPerFrame (InputDevice.poll h.input).result h.runFrame.2.refused?
        h.runFrame.1 h.runFrame.2.interpreter calls ∧
      (calls.map Prod.fst).Sublist [.poll, .beep, .draw, .stop] ∧ ∀ call ∈ calls.dropLast, call.2 = true) ∧
    (∀ report, (InputDevice.poll h.input).result = .ok report → report.quit = false →
      h.runFrame.2.machine.keys = report.keys) ∧
    (h.runFrame.2.refused? = some .draw → h.runFrame.2.machine.redraw = true) ∧
    (h.runFrame.1 = .ok true ∨ h.runFrame.2.refused? = some .stop → h.runFrame.2.machine.redraw = false) ∧
    ∀ {δ' ι' σ' : Type} [Display δ'] [InputDevice ι'] [Speaker σ'] (g : Host γ δ' ι' σ') (n : Nat), Alike h g n →
      (g.afterFrames n).interpreter = (h.afterFrames n).interpreter ∧
      ∀ k < n, (g.afterFrames k).runFrame.1.toOption = (h.afterFrames k).runFrame.1.toOption ∧
        ((h.afterFrames (k + 1)).refused? = none → (g.afterFrames k).runFrame.1 = (h.afterFrames k).runFrame.1) := by
  obtain ⟨calls, hcalls, hf⟩ := h.runFrame_framed
  refine ⟨⟨calls, hcalls, hf, hf.calls_sublist, hf.succeeded_before_last⟩, ?_, ?_, hf.redraw_of_shown, ?_⟩
  · intro report hresult hq
    rw [hresult] at hf
    exact hf.keys_eq hq
  · intro hrefused
    rw [hrefused] at hf
    exact hf.redraw_of_refused
  · intro δ' ι' σ' _ _ _ g n ha
    refine ⟨ha.interpreters, fun k hk => ?_⟩
    exact (ha.frame hk (ha.mono (Nat.le_of_lt hk)).interpreters).2

/-- A host with a speaker of its own whose display refuses the first picture; a key is down at the second poll. -/
private def unseenOnce {σ : Type} (message : String) (speaker : σ) (interpreter : Interpreter Random.Scripted) :
    Host Random.Scripted (Unreliable RememberingDisplay) ScriptedInput σ where
  interpreter
  display := { device := {}, plan := [⟨.draw, 0, message⟩] }
  input := { script := [.idle, .pressing [5]] }
  speaker
  settings := { cyclesPerFrame := 4 }

/-- The program sounds the tone and draws: the first frame ends with the display, the second is played with a key down. -/
theorem frame_refines_machine_two_speakers :
    ∃ i : Interpreter Random.Scripted,
      Interpreter.start [0x60, 0x03, 0xf0, 0x18, 0xd0, 0x05, 0x12, 0x06] { words := [] } {} = .ok i ∧
      let h := unseenOnce "broken" ({} : SilentSpeaker) i
      let g := unseenOnce "busy" ({} : BuiltInSpeaker) i
      Alike h g 2 ∧ (h.afterFrames 1).refused? = some .draw ∧ (h.afterFrames 1).machine.redraw = true ∧
        (h.afterFrames 2).machine.keys = (KeyReport.pressing [5]).keys ∧ (h.afterFrames 2).machine.redraw = false ∧
        (g.afterFrames 2).interpreter = (h.afterFrames 2).interpreter := by
  obtain ⟨i, hstart, hfirst, hsecond, hplayed⟩ : ∃ i : Interpreter Random.Scripted,
      Interpreter.start [0x60, 0x03, 0xf0, 0x18, 0xd0, 0x05, 0x12, 0x06] { words := [] } {} = .ok i ∧
      ((unseenOnce "broken" ({} : SilentSpeaker) i).afterFrames 1).refused? = some .draw ∧
      (∀ k < 2, ((unseenOnce "busy" ({} : BuiltInSpeaker) i).afterFrames (k + 1)).refused? =
        ((unseenOnce "broken" ({} : SilentSpeaker) i).afterFrames (k + 1)).refused?) ∧
      ((unseenOnce "broken" ({} : SilentSpeaker) i).afterFrames 1).runFrame.1.toOption = some true :=
    ⟨_, rfl, by decide +kernel, by decide +kernel, by decide +kernel⟩
  refine ⟨i, hstart, ?_⟩
  intro h g
  have ha : Alike h g 2 := ⟨rfl, rfl, fun _ _ => rfl, hsecond⟩
  obtain ⟨_, _, hrefused, _, htogether⟩ := frame_refines_machine h
  obtain ⟨_, hkeys, _, hshown, _⟩ := frame_refines_machine (h.afterFrames 1)
  have hpoll : (InputDevice.poll (h.afterFrames 1).input).result = .ok (.pressing [5]) := by
    rw [(h.afterFrames_input_settings 1).1]
    rfl
  exact ⟨ha, hfirst, hrefused hfirst, hkeys _ hpoll rfl, hshown (.inl (Interpreter.eq_ok_of_toOption hplayed)),
    (htogether g 2 ha).1⟩

end Chip8.Host
