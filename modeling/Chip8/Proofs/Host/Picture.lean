import Chip8.Host.Rehearsal
import Chip8.Proofs.Host.Sessions
import Chip8.Proofs.Interpreter.Steps

/-!
# The picture on the display

What changes the screen asks for a redraw, and the request is acknowledged only after the display took the screen.
So the display shows the screen whenever no redraw is asked for, whatever fails in between.
-/

namespace Chip8

/-! ## Steps and the screen -/

theorem Interpreter.step_screen {γ : Type} [RandomSource γ] (i : Interpreter γ) :
    i.step.2.machine.redraw = true ∨
      i.step.2.machine.redraw = i.machine.redraw ∧ i.step.2.machine.screen = i.machine.screen := by
  have hs := i.step_stepped
  generalize i.step = result at hs ⊢
  cases hs with
  | failed | passedOver => exact .inr ⟨rfl, rfl⟩
  | executed => exact Machine.perform_screen

namespace Host

variable {γ δ ι σ : Type}

/-! ## Displays with a picture -/

/-- A display whose picture can be looked at: it is the last frame that was accepted. A draw that fails changes
nothing. -/
class Pictured (δ : Type) [Display δ] where
  picture : δ → Raster
  accepted {d : δ} {frame : Raster} :
    (Display.draw d frame).1 = .ok () → picture (Display.draw d frame).2 = frame
  refused {d : δ} {frame : Raster} {e : IoError} :
    (Display.draw d frame).1 = .error e → picture (Display.draw d frame).2 = picture d

instance : Pictured RememberingDisplay where
  picture d := d.lastFrame.getD Screen.blank.val
  accepted _ := rfl
  refused h := by cases h

instance {α : Type} [Display α] [Pictured α] : Pictured (Unreliable α) where
  picture u := Pictured.picture u.device
  accepted {u frame} h := by
    cases hf : u.failure? .draw with
    | none =>
      simp only [Display.draw, hf] at h ⊢
      exact Pictured.accepted h
    | some message =>
      simp only [Display.draw, hf, reduceCtorEq] at h
  refused {u frame e} h := by
    cases hf : u.failure? .draw with
    | none =>
      simp only [Display.draw, hf] at h ⊢
      exact Pictured.refused h
    | some message =>
      simp only [Display.draw, hf]
      rfl

/-! ## The display is current -/

variable [Display δ] [Pictured δ]

/-- Unless a redraw is asked for, the display shows the screen. -/
def Current (h : Host γ δ ι σ) : Prop :=
  h.machine.redraw = false → Pictured.picture h.display = h.machine.screen.val

theorem step_current [RandomSource γ] (h : Host γ δ ι σ) (hc : h.Current) : h.step.2.Current := by
  intro hr
  rcases h.interpreter.step_screen with hs | ⟨hs, hscreen⟩
  · exact absurd (hs.symm.trans hr) Bool.noConfusion
  · calc Pictured.picture h.display
        = h.machine.screen.val := hc (hs.symm.trans hr)
      _ = h.step.2.machine.screen.val := by rw [machine, ← hscreen]; rfl

theorem refresh_current (h : Host γ δ ι σ) (hc : h.Current) : h.refresh.2.Current := by
  have hs := h.refresh_refreshed
  generalize h.refresh = result at hs ⊢
  cases hs with
  | idle => exact hc
  | refused hr =>
    -- the machine still asks for a redraw
    intro hr'
    exact absurd (hr.symm.trans hr') Bool.noConfusion
  | shown _ hd =>
    intro _
    exact Pictured.accepted hd

theorem silence_current [Speaker σ] (h : Host γ δ ι σ) (hc : h.Current) : h.silence.Current := by
  obtain ⟨_, _, he⟩ := h.silence_eq
  rwa [he]

omit [Pictured δ] in
theorem redraw_of_refresh {h after : Host γ δ ι σ} (hr : h.refresh = (.ok (), after)) :
    after.machine.redraw = false := by
  have hs := h.refresh_refreshed
  rw [hr] at hs
  cases hs with
  | idle hn => exact hn
  | shown => rfl

variable [RandomSource γ] [InputDevice ι] [Speaker σ]

theorem current_kept : Kept (Current : Host γ δ ι σ → Prop) where
  poll _ hc := hc
  keys _ _ hc := hc
  step := step_current
  startTone h hc := by
    obtain ⟨_, _, he⟩ := h.startTone_eq
    rwa [he]
  tick _ hc := hc
  refresh := refresh_current
  stopTone {_ _ drawn} _ _ hc := by
    obtain ⟨_, _, he⟩ := drawn.stopTone_eq
    rwa [he]

omit [Pictured δ] in
theorem redraw_of_played {h after : Host γ δ ι σ} (hf : h.runFrame = (.ok true, after)) :
    after.machine.redraw = false := by
  cases frameEnd_of_runFrame hf with
  | @played _ _ _ drawn _ _ _ _ hr hst =>
    have hm := drawn.stopTone_machine
    rw [hst] at hm
    rw [hm]
    exact redraw_of_refresh hr

/-- A session keeps the display current from the start of a program on. -/
theorem current_of_session {program : List UInt8} {random : γ} {dialect : Dialect} {h now : Host γ δ ι σ}
    (hi : Interpreter.start program random dialect = .ok h.interpreter)
    (hd : Pictured.picture h.display = Screen.blank.val) (hs : Session h now) : now.Current := by
  have hstart : h.Current := by
    obtain ⟨ram, _, hm⟩ := Interpreter.exists_of_start hi
    intro _
    rw [hd, machine, hm]
    rfl
  exact hs.invariant current_kept.runFrame silence_current (fun _ _ hc => hc) hstart

/-- From the start of a program on, in any sequence of frames and loops and whatever fails in them, the display shows
the screen unless a redraw is asked for; and after every frame that was played to its end it does. -/
theorem display_misses_no_drawing {program : List UInt8} {random : γ} {dialect : Dialect} {h now : Host γ δ ι σ}
    (hi : Interpreter.start program random dialect = .ok h.interpreter)
    (hd : Pictured.picture h.display = Screen.blank.val) (hs : Session h now) :
    (now.machine.redraw = false → Pictured.picture now.display = now.machine.screen.val) ∧
      ∀ after, now.runFrame = (.ok true, after) → Pictured.picture after.display = after.machine.screen.val := by
  have hnow : now.Current := current_of_session hi hd hs
  refine ⟨hnow, ?_⟩
  intro after hf
  have hafter := current_kept.runFrame now hnow
  rw [hf] at hafter
  exact hafter (redraw_of_played hf)

/-- A host whose display refuses the first frame that it is shown. -/
private def refusedOnce (interpreter : Interpreter Random.Scripted) :
    Host Random.Scripted (Unreliable RememberingDisplay) ScriptedInput SilentSpeaker where
  interpreter
  display := { device := {}, plan := [⟨.draw, 0, "refused"⟩] }
  input := { script := [] }
  speaker := {}
  settings := { cyclesPerFrame := 2 }

theorem display_misses_no_drawing_after_refusal :
    ∃ i : Interpreter Random.Scripted, Interpreter.start [0xd0, 0x05, 0x12, 0x02] { words := [] } {} = .ok i ∧
      let failed := (refusedOnce i).runFrame.2
      failed.machine.redraw = true ∧
        ∃ after, failed.runFrame = (.ok true, after) ∧ after.machine.screen.val.get 3 4 = true ∧
          Pictured.picture after.display = after.machine.screen.val := by
  refine ⟨_, rfl, ?_⟩
  intro failed
  have hstart : Interpreter.start [0xd0, 0x05, 0x12, 0x02] ({ words := [] } : Random.Scripted) {} =
      .ok (refusedOnce _).interpreter := rfl
  have hf : failed.runFrame = (.ok true, failed.runFrame.2) := eq_of_toOption (by decide +kernel)
  exact ⟨by decide +kernel, _, hf, by decide +kernel,
    (display_misses_no_drawing hstart rfl (.frame .start)).2 _ hf⟩

end Host

end Chip8
