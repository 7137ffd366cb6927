import Chip8.Host.Frame

/-!
# How a frame ends

A frame is a chain of parts, and it ends with the first that fails (`FrameEnd`). What every part keeps, every frame
keeps.
-/

namespace Chip8.Host

variable {γ δ ι σ α β : Type}

/-! ## Operations in order -/

theorem run_bind (first : Operation γ δ ι σ α) (next : α → Operation γ δ ι σ β) (h : Host γ δ ι σ) :
    (first >>= next).run h =
      match first.run h with
      | (.ok a, after) => (next a).run after
      | (.error fault, after) => (.error fault, after) := by
  simp only [ExceptT.run, bind, ExceptT.bind, ExceptT.mk, StateT.bind]
  rcases first h with ⟨_ | a, after⟩ <;> rfl

theorem run_mk (f : Host γ δ ι σ → Except Fault α × Host γ δ ι σ) (h : Host γ δ ι σ) :
    (ExceptT.mk f : Operation γ δ ι σ α).run h = f h := rfl

theorem run_modify (f : Host γ δ ι σ → Host γ δ ι σ) (h : Host γ δ ι σ) :
    (modify f : Operation γ δ ι σ Unit).run h = (.ok (), f h) := rfl

theorem run_pure (a : α) (h : Host γ δ ι σ) : (pure a : Operation γ δ ι σ α).run h = (.ok a, h) := rfl

theorem eq_of_toOption {ε : Type} {run : Except ε α × β} {a : α} (h : run.1.toOption = some a) :
    run = (.ok a, run.2) := by
  rcases run with ⟨fault | _, after⟩
  · cases h
  · cases h
    rfl

theorem mapError_eq_ok {ε ε' : Type} {f : ε → ε'} {result : Except ε α} {a : α} :
    result.mapError f = .ok a ↔ result = .ok a := by
  constructor
  · intro h
    cases result with
    | error => cases h
    | ok => cases h; rfl
  · rintro rfl
    rfl

/-! ## The history -/

theorem history_noteCall (h : Host γ δ ι σ) (call : Call) (succeeded : Bool) :
    (h.noteCall call succeeded).history = h.history ++ [.called call succeeded] := by
  simp only [history, noteCall, List.reverse_cons]

theorem history_noteLog (h : Host γ δ ι σ) (records : List Log.Record) :
    (h.noteLog records).history = h.history ++ records.map .reported := by
  induction records generalizing h with
  | nil => simp [history, noteLog]
  | cons record rest ih =>
    calc (h.noteLog (record :: rest)).history
        = ((h.noteLog [record]).noteLog rest).history := rfl
      _ = (h.noteLog [record]).history ++ rest.map .reported := ih _
      _ = h.history ++ (record :: rest).map .reported := by simp [history, noteLog]

/-! ## The parts of a frame -/

variable [RandomSource γ] [Display δ] [InputDevice ι] [Speaker σ]

/-- The frame came as far as its instructions: the poll answered, and the machine has the keys. -/
def Begun (h begun : Host γ δ ι σ) : Prop :=
  ∃ report polled, h.poll = (.ok report, polled) ∧ report.quit = false ∧
    begun = polled.modifyMachine fun m => { m with keys := report.keys }

/-- How a frame ends. -/
inductive FrameEnd (h : Host γ δ ι σ) : Except Fault Bool → Host γ δ ι σ → Prop
  | pollFailed {fault after} : h.poll = (.error fault, after) → FrameEnd h (.error fault) after
  | quit {report after} : h.poll = (.ok report, after) → report.quit = true → FrameEnd h (.ok false) after
  | stepFailed {begun fault after} : h.Begun begun →
      begun.steps begun.settings.cyclesPerFrame = (.error fault, after) → FrameEnd h (.error fault) after
  | beepFailed {begun stepped fault after} : h.Begun begun →
      begun.steps begun.settings.cyclesPerFrame = (.ok (), stepped) →
      stepped.startTone = (.error fault, after) → FrameEnd h (.error fault) after
  | drawFailed {begun stepped toned fault after} : h.Begun begun →
      begun.steps begun.settings.cyclesPerFrame = (.ok (), stepped) → stepped.startTone = (.ok (), toned) →
      (toned.modifyMachine .tick).refresh = (.error fault, after) → FrameEnd h (.error fault) after
  | stopFailed {begun stepped toned drawn fault after} : h.Begun begun →
      begun.steps begun.settings.cyclesPerFrame = (.ok (), stepped) → stepped.startTone = (.ok (), toned) →
      (toned.modifyMachine .tick).refresh = (.ok (), drawn) → drawn.stopTone = (.error fault, after) →
      FrameEnd h (.error fault) after
  | played {begun stepped toned drawn after} : h.Begun begun →
      begun.steps begun.settings.cyclesPerFrame = (.ok (), stepped) → stepped.startTone = (.ok (), toned) →
      (toned.modifyMachine .tick).refresh = (.ok (), drawn) → drawn.stopTone = (.ok (), after) →
      FrameEnd h (.ok true) after

theorem runFrame_end (h : Host γ δ ι σ) : FrameEnd h h.runFrame.1 h.runFrame.2 := by
  rw [runFrame, frameOperation, run_bind, run_mk]
  rcases hp : h.poll with ⟨fault | report, polled⟩
  · exact .pollFailed hp
  cases hq : report.quit with
  | true =>
    simp only [hq, if_true, run_pure]
    exact .quit hp hq
  | false =>
    have hb : h.Begun (polled.modifyMachine fun m => { m with keys := report.keys }) := ⟨report, polled, hp, hq, rfl⟩
    simp only [hq, Bool.false_eq_true, if_false, playFrame, run_bind, run_mk, run_modify, run_pure, Machine.setKeys_eq]
    rcases hs : steps _ (polled.modifyMachine _) with ⟨fault | _, stepped⟩
    · exact .stepFailed hb hs
    rcases ht : stepped.startTone with ⟨fault | _, toned⟩
    · simp only [ht]
      exact .beepFailed hb hs ht
    rcases hr : (toned.modifyMachine .tick).refresh with ⟨fault | _, drawn⟩
    · simp only [ht, hr]
      exact .drawFailed hb hs ht hr
    rcases hst : drawn.stopTone with ⟨fault | _, after⟩
    · simp only [ht, hr, hst]
      exact .stopFailed hb hs ht hr hst
    · simp only [ht, hr, hst]
      exact .played hb hs ht hr hst

theorem frameEnd_of_runFrame {h after : Host γ δ ι σ} {result : Except Fault Bool}
    (hf : h.runFrame = (result, after)) : FrameEnd h result after := by
  have he := h.runFrame_end
  rwa [hf] at he

/-- What a refresh can be. -/
inductive Refreshed (h : Host γ δ ι σ) : Except Fault Unit × Host γ δ ι σ → Prop
  | idle : h.machine.redraw = false → Refreshed h (.ok (), h)
  | refused {fault} : h.machine.redraw = true → Refreshed h (.error fault, h.draw.2)
  | shown : h.machine.redraw = true → (Display.draw h.display h.machine.screen.val).1 = .ok () →
      Refreshed h (.ok (), h.draw.2.modifyMachine .acknowledge)

omit [RandomSource γ] [InputDevice ι] [Speaker σ] in
theorem refresh_refreshed (h : Host γ δ ι σ) : Refreshed h h.refresh := by
  cases hr : h.machine.redraw with
  | false =>
    simp only [refresh, hr, Bool.false_eq_true, if_false]
    exact .idle hr
  | true =>
    have hafter : ∀ {result after}, h.draw = (result, after) → after = h.draw.2 := fun hd => by rw [hd]
    rcases hd : h.draw with ⟨fault | _, after⟩
    · simp only [refresh, hr, if_true, hd]
      rw [hafter hd]
      exact .refused hr
    · simp only [refresh, hr, if_true, hd]
      rw [hafter hd]
      exact .shown hr (mapError_eq_ok.1 (congrArg Prod.fst hd))

omit [RandomSource γ] [Display δ] [InputDevice ι] in
/-- Starting the tone changes nothing but the speaker and what is noted, -/
theorem startTone_eq (h : Host γ δ ι σ) : ∃ speaker journal, h.startTone.2 = { h with speaker, journal } := by
  simp only [startTone]
  split
  · exact ⟨_, _, rfl⟩
  · exact ⟨_, _, rfl⟩

omit [RandomSource γ] [Display δ] [InputDevice ι] in
/-- and so does stopping it. -/
theorem stopTone_eq (h : Host γ δ ι σ) : ∃ speaker journal, h.stopTone.2 = { h with speaker, journal } := by
  simp only [stopTone]
  split
  · exact ⟨_, _, rfl⟩
  · exact ⟨_, _, rfl⟩

omit [RandomSource γ] [Display δ] [InputDevice ι] in
@[simp] theorem startTone_machine (h : Host γ δ ι σ) : h.startTone.2.machine = h.machine := by
  obtain ⟨_, _, he⟩ := h.startTone_eq
  rw [he]
  rfl

omit [RandomSource γ] [Display δ] [InputDevice ι] in
@[simp] theorem stopTone_machine (h : Host γ δ ι σ) : h.stopTone.2.machine = h.machine := by
  obtain ⟨_, _, he⟩ := h.stopTone_eq
  rw [he]
  rfl

/-! ## What all parts keep -/

/-- Every part of a frame after its poll keeps a property; the last part may count on the two before it. -/
structure KeptOncePolled (I : Host γ δ ι σ → Prop) : Prop where
  keys : ∀ h keys, I h → I (h.modifyMachine fun m => { m with keys })
  step : ∀ h, I h → I h.step.2
  startTone : ∀ h, I h → I h.startTone.2
  tick : ∀ h, I h → I (h.modifyMachine .tick)
  refresh : ∀ h, I h → I h.refresh.2
  stopTone : ∀ {stepped toned drawn : Host γ δ ι σ}, stepped.startTone = (.ok (), toned) →
    (toned.modifyMachine .tick).refresh = (.ok (), drawn) → I drawn → I drawn.stopTone.2

/-- Every part of a frame keeps a property. -/
structure Kept (I : Host γ δ ι σ → Prop) : Prop extends KeptOncePolled I where
  poll : ∀ h, I h → I h.poll.2

variable {I : Host γ δ ι σ → Prop}

omit [Display δ] [InputDevice ι] [Speaker σ] in
theorem steps_kept (hstep : ∀ h, I h → I h.step.2) (n : Nat) (h : Host γ δ ι σ) (hi : I h) : I (steps n h).2 := by
  induction n generalizing h with
  | zero => exact hi
  | succ n ih =>
    have hs := hstep h hi
    rcases hst : h.step with ⟨fault | _, after⟩
    · rw [hst] at hs
      simp only [steps, hst]
      exact hs
    · rw [hst] at hs
      simp only [steps, hst]
      exact ih after hs

theorem Begun.kept (hI : KeptOncePolled I) {h begun : Host γ δ ι σ} (hb : h.Begun begun) (hi : I h.poll.2) :
    I begun := by
  obtain ⟨report, polled, hp, _, rfl⟩ := hb
  rw [hp] at hi
  exact hI.keys polled report.keys hi

theorem FrameEnd.kept (hI : KeptOncePolled I) {h after : Host γ δ ι σ} {result : Except Fault Bool}
    (he : FrameEnd h result after) (hi : I h.poll.2) : I after := by
  have hsteps : ∀ {begun result stepped}, h.Begun begun →
      begun.steps begun.settings.cyclesPerFrame = (result, stepped) → I stepped := by
    intro begun result stepped hb hs
    have := steps_kept hI.step begun.settings.cyclesPerFrame begun (hb.kept hI hi)
    rwa [hs] at this
  have htone : ∀ {stepped : Host γ δ ι σ} {result toned}, stepped.startTone = (result, toned) → I stepped → I toned := by
    intro stepped result toned ht hi
    have := hI.startTone stepped hi
    rwa [ht] at this
  have hdraw : ∀ {toned : Host γ δ ι σ} {result drawn},
      (toned.modifyMachine .tick).refresh = (result, drawn) → I toned → I drawn := by
    intro toned result drawn hr hi
    have := hI.refresh _ (hI.tick toned hi)
    rwa [hr] at this
  cases he with
  | pollFailed hp | quit hp => rwa [hp] at hi
  | stepFailed hb hs => exact hsteps hb hs
  | beepFailed hb hs ht => exact htone ht (hsteps hb hs)
  | drawFailed hb hs ht hr => exact hdraw hr (htone ht (hsteps hb hs))
  | stopFailed hb hs ht hr hst | played hb hs ht hr hst =>
    have := hI.stopTone ht hr (hdraw hr (htone ht (hsteps hb hs)))
    rwa [hst] at this

theorem KeptOncePolled.runFrame (hI : KeptOncePolled I) (h : Host γ δ ι σ) (hi : I h.poll.2) : I h.runFrame.2 :=
  h.runFrame_end.kept hI hi

theorem Kept.runFrame (hI : Kept I) (h : Host γ δ ι σ) (hi : I h) : I h.runFrame.2 :=
  hI.toKeptOncePolled.runFrame h (hI.poll h hi)

omit [InputDevice ι] in
/-- Once it is polled, a host leaves the input device and the settings alone, and its display is only drawn on. -/
theorem kept_devices {D : δ → ι → Settings → Prop}
    (hdraw : ∀ d frame s settings, D d s settings → D (Display.draw d frame).2 s settings) :
    KeptOncePolled fun now : Host γ δ ι σ => D now.display now.input now.settings where
  keys _ _ hd := hd
  step _ hd := hd
  startTone h hd := by
    obtain ⟨_, _, he⟩ := h.startTone_eq
    rwa [he]
  tick _ hd := hd
  refresh h hd := by
    have hr := h.refresh_refreshed
    generalize h.refresh = refreshed at hr ⊢
    cases hr with
    | idle => exact hd
    | refused | shown => exact hdraw _ _ _ _ hd
  stopTone {_ _ drawn} _ _ hd := by
    obtain ⟨_, _, he⟩ := drawn.stopTone_eq
    rwa [he]

theorem runFrame_input_settings (h : Host γ δ ι σ) :
    h.runFrame.2.input = (InputDevice.poll h.input).after ∧ h.runFrame.2.settings = h.settings :=
  (kept_devices (D := fun _ s settings => s = _ ∧ settings = _) fun _ _ _ _ hd => hd).runFrame h ⟨rfl, rfl⟩

end Chip8.Host
