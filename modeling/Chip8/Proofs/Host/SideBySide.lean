import Chip8.Proofs.Host.Sessions

/-!
# Hosts side by side

Two hosts differ only in their devices: whatever is drawn on the one display is drawn on the other, and the two input
devices answer alike (`Beside`). Then they go through frames and loops side by side, with the same answers, and note the
same (`Beside.runFrame`, `Beside.loop`), and so in a whole session (`Beside.session`).
-/

namespace Chip8.Host

variable {γ δ δ' ι ι' σ α β : Type}

/-- Two hosts with the same interpreter, speaker and settings. Of the first display `shown` shows the second, the input
devices are related, and the first host noted `earlier` before it noted what the second did. -/
structure Beside (shown : δ → δ') (alike : ι → ι' → Prop) (earlier : List Entry) (h : Host γ δ ι σ)
    (g : Host γ δ' ι' σ) : Prop where
  interpreter : h.interpreter = g.interpreter
  display : shown h.display = g.display
  input : alike h.input g.input
  speaker : h.speaker = g.speaker
  settings : h.settings = g.settings
  history : h.history = earlier ++ g.history

/-- Two operations gave the same answer, and the hosts that they left are related. -/
structure Agree (related : Host γ δ ι σ → Host γ δ' ι' σ → Prop) (first : Except Fault α × Host γ δ ι σ)
    (second : Except Fault α × Host γ δ' ι' σ) : Prop where
  answer : first.1 = second.1
  hosts : related first.2 second.2

variable {shown : δ → δ'} {alike afterwards : ι → ι' → Prop} {earlier : List Entry} {h : Host γ δ ι σ}
  {g : Host γ δ' ι' σ} {related : Host γ δ ι σ → Host γ δ' ι' σ → Prop}

/-- The second display is drawn on whenever the first is, and answers the same. -/
def DrawsAlike [Display δ] [Display δ'] (shown : δ → δ') : Prop :=
  ∀ d frame, Display.draw (shown d) frame = ((Display.draw d frame).1, shown (Display.draw d frame).2)

/-- Related input devices answer a poll alike, and are related in another way after it. -/
def PollsAlike [InputDevice ι] [InputDevice ι'] (alike afterwards : ι → ι' → Prop) : Prop :=
  ∀ s s', alike s s' →
    (InputDevice.poll s).result = (InputDevice.poll s').result ∧ (InputDevice.poll s).log = (InputDevice.poll s').log ∧
      afterwards (InputDevice.poll s).after (InputDevice.poll s').after

/-! ## Operations in order -/

theorem Agree.mono {other : Host γ δ ι σ → Host γ δ' ι' σ → Prop} {first : Except Fault α × Host γ δ ι σ}
    {second : Except Fault α × Host γ δ' ι' σ} (ha : Agree related first second)
    (himp : ∀ h g, related h g → other h g) : Agree other first second :=
  ⟨ha.answer, himp _ _ ha.hosts⟩

/-- Operations that agree fail both, or go on both. -/
theorem Agree.both {first : Except Fault α × Host γ δ ι σ} {second : Except Fault α × Host γ δ' ι' σ}
    (ha : Agree related first second) :
    (∃ fault left right, first = (.error fault, left) ∧ second = (.error fault, right) ∧ related left right) ∨
      ∃ a left right, first = (.ok a, left) ∧ second = (.ok a, right) ∧ related left right := by
  obtain ⟨result, left⟩ := first
  obtain ⟨_, right⟩ := second
  obtain ⟨rfl, hr⟩ := ha
  cases result with
  | error fault => exact .inl ⟨fault, left, right, rfl, rfl, hr⟩
  | ok a => exact .inr ⟨a, left, right, rfl, rfl, hr⟩

theorem Agree.bind {first : Operation γ δ ι σ α} {second : Operation γ δ' ι' σ α}
    {next : α → Operation γ δ ι σ β} {next' : α → Operation γ δ' ι' σ β}
    (ha : Agree related (first.run h) (second.run g))
    (hnext : ∀ a h g, related h g → Agree related ((next a).run h) ((next' a).run g)) :
    Agree related ((first >>= next).run h) ((second >>= next').run g) := by
  rw [run_bind, run_bind]
  obtain ⟨fault, left, right, hf, hs, hr⟩ | ⟨a, left, right, hf, hs, hr⟩ := ha.both
  · rw [hf, hs]
    exact ⟨rfl, hr⟩
  · rw [hf, hs]
    exact hnext a left right hr

namespace Beside

/-! ## What is noted, and changes of the machine -/

theorem mono {other : ι → ι' → Prop} (hb : Beside shown alike earlier h g) (himp : ∀ s s', alike s s' → other s s') :
    Beside shown other earlier h g :=
  { hb with input := himp _ _ hb.input }

theorem machine_eq (hb : Beside shown alike earlier h g) : h.machine = g.machine :=
  congrArg Interpreter.machine hb.interpreter

theorem noteCall (hb : Beside shown alike earlier h g) (call : Call) (succeeded : Bool) :
    Beside shown alike earlier (h.noteCall call succeeded) (g.noteCall call succeeded) where
  interpreter := hb.interpreter
  display := hb.display
  input := hb.input
  speaker := hb.speaker
  settings := hb.settings
  history := by rw [history_noteCall, history_noteCall, hb.history, List.append_assoc]

theorem noteLog (hb : Beside shown alike earlier h g) (records : List Log.Record) :
    Beside shown alike earlier (h.noteLog records) (g.noteLog records) where
  interpreter := hb.interpreter
  display := hb.display
  input := hb.input
  speaker := hb.speaker
  settings := hb.settings
  history := by rw [history_noteLog, history_noteLog, hb.history, List.append_assoc]

theorem modifyMachine (hb : Beside shown alike earlier h g) (f : Machine → Machine) :
    Beside shown alike earlier (h.modifyMachine f) (g.modifyMachine f) :=
  { hb with interpreter := congrArg (·.modifyMachine f) hb.interpreter }

/-! ## The parts of a frame -/

theorem poll [InputDevice ι] [InputDevice ι'] (hpoll : PollsAlike alike afterwards)
    (hb : Beside shown alike earlier h g) : Agree (Beside shown afterwards earlier) h.poll g.poll := by
  obtain ⟨hresult, hlog, hafter⟩ := hpoll _ _ hb.input
  have hpolled : Beside shown afterwards earlier { h with input := (InputDevice.poll h.input).after }
      { g with input := (InputDevice.poll g.input).after } := { hb with input := hafter }
  simp only [Host.poll, hresult, hlog]
  exact ⟨rfl, (hpolled.noteLog _).noteCall _ _⟩

section Speaker

variable [Speaker σ]

theorem beep (hb : Beside shown alike earlier h g) : Agree (Beside shown alike earlier) h.beep g.beep := by
  simp only [Host.beep, hb.speaker]
  have hspeaker : Beside shown alike earlier { h with speaker := (Speaker.beep g.speaker).2 }
      { g with speaker := (Speaker.beep g.speaker).2 } := { hb with speaker := rfl }
  exact ⟨rfl, hspeaker.noteCall _ _⟩

theorem stop (hb : Beside shown alike earlier h g) : Agree (Beside shown alike earlier) h.stop g.stop := by
  simp only [Host.stop, hb.speaker]
  have hspeaker : Beside shown alike earlier { h with speaker := (Speaker.stop g.speaker).2 }
      { g with speaker := (Speaker.stop g.speaker).2 } := { hb with speaker := rfl }
  exact ⟨rfl, hspeaker.noteCall _ _⟩

theorem startTone (hb : Beside shown alike earlier h g) :
    Agree (Beside shown alike earlier) h.startTone g.startTone := by
  simp only [Host.startTone, hb.machine_eq, hb.speaker]
  split
  · exact hb.beep
  · exact ⟨rfl, hb⟩

theorem stopTone (hb : Beside shown alike earlier h g) : Agree (Beside shown alike earlier) h.stopTone g.stopTone := by
  simp only [Host.stopTone, hb.machine_eq, hb.speaker]
  split
  · exact hb.stop
  · exact ⟨rfl, hb⟩

theorem silence (hb : Beside shown alike earlier h g) : Beside shown alike earlier h.silence g.silence := by
  -- silencing is stopping without a failure, and a failed stop is noted
  have hstopped := hb.stop.hosts
  simp only [Host.stop, hb.speaker] at hstopped
  simp only [Host.silence, hb.speaker]
  split
  · split
    · exact hstopped
    · exact hstopped.noteLog _
  · exact hb

theorem conclude (hb : Beside shown alike earlier h g) (ending : Ending) (counted : Summary) :
    Agree (Beside shown alike earlier) (h.conclude ending counted) (g.conclude ending counted) := by
  have hsilent := hb.silence
  cases ending with
  | limitReached | quit => exact ⟨rfl, hsilent.noteLog _⟩
  | failed fault =>
    simp only [Host.conclude, hsilent.machine_eq]
    exact ⟨rfl, hsilent.noteLog _⟩

end Speaker

theorem refresh [Display δ] [Display δ'] (hdraw : DrawsAlike shown) (hb : Beside shown alike earlier h g) :
    Agree (Beside shown alike earlier) h.refresh g.refresh := by
  have hcalled : Agree (Beside shown alike earlier) h.draw g.draw := by
    have hd := hdraw h.display g.machine.screen.val
    rw [hb.display] at hd
    simp only [Host.draw, hb.machine_eq, hd]
    have hdisplay : Beside shown alike earlier { h with display := (Display.draw h.display g.machine.screen.val).2 }
        { g with display := shown (Display.draw h.display g.machine.screen.val).2 } := { hb with display := rfl }
    exact ⟨rfl, hdisplay.noteCall _ _⟩
  simp only [Host.refresh, hb.machine_eq]
  split
  · obtain ⟨fault, left, right, hf, hs, hr⟩ | ⟨_, left, right, hf, hs, hr⟩ := hcalled.both
    · rw [hf, hs]
      exact ⟨rfl, hr⟩
    · rw [hf, hs]
      exact ⟨rfl, hr.modifyMachine _⟩
  · exact ⟨rfl, hb⟩

section Frames

variable [RandomSource γ]

theorem step (hb : Beside shown alike earlier h g) : Agree (Beside shown alike earlier) h.step g.step := by
  simp only [Host.step, hb.interpreter]
  exact ⟨rfl, { hb.noteLog _ with interpreter := rfl }⟩

theorem steps (hb : Beside shown alike earlier h g) (n : Nat) :
    Agree (Beside shown alike earlier) (Host.steps n h) (Host.steps n g) := by
  induction n generalizing h g with
  | zero => exact ⟨rfl, hb⟩
  | succ n ih =>
    obtain ⟨fault, left, right, hf, hs, hr⟩ | ⟨_, left, right, hf, hs, hr⟩ := hb.step.both
    · simp only [Host.steps, hf, hs]
      exact ⟨rfl, hr⟩
    · simp only [Host.steps, hf, hs]
      exact ih hr

/-! ## Frames and loops -/

variable [Display δ] [Display δ'] [InputDevice ι] [InputDevice ι'] [Speaker σ]

omit [InputDevice ι] [InputDevice ι'] in
theorem playFrame (hdraw : DrawsAlike shown) (hb : Beside shown alike earlier h g) (keys : Keys) :
    Agree (Beside shown alike earlier) ((Host.playFrame keys).run h) ((Host.playFrame keys).run g) := by
  refine Agree.bind ⟨rfl, hb.modifyMachine _⟩ fun _ h g hb => ?_
  refine Agree.bind (by simp only [run_mk, hb.settings]; exact hb.steps _) fun _ h g hb => ?_
  refine Agree.bind hb.startTone fun _ h g hb => ?_
  refine Agree.bind ⟨rfl, hb.modifyMachine _⟩ fun _ h g hb => ?_
  exact Agree.bind (hb.refresh hdraw) fun _ h g hb => hb.stopTone

theorem runFrame (hdraw : DrawsAlike shown) (hpoll : PollsAlike alike afterwards) (hb : Beside shown alike earlier h g) :
    Agree (Beside shown afterwards earlier) h.runFrame g.runFrame := by
  refine Agree.bind (hb.poll hpoll) fun report h g hb => ?_
  split
  · exact ⟨rfl, hb⟩
  · exact Agree.bind (hb.playFrame hdraw report.keys) fun _ h g hb => ⟨rfl, hb⟩

theorem turn (hdraw : DrawsAlike shown) (hpoll : PollsAlike alike afterwards) (hb : Beside shown alike earlier h g)
    (frames : Nat) :
    (∃ left right, h.turn frames = .played left ∧ g.turn frames = .played right ∧
      Beside shown afterwards earlier left right) ∨
    ∃ ending left right, h.turn frames = .ended ending left ∧ g.turn frames = .ended ending right ∧
      Beside shown (fun s s' => alike s s' ∨ afterwards s s') earlier left right := by
  have hlimit : h.limitReached frames = g.limitReached frames := by simp only [limitReached, hb.settings]
  simp only [Host.turn, hlimit]
  cases g.limitReached frames with
  -- at the limit nothing is polled, so the input devices are related as before
  | true => exact .inr ⟨_, h, g, rfl, rfl, hb.mono fun _ _ => .inl⟩
  | false =>
    obtain ⟨fault, left, right, hf, hs, hr⟩ | ⟨goesOn, left, right, hf, hs, hr⟩ := (hb.runFrame hdraw hpoll).both
    · simp only [hf, hs]
      exact .inr ⟨_, left, right, rfl, rfl, hr.mono fun _ _ => .inr⟩
    · simp only [hf, hs]
      cases goesOn with
      | true => exact .inl ⟨left, right, rfl, rfl, hr⟩
      | false => exact .inr ⟨_, left, right, rfl, rfl, hr.mono fun _ _ => .inr⟩

end Frames

end Beside

/-- Two loops under way counted the same, and their hosts are side by side. -/
structure Underway (shown : δ → δ') (alike : ι → ι' → Prop) (earlier : List Entry) (now : Running γ δ ι σ)
    (now' : Running γ δ' ι' σ) : Prop where
  counted : now.counted = now'.counted
  hosts : Beside shown alike earlier now.host now'.host

variable [RandomSource γ] [Display δ] [Display δ'] [InputDevice ι] [InputDevice ι'] [Speaker σ]
  {now : Running γ δ ι σ} {now' : Running γ δ' ι' σ}

namespace Underway

/-- Loops under way side by side come to their ends with the same answer, -/
theorem next_of_inl (hdraw : DrawsAlike shown) (hpoll : PollsAlike alike afterwards)
    (hu : Underway shown alike earlier now now') {left : Concluded γ δ ι σ} (hn : now.next = .inl left) :
    ∃ right, now'.next = .inl right ∧
      Agree (Beside shown (fun s s' => alike s s' ∨ afterwards s s') earlier) left right := by
  obtain ⟨ending, last, ht, rfl⟩ := Running.next_eq_inl hn
  obtain ⟨_, _, hl, -, -⟩ | ⟨ending, last, right, hl, hr, hb⟩ := hu.hosts.turn hdraw hpoll now.counted.frames
  · cases ht.symm.trans hl
  · cases ht.symm.trans hl
    rw [hu.counted] at hr ⊢
    exact ⟨_, Running.next_of_ended hr, hb.conclude ending _⟩

/-- or go on side by side. -/
theorem next_of_inr (hdraw : DrawsAlike shown) (hpoll : PollsAlike alike afterwards)
    (hu : Underway shown alike earlier now now') {left : Running γ δ ι σ} (hn : now.next = .inr left) :
    ∃ right, now'.next = .inr right ∧ Underway shown afterwards earlier left right := by
  obtain ⟨after, ht, rfl⟩ := Running.next_eq_inr hn
  obtain ⟨after, right, hl, hr, hb⟩ | ⟨_, _, _, hl, -, -⟩ := hu.hosts.turn hdraw hpoll now.counted.frames
  · cases ht.symm.trans hl
    rw [hu.counted] at hr
    exact ⟨_, Running.next_of_played hr, by rw [hu.counted, hb.settings], hb⟩
  · cases ht.symm.trans hl

theorem finish (hdraw : DrawsAlike shown) (hpoll : PollsAlike alike alike)
    (hu : Underway shown alike earlier now now') (fuel : Nat) :
    Option.Rel (Agree (Beside shown alike earlier)) (now.finish fuel) (now'.finish fuel) := by
  fun_induction now.finish fuel generalizing now' with
  | case1 fuel now left hn =>
    obtain ⟨right, hr, ha⟩ := hu.next_of_inl hdraw hpoll hn
    rw [Running.finish_of_inl hr]
    exact .some (ha.mono fun _ _ hb => hb.mono fun _ _ => or_self_iff.1)
  | case2 now left hn =>
    obtain ⟨right, hr, -⟩ := hu.next_of_inr hdraw hpoll hn
    rw [Running.finish_zero hr]
    exact .none
  | case3 now left fuel hn ih =>
    obtain ⟨right, hr, hlater⟩ := hu.next_of_inr hdraw hpoll hn
    rw [Running.finish_succ hr]
    exact ih hlater

end Underway

theorem Beside.loop (hdraw : DrawsAlike shown) (hpoll : PollsAlike alike alike) (hb : Beside shown alike earlier h g)
    (fuel : Nat) : Option.Rel (Agree (Beside shown alike earlier)) (h.loop fuel) (g.loop fuel) :=
  Underway.finish hdraw hpoll ⟨rfl, hb⟩ fuel

/-- What the second of two hosts side by side comes to in a session, the first comes to as well. -/
theorem Beside.session (hdraw : DrawsAlike shown) (hpoll : PollsAlike alike alike)
    (hb : Beside shown alike earlier h g) {later : Host γ δ' ι' σ} (hs : Session g later) :
    ∃ left, Session h left ∧ Beside shown alike earlier left later := by
  induction hs with
  | start => exact ⟨h, .start, hb⟩
  | frame _ ih =>
    obtain ⟨left, hsession, hb⟩ := ih
    exact ⟨_, .frame hsession, (hb.runFrame hdraw hpoll).hosts⟩
  | @loop now fuel result after _ hl ih =>
    obtain ⟨left, hsession, hb⟩ := ih
    have hrel := hb.loop hdraw hpoll fuel
    rw [hl] at hrel
    generalize hlf : left.loop fuel = concluded at hrel
    cases hrel with
    | @some ended _ ha => exact ⟨ended.2, .loop hsession hlf, ha.hosts⟩

end Chip8.Host
