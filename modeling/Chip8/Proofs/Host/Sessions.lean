import Chip8.Host.Loop
import Chip8.Proofs.Host.Frames

/-!
# Loops and sessions

A loop plays whole frames until it comes to its end (`Plays`), and then stops a tone that still sounds. A session is
any sequence of frames and loops. What every part of a frame keeps, every session keeps.
-/

namespace Chip8.Host

variable {γ δ ι σ : Type} [RandomSource γ] [Display δ] [InputDevice ι] [Speaker σ]

/-! ## Loops -/

omit [RandomSource γ] [Display δ] [InputDevice ι] in
/-- Silencing the speaker changes nothing else but what is noted. -/
theorem silence_eq (h : Host γ δ ι σ) : ∃ speaker journal, h.silence = { h with speaker, journal } := by
  simp only [silence]
  split
  · split
    · exact ⟨_, _, rfl⟩
    · exact ⟨_, _, rfl⟩
  · exact ⟨_, _, rfl⟩

/-- From `k` frames on, a loop plays whole frames up to `n`. -/
inductive Plays (k : Nat) (h : Host γ δ ι σ) : Nat → Host γ δ ι σ → Prop
  | start : Plays k h k h
  | frame {n m after} : Plays k h n m → m.turn n = .played after → Plays k h (n + 1) after

/-- A loop comes to its end after `frames` whole frames; what stops the tone is still to come. -/
def ComesTo (h : Host γ δ ι σ) (ending : Ending) (frames : Nat) (last : Host γ δ ι σ) : Prop :=
  ∃ m, Plays 0 h frames m ∧ m.turn frames = .ended ending last

/-- What a loop answers. -/
def Ending.outcome (ending : Ending) (frames cycles : Nat) : Except Fault Summary :=
  match ending with
  | .limitReached => .ok ⟨frames, cycles, false⟩
  | .quit => .ok ⟨frames, cycles, true⟩
  | .failed fault => .error fault

omit [RandomSource γ] [Display δ] [InputDevice ι] in
theorem conclude_result (h : Host γ δ ι σ) (ending : Ending) {counted : Summary} (hq : counted.quit = false) :
    (h.conclude ending counted).1 = ending.outcome counted.frames counted.cycles := by
  obtain ⟨frames, cycles, quit⟩ := counted
  cases hq
  cases ending <;> rfl

omit [RandomSource γ] [Display δ] [InputDevice ι] in
theorem conclude_after (h : Host γ δ ι σ) (ending : Ending) (counted : Summary) :
    ∃ records, (h.conclude ending counted).2 = h.silence.noteLog records := by
  cases ending <;> exact ⟨_, rfl⟩

theorem Plays.cons {k n : Nat} {h next last : Host γ δ ι σ} (ht : h.turn k = .played next)
    (hp : Plays (k + 1) next n last) : Plays k h n last := by
  induction hp with
  | start => exact .frame .start ht
  | frame _ hm ih => exact .frame ih hm

theorem turn_played {n : Nat} {h after : Host γ δ ι σ} (ht : h.turn n = .played after) :
    h.runFrame = (.ok true, after) := by
  simp only [turn] at ht
  split at ht
  · cases ht
  · split at ht
    · rename_i hf
      cases ht
      exact hf
    · cases ht
    · cases ht

theorem turn_ended {n : Nat} {h last : Host γ δ ι σ} {ending : Ending} (ht : h.turn n = .ended ending last) :
    last = h ∨ last = h.runFrame.2 := by
  simp only [turn] at ht
  split at ht
  · cases ht
    exact .inl rfl
  · split at ht
    · cases ht
    · rename_i hf
      cases ht
      rw [hf]
      exact .inr rfl
    · rename_i hf
      cases ht
      rw [hf]
      exact .inr rfl

/-! ## What a loop counts -/

section Running

variable {now : Running γ δ ι σ} {after last : Host γ δ ι σ} {ending : Ending}

theorem Running.next_of_played (ht : now.host.turn now.counted.frames = .played after) :
    now.next = .inr { counted := now.counted.countFrame after.settings.cyclesPerFrame, host := after } := by
  rw [Running.next, ht]

theorem Running.next_of_ended (ht : now.host.turn now.counted.frames = .ended ending last) :
    now.next = .inl (last.conclude ending now.counted) := by
  rw [Running.next, ht]

theorem Running.next_eq_inl {concluded : Concluded γ δ ι σ} (hn : now.next = .inl concluded) :
    ∃ ending last, now.host.turn now.counted.frames = .ended ending last ∧
      concluded = last.conclude ending now.counted := by
  cases ht : now.host.turn now.counted.frames with
  | played after => cases (Running.next_of_played ht).symm.trans hn
  | ended ending last =>
    cases (Running.next_of_ended ht).symm.trans hn
    exact ⟨ending, last, rfl, rfl⟩

theorem Running.next_eq_inr {later : Running γ δ ι σ} (hn : now.next = .inr later) :
    ∃ after, now.host.turn now.counted.frames = .played after ∧
      later = { counted := now.counted.countFrame after.settings.cyclesPerFrame, host := after } := by
  cases ht : now.host.turn now.counted.frames with
  | played after =>
    cases (Running.next_of_played ht).symm.trans hn
    exact ⟨after, rfl, rfl⟩
  | ended ending last => cases (Running.next_of_ended ht).symm.trans hn

theorem Running.finish_of_inl {concluded : Concluded γ δ ι σ} (hn : now.next = .inl concluded) (fuel : Nat) :
    now.finish fuel = some concluded := by
  rw [Running.finish.eq_def, hn]

theorem Running.finish_zero {later : Running γ δ ι σ} (hn : now.next = .inr later) : now.finish 0 = none := by
  rw [Running.finish.eq_def, hn]

theorem Running.finish_succ {later : Running γ δ ι σ} (hn : now.next = .inr later) (fuel : Nat) :
    now.finish (fuel + 1) = later.finish fuel := by
  rw [Running.finish.eq_def, hn]

/-- A loop under way counts the frames that it still plays, and for each of them the instructions of a frame. -/
theorem plays_of_finish {fuel : Nat} {concluded : Concluded γ δ ι σ} (hf : now.finish fuel = some concluded) :
    ∃ k m ending last, Plays now.counted.frames now.host (now.counted.frames + k) m ∧
      m.turn (now.counted.frames + k) = .ended ending last ∧
      concluded = last.conclude ending
        { now.counted with
          frames := now.counted.frames + k
          cycles := now.counted.cycles + k * now.host.settings.cyclesPerFrame } := by
  fun_induction now.finish fuel with
  | case1 _ now ended hn =>
    obtain ⟨ending, last, ht, rfl⟩ := Running.next_eq_inl hn
    cases hf
    exact ⟨0, now.host, ending, last, .start, ht, by rw [Nat.zero_mul]; rfl⟩
  | case2 => cases hf
  | case3 now later fuel hn ih =>
    obtain ⟨after, ht, rfl⟩ := Running.next_eq_inr hn
    obtain ⟨k, m, ending, last, hp, hm, hc⟩ := ih hf
    have hsettings : after.settings = now.host.settings := by
      have := now.host.runFrame_input_settings.2
      rwa [turn_played ht] at this
    have hframes : now.counted.frames + 1 + k = now.counted.frames + (k + 1) := by omega
    have hcycles : now.counted.cycles + after.settings.cyclesPerFrame + k * after.settings.cyclesPerFrame =
        now.counted.cycles + (k + 1) * now.host.settings.cyclesPerFrame := by
      rw [hsettings, Nat.succ_mul, Nat.add_assoc, Nat.add_comm (k * _)]
    simp only [Summary.countFrame, hframes, hcycles] at hp hm hc
    exact ⟨k + 1, m, ending, last, hp.cons ht, hm, hc⟩

end Running

theorem comesTo_of_loop {fuel : Nat} {h : Host γ δ ι σ} {concluded : Concluded γ δ ι σ}
    (hl : h.loop fuel = some concluded) :
    ∃ ending frames last, h.ComesTo ending frames last ∧
      concluded = last.conclude ending { frames, cycles := frames * h.settings.cyclesPerFrame } := by
  obtain ⟨frames, m, ending, last, hp, ht, hc⟩ := plays_of_finish hl
  simp only [Nat.zero_add] at hp ht hc
  exact ⟨ending, frames, last, ⟨m, hp, ht⟩, hc⟩

/-! ## Sessions -/

/-- `now` is reached from `h` by frames and by loops that ended. Where a loop goes on without end, every host that it
comes through is reached by its frames. -/
inductive Session (h : Host γ δ ι σ) : Host γ δ ι σ → Prop
  | start : Session h h
  | frame {now} : Session h now → Session h now.runFrame.2
  | loop {now fuel result after} : Session h now → now.loop fuel = some (result, after) → Session h after

variable {I : Host γ δ ι σ → Prop}

theorem Plays.invariant (hframe : ∀ h, I h → I h.runFrame.2) {k n : Nat} {h m : Host γ δ ι σ}
    (hp : Plays k h n m) (hi : I h) : I m := by
  induction hp with
  | start => exact hi
  | frame _ ht ih =>
    have := hframe _ ih
    rwa [turn_played ht] at this

theorem ComesTo.invariant (hframe : ∀ h, I h → I h.runFrame.2) {ending : Ending} {frames : Nat}
    {h last : Host γ δ ι σ} (hc : h.ComesTo ending frames last) (hi : I h) : I last := by
  obtain ⟨m, hp, ht⟩ := hc
  have hm := hp.invariant hframe hi
  rcases turn_ended ht with rfl | rfl
  · exact hm
  · exact hframe m hm

theorem ComesTo.settings {ending : Ending} {frames : Nat} {h last : Host γ δ ι σ}
    (hc : h.ComesTo ending frames last) : last.settings = h.settings :=
  hc.invariant (I := fun now => now.settings = h.settings) (fun now hs => now.runFrame_input_settings.2.trans hs) rfl

/-- What frames and the ends of loops keep holds all over a session. -/
theorem Session.invariant (hframe : ∀ h, I h → I h.runFrame.2) (hsilence : ∀ h, I h → I h.silence)
    (hlog : ∀ h records, I h → I (h.noteLog records)) {h now : Host γ δ ι σ} (hs : Session h now) (hi : I h) :
    I now := by
  induction hs with
  | start => exact hi
  | frame _ ih => exact hframe _ ih
  | @loop _ _ _ after _ hl ih =>
    obtain ⟨ending, frames, last, hc, hr⟩ := comesTo_of_loop hl
    obtain ⟨records, ha⟩ := last.conclude_after ending _
    have hafter : after = last.silence.noteLog records := by rw [← ha, ← hr]
    rw [hafter]
    exact hlog _ records (hsilence last (hc.invariant hframe ih))

end Chip8.Host
