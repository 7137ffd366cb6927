import Mathlib.Data.List.Chain
import Chip8.Host.Rehearsal
import Chip8.Proofs.Host.Sessions

/-!
# The tone and the sound timer

A speaker is asked only for what changes something, so what it is asked for is a matter of its state alone
(`WellTimed`). A frame that is played to its end leaves the tone on exactly if the sound timer still runs.
-/

namespace Chip8

/-! ## Ticks of the sound timer -/

theorem Machine.soundActive_of_tick {m : Machine} (h : m.tick.soundActive = true) : m.soundActive = true := by
  simp only [soundActive, tick, countDown, decide_eq_true_eq] at h ⊢
  split at h
  · exact absurd h (by decide)
  · rename_i hs
    exact UInt8.pos_iff_ne_zero.2 hs

theorem Machine.soundActive_of_stopped {m : Machine} (h : m.tick.soundStopped = true) :
    m.soundActive = true ∧ m.tick.soundActive = false := by
  simp only [tick, decide_eq_true_eq] at h
  simp [soundActive, tick, countDown, h]

namespace Host

variable {γ δ ι σ : Type}

/-! ## Speakers -/

/-- A speaker that does what it is asked for unless it refuses. -/
class LawfulSpeaker (σ : Type) [Speaker σ] : Prop where
  beep_ok {s : σ} : (Speaker.beep s).1 = .ok () → Speaker.isBeeping (Speaker.beep s).2 = true
  beep_error {s : σ} {reason : String} :
    (Speaker.beep s).1 = .error reason → Speaker.isBeeping (Speaker.beep s).2 = Speaker.isBeeping s
  stop_ok {s : σ} : (Speaker.stop s).1 = .ok () → Speaker.isBeeping (Speaker.stop s).2 = false
  stop_error {s : σ} {reason : String} :
    (Speaker.stop s).1 = .error reason → Speaker.isBeeping (Speaker.stop s).2 = Speaker.isBeeping s

instance : LawfulSpeaker SilentSpeaker where
  beep_ok _ := rfl
  beep_error h := by cases h
  stop_ok _ := rfl
  stop_error h := by cases h

instance : LawfulSpeaker BuiltInSpeaker where
  beep_ok _ := rfl
  beep_error h := by cases h
  stop_ok _ := rfl
  stop_error h := by cases h

instance {α : Type} [Speaker α] [LawfulSpeaker α] : LawfulSpeaker (Unreliable α) where
  beep_ok {u} h := by
    cases hf : u.failure? .beep with
    | none =>
      simp only [Speaker.beep, hf] at h ⊢
      exact LawfulSpeaker.beep_ok h
    | some message => simp only [Speaker.beep, hf, reduceCtorEq] at h
  beep_error {u _} h := by
    cases hf : u.failure? .beep with
    | none =>
      simp only [Speaker.beep, hf] at h ⊢
      exact LawfulSpeaker.beep_error h
    | some message =>
      simp only [Speaker.beep, hf]
      rfl
  stop_ok {u} h := by
    cases hf : u.failure? .stop with
    | none =>
      simp only [Speaker.stop, hf] at h ⊢
      exact LawfulSpeaker.stop_ok h
    | some message => simp only [Speaker.stop, hf, reduceCtorEq] at h
  stop_error {u _} h := by
    cases hf : u.failure? .stop with
    | none =>
      simp only [Speaker.stop, hf] at h ⊢
      exact LawfulSpeaker.stop_error h
    | some message =>
      simp only [Speaker.stop, hf]
      rfl

/-! ## Calls in time -/

/-- Whether the tone is on after an entry that has changed it. -/
def Entry.change? : Entry → Option Bool
  | .called .beep true => some true
  | .called .stop true => some false
  | _ => none

/-- An entry that does not tell of a speaker. -/
def Entry.Silent (entry : Entry) : Prop :=
  ∀ succeeded, entry ≠ .called .beep succeeded ∧ entry ≠ .called .stop succeeded

variable [Speaker σ]

/-- The calls among the entries take a speaker from one state to another. Each beep comes while the tone is off, and
each stop while it is on. -/
inductive WellTimed : σ → List Entry → σ → Prop
  | nil {s} : WellTimed s [] s
  | beep {s t rest} : Speaker.isBeeping s = false → WellTimed (Speaker.beep s).2 rest t →
      WellTimed s (.called .beep (Speaker.beep s).1.isOk :: rest) t
  | stop {s t rest} : Speaker.isBeeping s = true → WellTimed (Speaker.stop s).2 rest t →
      WellTimed s (.called .stop (Speaker.stop s).1.isOk :: rest) t
  | other {s t entry rest} : entry.Silent → WellTimed s rest t → WellTimed s (entry :: rest) t

theorem WellTimed.append {s t u : σ} {first second : List Entry} (h : WellTimed s first t)
    (h' : WellTimed t second u) : WellTimed s (first ++ second) u := by
  induction h with
  | nil => exact h'
  | beep hb _ ih => exact .beep hb (ih h')
  | stop hb _ ih => exact .stop hb (ih h')
  | other he _ ih => exact .other he (ih h')

theorem wellTimed_of_silent {s : σ} {entries : List Entry} (h : ∀ entry ∈ entries, entry.Silent) :
    WellTimed s entries s := by
  induction entries with
  | nil => exact .nil
  | cons entry rest ih =>
    obtain ⟨he, hr⟩ := List.forall_mem_cons.1 h
    exact .other he (ih hr)

theorem Entry.Silent.change {entry : Entry} (h : entry.Silent) : entry.change? = none := by
  cases entry with
  | reported => rfl
  | called call succeeded =>
    cases call with
    | poll | draw => rfl
    | beep => exact absurd rfl (h succeeded).1
    | stop => exact absurd rfl (h succeeded).2

/-- Changes of the tone alternate, and the first is a change of what was there before. -/
theorem WellTimed.changes [LawfulSpeaker σ] {s t : σ} {entries : List Entry} (h : WellTimed s entries t) :
    (Speaker.isBeeping s :: entries.filterMap Entry.change?).IsChain (· ≠ ·) := by
  induction h with
  | nil => exact .singleton _
  | @beep s _ rest hb _ ih =>
    rcases hr : (Speaker.beep s).1 with reason | _
    · rw [LawfulSpeaker.beep_error hr] at ih
      exact ih
    · rw [LawfulSpeaker.beep_ok hr] at ih
      rw [hb]
      exact .cons_cons Bool.noConfusion ih
  | @stop s _ rest hb _ ih =>
    rcases hr : (Speaker.stop s).1 with reason | _
    · rw [LawfulSpeaker.stop_error hr] at ih
      exact ih
    · rw [LawfulSpeaker.stop_ok hr] at ih
      rw [hb]
      exact .cons_cons Bool.noConfusion ih
  | other he _ ih =>
    rw [List.filterMap_cons, he.change]
    exact ih

/-! ## What a frame asks of the speaker -/

/-- Since `h`, the speaker was asked for changes only, and the history tells of them all. -/
def Follows (h now : Host γ δ ι σ) : Prop :=
  ∃ news, now.history = h.history ++ news ∧ WellTimed h.speaker news now.speaker

theorem Follows.refl (h : Host γ δ ι σ) : Follows h h :=
  ⟨[], (List.append_nil _).symm, .nil⟩

theorem Follows.trans {a b c : Host γ δ ι σ} (hab : Follows a b) (hbc : Follows b c) : Follows a c := by
  obtain ⟨first, hf, hw⟩ := hab
  obtain ⟨second, hs, hw'⟩ := hbc
  exact ⟨first ++ second, by rw [hs, hf, List.append_assoc], hw.append hw'⟩

theorem follows_noteLog (h : Host γ δ ι σ) (records : List Log.Record) : Follows h (h.noteLog records) := by
  refine ⟨_, h.history_noteLog records, wellTimed_of_silent ?_⟩
  intro entry he
  obtain ⟨record, _, rfl⟩ := List.mem_map.1 he
  exact fun _ => ⟨Entry.noConfusion, Entry.noConfusion⟩

theorem follows_poll [InputDevice ι] (h : Host γ δ ι σ) : Follows h h.poll.2 := by
  have hlog := follows_noteLog { h with input := (InputDevice.poll h.input).after } (InputDevice.poll h.input).log
  refine Follows.trans hlog ⟨_, history_noteCall _ _ _, .other ?_ .nil⟩
  exact fun _ => ⟨by simp, by simp⟩

theorem follows_step [RandomSource γ] (h : Host γ δ ι σ) : Follows h h.step.2 :=
  follows_noteLog h h.interpreter.stepLog

theorem follows_draw [Display δ] (h : Host γ δ ι σ) : Follows h h.draw.2 := by
  refine ⟨_, history_noteCall _ _ _, .other ?_ .nil⟩
  exact fun _ => ⟨by simp, by simp⟩

theorem follows_beep {h : Host γ δ ι σ} (hb : Speaker.isBeeping h.speaker = false) : Follows h h.beep.2 :=
  ⟨_, history_noteCall _ _ _, .beep hb .nil⟩

theorem follows_stop {h : Host γ δ ι σ} (hb : Speaker.isBeeping h.speaker = true) : Follows h h.stop.2 :=
  ⟨_, history_noteCall _ _ _, .stop hb .nil⟩

theorem follows_refresh [Display δ] (h : Host γ δ ι σ) : Follows h h.refresh.2 := by
  have hs := h.refresh_refreshed
  generalize h.refresh = result at hs ⊢
  cases hs with
  | idle => exact .refl h
  | refused | shown => exact h.follows_draw

theorem follows_startTone (h : Host γ δ ι σ) : Follows h h.startTone.2 := by
  simp only [startTone]
  split
  · rename_i hs
    simp only [Bool.and_eq_true, Bool.not_eq_true'] at hs
    exact follows_beep hs.2
  · exact .refl h

theorem follows_stopTone {h : Host γ δ ι σ}
    (hedge : h.machine.soundStopped = true → Speaker.isBeeping h.speaker = true) : Follows h h.stopTone.2 := by
  simp only [stopTone]
  split
  · rename_i hs
    simp only [Bool.or_eq_true, Bool.and_eq_true] at hs
    rcases hs with hs | hs
    · exact follows_stop (hedge hs)
    · exact follows_stop hs.2
  · exact .refl h

theorem follows_silence (h : Host γ δ ι σ) : Follows h h.silence := by
  simp only [silence]
  split
  · rename_i hb
    have hs := follows_stop hb
    split
    · exact hs
    · exact hs.trans (follows_noteLog _ _)
  · exact .refl h

/-! ## The tone before the last part of a frame -/

omit [Speaker σ] in
theorem refresh_frame [Display δ] (h : Host γ δ ι σ) :
    h.refresh.2.speaker = h.speaker ∧ h.refresh.2.machine.soundActive = h.machine.soundActive ∧
      h.refresh.2.machine.soundStopped = h.machine.soundStopped := by
  have hs := h.refresh_refreshed
  generalize h.refresh = result at hs ⊢
  cases hs with
  | idle | refused | shown => exact ⟨rfl, rfl, rfl⟩

/-- The tone sounds if the timer runs, and it sounds where the timer has just run out. -/
structure Tuned (h : Host γ δ ι σ) : Prop where
  active : h.machine.soundActive = true → Speaker.isBeeping h.speaker = true
  stopped : h.machine.soundStopped = true →
    Speaker.isBeeping h.speaker = true ∧ h.machine.soundActive = false

variable [LawfulSpeaker σ]

theorem isBeeping_of_beep {h after : Host γ δ ι σ} (hb : h.beep = (.ok (), after)) :
    Speaker.isBeeping after.speaker = true := by
  have hok := LawfulSpeaker.beep_ok (mapError_eq_ok.1 (congrArg Prod.fst hb))
  have hafter : h.beep.2 = after := congrArg Prod.snd hb
  rw [← hafter]
  exact hok

theorem isBeeping_of_stop {h after : Host γ δ ι σ} (hs : h.stop = (.ok (), after)) :
    Speaker.isBeeping after.speaker = false := by
  have hok := LawfulSpeaker.stop_ok (mapError_eq_ok.1 (congrArg Prod.fst hs))
  have hafter : h.stop.2 = after := congrArg Prod.snd hs
  rw [← hafter]
  exact hok

theorem isBeeping_of_startTone {h toned : Host γ δ ι σ} (ht : h.startTone = (.ok (), toned))
    (ha : toned.machine.soundActive = true) : Speaker.isBeeping toned.speaker = true := by
  have hm := h.startTone_machine
  rw [ht] at hm
  rw [hm] at ha
  cases hb : Speaker.isBeeping h.speaker with
  | true =>
    simp only [startTone, ha, hb] at ht
    cases ht
    exact hb
  | false =>
    simp only [startTone, ha, hb, Bool.not_false, Bool.and_self, if_true] at ht
    exact isBeeping_of_beep ht

theorem tuned_of_refresh [Display δ] {stepped toned drawn : Host γ δ ι σ}
    (ht : stepped.startTone = (.ok (), toned)) (hr : (toned.modifyMachine .tick).refresh = (.ok (), drawn)) :
    drawn.Tuned := by
  have htone := isBeeping_of_startTone ht
  obtain ⟨hspeaker, hactive, hstopped⟩ := refresh_frame (toned.modifyMachine .tick)
  rw [hr] at hspeaker hactive hstopped
  constructor
  · intro ha
    rw [hspeaker]
    exact htone (Machine.soundActive_of_tick (hactive.symm.trans ha))
  · intro hs
    have hm := Machine.soundActive_of_stopped (hstopped.symm.trans hs)
    rw [hspeaker, hactive]
    exact ⟨htone hm.1, hm.2⟩

theorem Tuned.stopTone {h after : Host γ δ ι σ} (ht : h.Tuned) (hs : h.stopTone = (.ok (), after)) :
    Speaker.isBeeping after.speaker = after.machine.soundActive := by
  have hm := h.stopTone_machine
  rw [hs] at hm
  rw [hm]
  simp only [Host.stopTone] at hs
  split at hs
  · rename_i hstop
    simp only [Bool.or_eq_true, Bool.and_eq_true, Bool.not_eq_true'] at hstop
    rw [isBeeping_of_stop hs]
    rcases hstop with hstop | hstop
    · exact (ht.stopped hstop).2.symm
    · exact hstop.1.symm
  · rename_i hstay
    cases hs
    simp only [Bool.or_eq_true, Bool.and_eq_true, Bool.not_eq_true', not_or, not_and] at hstay
    cases ha : h.machine.soundActive with
    | true => exact ht.active ha
    | false => exact Bool.eq_false_iff.2 (hstay.2 ha)

/-! ## Frames and sessions -/

variable [RandomSource γ] [Display δ] [InputDevice ι]

theorem isBeeping_of_played {h after : Host γ δ ι σ} (hf : h.runFrame = (.ok true, after)) :
    Speaker.isBeeping after.speaker = after.machine.soundActive := by
  cases frameEnd_of_runFrame hf with
  | played _ _ ht hr hst => exact (tuned_of_refresh ht hr).stopTone hst

theorem follows_kept (h : Host γ δ ι σ) : Kept (Follows h) where
  poll now hf := hf.trans now.follows_poll
  keys _ _ hf := hf
  step now hf := hf.trans now.follows_step
  startTone now hf := hf.trans now.follows_startTone
  tick _ hf := hf
  refresh now hf := hf.trans now.follows_refresh
  stopTone ht hr hf := hf.trans (follows_stopTone fun hs => ((tuned_of_refresh ht hr).stopped hs).1)

theorem Session.follows {h now : Host γ δ ι σ} (hs : Session h now) : Follows h now :=
  hs.invariant h.follows_kept.runFrame (fun now hf => hf.trans now.follows_silence)
    (fun now records hf => hf.trans (now.follows_noteLog records)) (.refl h)

omit [RandomSource γ] [Display δ] [InputDevice ι] in
theorem isBeeping_silence (h : Host γ δ ι σ) :
    Speaker.isBeeping h.silence.speaker = false ∨
      Speaker.isBeeping h.speaker = true ∧ ∃ reason, (Speaker.stop h.speaker).1 = .error reason := by
  cases hb : Speaker.isBeeping h.speaker with
  | false =>
    simp only [silence, hb, Bool.false_eq_true, if_false]
    exact .inl trivial
  | true =>
    simp only [silence, hb, if_true]
    rcases hs : (Speaker.stop h.speaker).1 with reason | _
    · exact .inr ⟨trivial, reason, rfl⟩
    · exact .inl (LawfulSpeaker.stop_ok hs)

/-- What a loop answers is settled before it stops a tone that still sounds; the tone sounds on after it only if it
could not be stopped then. -/
theorem isBeeping_of_loop {fuel : Nat} {h after : Host γ δ ι σ} {result : Except Fault Summary}
    (hl : h.loop fuel = some (result, after)) :
    ∃ ending frames last, h.ComesTo ending frames last ∧
      result = ending.outcome frames (frames * last.settings.cyclesPerFrame) ∧
      (Speaker.isBeeping after.speaker = false ∨
        Speaker.isBeeping last.speaker = true ∧ ∃ reason, (Speaker.stop last.speaker).1 = .error reason) := by
  obtain ⟨ending, frames, last, hc, hr⟩ := comesTo_of_loop hl
  obtain ⟨records, ha⟩ := last.conclude_after ending { frames, cycles := frames * h.settings.cyclesPerFrame }
  refine ⟨ending, frames, last, hc, ?_, ?_⟩
  · have hresult := congrArg Prod.fst hr
    rw [last.conclude_result ending rfl, ← hc.settings] at hresult
    exact hresult
  · rw [← hr] at ha
    have hspeaker : after.speaker = (last.silence.noteLog records).speaker := congrArg Host.speaker ha
    rw [hspeaker]
    exact last.isBeeping_silence

/-- Whatever state the speaker is in at first, in any sequence of frames and loops and whatever fails in them: after
every frame that was played to its end the tone sounds exactly while the sound timer runs; the speaker is asked to
start only while it is off and to stop only while it is on, so that what it does alternates; and a loop leaves it off
unless the stop at the loop's end fails, which has no part in what the loop answers. -/
theorem tone_follows_timer {h now : Host γ δ ι σ} (hs : Session h now) :
    (∀ after, now.runFrame = (.ok true, after) →
      (Speaker.isBeeping after.speaker = true ↔ 0 < after.machine.sound)) ∧
    (∃ news, now.history = h.history ++ news ∧ WellTimed h.speaker news now.speaker ∧
      (Speaker.isBeeping h.speaker :: news.filterMap Entry.change?).IsChain (· ≠ ·)) ∧
    ∀ fuel result after, now.loop fuel = some (result, after) →
      ∃ ending frames last, now.ComesTo ending frames last ∧
        result = ending.outcome frames (frames * last.settings.cyclesPerFrame) ∧
        (Speaker.isBeeping after.speaker = false ∨
          Speaker.isBeeping last.speaker = true ∧ ∃ reason, (Speaker.stop last.speaker).1 = .error reason) := by
  refine ⟨?_, ?_, ?_⟩
  · intro after hf
    rw [isBeeping_of_played hf]
    exact decide_eq_true_iff
  · obtain ⟨news, hn, hw⟩ := hs.follows
    exact ⟨news, hn, hw, hw.changes⟩
  · intro fuel result after hl
    exact isBeeping_of_loop hl

/-- A host whose speaker refuses to be stopped once. -/
private def stuckOnce (interpreter : Interpreter Random.Scripted) :
    Host Random.Scripted RememberingDisplay ScriptedInput (Unreliable SilentSpeaker) where
  interpreter
  display := {}
  input := { script := [] }
  speaker := { device := {}, plan := [⟨.stop, 0, "stuck"⟩] }
  settings := { cyclesPerFrame := 3, maxFrames := some 1 }

theorem tone_follows_timer_stuck :
    ∃ i : Interpreter Random.Scripted,
      Interpreter.start [0x60, 0x03, 0xf0, 0x18, 0x12, 0x04] { words := [] } {} = .ok i ∧
      let now := (stuckOnce i).runFrame.2
      (∃ after, now.runFrame = (.ok true, after) ∧ after.machine.sound = 1 ∧
        (Speaker.isBeeping after.speaker = true ↔ 0 < after.machine.sound)) ∧
      (∃ news, now.history = [] ++ news ∧ WellTimed (stuckOnce i).speaker news now.speaker ∧
        (false :: news.filterMap Entry.change?).IsChain (· ≠ ·)) ∧
      ∃ result after, now.loop 1 = some (result, after) ∧ Speaker.isBeeping after.speaker = true ∧
        ∃ ending frames last, now.ComesTo ending frames last ∧
          result = ending.outcome frames (frames * last.settings.cyclesPerFrame) := by
  refine ⟨_, rfl, ?_⟩
  intro now
  have hs : Session (stuckOnce _) now := .frame .start
  have hf : now.runFrame = (.ok true, now.runFrame.2) := eq_of_toOption (by decide +kernel)
  have hl : (now.loop 1).map (fun ended => Speaker.isBeeping ended.2.speaker) = some true := by decide +kernel
  obtain ⟨⟨result, after⟩, hr, hb⟩ := Option.map_eq_some_iff.1 hl
  obtain ⟨hplayed, hnews, hloop⟩ := tone_follows_timer hs
  obtain ⟨ending, frames, last, hc, ho, _⟩ := hloop 1 result after hr
  exact ⟨⟨_, hf, by decide +kernel, hplayed _ hf⟩, hnews, result, after, hr, hb, ending, frames, last, hc, ho⟩

end Host

end Chip8
