import Chip8.Proofs.Host.Lockstep
import Chip8.Proofs.Host.Sessions

/-!
# What a loop counts

A loop plays whole frames as long as it may (`PlaysWhole`), and its length is the number of them (`PlaysExactly`). A
loop has an answer exactly if it has a length, and the answer, the host it leaves and the polls it makes are those of
that many frames, and of one more if one more was allowed (`Accounted`).
-/

namespace Chip8.Host

variable {γ δ ι σ : Type}

/-! ## Polls -/

def polls (h : Host γ δ ι σ) : Nat :=
  (h.calls.map Prod.fst).count .poll

theorem polls_of_calls {h after : Host γ δ ι σ} {calls : List (Call × Bool)} (hc : after.calls = h.calls ++ calls) :
    after.polls = h.polls + (calls.map Prod.fst).count .poll := by
  simp only [polls, hc, List.map_append, List.count_append]

theorem Framed.count_poll [RandomSource γ] {i after : Interpreter γ} {cycles : Nat}
    {polled : Except IoError KeyReport} {refused : Option Call} {answer : Except Fault Bool}
    {calls : List (Call × Bool)} (hf : Framed i cycles polled refused answer after calls) :
    (calls.map Prod.fst).count .poll = 1 := by
  refine Nat.le_antisymm (hf.calls_sublist.count_le .poll) (List.count_pos_iff.2 ?_)
  cases hf <;> exact List.mem_cons_self

/-! ## The end of a loop -/

theorem silence_spec [Speaker σ] (h : Host γ δ ι σ) :
    h.silence.interpreter = h.interpreter ∧ h.silence.display = h.display ∧ h.silence.input = h.input ∧
      ∃ stops, h.silence.calls = h.calls ++ stops ∧ (stops.map Prod.fst).Sublist [.stop] := by
  simp only [silence]
  split
  · have hcalls := calls_noteCall { h with speaker := (Speaker.stop h.speaker).2 } .stop (Speaker.stop h.speaker).1.isOk
    split
    · exact ⟨rfl, rfl, rfl, _, hcalls, List.Sublist.refl _⟩
    · exact ⟨rfl, rfl, rfl, _, (calls_noteLog _ _).trans hcalls, List.Sublist.refl _⟩
  · exact ⟨rfl, rfl, rfl, [], (List.append_nil _).symm, List.nil_sublist _⟩

namespace Ending

variable {ending : Ending} {frames cycles : Nat}

theorem outcome_eq_limited : ending.outcome frames cycles = .ok ⟨frames, cycles, false⟩ ↔ ending = .limitReached := by
  cases ending <;> simp [outcome]

theorem outcome_eq_quit : ending.outcome frames cycles = .ok ⟨frames, cycles, true⟩ ↔ ending = .quit := by
  cases ending <;> simp [outcome]

theorem outcome_eq_error {fault : Fault} : ending.outcome frames cycles = .error fault ↔ ending = .failed fault := by
  cases ending <;> simp [outcome]

end Ending

/-! ## Whole frames -/

section Frames

variable [RandomSource γ] [Display δ] [InputDevice ι] [Speaker σ]

theorem polls_afterFrames (h : Host γ δ ι σ) (n : Nat) : (h.afterFrames n).polls = h.polls + n := by
  induction n with
  | zero => rfl
  | succ n ih =>
    obtain ⟨calls, hcalls, hf⟩ := h.afterFrames_framed n
    rw [polls_of_calls hcalls, hf.count_poll, ih, Nat.add_assoc]

/-- The first `n` frames are whole, and that many are allowed. -/
structure PlaysWhole (h : Host γ δ ι σ) (n : Nat) : Prop where
  whole : ∀ k < n, (h.afterFrames k).runFrame.1 = .ok true
  allowed : ∀ limit, h.settings.maxFrames = some limit → n ≤ limit

/-- The first `frames` frames are whole, and no more are allowed or the next one is not whole. -/
structure PlaysExactly (h : Host γ δ ι σ) (frames : Nat) : Prop extends PlaysWhole h frames where
  last : h.settings.maxFrames = some frames ∨ (h.afterFrames frames).runFrame.1 ≠ .ok true

/-- How many frames a loop tries of which `frames` are whole: one more, unless no more are allowed. -/
def tried (h : Host γ δ ι σ) (frames : Nat) : Nat :=
  if h.settings.maxFrames = some frames then frames else frames + 1

structure Accounted (h : Host γ δ ι σ) (frames : Nat) (answer : Except Fault Summary) (after : Host γ δ ι σ) :
    Prop where
  limited : answer = .ok ⟨frames, frames * h.settings.cyclesPerFrame, false⟩ ↔ h.settings.maxFrames = some frames
  quit : answer = .ok ⟨frames, frames * h.settings.cyclesPerFrame, true⟩ ↔
    h.settings.maxFrames ≠ some frames ∧ (h.afterFrames frames).runFrame.1 = .ok false
  failed : ∀ fault, answer = .error fault ↔
    h.settings.maxFrames ≠ some frames ∧ (h.afterFrames frames).runFrame.1 = .error fault
  interpreter : after.interpreter = (h.afterFrames (h.tried frames)).interpreter
  display : after.display = (h.afterFrames (h.tried frames)).display
  input : after.input = (h.afterFrames (h.tried frames)).input
  calls : ∃ stops, after.calls = (h.afterFrames (h.tried frames)).calls ++ stops ∧
    (stops.map Prod.fst).Sublist [.stop]
  polls : after.polls = h.polls + h.tried frames

variable {h : Host γ δ ι σ} {n frames : Nat}

theorem PlaysWhole.zero (h : Host γ δ ι σ) : PlaysWhole h 0 where
  whole _ hk := absurd hk (Nat.not_lt_zero _)
  allowed _ _ := Nat.zero_le _

theorem PlaysWhole.next (hp : PlaysWhole h n) : PlaysWhole h (n + 1) ∨ PlaysExactly h n := by
  by_cases hlast : h.settings.maxFrames = some n ∨ (h.afterFrames n).runFrame.1 ≠ .ok true
  · exact .inr { hp with last := hlast }
  · rw [not_or, Classical.not_not] at hlast
    refine .inl ⟨fun k hk => ?_, fun limit hl => ?_⟩
    · rcases Nat.lt_succ_iff_lt_or_eq.1 hk with hk | rfl
      · exact hp.whole k hk
      · exact hlast.2
    · exact Nat.lt_of_le_of_ne (hp.allowed limit hl) fun he => hlast.1 (he ▸ hl)

/-- Either a loop is still going on after `n` frames, or it has come to its end before. -/
theorem playsWhole_or_exactly (h : Host γ δ ι σ) (n : Nat) : PlaysWhole h n ∨ ∃ frames < n, PlaysExactly h frames := by
  induction n with
  | zero => exact .inl (.zero h)
  | succ n ih =>
    rcases ih with hp | ⟨frames, hlt, he⟩
    · rcases hp.next with hp | he
      · exact .inl hp
      · exact .inr ⟨n, Nat.lt_succ_self n, he⟩
    · exact .inr ⟨frames, Nat.lt_succ_of_lt hlt, he⟩

theorem PlaysWhole.of_succ (hp : PlaysWhole h (n + 1)) : PlaysWhole h n where
  whole k hk := hp.whole k (Nat.lt_succ_of_lt hk)
  allowed limit hl := Nat.le_of_succ_le (hp.allowed limit hl)

/-! ## The turns of a loop -/

omit [RandomSource γ] [Display δ] [InputDevice ι] [Speaker σ] in
theorem limitReached_eq_true_iff :
    h.limitReached n = true ↔ ∃ limit, h.settings.maxFrames = some limit ∧ limit ≤ n := by
  simp [limitReached, Option.any_eq_true]

theorem limitReached_afterFrames (h : Host γ δ ι σ) (n : Nat) :
    (h.afterFrames n).limitReached n = h.limitReached n := by
  simp only [limitReached, (h.afterFrames_input_settings n).2]

theorem PlaysWhole.turn_eq (hp : PlaysWhole h (n + 1)) :
    (h.afterFrames n).turn n = .played (h.afterFrames (n + 1)) := by
  have hlimit : ¬ h.limitReached n = true := by
    rw [limitReached_eq_true_iff]
    rintro ⟨limit, hl, hle⟩
    exact Nat.not_succ_le_self n (Nat.le_trans (hp.allowed limit hl) hle)
  have hf : (h.afterFrames n).runFrame = (.ok true, h.afterFrames (n + 1)) :=
    Prod.ext (hp.whole n (Nat.lt_succ_self n)) rfl
  rw [turn, limitReached_afterFrames, if_neg hlimit, hf]

/-- The turn that ends a loop: at the limit there is no further frame, before it there is one. -/
theorem PlaysExactly.turn_eq (hp : PlaysExactly h frames) :
    ∃ ending, (h.afterFrames frames).turn frames = .ended ending (h.afterFrames (h.tried frames)) ∧
      (ending = .limitReached ↔ h.settings.maxFrames = some frames) ∧
      (ending = .quit ↔ h.settings.maxFrames ≠ some frames ∧ (h.afterFrames frames).runFrame.1 = .ok false) ∧
      ∀ fault, ending = .failed fault ↔
        h.settings.maxFrames ≠ some frames ∧ (h.afterFrames frames).runFrame.1 = .error fault := by
  by_cases hl : h.settings.maxFrames = some frames
  · have hlimit : h.limitReached frames = true := limitReached_eq_true_iff.2 ⟨frames, hl, Nat.le_refl frames⟩
    refine ⟨.limitReached, ?_, by simp [hl], by simp [hl], by simp [hl]⟩
    rw [turn, limitReached_afterFrames, if_pos hlimit, tried, if_pos hl]
  · have hlimit : ¬ h.limitReached frames = true := by
      rw [limitReached_eq_true_iff]
      rintro ⟨limit, hsome, hle⟩
      exact hl (hsome.trans (congrArg some (Nat.le_antisymm hle (hp.allowed limit hsome))))
    have hnext : h.afterFrames (h.tried frames) = (h.afterFrames frames).runFrame.2 := by rw [tried, if_neg hl]; rfl
    rw [turn, limitReached_afterFrames, if_neg hlimit, hnext]
    -- one more frame is allowed, and it is not whole
    have hlast := hp.last.resolve_left hl
    generalize (h.afterFrames frames).runFrame = played at hlast ⊢
    rcases played with ⟨fault | goesOn, after⟩
    · exact ⟨.failed fault, rfl, by simp [hl], by simp, by simp [hl]⟩
    · cases goesOn with
      | false => exact ⟨.quit, rfl, by simp [hl], by simp [hl], by simp⟩
      | true => exact absurd rfl hlast

/-- A loop after its first `n` frames, if they are whole: it has counted them and their instructions. -/
def runningAfter (h : Host γ δ ι σ) (n : Nat) : Running γ δ ι σ where
  counted := { frames := n, cycles := n * h.settings.cyclesPerFrame }
  host := h.afterFrames n

theorem PlaysWhole.next_eq (hp : PlaysWhole h (n + 1)) : (h.runningAfter n).next = .inr (h.runningAfter (n + 1)) := by
  have hsettings := (h.afterFrames_input_settings (n + 1)).2
  have hcycles : n * h.settings.cyclesPerFrame + h.settings.cyclesPerFrame = (n + 1) * h.settings.cyclesPerFrame :=
    (Nat.succ_mul ..).symm
  rw [Running.next_of_played hp.turn_eq, hsettings]
  simp only [runningAfter, Summary.countFrame, hcycles]

/-- By induction on the frames that were played: a loop is at the next turn, with the fuel that is left, and has counted
the frames that it played. -/
theorem PlaysWhole.loop_eq (hp : PlaysWhole h n) (fuel : Nat) :
    h.loop fuel = if n ≤ fuel then (h.runningAfter n).finish (fuel - n) else none := by
  induction n with
  | zero => simp [loop, runningAfter, afterFrames]
  | succ n ih =>
    rw [ih hp.of_succ]
    by_cases hle : n ≤ fuel
    · rw [if_pos hle]
      cases hleft : fuel - n with
      | zero => rw [if_neg (by omega), Running.finish_zero hp.next_eq]
      | succ left =>
        have hfuel : fuel - (n + 1) = left := by omega
        rw [if_pos (by omega), Running.finish_succ hp.next_eq, hfuel]
    · rw [if_neg hle, if_neg (by omega)]

theorem exists_playsExactly_of_loop {fuel : Nat} {result : Except Fault Summary × Host γ δ ι σ}
    (hl : h.loop fuel = some result) : ∃ frames ≤ fuel, PlaysExactly h frames := by
  rcases h.playsWhole_or_exactly (fuel + 1) with hp | ⟨frames, hlt, he⟩
  · rw [hp.loop_eq, if_neg (Nat.not_succ_le_self fuel)] at hl
    cases hl
  · exact ⟨frames, Nat.le_of_lt_succ hlt, he⟩

theorem exists_playsExactly_of_limit {limit : Nat} (hl : h.settings.maxFrames = some limit) :
    ∃ frames ≤ limit, PlaysExactly h frames := by
  rcases h.playsWhole_or_exactly (limit + 1) with hp | ⟨frames, hlt, he⟩
  · exact absurd (hp.allowed limit hl) (Nat.not_succ_le_self limit)
  · exact ⟨frames, Nat.le_of_lt_succ hlt, he⟩

/-! ## The accounts of a loop -/

theorem PlaysExactly.accounted (hp : PlaysExactly h frames) :
    ∃ answer after, (∀ fuel, h.loop fuel = if frames ≤ fuel then some (answer, after) else none) ∧
      Accounted h frames answer after := by
  obtain ⟨ending, ht, hlimited, hquit, hfailed⟩ := hp.turn_eq
  let last := h.afterFrames (h.tried frames)
  let counted := (h.runningAfter frames).counted
  obtain ⟨records, hafter⟩ := last.conclude_after ending counted
  obtain ⟨hinterpreter, hdisplay, hinput, stops, hcalls, hstops⟩ := last.silence_spec
  have hanswer : (last.conclude ending counted).1 = ending.outcome frames (frames * h.settings.cyclesPerFrame) :=
    last.conclude_result ending rfl
  have hafterCalls : (last.conclude ending counted).2.calls = last.calls ++ stops := by
    rw [hafter, calls_noteLog, hcalls]
  refine ⟨(last.conclude ending counted).1, (last.conclude ending counted).2, fun fuel => ?_, ?_⟩
  · rw [hp.loop_eq fuel, Running.finish_of_inl (Running.next_of_ended ht)]
  · rw [hanswer]
    constructor
    case limited => rw [Ending.outcome_eq_limited, hlimited]
    case quit => rw [Ending.outcome_eq_quit, hquit]
    case failed => exact fun fault => by rw [Ending.outcome_eq_error, hfailed]
    case interpreter => rw [hafter]; exact hinterpreter
    case display => rw [hafter]; exact hdisplay
    case input => rw [hafter]; exact hinput
    case calls => exact ⟨stops, hafterCalls, hstops⟩
    case polls =>
      have hnone : (stops.map Prod.fst).count .poll = 0 := Nat.le_zero.1 (hstops.count_le .poll)
      rw [polls_of_calls hafterCalls, hnone, polls_afterFrames, Nat.add_zero]

/-- A loop is frames in a row with exact accounts: it ends exactly if it has a length, it ends then for every fuel that
lets it play the frames, and within a limit of frames it always ends. -/
theorem loop_iterates_frames (h : Host γ δ ι σ) :
    (∀ frames, PlaysExactly h frames → ∃ answer after,
      (∀ fuel, h.loop fuel = if frames ≤ fuel then some (answer, after) else none) ∧
        Accounted h frames answer after) ∧
    (∀ fuel result, h.loop fuel = some result → ∃ frames ≤ fuel, PlaysExactly h frames) ∧
    ∀ limit, h.settings.maxFrames = some limit → (∃ frames ≤ limit, PlaysExactly h frames) ∧
      ∃ result, h.loop limit = some result := by
  refine ⟨fun frames hp => hp.accounted, fun fuel result hl => exists_playsExactly_of_loop hl, fun limit hl => ?_⟩
  obtain ⟨frames, hle, hp⟩ := exists_playsExactly_of_limit hl
  obtain ⟨answer, after, hloop, _⟩ := hp.accounted
  exact ⟨⟨frames, hle, hp⟩, (answer, after), by rw [hloop limit, if_pos hle]⟩

end Frames

/-- A host that sounds its tone all along; the user asks to quit at the third poll. -/
private def humming (maxFrames : Option Nat) (interpreter : Interpreter Random.Scripted) :
    Host Random.Scripted RememberingDisplay ScriptedInput SilentSpeaker where
  interpreter
  display := {}
  input := { script := [.idle, .idle, .quitting, .idle] }
  speaker := {}
  settings := { cyclesPerFrame := 3, maxFrames }

/-- Below the limit the third poll is made and the loop is quit; at the limit it is not made. -/
theorem loop_iterates_frames_quit_and_limit :
    ∃ i : Interpreter Random.Scripted,
      Interpreter.start [0x60, 0x10, 0xf0, 0x18, 0x12, 0x04] { words := [] } {} = .ok i ∧
      (PlaysExactly (humming (some 5) i) 2 ∧
        ∃ after, (humming (some 5) i).loop 2 = some (.ok ⟨2, 6, true⟩, after) ∧
          after.polls = 3 ∧ after.input.script = [.idle]) ∧
      PlaysExactly (humming (some 2) i) 2 ∧
        ∃ after, (humming (some 2) i).loop 2 = some (.ok ⟨2, 6, false⟩, after) ∧
          after.polls = 2 ∧ after.input.script = [.quitting, .idle] := by
  obtain ⟨i, hstart, hwhole, hquit⟩ : ∃ i : Interpreter Random.Scripted,
      Interpreter.start [0x60, 0x10, 0xf0, 0x18, 0x12, 0x04] { words := [] } {} = .ok i ∧
      (∀ limit ∈ [5, 2], ∀ k < 2, ((humming (some limit) i).afterFrames k).runFrame.1.toOption = some true) ∧
      ((humming (some 5) i).afterFrames 2).runFrame.1.toOption = some false :=
    ⟨_, rfl, by decide +kernel, by decide +kernel⟩
  have hquit := Interpreter.eq_ok_of_toOption hquit
  have hall : ∀ limit ∈ [5, 2], PlaysWhole (humming (some limit) i) 2 := fun limit hl =>
    { whole := fun k hk => Interpreter.eq_ok_of_toOption (hwhole limit hl k hk)
      allowed := by
        rintro _ ⟨⟩
        revert limit
        decide }
  have hbelow : PlaysExactly (humming (some 5) i) 2 :=
    { hall 5 (by decide) with last := .inr fun hw => by rw [hquit] at hw; cases hw }
  have hat : PlaysExactly (humming (some 2) i) 2 := { hall 2 (by decide) with last := .inl rfl }
  obtain ⟨answer, after, hloop, hacc⟩ := (loop_iterates_frames (humming (some 5) i)).1 2 hbelow
  obtain ⟨answer', after', hloop', hacc'⟩ := (loop_iterates_frames (humming (some 2) i)).1 2 hat
  have hfive : (humming (some 5) i).settings.maxFrames ≠ some 2 := by simp [humming]
  cases hacc.quit.2 ⟨hfive, hquit⟩
  cases hacc'.limited.2 rfl
  refine ⟨i, hstart, ⟨hbelow, after, hloop 2, hacc.polls, ?_⟩, hat, after', hloop' 2, hacc'.polls, ?_⟩
  · rw [hacc.input, (afterFrames_input_settings _ _).1]
    rfl
  · rw [hacc'.input, (afterFrames_input_settings _ _).1]
    rfl

end Chip8.Host
