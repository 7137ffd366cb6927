import Chip8.Proofs.Host.Frames
import Chip8.Proofs.Interpreter.Footprint

/-!
# What a frame does to the machine

The interpreter after a frame is settled by the interpreter before it, by the answer to the poll, and by the call of
the display or the speaker that fails, if one does (`Framed`). So two hosts with the same interpreter stay together
over any number of frames, whatever their displays and speakers are, as long as they are polled alike and the same
calls fail.
-/

namespace Chip8

/-! ## Steps in a row -/

namespace Interpreter

variable {γ : Type} [RandomSource γ]

def afterSteps (i : Interpreter γ) (n : Nat) : Interpreter γ :=
  i.run (List.replicate n .step)

def Succeeds (i : Interpreter γ) (n : Nat) : Prop :=
  ∀ k < n, (i.afterSteps k).step.1 = .ok ()

/-- The interpreter with the keys that a host was told. -/
def withKeys (i : Interpreter γ) (keys : Keys) : Interpreter γ :=
  { i with machine := { i.machine with keys } }

/-- The interpreter one tick later: a timer that runs is one lower, and the tone ends where its timer was 1. -/
def ticked (i : Interpreter γ) : Interpreter γ :=
  { i with
    machine :=
      { i.machine with
        delay := if i.machine.delay = 0 then 0 else i.machine.delay - 1
        sound := if i.machine.sound = 0 then 0 else i.machine.sound - 1
        soundStopped := i.machine.sound = 1 } }

/-- The interpreter without a request for a redraw. -/
def settled (i : Interpreter γ) : Interpreter γ :=
  { i with machine := { i.machine with redraw := false } }

theorem Succeeds.le_of_error {i : Interpreter γ} {n k : Nat} {fault : Fault} (hs : i.Succeeds n)
    (hf : (i.afterSteps k).step.1 = .error fault) : n ≤ k := by
  refine Nat.le_of_not_lt fun hlt => ?_
  have hok := hs k hlt
  rw [hf] at hok
  cases hok

theorem Succeeds.cons {i : Interpreter γ} {n : Nat} (hs : i.step.1 = .ok ()) (hn : i.step.2.Succeeds n) :
    i.Succeeds (n + 1) := by
  intro k hk
  cases k with
  | zero => exact hs
  | succ k => exact hn k (by omega)

theorem keys_step (i : Interpreter γ) : i.step.2.machine.keys = i.machine.keys := by
  have hs := i.step_stepped
  generalize i.step = result at hs ⊢
  cases hs with
  | failed | passedOver => rfl
  | executed => exact Machine.perform_keys.1

/-- Steps press no key. -/
theorem keys_afterSteps (i : Interpreter γ) (n : Nat) : (i.afterSteps n).machine.keys = i.machine.keys := by
  induction n generalizing i with
  | zero => rfl
  | succ n ih => exact (ih i.step.2).trans i.keys_step

end Interpreter

namespace Host

variable {γ δ ι σ : Type}

section Steps

variable [RandomSource γ]

theorem interpreter_step {h after : Host γ δ ι σ} {result : Except Fault Unit} (hs : h.step = (result, after)) :
    h.interpreter.step.1 = result ∧ after.interpreter = h.interpreter.step.2 := by
  have hresult := congrArg Prod.fst hs
  have hafter := congrArg (fun stepped => stepped.2.interpreter) hs
  exact ⟨hresult, hafter.symm⟩

theorem steps_ok {n : Nat} {h after : Host γ δ ι σ} (hs : h.steps n = (.ok (), after)) :
    h.interpreter.Succeeds n ∧ after.interpreter = h.interpreter.afterSteps n := by
  induction n generalizing h with
  | zero =>
    cases hs
    exact ⟨fun k hk => absurd hk (Nat.not_lt_zero k), rfl⟩
  | succ n ih =>
    rcases hst : h.step with ⟨fault | _, next⟩
    · simp [steps, hst] at hs
    · simp only [steps, hst] at hs
      obtain ⟨hn, hafter⟩ := ih hs
      obtain ⟨hok, hnext⟩ := interpreter_step hst
      rw [hnext] at hn hafter
      exact ⟨hn.cons hok, hafter⟩

theorem steps_error {n : Nat} {h after : Host γ δ ι σ} {fault : Fault} (hs : h.steps n = (.error fault, after)) :
    ∃ k < n, h.interpreter.Succeeds k ∧ (h.interpreter.afterSteps k).step.1 = .error fault ∧
      after.interpreter = h.interpreter.afterSteps k := by
  induction n generalizing h with
  | zero => cases hs
  | succ n ih =>
    rcases hst : h.step with ⟨other | _, next⟩
    · simp only [steps, hst] at hs
      cases hs
      obtain ⟨herror, hnext⟩ := interpreter_step hst
      -- a failed step changes nothing
      rw [Interpreter.step_of_fault (Interpreter.step_eq_error_iff.1 herror)] at hnext
      exact ⟨0, Nat.succ_pos n, fun k hk => absurd hk (Nat.not_lt_zero k), herror, hnext⟩
    · simp only [steps, hst] at hs
      obtain ⟨k, hk, hsucceeds, hfault, hafter⟩ := ih hs
      obtain ⟨hok, hnext⟩ := interpreter_step hst
      rw [hnext] at hsucceeds hfault hafter
      exact ⟨k + 1, by omega, hsucceeds.cons hok, hfault, hafter⟩

end Steps

/-! ## Calls of devices -/

def Entry.call? : Entry → Option (Call × Bool)
  | .called call succeeded => some (call, succeeded)
  | .reported _ => none

/-- The calls of devices so far, oldest first, and whether they succeeded. -/
def calls (h : Host γ δ ι σ) : List (Call × Bool) :=
  h.history.filterMap Entry.call?

/-- The last call, if it failed and was not a poll. -/
def refusedCall? (calls : List (Call × Bool)) : Option Call :=
  match calls.getLast? with
  | some (.poll, _) => none
  | some (call, false) => some call
  | _ => none

/-- The call of the display or the speaker that failed, if that was the last call. -/
def refused? (h : Host γ δ ι σ) : Option Call :=
  refusedCall? h.calls

theorem calls_noteCall (h : Host γ δ ι σ) (call : Call) (succeeded : Bool) :
    (h.noteCall call succeeded).calls = h.calls ++ [(call, succeeded)] := by
  simp [calls, history_noteCall, Entry.call?]

theorem calls_noteLog (h : Host γ δ ι σ) (records : List Log.Record) : (h.noteLog records).calls = h.calls := by
  have hnone : (records.map Entry.reported).filterMap Entry.call? = [] := by
    rw [List.filterMap_map]
    exact List.filterMap_eq_nil_iff.2 fun _ _ => rfl
  rw [calls, history_noteLog, List.filterMap_append, hnone, List.append_nil, calls]

theorem refusedCall?_append {earlier later : List (Call × Bool)} (h : later ≠ []) :
    refusedCall? (earlier ++ later) = refusedCall? later := by
  simp [refusedCall?, List.getLast?_append, List.getLast?_eq_some_getLast h]

theorem refusedCall?_of_succeeded {calls : List (Call × Bool)} (h : ∀ call ∈ calls, call.2 = true) :
    refusedCall? calls = none := by
  simp only [refusedCall?]
  split
  · rfl
  · rename_i call hlast
    exact absurd (h _ (List.mem_of_getLast? hlast)) Bool.noConfusion
  · rfl

theorem succeeded_of_sublist {calls : List (Call × Bool)}
    (h : calls.Sublist [(.beep, true), (.draw, true), (.stop, true)]) :
    ∀ call ∈ (.poll, true) :: calls, call.2 = true := by
  intro call hcall
  have hall : ∀ call ∈ [(Call.poll, true), (.beep, true), (.draw, true), (.stop, true)], call.2 = true := by decide
  exact hall call ((h.cons_cons _).subset hcall)

theorem calls_poll [InputDevice ι] (h : Host γ δ ι σ) :
    h.poll.2.calls = h.calls ++ [(.poll, (InputDevice.poll h.input).result.isOk)] := by
  simp only [poll, calls_noteCall, calls_noteLog]
  rfl

theorem calls_steps [RandomSource γ] (n : Nat) (h : Host γ δ ι σ) : (steps n h).2.calls = h.calls :=
  steps_kept (I := fun now => now.calls = h.calls)
    (fun now hc => (now.calls_noteLog now.interpreter.stepLog).trans hc) n h rfl

/-- A part of a frame makes one call at most, and fails exactly with it. -/
inductive OneCall {ε : Type} (call : Call) (toFault : ε → Fault) (h : Host γ δ ι σ) :
    Except Fault Unit × Host γ δ ι σ → Prop
  | succeeded {after made} : made.Sublist [(call, true)] → after.calls = h.calls ++ made →
      OneCall call toFault h (.ok (), after)
  | refused {after} (e : ε) : after.calls = h.calls ++ [(call, false)] →
      OneCall call toFault h (.error (toFault e), after)

section OneCall

variable {ε : Type} {call : Call} {toFault : ε → Fault} {h after : Host γ δ ι σ}

theorem OneCall.notCalled : OneCall call toFault h (.ok (), h) :=
  .succeeded (List.nil_sublist _) (List.append_nil _).symm

theorem oneCall_of_calls {result : Except ε Unit} (hc : after.calls = h.calls ++ [(call, result.isOk)]) :
    OneCall call toFault h (result.mapError toFault, after) := by
  cases result with
  | error e => exact .refused e hc
  | ok => exact .succeeded (List.Sublist.refl _) hc

theorem OneCall.ok (ho : OneCall call toFault h (.ok (), after)) :
    ∃ made, made.Sublist [(call, true)] ∧ after.calls = h.calls ++ made := by
  cases ho with
  | succeeded hm hc => exact ⟨_, hm, hc⟩

theorem OneCall.error {fault : Fault} (ho : OneCall call toFault h (.error fault, after)) :
    ∃ e, fault = toFault e ∧ after.calls = h.calls ++ [(call, false)] := by
  cases ho with
  | refused e hc => exact ⟨e, rfl, hc⟩

end OneCall

theorem oneCall_startTone [Speaker σ] (h : Host γ δ ι σ) : OneCall .beep .audio h h.startTone := by
  simp only [startTone]
  split
  · exact oneCall_of_calls (calls_noteCall { h with speaker := (Speaker.beep h.speaker).2 } _ _)
  · exact .notCalled

theorem oneCall_stopTone [Speaker σ] (h : Host γ δ ι σ) : OneCall .stop .audio h h.stopTone := by
  simp only [stopTone]
  split
  · exact oneCall_of_calls (calls_noteCall { h with speaker := (Speaker.stop h.speaker).2 } _ _)
  · exact .notCalled

theorem oneCall_refresh [Display δ] (h : Host γ δ ι σ) : OneCall .draw .io h h.refresh := by
  simp only [refresh]
  split
  · have hd : OneCall .draw .io h h.draw :=
      oneCall_of_calls (calls_noteCall { h with display := (Display.draw h.display h.machine.screen.val).2 } _ _)
    generalize h.draw = drawn at hd ⊢
    cases hd with
    | succeeded hm hc => exact .succeeded hm hc
    | refused e hc => exact .refused e hc
  · exact .notCalled

/-! ## The interpreter through the parts of a frame -/

theorem startTone_interpreter [Speaker σ] (h : Host γ δ ι σ) : h.startTone.2.interpreter = h.interpreter := by
  obtain ⟨_, _, he⟩ := h.startTone_eq
  rw [he]

theorem stopTone_interpreter [Speaker σ] (h : Host γ δ ι σ) : h.stopTone.2.interpreter = h.interpreter := by
  obtain ⟨_, _, he⟩ := h.stopTone_eq
  rw [he]

theorem settled_of_no_redraw {i : Interpreter γ} (hr : i.machine.redraw = false) :
    i.settled = i := by
  rcases i with ⟨m, random, dialect⟩
  cases m
  cases hr
  rfl

theorem refresh_ok [Display δ] {h after : Host γ δ ι σ} (hr : h.refresh = (.ok (), after)) :
    after.interpreter = h.interpreter.settled := by
  have hs := h.refresh_refreshed
  rw [hr] at hs
  cases hs with
  | idle hn => exact (settled_of_no_redraw hn).symm
  | shown => rfl

theorem refresh_error [Display δ] {h after : Host γ δ ι σ} {fault : Fault} (hr : h.refresh = (.error fault, after)) :
    after.interpreter = h.interpreter ∧ h.machine.redraw = true := by
  have hs := h.refresh_refreshed
  rw [hr] at hs
  cases hs with
  | refused hasked => exact ⟨rfl, hasked⟩

/-! ## Frames -/

/-- What a frame does to an interpreter `i`, where `polled` answers its poll and `refused` is the call of the display or
the speaker that fails, if one does: what the frame answers, the interpreter after it, and the calls it makes. -/
inductive Framed [RandomSource γ] (i : Interpreter γ) (cycles : Nat) :
    Except IoError KeyReport → Option Call → Except Fault Bool → Interpreter γ → List (Call × Bool) → Prop
  | pollFailed {e} : Framed i cycles (.error e) none (.error (.io e)) i [(.poll, false)]
  | quit {report} : report.quit = true → Framed i cycles (.ok report) none (.ok false) i [(.poll, true)]
  /-- The step after `k` whole steps failed. There was no tick and no further call. -/
  | stepFailed {report k fault} : report.quit = false → k < cycles → (i.withKeys report.keys).Succeeds k →
      ((i.withKeys report.keys).afterSteps k).step.1 = .error fault →
      Framed i cycles (.ok report) none (.error fault) ((i.withKeys report.keys).afterSteps k) [(.poll, true)]
  /-- All steps were done, but there was no tick. -/
  | beepFailed {report reason} : report.quit = false → (i.withKeys report.keys).Succeeds cycles →
      Framed i cycles (.ok report) (some .beep) (.error (.audio reason))
        ((i.withKeys report.keys).afterSteps cycles) [(.poll, true), (.beep, false)]
  /-- All steps and the tick were done, and a redraw is still asked for. -/
  | drawFailed {report e earlier} : report.quit = false → (i.withKeys report.keys).Succeeds cycles →
      earlier.Sublist [(.beep, true)] →
      ((i.withKeys report.keys).afterSteps cycles).machine.redraw = true →
      Framed i cycles (.ok report) (some .draw) (.error (.io e)) ((i.withKeys report.keys).afterSteps cycles).ticked
        ((.poll, true) :: earlier ++ [(.draw, false)])
  /-- The machine has all of the frame. -/
  | stopFailed {report reason earlier} : report.quit = false → (i.withKeys report.keys).Succeeds cycles →
      earlier.Sublist [(.beep, true), (.draw, true)] →
      Framed i cycles (.ok report) (some .stop) (.error (.audio reason))
        ((i.withKeys report.keys).afterSteps cycles).ticked.settled
        ((.poll, true) :: earlier ++ [(.stop, false)])
  | played {report earlier} : report.quit = false → (i.withKeys report.keys).Succeeds cycles →
      earlier.Sublist [(.beep, true), (.draw, true), (.stop, true)] →
      Framed i cycles (.ok report) none (.ok true)
        ((i.withKeys report.keys).afterSteps cycles).ticked.settled
        ((.poll, true) :: earlier)

theorem poll_spec [InputDevice ι] {h after : Host γ δ ι σ} {answer : Except Fault KeyReport}
    (hp : h.poll = (answer, after)) :
    answer = (InputDevice.poll h.input).result.mapError .io ∧ after.interpreter = h.interpreter ∧
      after.settings = h.settings ∧
      after.calls = h.calls ++ [(.poll, (InputDevice.poll h.input).result.isOk)] := by
  have hcalls := h.calls_poll
  rw [hp] at hcalls
  cases hp
  exact ⟨rfl, rfl, rfl, hcalls⟩

theorem poll_ok [InputDevice ι] {h after : Host γ δ ι σ} {report : KeyReport} (hp : h.poll = (.ok report, after)) :
    (InputDevice.poll h.input).result = .ok report ∧ after.interpreter = h.interpreter ∧
      after.settings = h.settings ∧ after.calls = h.calls ++ [(.poll, true)] := by
  obtain ⟨hanswer, hi, hs, hc⟩ := poll_spec hp
  have hresult := mapError_eq_ok.1 hanswer.symm
  rw [hresult] at hc
  exact ⟨hresult, hi, hs, hc⟩

theorem Begun.spec [InputDevice ι] {h begun : Host γ δ ι σ} (hb : h.Begun begun) :
    ∃ report, (InputDevice.poll h.input).result = .ok report ∧ report.quit = false ∧
      begun.interpreter = h.interpreter.withKeys report.keys ∧ begun.settings = h.settings ∧
      begun.calls = h.calls ++ [(.poll, true)] := by
  obtain ⟨report, polled, hp, hq, rfl⟩ := hb
  obtain ⟨hresult, hi, hs, hc⟩ := poll_ok hp
  refine ⟨report, hresult, hq, ?_, hs, hc⟩
  rw [← hi]
  rfl

section Framed

variable [RandomSource γ]

/-- The poll of a frame answered `report`, and all steps of the frame succeed. -/
structure StepsDone [InputDevice ι] (h : Host γ δ ι σ) (report : KeyReport) : Prop where
  polled : (InputDevice.poll h.input).result = .ok report
  goesOn : report.quit = false
  succeeds : (h.interpreter.withKeys report.keys).Succeeds h.settings.cyclesPerFrame

theorem Begun.stepped [InputDevice ι] {h begun stepped : Host γ δ ι σ} (hb : h.Begun begun)
    (hs : begun.steps begun.settings.cyclesPerFrame = (.ok (), stepped)) :
    ∃ report, h.StepsDone report ∧
      stepped.interpreter = (h.interpreter.withKeys report.keys).afterSteps h.settings.cyclesPerFrame ∧
      stepped.calls = h.calls ++ [(.poll, true)] := by
  obtain ⟨report, hresult, hq, hi, hsettings, hc⟩ := hb.spec
  obtain ⟨hsucceeds, hafter⟩ := steps_ok hs
  have hcalls := calls_steps begun.settings.cyclesPerFrame begun
  rw [hs] at hcalls
  rw [hi, hsettings] at hsucceeds hafter
  exact ⟨report, ⟨hresult, hq, hsucceeds⟩, hafter, hcalls.trans hc⟩

theorem Begun.toned [InputDevice ι] [Speaker σ] {h begun stepped toned : Host γ δ ι σ} (hb : h.Begun begun)
    (hs : begun.steps begun.settings.cyclesPerFrame = (.ok (), stepped)) (ht : stepped.startTone = (.ok (), toned)) :
    ∃ report, h.StepsDone report ∧
      toned.interpreter = (h.interpreter.withKeys report.keys).afterSteps h.settings.cyclesPerFrame ∧
      ∃ beeps, beeps.Sublist [(.beep, true)] ∧ toned.calls = h.calls ++ (.poll, true) :: beeps := by
  obtain ⟨report, hdone, hstepped, hc⟩ := hb.stepped hs
  have hi := stepped.startTone_interpreter
  have ho := stepped.oneCall_startTone
  rw [ht] at hi ho
  obtain ⟨beeps, hbeeps, htoned⟩ := ho.ok
  exact ⟨report, hdone, hi.trans hstepped, beeps, hbeeps, by simp [htoned, hc]⟩

theorem Begun.drawn [Display δ] [InputDevice ι] [Speaker σ] {h begun stepped toned drawn : Host γ δ ι σ}
    (hb : h.Begun begun) (hs : begun.steps begun.settings.cyclesPerFrame = (.ok (), stepped))
    (ht : stepped.startTone = (.ok (), toned)) (hr : (toned.modifyMachine .tick).refresh = (.ok (), drawn)) :
    ∃ report, h.StepsDone report ∧
      drawn.interpreter =
        ((h.interpreter.withKeys report.keys).afterSteps h.settings.cyclesPerFrame).ticked.settled ∧
      ∃ earlier, earlier.Sublist [(.beep, true), (.draw, true)] ∧
        drawn.calls = h.calls ++ (.poll, true) :: earlier := by
  obtain ⟨report, hdone, htoned, beeps, hbeeps, hc⟩ := hb.toned hs ht
  have hi : (toned.modifyMachine .tick).interpreter = toned.interpreter.ticked := rfl
  have hticked : (toned.modifyMachine .tick).calls = toned.calls := rfl
  have hdrawn := refresh_ok hr
  rw [hi, htoned] at hdrawn
  have ho := (toned.modifyMachine .tick).oneCall_refresh
  rw [hr] at ho
  obtain ⟨draws, hdraws, hcalls⟩ := ho.ok
  exact ⟨report, hdone, hdrawn, beeps ++ draws, hbeeps.append hdraws, by simp [hcalls, hticked, hc]⟩

theorem framed_of_frameEnd [Display δ] [InputDevice ι] [Speaker σ] {h after : Host γ δ ι σ}
    {result : Except Fault Bool} (he : FrameEnd h result after) :
    ∃ refused calls, after.calls = h.calls ++ calls ∧
      Framed h.interpreter h.settings.cyclesPerFrame (InputDevice.poll h.input).result refused result
        after.interpreter calls := by
  cases he with
  | pollFailed hp =>
    obtain ⟨hanswer, hi, _, hc⟩ := poll_spec hp
    cases hr : (InputDevice.poll h.input).result with
    | error e =>
      rw [hr] at hanswer hc
      cases hanswer
      rw [hi]
      exact ⟨none, _, hc, .pollFailed⟩
    | ok report =>
      rw [hr] at hanswer
      cases hanswer
  | quit hp hq =>
    obtain ⟨hresult, hi, _, hc⟩ := poll_ok hp
    rw [hresult, hi]
    exact ⟨none, _, hc, .quit hq⟩
  | stepFailed hb hs =>
    rename_i begun fault
    obtain ⟨report, hresult, hq, hi, hsettings, hc⟩ := hb.spec
    obtain ⟨k, hk, hsucceeds, hfault, hafter⟩ := steps_error hs
    have hcalls := calls_steps begun.settings.cyclesPerFrame begun
    rw [hs] at hcalls
    rw [hi] at hsucceeds hfault hafter
    rw [hsettings] at hk
    rw [hresult, hafter]
    exact ⟨none, _, hcalls.trans hc, .stepFailed hq hk hsucceeds hfault⟩
  | beepFailed hb hs ht =>
    rename_i begun stepped fault
    obtain ⟨report, hdone, hstepped, hc⟩ := hb.stepped hs
    have hi := stepped.startTone_interpreter
    have ho := stepped.oneCall_startTone
    rw [ht] at hi ho
    obtain ⟨reason, rfl, hcalls⟩ := ho.error
    rw [hdone.polled, hi, hstepped]
    exact ⟨some .beep, _, by rw [hcalls, hc, List.append_assoc]; rfl, .beepFailed hdone.goesOn hdone.succeeds⟩
  | drawFailed hb hs ht hr =>
    rename_i begun stepped toned fault
    obtain ⟨report, hdone, htoned, beeps, hbeeps, hc⟩ := hb.toned hs ht
    have hi : (toned.modifyMachine .tick).interpreter = toned.interpreter.ticked := rfl
    have hticked : (toned.modifyMachine .tick).calls = toned.calls := rfl
    -- the drawing is not acknowledged, so the machine still asks for a redraw
    obtain ⟨hafter, hasked⟩ := refresh_error hr
    have ho := (toned.modifyMachine .tick).oneCall_refresh
    rw [hr] at ho
    obtain ⟨e, rfl, hdraw⟩ := ho.error
    rw [machine, hi, htoned] at hasked
    rw [hdone.polled, hafter, hi, htoned]
    exact ⟨some .draw, _, by rw [hdraw, hticked, hc, List.append_assoc],
      .drawFailed hdone.goesOn hdone.succeeds hbeeps hasked⟩
  | stopFailed hb hs ht hr hst =>
    rename_i begun stepped toned drawn fault
    obtain ⟨report, hdone, hdrawn, earlier, hearlier, hc⟩ := hb.drawn hs ht hr
    have hi := drawn.stopTone_interpreter
    have ho := drawn.oneCall_stopTone
    rw [hst] at hi ho
    obtain ⟨reason, rfl, hstop⟩ := ho.error
    rw [hdone.polled, hi, hdrawn]
    exact ⟨some .stop, _, by rw [hstop, hc, List.append_assoc], .stopFailed hdone.goesOn hdone.succeeds hearlier⟩
  | played hb hs ht hr hst =>
    rename_i begun stepped toned drawn
    obtain ⟨report, hdone, hdrawn, earlier, hearlier, hc⟩ := hb.drawn hs ht hr
    have hi := drawn.stopTone_interpreter
    have ho := drawn.oneCall_stopTone
    rw [hst] at hi ho
    obtain ⟨stops, hstops, hstop⟩ := ho.ok
    rw [hdone.polled, hi, hdrawn]
    exact ⟨none, _, by rw [hstop, hc, List.append_assoc, List.cons_append],
      .played hdone.goesOn hdone.succeeds (hearlier.append hstops)⟩

variable {i after after' : Interpreter γ} {cycles : Nat} {polled : Except IoError KeyReport} {refused : Option Call}
  {answer answer' : Except Fault Bool} {calls calls' : List (Call × Bool)}

theorem Framed.calls_sublist (hf : Framed i cycles polled refused answer after calls) :
    (calls.map Prod.fst).Sublist [.poll, .beep, .draw, .stop] := by
  cases hf with
  | pollFailed | quit | stepFailed | beepFailed => decide
  | drawFailed _ _ hearlier =>
    have hcalls := (hearlier.map Prod.fst).append (List.Sublist.refl [Call.draw])
    simpa using hcalls.trans (by decide)
  | stopFailed _ _ hearlier =>
    simpa using (hearlier.map Prod.fst).append (List.Sublist.refl [Call.stop])
  | played _ _ hearlier => simpa using hearlier.map Prod.fst

/-- No call is made after one that failed. -/
theorem Framed.succeeded_before_last (hf : Framed i cycles polled refused answer after calls) :
    ∀ call ∈ calls.dropLast, call.2 = true := by
  cases hf with
  | pollFailed | quit | stepFailed => exact fun _ hcall => nomatch hcall
  | beepFailed => exact succeeded_of_sublist (List.nil_sublist _)
  | drawFailed _ _ hearlier =>
    rw [List.dropLast_concat]
    exact succeeded_of_sublist (hearlier.trans (by decide))
  | stopFailed _ _ hearlier =>
    rw [List.dropLast_concat]
    exact succeeded_of_sublist (hearlier.trans (by decide))
  | played _ _ hearlier => exact fun call hcall => succeeded_of_sublist hearlier call (List.dropLast_subset _ hcall)

/-- A frame that is not asked to quit leaves the machine with the polled keys, wherever it ends. -/
theorem Framed.keys_eq {report : KeyReport} (hf : Framed i cycles (.ok report) refused answer after calls)
    (hq : report.quit = false) : after.machine.keys = report.keys := by
  have hsteps (n : Nat) : ((i.withKeys report.keys).afterSteps n).machine.keys = report.keys :=
    (i.withKeys report.keys).keys_afterSteps n
  cases hf with
  | quit hq' => exact absurd (hq.symm.trans hq') Bool.noConfusion
  | stepFailed | beepFailed | drawFailed | stopFailed | played => exact hsteps _

/-- A drawing that the display refuses is still to be shown. -/
theorem Framed.redraw_of_refused (hf : Framed i cycles polled (some .draw) answer after calls) :
    after.machine.redraw = true := by
  cases hf with
  | drawFailed _ _ _ hasked => exact hasked

/-- No drawing is still to be shown once a frame came to its last part. -/
theorem Framed.redraw_of_shown (hf : Framed i cycles polled refused answer after calls)
    (h : answer = .ok true ∨ refused = some .stop) : after.machine.redraw = false := by
  cases hf with
  | stopFailed | played => rfl
  | pollFailed | quit | stepFailed | beepFailed | drawFailed => simp at h

theorem Framed.refusedCall?_eq (hf : Framed i cycles polled refused answer after calls) :
    refusedCall? calls = refused := by
  cases hf with
  | pollFailed | quit | stepFailed | beepFailed => rfl
  | drawFailed | stopFailed => exact refusedCall?_append (List.cons_ne_nil _ _)
  | played _ _ hearlier => exact refusedCall?_of_succeeded (succeeded_of_sublist hearlier)

theorem Framed.calls_ne_nil (hf : Framed i cycles polled refused answer after calls) : calls ≠ [] := by
  cases hf <;> exact List.cons_ne_nil _ _

/-- A frame is settled by the poll and by the call that is refused, but for the reason that a device gives. -/
theorem Framed.unique (hf : Framed i cycles polled refused answer after calls)
    (hg : Framed i cycles polled refused answer' after' calls') :
    after' = after ∧ answer'.toOption = answer.toOption ∧ (refused = none → answer' = answer) := by
  cases hf with
  | pollFailed =>
    cases hg
    exact ⟨rfl, rfl, fun _ => rfl⟩
  | quit hq =>
    cases hg with
    | quit => exact ⟨rfl, rfl, fun _ => rfl⟩
    | stepFailed hq' | played hq' => exact absurd (hq.symm.trans hq') Bool.noConfusion
  | stepFailed hq hk hsucceeds hfault =>
    cases hg with
    | quit hq' => exact absurd (hq'.symm.trans hq) Bool.noConfusion
    | stepFailed _ _ hsucceeds' hfault' =>
      -- both frames end with the first step that fails
      cases Nat.le_antisymm (hsucceeds.le_of_error hfault') (hsucceeds'.le_of_error hfault)
      cases hfault.symm.trans hfault'
      exact ⟨rfl, rfl, fun _ => rfl⟩
    | played _ hsucceeds' => exact absurd (hsucceeds'.le_of_error hfault) (Nat.not_le_of_lt hk)
  | beepFailed | drawFailed | stopFailed =>
    cases hg
    exact ⟨rfl, rfl, fun hn => nomatch hn⟩
  | played hq hsucceeds =>
    cases hg with
    | quit hq' => exact absurd (hq'.symm.trans hq) Bool.noConfusion
    | stepFailed _ hk _ hfault => exact absurd (hsucceeds.le_of_error hfault) (Nat.not_le_of_lt hk)
    | played => exact ⟨rfl, rfl, fun _ => rfl⟩

theorem runFrame_framed [Display δ] [InputDevice ι] [Speaker σ] (h : Host γ δ ι σ) :
    ∃ calls, h.runFrame.2.calls = h.calls ++ calls ∧
      Framed h.interpreter h.settings.cyclesPerFrame (InputDevice.poll h.input).result h.runFrame.2.refused?
        h.runFrame.1 h.runFrame.2.interpreter calls := by
  obtain ⟨refused, calls, hcalls, hf⟩ := framed_of_frameEnd h.runFrame_end
  have hrefused : h.runFrame.2.refused? = refused := by
    rw [refused?, hcalls, refusedCall?_append hf.calls_ne_nil, hf.refusedCall?_eq]
  rw [hrefused]
  exact ⟨calls, hcalls, hf⟩

end Framed

end Host

end Chip8
