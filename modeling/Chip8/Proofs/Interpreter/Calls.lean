import Chip8.Proofs.Interpreter.Brackets
import Chip8.Proofs.Interpreter.Steps
import Chip8.Proofs.Machine.Words

/-!
# Calls and returns over whole runs

The frames of the call stack are the callers of the calls that are not returned from (`frames_run`), and a return
goes on behind its call with the stack as it was before that call (`Matched`). Both hold whatever else a run does.
-/

namespace Chip8.Interpreter

variable {γ : Type} [RandomSource γ]

/-! ## The brackets of a run -/

/-- The bracket that the next step sets: a call (2nnn) or a return (00EE) that succeeds. -/
def bracket? (i : Interpreter γ) : Option Bracket :=
  match i.machine.fetch, i.step.1 with
  | .ok word, .ok () =>
    if word = 0x00ee then some .ret
    else if word >>> 12 = 2 then some (.call i.machine.pc)
    else none
  | _, _ => none

/-- The brackets that a run sets, in order. -/
def brackets (i : Interpreter γ) : List Action → List Bracket
  | [] => []
  | .step :: rest => i.bracket?.toList ++ i.step.2.brackets rest
  | action :: rest => (i.act action).2.brackets rest

/-- The step after `before` is a call, the step after `between` is a return, and only whole calls lie between them. -/
structure Matched (i : Interpreter γ) (before between : List Action) : Prop where
  call : ∃ caller, (i.run before).bracket? = some (.call caller)
  body : Balanced ((i.run (before ++ [.step])).brackets between)
  ret : (i.run (before ++ .step :: between)).bracket? = some .ret

/-! ## One step -/

variable {i : Interpreter γ} {word : UInt16}

theorem bracket_call {caller : UInt16} (h : i.bracket? = some (.call caller)) :
    caller = i.machine.pc ∧ ∃ word, i.machine.fetch = .ok word ∧ word >>> 12 = 2 ∧ i.step.1 = .ok () := by
  simp only [bracket?] at h
  split at h
  · rename_i word hf hs
    split at h
    · cases h
    · split at h
      · rename_i hw
        cases h
        exact ⟨rfl, word, hf, hw, hs⟩
      · cases h
  · cases h

theorem bracket_ret (h : i.bracket? = some .ret) : i.machine.fetch = .ok 0x00ee ∧ i.step.1 = .ok () := by
  simp only [bracket?] at h
  split at h
  · rename_i word hf hs
    split at h
    · rename_i hw
      exact ⟨hw ▸ hf, hs⟩
    · split at h <;> cases h
  · cases h

theorem frames_step (i : Interpreter γ) :
    i.step.2.machine.stack.frames = i.bracket?.toList.foldl Bracket.onFrames i.machine.stack.frames := by
  have hs := i.step_stepped
  simp only [bracket?]
  generalize i.step = result at hs ⊢
  cases hs with
  | failed => simp
  | @passedOver word hf hd =>
    have hret : word ≠ 0x00ee := by
      rintro rfl
      simp [decode_return] at hd
    have hcall : word >>> 12 ≠ 2 := fun hw => by simp [decode_call hw] at hd
    simp [hf, hret, hcall, passOver]
  | @executed word instruction advance hf hd hn ha =>
    simp only [hf, afterInstruction]
    by_cases hret : word = 0x00ee
    · subst hret
      rw [decode_return] at hd
      cases hd
      cases hp : i.machine.stack.pop with
      | none => simp [Machine.perform, hp] at ha
      | some popped => simp [Machine.perform, hp, CallStack.frames_pop hp, Bracket.onFrames]
    · by_cases hcall : word >>> 12 = 2
      · rw [decode_call hcall] at hd
        cases hd
        cases hp : i.machine.stack.push i.machine.pc with
        | none => simp [Machine.perform, hp] at ha
        | some stack => simp [Machine.perform, hp, hret, hcall, CallStack.frames_push hp, Bracket.onFrames]
      · have hc : ∀ address, instruction ≠ .call address := by
          rintro address rfl
          exact hcall (word_of_decode_call hd)
        have hr : instruction ≠ .returnFromCall := by
          rintro rfl
          exact hret (word_of_decode_return hd)
        simp [hret, hcall, Machine.perform_stack hc hr]

theorem step_ret (h : i.bracket? = some .ret) :
    ∃ earlier caller, i.machine.stack.frames = earlier ++ [caller] ∧
      i.step.2.machine.pc = caller + 2 ∧ i.step.2.machine.stack.frames = earlier := by
  obtain ⟨hf, hs⟩ := bracket_ret h
  rw [step_of_decode hf decode_return] at hs ⊢
  cases hp : i.machine.stack.pop with
  | none => simp [execute, Machine.perform, hp] at hs
  | some popped =>
    exact ⟨popped.2.frames, popped.1, CallStack.frames_pop hp, by simp [execute, Machine.perform, hp, Advance.target],
      by simp [execute, Machine.perform, hp]⟩

theorem step_call_word (hf : i.machine.fetch = .ok word) (hw : word >>> 12 = 2) :
    i.step.1 = if i.machine.stack.frames.length = 16 then .error (.stackOverflow i.machine.pc) else .ok () := by
  apply step_of_ite
  simp [Machine.stepFault?, hf, decode_call hw, Machine.fault?]

theorem step_return_word (hf : i.machine.fetch = .ok 0x00ee) :
    i.step.1 = if i.machine.stack.frames = [] then .error (.stackUnderflow i.machine.pc) else .ok () := by
  apply step_of_ite
  simp [Machine.stepFault?, hf, decode_return, Machine.fault?]

/-! ## Runs -/

theorem brackets_step (i : Interpreter γ) (rest : List Action) :
    i.brackets (.step :: rest) = i.bracket?.toList ++ i.step.2.brackets rest := rfl

theorem frames_run_foldl (i : Interpreter γ) (actions : List Action) :
    (i.run actions).machine.stack.frames = (i.brackets actions).foldl Bracket.onFrames i.machine.stack.frames := by
  induction actions generalizing i with
  | nil => rfl
  | cons action rest ih =>
    cases action with
    | step => rw [run_cons, ih, act, brackets_step, List.foldl_append, frames_step]
    | tick | setKey | acknowledge => exact ih _

theorem exists_of_brackets {actions : List Action} {earlier later : List Bracket} {b : Bracket}
    (h : i.brackets actions = earlier ++ b :: later) :
    ∃ before between, actions = before ++ .step :: between ∧ (i.run before).bracket? = some b ∧
      (i.run (before ++ [.step])).brackets between = later := by
  induction actions generalizing i earlier with
  | nil => simp [brackets] at h
  | cons action rest ih =>
    cases action with
    | step =>
      rw [brackets_step] at h
      cases hb : i.bracket? with
      | none =>
        rw [hb] at h
        obtain ⟨before, between, rfl, hs, hl⟩ := ih h
        exact ⟨.step :: before, between, rfl, hs, hl⟩
      | some first =>
        rw [hb] at h
        cases earlier with
        | nil =>
          injection h with hfirst hrest
          exact ⟨[], rest, rfl, hfirst ▸ hb, hrest⟩
        | cons _ earlier =>
          injection h with _ hrest
          obtain ⟨before, between, rfl, hs, hl⟩ := ih hrest
          exact ⟨.step :: before, between, rfl, hs, hl⟩
    | tick | setKey | acknowledge =>
      obtain ⟨before, between, rfl, hs, hl⟩ := ih h
      exact ⟨_ :: before, between, rfl, hs, hl⟩

theorem Matched.step_ret {before between : List Action} (h : i.Matched before between) :
    (i.run (before ++ .step :: between)).step.2.machine.pc = (i.run before).machine.pc + 2 ∧
      (i.run (before ++ .step :: between)).step.2.machine.stack.frames = (i.run before).machine.stack.frames := by
  obtain ⟨caller, hc⟩ := h.call
  have hsplit : before ++ .step :: between = before ++ [.step] ++ between := by simp
  have hcalled : (i.run (before ++ [.step])).machine.stack.frames = (i.run before).machine.stack.frames ++ [caller] := by
    rw [run_append, run_cons, run_nil, act, frames_step, hc]
    rfl
  have hframes : (i.run (before ++ .step :: between)).machine.stack.frames =
      (i.run before).machine.stack.frames ++ [caller] := by
    rw [hsplit, run_append, frames_run_foldl, foldl_onFrames_balanced h.body, hcalled]
  obtain ⟨earlier, last, hl, hpc, he⟩ := Interpreter.step_ret h.ret
  rw [hframes] at hl
  obtain ⟨rfl, hlast⟩ := List.append_inj' hl rfl
  cases hlast
  rw [hpc, he, (bracket_call hc).1]
  exact ⟨rfl, rfl⟩

/-! ## Runs from the start of a program -/

variable {program : List UInt8} {random : γ} {dialect : Dialect}

theorem frames_run (h : start program random dialect = .ok i) (actions : List Action) :
    (i.run actions).machine.stack.frames = openCalls (i.brackets actions) := by
  obtain ⟨ram, _, rfl⟩ := exists_of_start h
  rw [frames_run_foldl]
  exact foldl_onFrames [] _

theorem exists_matched (h : start program random dialect = .ok i) {actions : List Action}
    (hr : (i.run actions).bracket? = some .ret) :
    ∃ before between, actions = before ++ .step :: between ∧ i.Matched before between := by
  have hopen : openCalls (i.brackets actions) ≠ [] := by
    obtain ⟨earlier, caller, hf, _⟩ := Interpreter.step_ret hr
    rw [← frames_run h, hf]
    simp
  -- the youngest open call is the one that the return closes
  obtain ⟨earlier, caller, body, hb, hbody⟩ := exists_of_openCalls hopen
  obtain ⟨before, between, rfl, hcall, hl⟩ := exists_of_brackets hb
  exact ⟨before, between, rfl, ⟨caller, hcall⟩, hl ▸ hbody, hr⟩

/-- Calls and returns match like brackets. After any run from the start of a program, the frames are the callers of
the calls that are not returned from. Every return has its call, and goes on behind it with the frames as they were
before it. A call fails exactly if sixteen calls are open, and a return exactly if none is. -/
theorem calls_and_returns_match (h : start program random dialect = .ok i) (actions : List Action) :
    let now := i.run actions
    let callers := openCalls (i.brackets actions)
    now.machine.stack.frames = callers ∧
      (now.bracket? = some .ret →
        ∃ before between, actions = before ++ .step :: between ∧ i.Matched before between) ∧
      (∀ before between, actions = before ++ .step :: between → i.Matched before between →
        now.step.2.machine.pc = (i.run before).machine.pc + 2 ∧
          now.step.2.machine.stack.frames = (i.run before).machine.stack.frames) ∧
      (∀ word, now.machine.fetch = .ok word → word >>> 12 = 2 →
        now.step.1 = if callers.length = 16 then .error (.stackOverflow now.machine.pc) else .ok ()) ∧
      (now.machine.fetch = .ok 0x00ee →
        now.step.1 = if callers = [] then .error (.stackUnderflow now.machine.pc) else .ok ()) := by
  intro now callers
  have hframes : now.machine.stack.frames = callers := frames_run h actions
  refine ⟨hframes, exists_matched h, ?_, ?_, ?_⟩
  · rintro before between rfl hm
    exact hm.step_ret
  · intro word hf hw
    rw [step_call_word hf hw, hframes]
  · intro hf
    rw [step_return_word hf, hframes]

theorem calls_and_returns_match_nested :
    ∃ i : Interpreter Random.Scripted,
      start [0x22, 0x04, 0x12, 0x02, 0x22, 0x08, 0x00, 0xee, 0x00, 0xee] { words := [] } {} = .ok i ∧
      let actions : List Action := [.step, .tick, .step, .setKey 3 true, .step]
      (i.run actions).bracket? = some .ret ∧ openCalls (i.brackets actions) = [0x200] ∧
        (i.run actions).machine.stack.frames = openCalls (i.brackets actions) ∧
        ∃ before between, actions = before ++ .step :: between ∧ i.Matched before between := by
  refine ⟨_, rfl, ?_⟩
  intro actions
  have hstart : start [0x22, 0x04, 0x12, 0x02, 0x22, 0x08, 0x00, 0xee, 0x00, 0xee]
      ({ words := [] } : Random.Scripted) {} = .ok _ := rfl
  have h := calls_and_returns_match hstart actions
  refine ⟨?_, ?_, h.1, h.2.1 ?_⟩ <;> decide +kernel

end Chip8.Interpreter
