import Chip8.CallStack

/-!
# The call stack as a bounded list

Sixteen slots and a counter stand for the list of their occupied frames. One operation answers on the slots as it does on
the list, and leaves slots that stand for what it leaves of the list (`act_eq_actOn`). So no session tells the two apart
(`session_eq`), whatever earlier pops left in the slots above the counter.
-/

namespace Chip8.CallStack

inductive Operation
  | push (address : UInt16)
  | pop
deriving DecidableEq, Repr

inductive Answer
  | pushed
  | popped (address : UInt16)
  | refused
deriving DecidableEq, Repr

/-- What can be seen of a stack between operations. -/
structure View where
  depth : Nat
  isEmpty : Bool
  isFull : Bool
  frames : List UInt16
deriving DecidableEq, Repr

/-! ## Sessions -/

section Sessions

variable {σ τ : Type}

/-- The answers to operations in order, each with what is seen after it. A refused operation does not end them. -/
def session (act : σ → Operation → Answer × σ) (view : σ → View) (s : σ) : List Operation → List (Answer × View)
  | [] => []
  | operation :: rest =>
    ((act s operation).1, view (act s operation).2) :: session act view (act s operation).2 rest

/-- A map that single operations and looks do not notice is not noticed in any session. -/
theorem session_map {act : σ → Operation → Answer × σ} {view : σ → View} {actOn : τ → Operation → Answer × τ}
    {viewOf : τ → View} (f : σ → τ)
    (hact : ∀ s operation, actOn (f s) operation = ((act s operation).1, f (act s operation).2))
    (hview : ∀ s, view s = viewOf (f s)) (s : σ) (operations : List Operation) :
    session act view s operations = session actOn viewOf (f s) operations := by
  induction operations generalizing s with
  | nil => rfl
  | cons operation rest ih => rw [session, session, hact, ih, hview]

end Sessions

/-! ## On slots -/

/-- The answer to an operation, and the stack that it leaves. -/
def act (s : CallStack) : Operation → Answer × CallStack
  | .push address =>
    match s.push address with
    | some after => (.pushed, after)
    | none => (.refused, s)
  | .pop =>
    match s.pop with
    | some (address, after) => (.popped address, after)
    | none => (.refused, s)

def view (s : CallStack) : View where
  depth := s.depth
  isEmpty := s.isEmpty
  isFull := s.isFull
  frames := s.frames

/-- The stack after operations in order. -/
def perform (s : CallStack) (operations : List Operation) : CallStack :=
  operations.foldl (fun s operation => (s.act operation).2) s

/-! ## On a list -/

/-- The answer to an operation on a list of frames, oldest first, and the list that it leaves: a push adds an entry if
there are fewer than sixteen, and a pop takes the last entry if there is one. -/
def actOn (frames : List UInt16) : Operation → Answer × List UInt16
  | .push address => if frames.length < 16 then (.pushed, frames ++ [address]) else (.refused, frames)
  | .pop =>
    match frames.getLast? with
    | some address => (.popped address, frames.dropLast)
    | none => (.refused, frames)

def viewOf (frames : List UInt16) : View where
  depth := frames.length
  isEmpty := frames.length = 0
  isFull := frames.length = 16
  frames := frames

/-! ## One operation -/

variable {s after : CallStack} {address : UInt16}

theorem length_frames_le (s : CallStack) : s.frames.length ≤ 16 := by
  rw [length_frames]
  exact s.depth_le

theorem actOn_pop_concat (frames : List UInt16) (address : UInt16) :
    actOn (frames ++ [address]) .pop = (.popped address, frames) := by
  rw [actOn, List.getLast?_concat, List.dropLast_concat]

theorem act_eq_actOn (s : CallStack) (operation : Operation) :
    actOn s.frames operation = ((s.act operation).1, (s.act operation).2.frames) := by
  cases operation with
  | push address =>
    cases h : s.push address with
    | none =>
      have hfull : ¬ s.frames.length < 16 := by rw [push_eq_none_iff.1 h]; decide
      simp only [actOn, act, h, if_neg hfull]
    | some after =>
      have hroom : s.frames.length < 16 :=
        Nat.lt_of_le_of_ne s.length_frames_le fun hfull => by simp [push_eq_none_iff.2 hfull] at h
      simp only [actOn, act, h, if_pos hroom, frames_push h]
  | pop =>
    cases h : s.pop with
    | none => simp only [act, h, pop_eq_none_iff.1 h]; rfl
    | some popped => rw [frames_pop h, actOn_pop_concat]; simp only [act, h]

theorem view_eq_viewOf (s : CallStack) : s.view = viewOf s.frames := by
  rw [view, viewOf, length_frames]
  rfl

/-- A push writes the slot above the occupied ones. -/
theorem slots_push (h : s.push address = some after) :
    s.frames.length < 16 ∧ after.slots[s.frames.length]? = some address ∧
      ∀ k, k ≠ s.frames.length → after.slots[k]? = s.slots[k]? := by
  simp only [push, Option.dite_none_right_eq_some, Option.some.injEq] at h
  obtain ⟨hroom, rfl⟩ := h
  rw [length_frames]
  refine ⟨hroom, Vector.getElem?_set_self hroom, fun k hk => Vector.getElem?_set_ne hroom hk.symm⟩

/-- A pop reads the highest occupied slot. -/
theorem slots_pop (h : s.pop = some (address, after)) :
    s.slots[s.frames.length - 1]? = some address ∧ after.slots = s.slots := by
  have hdepth := s.depth_le
  simp only [pop, Option.dite_none_right_eq_some, Option.some.injEq, Prod.mk.injEq] at h
  obtain ⟨hoccupied, rfl, rfl⟩ := h
  rw [length_frames]
  exact ⟨Vector.getElem?_eq_getElem _, rfl⟩

/-- A frame is read from the slot with its number. -/
theorem getElem?_frames (s : CallStack) {k : Nat} (hk : k < s.frames.length) : s.slots[k]? = s.frames[k]? := by
  rw [length_frames] at hk
  rw [frames, List.getElem?_take_of_lt hk, Vector.getElem?_toList]

/-! ## Operations in order -/

theorem session_eq (s : CallStack) (operations : List Operation) :
    session act view s operations = session actOn viewOf s.frames operations :=
  session_map frames act_eq_actOn view_eq_viewOf s operations

/-- A new stack is a list of at most sixteen addresses: operations in any order answer alike on both, and both look alike
after each of them. After any operations a stack with the same frames cannot be told from it, whatever its other slots
hold. A frame is read from the slot with its number; a push writes the slot behind the last frame, and a pop reads that of
the last frame; all of them lie among the sixteen, and no other slot changes. -/
theorem stack_is_bounded_list (operations : List Operation) :
    session act view empty operations = session actOn viewOf [] operations ∧
    let now := empty.perform operations
    let length := now.frames.length
    length ≤ 16 ∧
      (∀ other : CallStack, other.frames = now.frames → ∀ more,
        session act view other more = session act view now more) ∧
      (∀ k < length, now.slots[k]? = now.frames[k]?) ∧
      (∀ address after, now.push address = some after →
        length < 16 ∧ after.slots[length]? = some address ∧ ∀ k, k ≠ length → after.slots[k]? = now.slots[k]?) ∧
      ∀ address after, now.pop = some (address, after) →
        now.slots[length - 1]? = some address ∧ after.slots = now.slots := by
  refine ⟨session_eq empty operations, ?_⟩
  intro now length
  refine ⟨now.length_frames_le, ?_, fun k => now.getElem?_frames, fun _ _ => slots_push, fun _ _ => slots_pop⟩
  intro other hsame more
  rw [session_eq, session_eq, hsame]

/-- Of seventeen pushes the last is refused, and the pop leaves an address in the sixteenth slot. -/
theorem stack_is_bounded_list_left_over :
    let now := empty.perform (List.replicate 17 (.push 0x2fe) ++ [.pop])
    let other := empty.perform (List.replicate 15 (.push 0x2fe))
    now.frames.length = 15 ∧ other ≠ now ∧ other.frames = now.frames ∧
      session act view other [.push 0x300, .push 0x302, .pop] = session act view now [.push 0x300, .push 0x302, .pop] ∧
      now.slots[14]? = now.frames[14]? ∧
      (∃ after, now.push 0x300 = some after ∧ after.slots[15]? = some 0x300) ∧
      ∃ after, now.pop = some (0x2fe, after) ∧ now.slots[14]? = some 0x2fe ∧ after.slots = now.slots := by
  intro now other
  obtain ⟨-, -, hother, hframe, hpush, hpop⟩ :=
    stack_is_bounded_list (List.replicate 17 (.push 0x2fe) ++ [.pop])
  have hlength : now.frames.length = 15 := by decide +kernel
  have hsame : other.frames = now.frames := by decide +kernel
  obtain ⟨pushed, hpushed⟩ : ∃ after, now.push 0x300 = some after := Option.isSome_iff_exists.1 (by decide +kernel)
  obtain ⟨popped, hpopped⟩ : ∃ after, now.pop = some (0x2fe, after) := ⟨_, rfl⟩
  have hwritten := (hpush 0x300 pushed hpushed).2.1
  have hread := hpop 0x2fe popped hpopped
  rw [hlength] at hwritten hread
  exact ⟨hlength, by decide +kernel, hsame, hother other hsame _, hframe 14 (by rw [hlength]; decide),
    ⟨pushed, hpushed, hwritten⟩, popped, hpopped, hread⟩

end Chip8.CallStack
