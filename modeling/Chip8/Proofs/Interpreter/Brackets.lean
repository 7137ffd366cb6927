/-!
# Calls and returns as brackets

A call opens a bracket and a return closes the youngest open one. `Balanced` says what whole calls are, and
`openCalls` lists the calls that no return closes. A list that grows with every call and loses its last entry with
every return is the list of open calls (`foldl_onFrames`).
-/

namespace Chip8

/-- A call, with the address of the calling instruction, or a return. -/
inductive Bracket
  | call (caller : UInt16)
  | ret
deriving DecidableEq, Repr

/-- Whole calls, one after the other: each is followed by whole calls and then by its return. -/
inductive Balanced : List Bracket → Prop
  | nil : Balanced []
  | call (caller : UInt16) {body rest : List Bracket} : Balanced body → Balanced rest →
      Balanced (.call caller :: body ++ .ret :: rest)

/-- A call that is followed by `later` is returned from: its return comes behind whole calls. -/
def Returned (later : List Bracket) : Prop :=
  ∃ body rest, later = body ++ .ret :: rest ∧ Balanced body

/-- The number of returns that close a call before the list. -/
def surplus : List Bracket → Nat
  | [] => 0
  | .call _ :: later => surplus later - 1
  | .ret :: later => surplus later + 1

theorem surplus_balanced {body : List Bracket} (hb : Balanced body) (later : List Bracket) :
    surplus (body ++ later) = surplus later := by
  induction hb generalizing later with
  | nil => rfl
  | call caller _ _ ihb ihr =>
    simp only [List.cons_append, List.append_assoc, surplus, ihb, ihr, Nat.add_sub_cancel]

theorem exists_of_surplus {later : List Bracket} (h : 0 < surplus later) :
    ∃ body rest, later = body ++ .ret :: rest ∧ Balanced body ∧ surplus later = surplus rest + 1 := by
  match later with
  | [] => simp [surplus] at h
  | .ret :: rest => exact ⟨[], rest, rfl, .nil, rfl⟩
  | .call caller :: rest =>
    simp only [surplus] at h
    have hpos : 0 < surplus rest := by omega
    obtain ⟨body, tail, hl, hb, hs⟩ := exists_of_surplus hpos
    have hlt : tail.length < rest.length := by simp [hl]; omega
    have htail : 0 < surplus tail := by omega
    obtain ⟨body', rest', rfl, hb', hs'⟩ := exists_of_surplus htail
    refine ⟨.call caller :: body ++ .ret :: body', rest', by simp [hl], .call caller hb hb', ?_⟩
    simp only [surplus]
    omega
termination_by later.length
decreasing_by all_goals simp; try omega

theorem returned_iff (later : List Bracket) : Returned later ↔ 0 < surplus later := by
  constructor
  · rintro ⟨body, rest, rfl, hb⟩
    rw [surplus_balanced hb]
    exact Nat.succ_pos _
  · intro h
    obtain ⟨body, rest, hl, hb, _⟩ := exists_of_surplus h
    exact ⟨body, rest, hl, hb⟩

instance (later : List Bracket) : Decidable (Returned later) :=
  decidable_of_iff _ (returned_iff later).symm

/-- The callers of the calls that are not returned from, oldest first. -/
def openCalls : List Bracket → List UInt16
  | [] => []
  | .call caller :: later => if Returned later then openCalls later else caller :: openCalls later
  | .ret :: later => openCalls later

/-! ## Open calls after one more bracket -/

theorem surplus_append_call (earlier : List Bracket) (caller : UInt16) :
    surplus (earlier ++ [.call caller]) = surplus earlier := by
  induction earlier with
  | nil => rfl
  | cons b rest ih => cases b <;> simp only [List.cons_append, surplus, ih]

theorem openCalls_append_call (earlier : List Bracket) (caller : UInt16) :
    openCalls (earlier ++ [.call caller]) = openCalls earlier ++ [caller] := by
  induction earlier with
  | nil => simp [openCalls, returned_iff, surplus]
  | cons b rest ih =>
    cases b with
    | ret => simpa only [List.cons_append, openCalls] using ih
    | call other =>
      simp only [List.cons_append, openCalls, returned_iff, surplus_append_call, ih]
      split <;> rfl

theorem surplus_append_ret (earlier : List Bracket) :
    surplus (earlier ++ [.ret]) = if openCalls earlier = [] then surplus earlier + 1 else surplus earlier := by
  induction earlier with
  | nil => rfl
  | cons b rest ih =>
    cases b with
    | ret =>
      simp only [List.cons_append, openCalls, surplus, ih]
      by_cases ho : openCalls rest = [] <;> simp [ho]
    | call other =>
      simp only [List.cons_append, openCalls, surplus, ih, returned_iff]
      by_cases hr : 0 < surplus rest <;> by_cases ho : openCalls rest = [] <;> simp [hr, ho] <;> omega

theorem openCalls_append_ret (earlier : List Bracket) :
    openCalls (earlier ++ [.ret]) = (openCalls earlier).dropLast := by
  induction earlier with
  | nil => rfl
  | cons b rest ih =>
    cases b with
    | ret => simpa only [List.cons_append, openCalls] using ih
    | call other =>
      simp only [List.cons_append, openCalls, returned_iff, surplus_append_ret, ih]
      by_cases hr : 0 < surplus rest <;> by_cases ho : openCalls rest = []
      · simp [hr, ho]
      · simp [hr, ho]
      · simp [hr, ho]
      · simp [hr, ho, List.dropLast_cons_of_ne_nil]

/-- What a bracket does to a list of frames: a call adds its caller, a return takes the last. -/
def Bracket.onFrames (frames : List UInt16) : Bracket → List UInt16
  | .call caller => frames ++ [caller]
  | .ret => frames.dropLast

theorem openCalls_append_one (earlier : List Bracket) (b : Bracket) :
    openCalls (earlier ++ [b]) = Bracket.onFrames (openCalls earlier) b := by
  cases b with
  | call caller => exact openCalls_append_call earlier caller
  | ret => exact openCalls_append_ret earlier

theorem foldl_onFrames (earlier later : List Bracket) :
    later.foldl Bracket.onFrames (openCalls earlier) = openCalls (earlier ++ later) := by
  induction later generalizing earlier with
  | nil => simp
  | cons b rest ih =>
    rw [List.foldl_cons, ← openCalls_append_one, ih (earlier ++ [b]), List.append_assoc, List.singleton_append]

theorem foldl_onFrames_balanced {body : List Bracket} (hb : Balanced body) (frames : List UInt16) :
    body.foldl Bracket.onFrames frames = frames := by
  induction hb generalizing frames with
  | nil => rfl
  | call caller _ _ ihb ihr =>
    simp only [List.cons_append, List.foldl_cons, List.foldl_append, Bracket.onFrames, ihb, ihr,
      List.dropLast_concat]

/-! ## The youngest open call -/

theorem openCalls_balanced {body : List Bracket} (hb : Balanced body) (later : List Bracket) :
    openCalls (body ++ later) = openCalls later := by
  induction hb generalizing later with
  | nil => rfl
  | @call caller body rest hb _ ihb ihr =>
    have hr : Returned (body ++ .ret :: (rest ++ later)) := ⟨body, rest ++ later, rfl, hb⟩
    simp only [List.cons_append, List.append_assoc, openCalls, hr, if_true, ihb, ihr]

theorem balanced_of_openCalls {brackets : List Bracket} (ho : openCalls brackets = [])
    (hs : surplus brackets = 0) : Balanced brackets := by
  match brackets with
  | [] => exact .nil
  | .ret :: rest => simp [surplus] at hs
  | .call caller :: rest =>
    by_cases hr : Returned rest
    · simp only [openCalls, hr, if_true] at ho
      simp only [surplus] at hs
      obtain ⟨body, tail, hl, hb, ht⟩ := exists_of_surplus ((returned_iff rest).1 hr)
      have hlt : tail.length < rest.length := by simp [hl]; omega
      rw [hl, openCalls_balanced hb] at ho
      rw [hl]
      exact .call caller hb (balanced_of_openCalls ho (by omega))
    · simp [openCalls, hr] at ho
termination_by brackets.length
decreasing_by simp; omega

theorem exists_of_openCalls {brackets : List Bracket} (h : openCalls brackets ≠ []) :
    ∃ earlier caller body, brackets = earlier ++ .call caller :: body ∧ Balanced body := by
  induction brackets with
  | nil => exact absurd rfl h
  | cons b rest ih =>
    by_cases hr : openCalls rest = []
    · cases b with
      | ret => exact absurd hr h
      | call caller =>
        have hs : ¬ Returned rest := fun hs => h (by simp [openCalls, hs, hr])
        rw [returned_iff] at hs
        exact ⟨[], caller, rest, rfl, balanced_of_openCalls hr (by omega)⟩
    · obtain ⟨earlier, caller, body, rfl, hb⟩ := ih hr
      exact ⟨b :: earlier, caller, body, rfl, hb⟩

end Chip8
