/-!
# The call stack

Return addresses, at most sixteen. The slots above the depth keep whatever was popped from them and are not part
of the stack: `frames` shows the occupied ones. A push onto a full stack and a pop from an empty one are refused.
-/

namespace Chip8

/-- Sixteen slots of which the lowest `depth` are occupied. -/
structure CallStack where
  slots : Vector UInt16 16
  depth : Nat
  depth_le : depth ≤ 16 := by omega
deriving DecidableEq

namespace CallStack

/-- The stack without frames. -/
def empty : CallStack where
  slots := Vector.replicate 16 0
  depth := 0

/-- The occupied frames, oldest first. -/
def frames (s : CallStack) : List UInt16 :=
  s.slots.toList.take s.depth

def isEmpty (s : CallStack) : Bool :=
  s.depth == 0

def isFull (s : CallStack) : Bool :=
  s.depth == 16

/-- Adds a frame, if there is room. -/
def push (s : CallStack) (address : UInt16) : Option CallStack :=
  if h : s.depth < 16 then
    some { slots := s.slots.set s.depth address, depth := s.depth + 1 }
  else none

/-- Takes the youngest frame, if there is one. -/
def pop (s : CallStack) : Option (UInt16 × CallStack) :=
  if h : 0 < s.depth then
    have := s.depth_le
    some (s.slots[s.depth - 1], { slots := s.slots, depth := s.depth - 1 })
  else none

@[simp] theorem length_frames (s : CallStack) : s.frames.length = s.depth := by
  simp [frames, s.depth_le]

@[simp] theorem frames_empty : empty.frames = [] := rfl

/-- A push is refused exactly at sixteen frames. -/
theorem push_eq_none_iff {s : CallStack} {a : UInt16} : s.push a = none ↔ s.frames.length = 16 := by
  have := s.depth_le
  simp [push]
  omega

/-- A push adds the youngest frame. -/
theorem frames_push {s t : CallStack} {a : UInt16} (h : s.push a = some t) : t.frames = s.frames ++ [a] := by
  simp only [push, Option.dite_none_right_eq_some, Option.some.injEq] at h
  obtain ⟨hd, rfl⟩ := h
  simp [frames, Vector.toList_set, List.take_add_one, hd, List.take_set_of_le]

/-- A pop is refused exactly without frames. -/
theorem pop_eq_none_iff {s : CallStack} : s.pop = none ↔ s.frames = [] := by
  rw [← List.length_eq_zero_iff, length_frames]
  simp [pop]

/-- A pop takes the youngest frame. -/
theorem frames_pop {s t : CallStack} {a : UInt16} (h : s.pop = some (a, t)) : s.frames = t.frames ++ [a] := by
  have := s.depth_le
  simp only [pop, Option.dite_none_right_eq_some, Option.some.injEq, Prod.mk.injEq] at h
  obtain ⟨hd, rfl, rfl⟩ := h
  obtain ⟨n, hn⟩ : ∃ n, s.depth = n + 1 := ⟨s.depth - 1, by omega⟩
  simp [frames, hn, List.take_add_one]

end CallStack

end Chip8
