/-!
# The keypad

Sixteen keys named by hexadecimal digits, and what a host learns about them at once.
-/

namespace Chip8

abbrev Keys := Vector Bool 16

def Keys.none : Keys :=
  Vector.replicate 16 false

/-- Presses or releases a key; a number without a key changes nothing. -/
def Keys.setKey (keys : Keys) (number : Nat) (down : Bool) : Keys :=
  keys.setIfInBounds number down

/-- Whether the key is down that the lowest hexadecimal digit of a number names. -/
def Keys.isDown (keys : Keys) (number : Nat) : Bool :=
  (keys[number % 16]?).getD false

def Keys.lowest? (keys : Keys) : Option (Fin 16) :=
  (List.finRange 16).find? keys.get

namespace Keys

variable {keys : Keys}

theorem isDown_eq_get (keys : Keys) (number : Nat) :
    keys.isDown number = keys.get ⟨number % 16, Nat.mod_lt _ (by decide)⟩ := by
  simp [isDown, Nat.mod_lt, Vector.get]

theorem lowest?_eq_none_iff : keys.lowest? = Option.none ↔ keys = .none := by
  simp only [lowest?, List.find?_eq_none, List.mem_finRange, forall_const, Bool.not_eq_true]
  constructor
  · intro h
    apply Vector.ext
    intro k hk
    have hup : keys[k] = false := h ⟨k, hk⟩
    rw [hup, none, Vector.getElem_replicate]
  · rintro rfl k
    exact Vector.getElem_replicate ..

theorem lowest?_eq_some_iff {key : Fin 16} :
    keys.lowest? = some key ↔ keys.get key = true ∧ ∀ lower < key, keys.get lower = false := by
  simp only [lowest?, List.find?_eq_some_iff_getElem, List.getElem_finRange, Bool.not_eq_true']
  constructor
  · rintro ⟨hdown, n, hn, rfl, hup⟩
    exact ⟨hdown, fun lower hlt => hup lower hlt⟩
  · rintro ⟨hdown, hup⟩
    exact ⟨hdown, key, by simp, rfl, fun j hj => hup _ hj⟩

end Keys

/-- What a host learns in one look at its input device: the keys that are down, and whether the user wants to
quit. -/
structure KeyReport where
  keys : Keys
  quit : Bool
deriving DecidableEq

namespace KeyReport

/-- Nothing happens. -/
def idle : KeyReport where
  keys := .none
  quit := false

/-- Exactly these keys are down; numbers without a key are passed over. -/
def pressing (numbers : List Nat) : KeyReport where
  keys := numbers.foldl (fun keys number => keys.setKey number true) .none
  quit := false

/-- The user wants to quit. -/
def quitting : KeyReport where
  keys := .none
  quit := true

end KeyReport

end Chip8
