import Chip8.Host.Terminal

/-!
# Presses and held keys

A key is held by its presses alone: how long it stays held is settled by those in the last six looks
(`lt_framesLeft_iff`). So a look tells exactly of the keys pressed in itself and in the five looks before it, and of Esc
in itself (`keys_held_for_six_looks`). A keyboard tells the same of the events that it hands over, whatever was typed
(`poll_keyboardAt`).
-/

namespace Chip8.Terminal

/-! ## What an event does -/

/-- The characters of a keyboard and the keys of the keypad in their places: `1234` over `qwer`, `asdf` and `zxcv`, and
`123C` over `456D`, `789E` and `A0BF`. -/
def places : List (Char × Nat) :=
  [('1', 0x1), ('2', 0x2), ('3', 0x3), ('4', 0xc),
   ('q', 0x4), ('w', 0x5), ('e', 0x6), ('r', 0xd),
   ('a', 0x7), ('s', 0x8), ('d', 0x9), ('f', 0xe),
   ('z', 0xa), ('x', 0x0), ('c', 0xb), ('v', 0xf)]

namespace Event

/-- The event is a character, small or capital, in the place of a key. -/
def Presses (e : Event) (key : Fin 16) : Prop :=
  ∃ c, e = .key (.char c) ∧ (c.toLower, key.val) ∈ places

/-- The event presses no key and does not ask to quit. -/
def Idle (e : Event) : Prop :=
  (∀ key, ¬ e.Presses key) ∧ e ≠ .key .escape

def key? : Event → Option (Fin 16)
  | .key (.char c) => keyOf? c
  | _ => none

end Event

theorem mem_places_iff {c : Char} {key : Fin 16} : (c, key.val) ∈ places ↔ layout.get key = c := by
  have hplace : ∀ key : Fin 16, (layout.get key, key.val) ∈ places := by decide
  have honly : ∀ key : Fin 16, ∀ p ∈ places, p.2 = key.val → layout.get key = p.1 := by decide
  constructor
  · intro h
    exact honly key _ h rfl
  · rintro rfl
    exact hplace key

theorem layout_get_inj {key other : Fin 16} (h : layout.get key = layout.get other) : key = other := by
  revert key other
  decide

theorem keyOf?_eq_some_iff {c : Char} {key : Fin 16} : keyOf? c = some key ↔ layout.get key = c.toLower := by
  simp only [keyOf?, Vector.finIdxOf?, Option.map_eq_some_iff, Array.finIdxOf?_eq_some_iff]
  constructor
  · rintro ⟨k, ⟨hk, -⟩, rfl⟩
    exact hk
  · intro h
    refine ⟨Fin.cast layout.size_toArray.symm key, ⟨h, ?_⟩, rfl⟩
    intro j hj hsame
    have heq : key = Fin.cast layout.size_toArray j := layout_get_inj (h.trans hsame.symm)
    rw [heq] at hj
    exact absurd hj (Nat.lt_irrefl _)

theorem presses_iff {e : Event} {key : Fin 16} : e.Presses key ↔ e.key? = some key := by
  constructor
  · rintro ⟨c, rfl, hc⟩
    exact keyOf?_eq_some_iff.2 (mem_places_iff.1 hc)
  · intro h
    cases e with
    | key k =>
      cases k with
      | char c => exact ⟨c, rfl, mem_places_iff.2 (keyOf?_eq_some_iff.1 h)⟩
      | _ => cases h
    | _ => cases h

instance (e : Event) (key : Fin 16) : Decidable (e.Presses key) :=
  decidable_of_iff _ presses_iff.symm

instance (e : Event) : Decidable e.Idle :=
  inferInstanceAs (Decidable (_ ∧ _))

/-! ## One look -/

theorem framesLeft_press (held : HeldKeys) (pressed key : Fin 16) :
    (held.press pressed).framesLeft.get key = if pressed = key then holdFrames else held.framesLeft.get key := by
  simp only [Fin.ext_iff]
  exact Vector.getElem_setIfInBounds key.isLt

theorem see_char (look : Look) (c : Char) : look.see (.key (.char c)) = (keyOf? c).elim look look.press := rfl

theorem framesLeft_see (look : Look) (e : Event) (key : Fin 16) :
    (look.see e).held.framesLeft.get key = if e.key? = some key then holdFrames else look.held.framesLeft.get key := by
  cases e with
  | key k =>
    cases k with
    | char c =>
      rw [see_char, Event.key?]
      cases keyOf? c with
      | none => rfl
      | some pressed => simp [Look.press, framesLeft_press]
    | _ => rfl
  | _ => rfl

theorem quit_see_of_ne {e : Event} (look : Look) (h : e ≠ .key .escape) : (look.see e).quit = look.quit := by
  cases e with
  | key k =>
    cases k with
    | char c =>
      rw [see_char]
      cases keyOf? c <;> rfl
    | escape => exact absurd rfl h
    | _ => rfl
  | _ => rfl

theorem quit_see (look : Look) (e : Event) : (look.see e).quit = true ↔ e = .key .escape ∨ look.quit = true := by
  by_cases h : e = .key .escape
  · subst h
    exact iff_of_true rfl (.inl rfl)
  · rw [quit_see_of_ne look h, or_iff_right h]

theorem framesLeft_foldl_see (look : Look) (events : List Event) (key : Fin 16) :
    (events.foldl Look.see look).held.framesLeft.get key =
      if ∃ e ∈ events, e.key? = some key then holdFrames else look.held.framesLeft.get key := by
  induction events generalizing look with
  | nil => simp
  | cons e rest ih =>
    rw [List.foldl_cons, ih, framesLeft_see]
    by_cases hlater : ∃ e ∈ rest, e.key? = some key
    · simp [hlater]
    · by_cases hnow : e.key? = some key <;> simp [hlater, hnow]

theorem quit_foldl_see (look : Look) (events : List Event) :
    (events.foldl Look.see look).quit = true ↔ .key .escape ∈ events ∨ look.quit = true := by
  induction events generalizing look with
  | nil => simp
  | cons e rest ih => rw [List.foldl_cons, ih, quit_see, List.mem_cons, or_left_comm, or_assoc, eq_comm]

/-- A look starts the countdown of the keys that are pressed in it, and lets that of the others go on. -/
theorem framesLeft_look (held : HeldKeys) (events : List Event) (key : Fin 16) :
    (held.look events).held.framesLeft.get key =
      if ∃ e ∈ events, e.key? = some key then holdFrames else held.framesLeft.get key - 1 := by
  have hadvance : held.advance.framesLeft.get key = held.framesLeft.get key - 1 := Vector.getElem_map ..
  rw [HeldKeys.look, framesLeft_foldl_see, hadvance]

theorem isDown_iff (held : HeldKeys) (key : Fin 16) : held.keys.get key = true ↔ 0 < held.framesLeft.get key := by
  have hkeys : held.keys.get key = decide (0 < held.framesLeft.get key) := Vector.getElem_map ..
  rw [hkeys, decide_eq_true_iff]

/-! ## Sessions -/

/-- The held keys before a look of a session in which look `q` sees the events `looks q`, counted from 0. -/
def heldBefore (looks : Nat → List Event) : Nat → HeldKeys
  | 0 => .none
  | p + 1 => ((heldBefore looks p).look (looks p)).held

/-- What a look of a session tells. -/
def reportAt (looks : Nat → List Event) (p : Nat) : KeyReport :=
  report (heldBefore looks p) (looks p)

section Session

variable {looks other : Nat → List Event} {key : Fin 16} {p : Nat}

/-- A key is held for more than `n` looks after look `p` exactly if it was pressed late enough. -/
theorem lt_framesLeft_iff (n : Nat) :
    n < (heldBefore looks (p + 1)).framesLeft.get key ↔
      ∃ q, q ≤ p ∧ p + n < q + holdFrames ∧ ∃ e ∈ looks q, e.Presses key := by
  have hlook : ∀ p, (heldBefore looks (p + 1)).framesLeft.get key =
      if ∃ e ∈ looks p, e.key? = some key then holdFrames else (heldBefore looks p).framesLeft.get key - 1 :=
    fun p => framesLeft_look ..
  simp only [presses_iff]
  -- a press in the last look starts the countdown anew; without one, `n` more looks were `n + 1` a look before
  induction p generalizing n with
  | zero =>
    have hnone : (heldBefore looks 0).framesLeft.get key = 0 := Vector.getElem_replicate ..
    rw [hlook, hnone]
    split
    · rename_i hpressed
      constructor
      · intro hn
        exact ⟨0, Nat.le_refl 0, by omega, hpressed⟩
      · rintro ⟨q, hq, hn, _⟩
        omega
    · rename_i hpressed
      constructor
      · intro hn
        omega
      · rintro ⟨q, hq, _, he⟩
        obtain rfl : q = 0 := by omega
        exact absurd he hpressed
  | succ p ih =>
    rw [hlook]
    split
    · rename_i hpressed
      constructor
      · intro hn
        exact ⟨p + 1, Nat.le_refl _, by omega, hpressed⟩
      · rintro ⟨q, hq, hn, _⟩
        omega
    · rename_i hpressed
      have hless : n < (heldBefore looks (p + 1)).framesLeft.get key - 1 ↔
          n + 1 < (heldBefore looks (p + 1)).framesLeft.get key := by omega
      refine hless.trans ((ih (n + 1)).trans ?_)
      constructor
      · rintro ⟨q, hq, hn, he⟩
        exact ⟨q, by omega, by omega, he⟩
      · rintro ⟨q, hq, hn, he⟩
        have hne : q ≠ p + 1 := by
          rintro rfl
          exact hpressed he
        exact ⟨q, by omega, by omega, he⟩

theorem down_iff :
    (reportAt looks p).keys.get key = true ↔ ∃ q, q ≤ p ∧ p < q + 6 ∧ ∃ e ∈ looks q, e.Presses key :=
  (isDown_iff (heldBefore looks (p + 1)) key).trans (lt_framesLeft_iff 0)

theorem quit_iff : (reportAt looks p).quit = true ↔ .key .escape ∈ looks p :=
  (quit_foldl_see ..).trans (or_iff_left Bool.noConfusion)

theorem down_congr (h : ∀ q ≤ p, ∀ e : Event, e.Presses key → (e ∈ other q ↔ e ∈ looks q)) :
    (reportAt other p).keys.get key = (reportAt looks p).keys.get key := by
  rw [Bool.eq_iff_iff, down_iff, down_iff]
  constructor
  · rintro ⟨q, hq, hn, e, he, hp⟩
    exact ⟨q, hq, hn, e, (h q hq e hp).1 he, hp⟩
  · rintro ⟨q, hq, hn, e, he, hp⟩
    exact ⟨q, hq, hn, e, (h q hq e hp).2 he, hp⟩

theorem report_congr (h : ∀ q ≤ p, ∀ e : Event, ¬ e.Idle → (e ∈ other q ↔ e ∈ looks q)) :
    reportAt other p = reportAt looks p := by
  have hkeys : (reportAt other p).keys = (reportAt looks p).keys := by
    have hkey : ∀ key, (reportAt other p).keys.get key = (reportAt looks p).keys.get key :=
      fun _ => down_congr fun q hq e hp => h q hq e fun hidle => hidle.1 _ hp
    exact Vector.ext fun k hk => hkey ⟨k, hk⟩
  have hquit : (reportAt other p).quit = (reportAt looks p).quit := by
    rw [Bool.eq_iff_iff, quit_iff, quit_iff]
    exact h p (Nat.le_refl p) _ fun hidle => hidle.2 rfl
  calc reportAt other p
      = ⟨(reportAt other p).keys, (reportAt other p).quit⟩ := rfl
    _ = ⟨(reportAt looks p).keys, (reportAt looks p).quit⟩ := by rw [hkeys, hquit]
    _ = reportAt looks p := rfl

end Session

/-- On a session from the start on, look `p` tells that a key is down exactly if a character in its place was among the
events of one of the looks `p - 5` to `p`, and that the user wants to quit exactly if Esc was among those of look `p`.
Events that are neither change no report, in whatever order and number they come, and a key is not changed by the
presses of other keys. -/
theorem keys_held_for_six_looks (looks : Nat → List Event) (p : Nat) :
    (∀ key, (reportAt looks p).keys.get key = true ↔ ∃ q, q ≤ p ∧ p < q + 6 ∧ ∃ e ∈ looks q, e.Presses key) ∧
    ((reportAt looks p).quit = true ↔ .key .escape ∈ looks p) ∧
    (∀ other : Nat → List Event, (∀ q ≤ p, ∀ e : Event, ¬ e.Idle → (e ∈ other q ↔ e ∈ looks q)) →
      reportAt other p = reportAt looks p) ∧
    ∀ (key : Fin 16) (other : Nat → List Event),
      (∀ q ≤ p, ∀ e : Event, e.Presses key → (e ∈ other q ↔ e ∈ looks q)) →
      (reportAt other p).keys.get key = (reportAt looks p).keys.get key :=
  ⟨fun _ => down_iff, quit_iff, fun _ => report_congr, fun _ _ => down_congr⟩

/-- A capital letter and an arrow come in the first look. Key 4 is down up to look 5, also if there are more events that
do not matter. -/
theorem keys_held_for_six_looks_capital :
    let looks : Nat → List Event := fun q => if q = 0 then [.key (.char 'Q'), .key .up] else []
    let other : Nat → List Event := fun q =>
      if q = 0 then [.resize 80 24, .key (.char 'Q'), .key (.char 'Q')] else [.key .enter]
    let key : Fin 16 := ⟨4, by decide⟩
    (reportAt looks 5).keys.get key = true ∧ (reportAt looks 6).keys.get key = false ∧
      reportAt other 5 = reportAt looks 5 := by
  intro looks other key
  obtain ⟨hdown, _, hother, _⟩ := keys_held_for_six_looks looks 5
  obtain ⟨hlater, _⟩ := keys_held_for_six_looks looks 6
  refine ⟨?_, ?_, ?_⟩
  · exact (hdown key).2 ⟨0, by decide, by decide, .key (.char 'Q'), by decide, by decide +kernel⟩
  · rw [Bool.eq_false_iff]
    intro h
    obtain ⟨q, _, hq, e, he, _⟩ := (hlater key).1 h
    have hne : q ≠ 0 := by omega
    simp [looks, hne] at he
  · apply hother
    intro q _ e he
    have hresize : e ≠ .resize 80 24 := by rintro rfl; exact he (by decide)
    have hup : e ≠ .key .up := by rintro rfl; exact he (by decide)
    have henter : e ≠ .key .enter := by rintro rfl; exact he (by decide)
    by_cases hq : q = 0 <;> simp [other, looks, hq, hresize, hup, henter]

/-! ## Typed bytes -/

/-- The keyboard at a look of a session in which `typed q` is typed before look `q`. -/
def keyboardAt (typed : Nat → List UInt8) : Nat → Keyboard
  | 0 => Keyboard.silent.type (typed 0)
  | p + 1 => (keyboardAt typed p).look.type (typed (p + 1))

/-- A keyboard polls the reports of the events that its looks are handed. -/
theorem poll_keyboardAt (typed : Nat → List UInt8) (p : Nat) :
    (Host.InputDevice.poll (keyboardAt typed p)).result = .ok (reportAt (fun q => (keyboardAt typed q).waiting) p) := by
  have hheld (q : Nat) : (keyboardAt typed q).held = heldBefore (fun q => (keyboardAt typed q).waiting) q := by
    induction q with
    | zero => rfl
    | succ q ih => exact congrArg (fun held => (held.look (keyboardAt typed q).waiting).held) ih
  exact congrArg (fun held => Except.ok (report held (keyboardAt typed p).waiting)) (hheld p)

end Chip8.Terminal
