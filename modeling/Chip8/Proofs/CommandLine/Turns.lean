import Chip8.CommandLine.Session
import Chip8.Proofs.Host.SideBySide

/-!
# Turns of a session

A program that goes from turn to turn, that types what arrives before each of them and writes the lines of each as it
goes (`playTurns`), plays the loop of a host whose keyboard is typed on between the looks (`playTurns_eq`). If everything
is typed at first, that is the loop of a host with the keyboard alone (`playTurns_typed_at_first`).
-/

namespace Chip8.CommandLine

open Host Terminal

/-- A keyboard that somebody types on: what is typed before the next look, before the one after it, and so on. -/
structure Attended where
  keyboard : Keyboard
  arrivals : Nat → List UInt8

namespace Attended

/-- The keyboard as the next look finds it. -/
def ready (a : Attended) : Keyboard :=
  a.keyboard.type (a.arrivals 0)

instance : InputDevice Attended where
  poll a :=
    let polled := InputDevice.poll a.ready
    { result := polled.result
      log := polled.log
      after := { keyboard := polled.after, arrivals := fun n => a.arrivals (n + 1) } }

end Attended

variable {σ : Type} [Speaker σ] {filter : Log.Filter} {arrivals : Nat → List UInt8}

/-- Plays turn by turn, for at most `fuel` more turns after the first. -/
def playTurns (filter : Log.Filter) (fuel : Nat) (arrivals : Nat → List UInt8) (now : Playing σ) : Option Outcome :=
  match playTurn filter (arrivals 0) now, fuel with
  | (lines, .inl outcome), _ => some (outcome.after lines)
  | (_, .inr _), 0 => none
  | (lines, .inr later), fuel + 1 => (playTurns filter fuel (fun n => arrivals (n + 1)) later).map (.after lines)

/-- The same host with its keyboard typed on. -/
def attend (host : Host Random.Seeded Viewer Keyboard σ) (arrivals : Nat → List UInt8) :
    Host Random.Seeded Viewer Attended σ :=
  { host with input := { keyboard := host.input, arrivals } }

/-! ## Lines -/

/-- The lines of what a host noted. -/
def linesOf {ι : Type} (filter : Log.Filter) (host : Host Random.Seeded Viewer ι σ) : List String :=
  logLines filter (recordsOf host.history)

/-- What a session leaves whose loop was concluded like this. -/
def outcomeOf {ι : Type} (filter : Log.Filter) (concluded : Concluded Random.Seeded Viewer ι σ) : Outcome :=
  (Outcome.ofResult concluded.1).after (linesOf filter concluded.2)

theorem Outcome.after_after (o : Outcome) (first second : List String) :
    (o.after second).after first = o.after (first ++ second) := by
  simp only [after, List.append_assoc]

/-! ## One turn -/

/-- An attended keyboard that is this one now, before it is typed on. -/
def Attended.Is (arrivals : Nat → List UInt8) (a : Attended) (k : Keyboard) : Prop :=
  a.keyboard = k ∧ a.arrivals = arrivals

/-- An attended keyboard that is this one after it was typed on. -/
def Attended.IsTyped (arrivals : Nat → List UInt8) (a : Attended) (k : Keyboard) : Prop :=
  a.ready = k ∧ a.arrivals = arrivals

theorem polls_typed (arrivals : Nat → List UInt8) :
    PollsAlike (Attended.IsTyped arrivals) (Attended.Is fun n => arrivals (n + 1)) := by
  rintro a _ ⟨rfl, rfl⟩
  exact ⟨rfl, rfl, rfl, rfl⟩

theorem draws_same {δ : Type} [Display δ] : DrawsAlike (id : δ → δ) :=
  fun _ _ => rfl

variable {earlier : List Entry} {noted : Running Random.Seeded Viewer Attended σ} {now : Playing σ}

omit [Speaker σ] in
theorem linesOf_of_beside {ι ι' : Type} {alike : ι → ι' → Prop} {h : Host Random.Seeded Viewer ι σ}
    {g : Host Random.Seeded Viewer ι' σ} (hb : Beside id alike earlier h g) :
    linesOf filter h = logLines filter (recordsOf earlier) ++ linesOf filter g := by
  simp only [linesOf, hb.history, recordsOf, logLines, List.filterMap_append, List.filter_append, List.map_append]

omit [Speaker σ] in
/-- Once the next bytes are typed, a turn begins that notes only what happens in it. -/
theorem underway_typed (hu : Underway id (Attended.Is arrivals) earlier noted now) :
    Underway id (Attended.IsTyped arrivals) noted.host.history noted
      { now with host := { now.host with input := now.host.input.type (arrivals 0) }.forget } := by
  refine ⟨hu.counted, { hu.hosts with input := ?_, history := (List.append_nil _).symm }⟩
  obtain ⟨hkeyboard, harrivals⟩ := hu.hosts.input
  exact ⟨by rw [Attended.ready, hkeyboard, harrivals]; rfl, harrivals⟩

theorem playTurn_of_inl (filter : Log.Filter) (hu : Underway id (Attended.Is arrivals) earlier noted now)
    {concluded : Concluded Random.Seeded Viewer Attended σ} (hn : noted.next = .inl concluded) :
    ∃ lines outcome, playTurn filter (arrivals 0) now = (lines, .inl outcome) ∧
      outcomeOf filter concluded = outcome.after (linesOf filter noted.host ++ lines) := by
  obtain ⟨right, hr, ha⟩ := (underway_typed hu).next_of_inl draws_same (polls_typed arrivals) hn
  refine ⟨linesOf filter right.2, .ofResult right.1, ?_, ?_⟩
  · rw [playTurn, hr]
    rfl
  · rw [outcomeOf, ha.answer, linesOf_of_beside ha.hosts]
    rfl

theorem playTurn_of_inr (filter : Log.Filter) (hu : Underway id (Attended.Is arrivals) earlier noted now)
    {later : Running Random.Seeded Viewer Attended σ} (hn : noted.next = .inr later) :
    ∃ lines after, playTurn filter (arrivals 0) now = (lines, .inr after) ∧
      Underway id (Attended.Is fun n => arrivals (n + 1)) noted.host.history later after ∧
      linesOf filter later.host = linesOf filter noted.host ++ lines := by
  obtain ⟨right, hr, hlater⟩ := (underway_typed hu).next_of_inr draws_same (polls_typed arrivals) hn
  refine ⟨linesOf filter right.host, right, ?_, hlater, linesOf_of_beside hlater.hosts⟩
  rw [playTurn, hr]
  rfl

/-! ## Turn after turn -/

theorem playTurns_of_underway (filter : Log.Filter) (fuel : Nat)
    (hu : Underway id (Attended.Is arrivals) earlier noted now) :
    (noted.finish fuel).map (outcomeOf filter) =
      (playTurns filter fuel arrivals now).map (.after (linesOf filter noted.host)) := by
  -- a turn forgets what was noted before it, so its lines come after those that are already written
  fun_induction noted.finish fuel generalizing now arrivals earlier with
  | case1 fuel noted concluded hn =>
    obtain ⟨lines, outcome, ht, ho⟩ := playTurn_of_inl filter hu hn
    rw [playTurns.eq_def, ht]
    simp only [Option.map_some, Outcome.after_after, ho]
  | case2 noted later hn =>
    obtain ⟨lines, after, ht, -, -⟩ := playTurn_of_inr filter hu hn
    rw [playTurns.eq_def, ht]
    rfl
  | case3 noted later fuel hn ih =>
    obtain ⟨lines, after, ht, hlater, hlines⟩ := playTurn_of_inr filter hu hn
    rw [playTurns.eq_def, ht, ih hlater, hlines]
    simp only [Option.map_map]
    congr 1
    funext outcome
    exact (Outcome.after_after ..).symm

/-- Turn by turn a program plays the loop of a host whose keyboard is typed on: it comes to the same outcome, with the
same lines in the same order. What the host noted before is forgotten. -/
theorem playTurns_eq (filter : Log.Filter) (fuel : Nat) (arrivals : Nat → List UInt8)
    (host : Host Random.Seeded Viewer Keyboard σ) :
    playTurns filter fuel arrivals { host } = play fuel filter (attend host.forget arrivals) := by
  have hu : Underway id (Attended.Is arrivals) [] { host := attend host.forget arrivals } { host := host.forget } :=
    ⟨rfl, rfl, rfl, ⟨rfl, rfl⟩, rfl, rfl, rfl⟩
  have hforget : playTurns filter fuel arrivals { host } = playTurns filter fuel arrivals { host := host.forget } := by
    rw [playTurns.eq_def, playTurns.eq_def]
    rfl
  have hplay : play fuel filter (attend host.forget arrivals) =
      (playTurns filter fuel arrivals { host := host.forget }).map (.after []) := playTurns_of_underway filter fuel hu
  rw [hforget, hplay]
  exact Option.map_id'.symm

/-! ## Everything typed at first -/

theorem play_eq_of_beside {ι ι' : Type} [InputDevice ι] [InputDevice ι'] {alike : ι → ι' → Prop}
    {h : Host Random.Seeded Viewer ι σ} {g : Host Random.Seeded Viewer ι' σ} (hpoll : PollsAlike alike alike)
    (hb : Beside id alike [] h g) (fuel : Nat) : play fuel filter h = play fuel filter g := by
  have hrel := hb.loop draws_same hpoll fuel
  rw [play, play]
  generalize h.loop fuel = left at hrel
  generalize g.loop fuel = right at hrel
  cases hrel with
  | none => rfl
  | @some first second ha =>
    have houtcome : outcomeOf filter first = outcomeOf filter second := by
      rw [outcomeOf, outcomeOf, ha.answer, linesOf_of_beside ha.hosts]
      rfl
    exact congrArg some houtcome

/-- Nothing arrives after the first turn. -/
def typedAtFirst (typed : List UInt8) (turn : Nat) : List UInt8 :=
  if turn = 0 then typed else []

/-- An attended keyboard that nobody types on any more, once it is this one. -/
def Attended.LeftAs (a : Attended) (k : Keyboard) : Prop :=
  a.ready = k ∧ ∀ n, a.arrivals (n + 1) = []

theorem type_nil (k : Keyboard) : k.type [] = k := by
  simp [Keyboard.type]

theorem polls_left : PollsAlike Attended.LeftAs Attended.LeftAs := by
  rintro a _ ⟨rfl, hlater⟩
  refine ⟨rfl, rfl, ?_, fun n => hlater (n + 1)⟩
  exact (congrArg a.ready.look.type (hlater 0)).trans (type_nil _)

theorem playTurns_typed_at_first (fuel : Nat) (typed : List UInt8) (host : Host Random.Seeded Viewer Keyboard σ) :
    playTurns filter fuel (typedAtFirst typed) { host } =
      play fuel filter { host.forget with input := host.input.type typed } := by
  rw [playTurns_eq]
  exact play_eq_of_beside polls_left ⟨rfl, rfl, ⟨rfl, fun _ => rfl⟩, rfl, rfl, rfl⟩ fuel

/-- A program that is played turn by turn, and typed on before the first of them, comes to the outcome of a session. -/
theorem playProgram_eq (fuel : Nat) (filter : Log.Filter) (arguments : Arguments) (size : TerminalSize)
    (typed : List UInt8) (interpreter : Interpreter Random.Seeded) :
    playProgram fuel filter arguments size typed interpreter =
      if arguments.mute then
        playTurns filter fuel (typedAtFirst typed)
          { host := hostOf arguments.settings size .silent ({} : SilentSpeaker) interpreter }
      else
        playTurns filter fuel (typedAtFirst typed)
          { host := hostOf arguments.settings size .silent ({} : BuiltInSpeaker) interpreter } := by
  rw [playTurns_typed_at_first, playTurns_typed_at_first]
  rfl

end Chip8.CommandLine
