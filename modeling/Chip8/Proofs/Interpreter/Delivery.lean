import Chip8.Interpreter
import Chip8.Proofs.Ram.Access

/-!
# Programs that are read from a source

A source goes on after a piece with bytes and after an interruption, and it comes to its end or to a failure at the first
other reading (`exists_readings`). Up to there it delivers the bytes of its pieces, however they are cut
(`readAll_append`), so a program from a source starts as it would as a whole (`source_starts_as_whole`).
-/

namespace Chip8

namespace ByteSource

/-- A reading after which a source goes on. -/
def GoesOn : Except IoError (List UInt8) → Prop
  | .ok piece => piece ≠ []
  | .error e => e.isInterruption = true

/-- The bytes of readings, piece after piece. -/
def delivered (readings : ByteSource) : List UInt8 :=
  readings.flatMap fun
    | .ok piece => piece
    | .error _ => []

/-- There is nothing more to read, or the next reading says so. -/
def AtEnd (source : ByteSource) : Prop :=
  source = [] ∨ ∃ unread, source = .ok [] :: unread

/-- The next reading fails for good. -/
def Fails (source : ByteSource) (e : IoError) : Prop :=
  e.isInterruption = false ∧ ∃ unread, source = .error e :: unread

variable {readings rest : ByteSource} {e : IoError}

theorem readAll_append (h : ∀ reading ∈ readings, GoesOn reading) (rest : ByteSource) :
    readAll (readings ++ rest) = (readAll rest).map (delivered readings ++ ·) := by
  induction readings with
  | nil =>
    cases hr : readAll rest <;> simp [hr, delivered, Except.map]
  | cons reading later ih =>
    obtain ⟨hnow, hlater⟩ := List.forall_mem_cons.1 h
    cases reading with
    | error e =>
      -- an interruption adds no bytes
      have hagain : e.isInterruption = true := hnow
      rw [List.cons_append, readAll, if_pos hagain, ih hlater]
      rfl
    | ok piece =>
      cases piece with
      | nil => exact absurd rfl hnow
      | cons b bytes =>
        rw [List.cons_append, readAll, ih hlater]
        cases readAll rest <;> simp [delivered, Except.map]

theorem readAll_of_atEnd (h : rest.AtEnd) : readAll rest = .ok [] := by
  obtain rfl | ⟨unread, rfl⟩ := h <;> rfl

theorem readAll_of_fails (h : rest.Fails e) : readAll rest = .error e := by
  obtain ⟨he, unread, rfl⟩ := h
  rw [readAll, he]
  rfl

/-- Every source goes on for some readings, and then it is at its end or fails. -/
theorem exists_readings (source : ByteSource) :
    ∃ readings rest : ByteSource, source = readings ++ rest ∧ (∀ reading ∈ readings, GoesOn reading) ∧
      (rest.AtEnd ∨ ∃ e, rest.Fails e) := by
  induction source with
  | nil => exact ⟨[], [], rfl, List.forall_mem_nil _, .inl (.inl rfl)⟩
  | cons reading later ih =>
    obtain ⟨readings, rest, hsplit, hgo, hrest⟩ := ih
    by_cases hnow : GoesOn reading
    · exact ⟨reading :: readings, rest, by rw [hsplit]; rfl, List.forall_mem_cons.2 ⟨hnow, hgo⟩, hrest⟩
    · refine ⟨[], reading :: later, rfl, List.forall_mem_nil _, ?_⟩
      cases reading with
      | ok piece =>
        obtain rfl : piece = [] := Classical.not_not.1 hnow
        exact .inl (.inr ⟨later, rfl⟩)
      | error e => exact .inr ⟨e, Bool.eq_false_iff.2 hnow, later, rfl⟩

end ByteSource

namespace Interpreter

open ByteSource

variable {γ : Type}

theorem start_of_too_long {program : List UInt8} (random : γ) (dialect : Dialect) (h : 3584 < program.length) :
    start program random dialect = .error (.programTooLarge program.length 3584) := by
  have hstart : Ram.initial.programStart.toNat = 0x200 := rfl
  have hl := Ram.initial.load_eq program (by decide)
  rw [if_neg (by omega), hstart] at hl
  rw [start, Machine.start, hl]
  rfl

/-- Every source delivers some bytes before its end or its failure, in pieces and with interruptions between them. At the
end the bytes start as they would as a whole, and too many of them are refused with their full number. A failure is
reported as it is, however many bytes came before it. -/
theorem source_starts_as_whole (source : ByteSource) (random : γ) (dialect : Dialect) :
    (∃ readings rest : ByteSource, source = readings ++ rest ∧ (∀ reading ∈ readings, GoesOn reading) ∧
      (rest.AtEnd ∨ ∃ e, rest.Fails e)) ∧
    ∀ readings rest : ByteSource, source = readings ++ rest → (∀ reading ∈ readings, GoesOn reading) →
      let program := readings.delivered
      (rest.AtEnd →
        startFrom source random dialect = start program random dialect ∧ startFromLog source = startLog program ∧
          (3584 < program.length →
            startFrom source random dialect = .error (.programTooLarge program.length 3584))) ∧
      ∀ e, rest.Fails e → startFrom source random dialect = .error (.io e) ∧ startFromLog source = [] := by
  refine ⟨exists_readings source, ?_⟩
  rintro readings rest rfl hgo program
  have hread := readAll_append hgo rest
  constructor
  · intro hend
    have hall : readAll (readings ++ rest) = .ok program := by
      rw [hread, readAll_of_atEnd hend, Except.map, List.append_nil]
    have hstart : startFrom (readings ++ rest) random dialect = start program random dialect := by
      rw [startFrom, hall]
    refine ⟨hstart, ?_, ?_⟩
    · rw [startFromLog, hall]
    · intro hlong
      rw [hstart, start_of_too_long random dialect hlong]
  · intro e hfails
    have hall : readAll (readings ++ rest) = .error e := by
      rw [hread, readAll_of_fails hfails, Except.map]
    constructor
    · rw [startFrom, hall]
    · rw [startFromLog, hall]

/-- A last byte too many after an interruption, with the end behind it and with a failure behind it, and three bytes in
two pieces. -/
theorem source_starts_as_whole_over_limit :
    ∃ large : List UInt8, large.length = 3584 ∧
      let readings : ByteSource := [.ok large, .error (.system .interrupted), .ok [0x60]]
      let short : ByteSource := [.ok [0x60], .ok [0x05, 0x00]]
      (∀ reading ∈ readings, GoesOn reading) ∧ (∀ reading ∈ short, GoesOn reading) ∧
        startFrom readings () {} = .error (.programTooLarge 3585 3584) ∧
        startFrom (readings ++ [.error (.refused .other "broken")]) () {} = .error (.io (.refused .other "broken")) ∧
        startFrom (short ++ [.ok []]) () {} = start [0x60, 0x05, 0x00] () {} := by
  obtain ⟨large, hlarge⟩ : ∃ large : List UInt8, large.length = 3584 :=
    ⟨List.replicate 3584 0xff, List.length_replicate⟩
  have hne : large ≠ [] := List.ne_nil_of_length_eq_add_one hlarge
  refine ⟨large, hlarge, ?_⟩
  intro readings short
  have hgo : ∀ reading ∈ readings, GoesOn reading := by simp [readings, GoesOn, hne, IoError.isInterruption]
  have hshort : ∀ reading ∈ short, GoesOn reading := by simp [short, GoesOn]
  have hcount : readings.delivered.length = 3585 := by simp [readings, delivered, hlarge]
  have hends := (source_starts_as_whole readings () {}).2 readings [] (List.append_nil _).symm hgo
  have hfails := (source_starts_as_whole _ () {}).2 readings [.error (.refused .other "broken")] rfl hgo
  have hwhole := (source_starts_as_whole _ () {}).2 short [.ok []] rfl hshort
  refine ⟨hgo, hshort, ?_, ?_, ?_⟩
  · rw [(hends.1 (.inl rfl)).2.2 (by omega), hcount]
  · exact (hfails.2 _ ⟨rfl, [], rfl⟩).1
  · exact (hwhole.1 (.inr ⟨[], rfl⟩)).1

end Interpreter

end Chip8
