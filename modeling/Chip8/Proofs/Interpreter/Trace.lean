import Chip8.Proofs.Interpreter.Executions
import Chip8.Proofs.Log.Readings

/-!
# The log of a run

A step reports the word that it fetches, whether or not it can execute it, and behind a routine of the machine code that
the routine is passed over; a step without a word reports nothing (`told_step`). So the texts of a run, read back in order,
are the words that its steps fetched, each with its place (`told_run`).
-/

namespace Chip8

/-- A word, and the program counter that it was fetched at. -/
structure Fetch where
  pc : UInt16
  word : UInt16
deriving DecidableEq, Repr

/-- Whether records of a level are those of fetches. -/
def Log.Level.ofFetch : Level → Bool
  | trace | warn => true
  | _ => false

namespace Log.Record

/-- The level of a record, and what its text tells. -/
def told (r : Record) : Level × Option Reading :=
  (r.level, read? r.message)

theorem told_executing (pc word : UInt16) (instruction : Instruction Reg) :
    (executing pc word instruction).told = (.trace, some (.fetched pc word)) :=
  congrArg (Prod.mk _) (read?_executing pc word instruction)

theorem told_unknownWord (pc word : UInt16) : (unknownWord pc word).told = (.warn, some (.fetched pc word)) :=
  congrArg (Prod.mk _) (read?_unknownWord pc word)

theorem told_ignoredRoutine (address pc : UInt16) :
    (ignoredRoutine address pc).told = (.debug, some (.passedOver address pc)) :=
  congrArg (Prod.mk _) (read?_ignoredRoutine pc address)

end Log.Record

/-! ## What is reported of a word -/

namespace Fetch

/-- The report of a fetch: a warning if the word means nothing. -/
def report (f : Fetch) : Log.Level × Option Log.Reading :=
  (if (Instruction.decode f.word).isSome then .trace else .warn, some (.fetched f.pc f.word))

/-- All that a step reports that fetched something. -/
def reports (f : Fetch) : List (Log.Level × Option Log.Reading) :=
  f.report :: if NamesRoutine f.word then [(.debug, some (.passedOver f.word f.pc))] else []

theorem filter_reports (f : Fetch) : f.reports.filter (·.1.ofFetch) = [f.report] := by
  have hreport : f.report.1.ofFetch := by
    rw [report]
    split <;> rfl
  rw [reports, List.filter_cons, if_pos hreport]
  split <;> rfl

theorem mem_reports_iff {f : Fetch} {address pc : UInt16} :
    (.debug, some (.passedOver address pc)) ∈ f.reports ↔ NamesRoutine f.word ∧ address = f.word ∧ pc = f.pc := by
  by_cases h : NamesRoutine f.word <;> simp [reports, report, h]

end Fetch

theorem Machine.performLog_of_not_routine {m : Machine} {instruction : Instruction Reg}
    (h : ∀ address, instruction ≠ .machineRoutine address) : m.performLog instruction = [] := by
  cases instruction with
  | machineRoutine address => exact absurd rfl (h address)
  | _ => rfl

namespace Interpreter

/-! ## One step -/

section Step

variable {γ : Type} [RandomSource γ] {i : Interpreter γ}

/-- What the next step fetches, if it fetches something. -/
def fetch? (i : Interpreter γ) : Option Fetch :=
  i.machine.fetch.toOption.map fun word => ⟨i.machine.pc, word⟩

omit [RandomSource γ] in
theorem fetch?_of_ok {word : UInt16} (h : i.machine.fetch = .ok word) : i.fetch? = some ⟨i.machine.pc, word⟩ := by
  rw [fetch?, h]
  rfl

omit [RandomSource γ] in
theorem fetch?_of_error {fault : Fault} (h : i.machine.fetch = .error fault) : i.fetch? = none := by
  rw [fetch?, h]
  rfl

theorem told_step (i : Interpreter γ) : i.stepLog.map Log.Record.told = i.fetch?.toList.flatMap Fetch.reports := by
  cases hf : i.machine.fetch with
  | error fault =>
    simp only [fetch?_of_error hf, stepLog, takeStep, hf]
    rfl
  | ok word =>
    rw [fetch?_of_ok hf, Option.toList_some, List.flatMap_singleton, Fetch.reports, Fetch.report]
    by_cases hroutine : NamesRoutine word
    · have hd := decode_eq_machineRoutine_iff.2 ⟨hroutine, rfl⟩
      simp [stepLog, takeStep, hf, hd, hroutine, Machine.performLog, Log.Record.told_executing, Log.Record.told_ignoredRoutine]
    · cases hd : Instruction.decode word with
      | none => simp [stepLog, takeStep, hf, hd, hroutine, Log.Record.told_unknownWord]
      | some instruction =>
        have hlog : i.machine.performLog instruction = [] := Machine.performLog_of_not_routine fun address he =>
          hroutine (decode_eq_machineRoutine_iff.1 (hd.trans (congrArg some he))).1
        simp [stepLog, takeStep, hf, hd, hroutine, hlog, Log.Record.told_executing]

theorem stepLog_eq_nil_iff : i.stepLog = [] ↔ ∃ fault, i.machine.fetch = .error fault := by
  rw [← List.map_eq_nil_iff (f := Log.Record.told), told_step]
  cases hf : i.machine.fetch with
  | error fault => simp [fetch?_of_error hf]
  | ok word => simp [fetch?_of_ok hf, Fetch.reports]

end Step

/-! ## Runs -/

section Runs

variable {γ : Type} [RandomSource γ] {i : Interpreter γ}

/-- What the steps of a run fetch, in order. -/
def fetches (i : Interpreter γ) (actions : List Action) : List Fetch :=
  i.observe (fun i => i.fetch?.toList) actions

theorem told_run (i : Interpreter γ) (actions : List Action) :
    (i.runLog actions).map Log.Record.told = (i.fetches actions).flatMap Fetch.reports := by
  induction actions generalizing i with
  | nil => rfl
  | cons action rest ih =>
    cases action with
    | step =>
      calc (i.runLog (.step :: rest)).map Log.Record.told
          = i.stepLog.map Log.Record.told ++ (i.step.2.runLog rest).map Log.Record.told := List.map_append
        _ = i.fetch?.toList.flatMap Fetch.reports ++ (i.step.2.fetches rest).flatMap Fetch.reports := by
          rw [told_step, ih]
        _ = (i.fetches (.step :: rest)).flatMap Fetch.reports := List.flatMap_append.symm
    | tick | setKey | acknowledge => exact ih _

theorem filter_told_run (i : Interpreter γ) (actions : List Action) :
    ((i.runLog actions).filter (·.level.ofFetch)).map Log.Record.told = (i.fetches actions).map Fetch.report :=
  calc ((i.runLog actions).filter (·.level.ofFetch)).map Log.Record.told
      = ((i.runLog actions).map Log.Record.told).filter (·.1.ofFetch) := by rw [List.filter_map]; rfl
    _ = (i.fetches actions).flatMap (fun f => [f.report]) := by
      rw [told_run, List.filter_flatMap]
      simp only [Fetch.filter_reports]
    _ = (i.fetches actions).map Fetch.report := List.map_eq_flatMap.symm

theorem executed?_eq_machineRoutine_iff {address : UInt16} :
    i.executed? = some (.machineRoutine address) ↔
      ∃ word, i.machine.fetch = .ok word ∧ NamesRoutine word ∧ address = word := by
  rw [executed?_eq_some_iff]
  constructor
  · rintro ⟨word, hf, he, -⟩
    exact ⟨word, hf, decode_eq_machineRoutine_iff.1 (decode_of_encoded he)⟩
  · rintro ⟨word, hf, h⟩
    have hd := decode_eq_machineRoutine_iff.2 h
    -- a routine is passed over, and nothing can fail on the way
    exact ⟨word, hf, decode_eq_some_iff.1 hd, by rw [step_of_decode hf hd]; rfl⟩

theorem mem_told_step_iff {address : UInt16} :
    (.debug, some (.passedOver address i.machine.pc)) ∈ i.stepLog.map Log.Record.told ↔
      i.executed? = some (.machineRoutine address) := by
  rw [told_step, executed?_eq_machineRoutine_iff]
  cases hf : i.machine.fetch with
  | error fault => simp [fetch?_of_error hf]
  | ok word =>
    rw [fetch?_of_ok hf, Option.toList_some, List.flatMap_singleton, Fetch.mem_reports_iff]
    constructor
    · rintro ⟨hroutine, haddress, -⟩
      exact ⟨word, rfl, hroutine, haddress⟩
    · rintro ⟨other, hother, hroutine, haddress⟩
      obtain rfl := Except.ok.inj hother
      exact ⟨hroutine, haddress, rfl⟩

theorem told_step_eq_iff {address : UInt16} :
    i.stepLog.map Log.Record.told =
        [(.trace, some (.fetched i.machine.pc address)), (.debug, some (.passedOver address i.machine.pc))] ↔
      i.executed? = some (.machineRoutine address) := by
  constructor
  · intro h
    rw [← mem_told_step_iff, h]
    exact List.mem_cons_of_mem _ List.mem_cons_self
  · intro h
    obtain ⟨word, hf, hroutine, rfl⟩ := executed?_eq_machineRoutine_iff.1 h
    have hd := decode_eq_machineRoutine_iff.2 ⟨hroutine, rfl⟩
    rw [told_step, fetch?_of_ok hf]
    simp [Fetch.reports, Fetch.report, hroutine, hd]

/-- The log of any run, from any machine, is a trace of it. Its records of levels TRACE and WARN are one for each step that
fetched a word, in order, TRACE if the word means an instruction and WARN if it means none; the text of each gives back the
word and its place, which it does for any word at any program counter. Besides these there are records of level DEBUG: a
step makes one exactly if it executes a routine of the machine code, right behind its TRACE, and the text gives back the
routine and its place. A step reports nothing exactly if there is no word to fetch. -/
theorem log_is_trace (i : Interpreter γ) (actions : List Action) :
    ((i.runLog actions).filter (·.level.ofFetch)).map Log.Record.told = (i.fetches actions).map Fetch.report ∧
    (i.runLog actions).map Log.Record.told = (i.fetches actions).flatMap Fetch.reports ∧
    (∀ pc word instruction, Log.read? (Log.Record.executing pc word instruction).message = some (.fetched pc word)) ∧
    (∀ pc word, Log.read? (Log.Record.unknownWord pc word).message = some (.fetched pc word)) ∧
    let now := i.run actions
    (now.stepLog = [] ↔ ∃ fault, now.machine.fetch = .error fault) ∧
    (∀ address, (.debug, some (.passedOver address now.machine.pc)) ∈ now.stepLog.map Log.Record.told ↔
      now.executed? = some (.machineRoutine address)) ∧
    ∀ address, now.stepLog.map Log.Record.told =
        [(.trace, some (.fetched now.machine.pc address)), (.debug, some (.passedOver address now.machine.pc))] ↔
      now.executed? = some (.machineRoutine address) :=
  ⟨filter_told_run i actions, told_run i actions, Log.read?_executing, Log.read?_unknownWord, stepLog_eq_nil_iff,
    fun _ => mem_told_step_iff, fun _ => told_step_eq_iff⟩

-- a routine, a word without meaning, and a return without a call that is tried twice
example :
    (start [0x01, 0x23, 0x51, 0x21, 0x00, 0xee] ({ words := [] } : Random.Scripted) {}).toOption.map
        (fun i => (i.runLog [.step, .step, .tick, .step, .step]).map Log.Record.line) =
      some ["TRACE 0x200: 0123  SYS 0x123", "DEBUG ignoring machine code routine 0x123 at 0x200",
        "WARN unknown opcode 5121 at 0x202; skipping", "TRACE 0x204: 00ee  RET", "TRACE 0x204: 00ee  RET"] := by
  decide +kernel

end Runs

end Interpreter

end Chip8
