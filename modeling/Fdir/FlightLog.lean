/-
This file proves what `fdr.log` is over the sessions of the logger.

A session opens the log, writes any number of entries and closes the log again; the next
session finds the file the last one left. The calls of the sessions are the actions of a
machine whose state is the file and the descriptor, and each entry written is an event.
At every point after the first call the file is one header followed by the numbered
records of the reports written so far. The count in the header is overwritten in place
while the records are appended, so the proof is one step lemma for each call, on the
layout `logBytes`, and an induction over the calls.
-/

import Fdir.FileIo
import Fdir.Machine
import Mathlib.Data.List.Forall2

namespace Fdir

open CMemory FileProgram

/-! ### The calls of the logger's sessions -/

/-- What outlives a call: the file, if it exists, and the descriptor's offset, if it is open. -/
structure LogWorld where
  file : Option (List UInt8)
  logFd : Option Nat
deriving DecidableEq

/-- A call the logger makes. The header variable of `fdr_write_entry` starts out as `stale`. -/
inductive FdrCall where
  | fdrOpen
  | fdrWriteEntry (stale : FdrHeader) (report : FaultReport)
  | fdrClose
deriving DecidableEq

/-- The effect of one call when the system calls it makes all succeed in full. -/
def LogWorld.step (world : LogWorld) : FdrCall → Option (LogWorld × List FaultReport)
  | .fdrOpen =>
    match world.logFd with
    | some _ => none
    | none =>
      -- `O_CREAT` makes a missing file an empty one.
      match fdrOpen.run ⟨world.file.getD [], 0⟩ with
      | none => none
      | some (_, file) => some (⟨some file.bytes, some file.offset⟩, [])
  | .fdrWriteEntry stale report =>
    match world.file, world.logFd with
    | some bytes, some offset =>
      match (fdrWriteEntry stale report).run ⟨bytes, offset⟩ with
      | none => none
      | some (status, file) =>
        some (⟨some file.bytes, some file.offset⟩, if status = 0 then [report] else [])
    | _, _ => none
  | .fdrClose =>
    match world.logFd with
    | none => none
    | some _ => some (⟨world.file, none⟩, [])

/-- The machine of the logger's calls; its events are the reports written. -/
def logMachine : Machine LogWorld FdrCall FaultReport := ⟨LogWorld.step⟩

/-- The calls come in sessions: an open, writes, a close, and again; the last session may be
unfinished. The flag says whether the log is open at the start. -/
def InSessions : Bool → List FdrCall → Prop
  | _, [] => True
  | false, .fdrOpen :: rest => InSessions true rest
  | true, .fdrWriteEntry _ _ :: rest => InSessions true rest
  | true, .fdrClose :: rest => InSessions false rest
  | _, _ => False

/-- The report a call is given. -/
def FdrCall.report? : FdrCall → Option FaultReport
  | .fdrWriteEntry _ report => some report
  | .fdrOpen => none
  | .fdrClose => none

/-- The reports the calls are given, in order. -/
def reportsOf (calls : List FdrCall) : List FaultReport := calls.filterMap FdrCall.report?

theorem reportsOf_cons (call : FdrCall) (rest : List FdrCall) :
    reportsOf (call :: rest) = call.report?.toList ++ reportsOf rest := by
  cases call <;> rfl

theorem reportsOf_append (front back : List FdrCall) :
    reportsOf (front ++ back) = reportsOf front ++ reportsOf back :=
  List.filterMap_append

/-- Whether the log is open after the calls. -/
def openAfter : Bool → List FdrCall → Bool
  | isOpen, [] => isOpen
  | _, .fdrClose :: rest => openAfter false rest
  | _, .fdrOpen :: rest => openAfter true rest
  | _, .fdrWriteEntry _ _ :: rest => openAfter true rest

/-- Splitting a session list leaves a session list on either side of the cut. -/
theorem inSessions_append (isOpen : Bool) (front : List FdrCall) {back : List FdrCall}
    (sessions : InSessions isOpen (front ++ back)) :
    InSessions isOpen front ∧ InSessions (openAfter isOpen front) back := by
  induction front generalizing isOpen with
  | nil => exact ⟨trivial, sessions⟩
  | cons call rest inductionHypothesis =>
    cases isOpen <;> cases call <;>
      first | exact sessions.elim | exact inductionHypothesis _ sessions

/-! ### The log a prefix of the calls leaves -/

/-- The entries are the records of the reports: each carries its report, and they are
numbered from one. -/
structure Records (entries : List FdrEntry) (reports : List FaultReport) : Prop where
  carries : List.Forall₂ FdrEntry.Carries entries reports
  numbered : entries.map (fun entry => entry.entryId.toInt) =
    (List.range entries.length).map fun index : Nat => (index : Int) + 1

theorem Records.nil : Records [] [] := ⟨.nil, rfl⟩

/-- One more record in its place. -/
theorem Records.snoc {entries : List FdrEntry} {reports : List FaultReport}
    (records : Records entries reports) {entry : FdrEntry} {report : FaultReport}
    (number : entry.entryId.toInt = entries.length + 1) (carries : entry.Carries report) :
    Records (entries ++ [entry]) (reports ++ [report]) where
  carries := List.rel_append records.carries (.cons carries .nil)
  numbered := by
    rw [List.map_append, records.numbered, List.length_append, List.length_singleton,
      List.range_succ, List.map_append, List.map_singleton, List.map_singleton, number]

/-- The header with a given count. -/
def FdrHeader.counting (header : FdrHeader) (count : Nat) : FdrHeader :=
  { header with entryCount := BitVec.ofNat 32 count }

/-- The log is open or closed as stated, and the file is the new header counting `entries`,
those entries, and nothing else. -/
structure LogWorld.Holds (world : LogWorld) (isOpen : Bool) (header : FdrHeader)
    (entries : List FdrEntry) : Prop where
  file : world.file = some (logBytes (header.counting entries.length) entries)
  descriptor : world.logFd.isSome = isOpen

namespace LogWorld.Holds

variable {world : LogWorld} {header : FdrHeader} {entries : List FdrEntry}

/-- Opening a log that exists leaves the file alone. -/
theorem step_fdrOpen (holds : world.Holds false header entries) :
    ∃ next, world.step .fdrOpen = some (next, []) ∧ next.Holds true header entries := by
  have closed : world.logFd = none := by
    have descriptor := holds.descriptor
    rwa [Option.isSome_eq_false_iff, Option.isNone_iff_eq_none] at descriptor
  refine ⟨⟨some (logBytes (header.counting entries.length) entries),
    some (logBytes (header.counting entries.length) entries).length⟩, ?_, ⟨rfl, rfl⟩⟩
  simp only [LogWorld.step, closed, holds.file, Option.getD_some, run_fdrOpen_existing]

/-- Closing a log leaves the file alone. -/
theorem step_fdrClose (holds : world.Holds true header entries) :
    ∃ next, world.step .fdrClose = some (next, []) ∧ next.Holds false header entries := by
  obtain ⟨offset, opened⟩ := Option.isSome_iff_exists.mp holds.descriptor
  refine ⟨⟨world.file, none⟩, ?_, ⟨holds.file, rfl⟩⟩
  simp only [LogWorld.step, opened]

/-- Writing a terminated report appends its record under the next number. -/
theorem step_fdrWriteEntry (holds : world.Holds true header entries) (stale : FdrHeader)
    (report : FaultReport) (terminated : report.Terminated) :
    ∃ next entry, world.step (.fdrWriteEntry stale report) = some (next, [report]) ∧
      next.Holds true header (entries ++ [entry]) ∧
      entry.entryId = BitVec.ofNat 32 (entries.length + 1) ∧ entry.Carries report := by
  obtain ⟨offset, opened⟩ := Option.isSome_iff_exists.mp holds.descriptor
  obtain ⟨entry, built, number, carries⟩ :=
    newEntry_terminated (header.counting entries.length) report terminated
  have next : (header.counting entries.length).entryCount + 1 =
      BitVec.ofNat 32 (entries.length + 1) := (BitVec.ofNat_add _ _).symm
  refine ⟨⟨some (logBytes (header.counting (entries.length + 1)) (entries ++ [entry])),
    some (entryCountOffset + 4)⟩, entry, ?_, ⟨?_, rfl⟩, number.trans next, carries⟩
  · simp only [LogWorld.step, holds.file, opened, run_fdrWriteEntry _ _ _ _ _ _ built, if_pos,
      next]
    rfl
  · rw [List.length_append, List.length_singleton]

end LogWorld.Holds

/-- The first open of a missing or empty log leaves a log with no entries. -/
theorem step_fdrOpen_blank {file : Option (List UInt8)} (blank : file.getD [] = [])
    {header : FdrHeader} (built : newHeader = some header) :
    ∃ next, LogWorld.step ⟨file, none⟩ .fdrOpen = some (next, []) ∧
      next.Holds true header [] := by
  have fresh : header.counting 0 = header := by
    cases built
    rfl
  refine ⟨⟨some (logBytes header []), some headerSize⟩, ?_, ⟨?_, rfl⟩⟩
  · simp only [LogWorld.step, blank, run_fdrOpen_empty header built]
  · rw [List.length_nil, fresh]

/-- Along any calls in sessions the file stays a log, the entries it had stay its first
entries, and each report written becomes the record after them. -/
theorem run_inSessions {header : FdrHeader} (calls : List FdrCall) {world : LogWorld}
    {isOpen : Bool} {entries : List FdrEntry} {reports : List FaultReport}
    (holds : world.Holds isOpen header entries) (records : Records entries reports)
    (sessions : InSessions isOpen calls)
    (terminated : ∀ report ∈ reportsOf calls, report.Terminated)
    (few : entries.length + (reportsOf calls).length < 2 ^ 31) :
    ∃ last more, logMachine.run world calls = some (last, reportsOf calls) ∧
      last.Holds (openAfter isOpen calls) header (entries ++ more) ∧
      Records (entries ++ more) (reports ++ reportsOf calls) := by
  induction calls generalizing world isOpen entries reports with
  | nil =>
    refine ⟨world, [], rfl, ?_, ?_⟩
    · rwa [List.append_nil]
    · rwa [reportsOf, List.filterMap_nil, List.append_nil, List.append_nil]
  | cons call rest inductionHypothesis =>
    cases isOpen <;> cases call
    case false.fdrWriteEntry => exact sessions.elim
    case false.fdrClose => exact sessions.elim
    case true.fdrOpen => exact sessions.elim
    case false.fdrOpen =>
      obtain ⟨next, stepped, kept⟩ := holds.step_fdrOpen
      obtain ⟨last, more, ran, log, numbered⟩ :=
        inductionHypothesis kept records sessions terminated few
      exact ⟨last, more, logMachine.run_cons_eq_some.mpr
        ⟨next, [], reportsOf rest, stepped, ran, rfl⟩, log, numbered⟩
    case true.fdrClose =>
      obtain ⟨next, stepped, kept⟩ := holds.step_fdrClose
      obtain ⟨last, more, ran, log, numbered⟩ :=
        inductionHypothesis kept records sessions terminated few
      exact ⟨last, more, logMachine.run_cons_eq_some.mpr
        ⟨next, [], reportsOf rest, stepped, ran, rfl⟩, log, numbered⟩
    case true.fdrWriteEntry stale report =>
      rw [reportsOf_cons, List.length_append] at few
      change entries.length + (1 + (reportsOf rest).length) < 2 ^ 31 at few
      obtain ⟨next, entry, stepped, kept, number, carries⟩ :=
        holds.step_fdrWriteEntry stale report (terminated report List.mem_cons_self)
      have signed : entry.entryId.toInt = entries.length + 1 := by
        rw [number, toInt_ofNat_of_lt (by omega), Int.natCast_add]
        rfl
      obtain ⟨last, more, ran, log, numbered⟩ := inductionHypothesis kept
        (records.snoc signed carries) sessions
        (fun other member => terminated other (List.mem_cons_of_mem _ member))
        (by simp only [List.length_append, List.length_singleton]; omega)
      refine ⟨last, entry :: more, logMachine.run_cons_eq_some.mpr
        ⟨next, [report], reportsOf rest, stepped, ran, rfl⟩, ?_, ?_⟩
      · rwa [List.append_assoc] at log
      · rwa [List.append_assoc, List.append_assoc] at numbered

/-- The file is the flight log of the reports: one header counting them, whose other fields
are the ones a new log gets, then their records, then nothing. -/
def IsFlightLog (world : LogWorld) (entries : List FdrEntry) (reports : List FaultReport) :
    Prop :=
  ∃ header, newHeader = some header ∧
    world.file = some (logBytes (header.counting entries.length) entries) ∧
    (header.counting entries.length).entryCount.toInt = reports.length ∧ Records entries reports

theorem LogWorld.Holds.isFlightLog {world : LogWorld} {isOpen : Bool} {header : FdrHeader}
    {entries : List FdrEntry} {reports : List FaultReport}
    (holds : world.Holds isOpen header entries) (built : newHeader = some header)
    (records : Records entries reports) (few : reports.length < 2 ^ 31) :
    IsFlightLog world entries reports := by
  refine ⟨header, built, holds.file, ?_, records⟩
  rw [FdrHeader.counting, records.carries.length_eq, toInt_ofNat_of_lt few]

/-- From a missing or empty file, at every point after the first call of the logger's sessions
the file is the flight log of the reports written so far; and between any two such points the
header changes in its count alone and the earlier records stay as they are. -/
theorem fdr_sessions_flightLog (file : Option (List UInt8)) (blank : file.getD [] = [])
    (earlier later : List FdrCall) (begun : earlier ≠ [])
    (sessions : InSessions false (earlier ++ later))
    (terminated : ∀ report ∈ reportsOf (earlier ++ later), report.Terminated)
    (few : (reportsOf (earlier ++ later)).length < 2 ^ 31) :
    ∃ before after entries more,
      logMachine.run ⟨file, none⟩ earlier = some (before, reportsOf earlier) ∧
      logMachine.run ⟨file, none⟩ (earlier ++ later) =
        some (after, reportsOf (earlier ++ later)) ∧
      IsFlightLog before entries (reportsOf earlier) ∧
      IsFlightLog after (entries ++ more) (reportsOf (earlier ++ later)) := by
  obtain ⟨call, first, rfl⟩ := List.exists_cons_of_ne_nil begun
  obtain ⟨header, built⟩ : ∃ header, newHeader = some header :=
    Option.isSome_iff_exists.mp (by decide)
  cases call with
  | fdrWriteEntry stale report => exact sessions.elim
  | fdrClose => exact sessions.elim
  | fdrOpen =>
    obtain ⟨opened, stepped, fresh⟩ := step_fdrOpen_blank blank built
    change ∀ report ∈ reportsOf (first ++ later), report.Terminated at terminated
    change (reportsOf (first ++ later)).length < 2 ^ 31 at few
    rw [reportsOf_append] at terminated few
    rw [List.length_append] at few
    obtain ⟨front, back⟩ := inSessions_append true first sessions
    obtain ⟨before, entries, ran, log, records⟩ := run_inSessions first fresh .nil front
      (fun report member => terminated report (List.mem_append_left _ member))
      (by rw [List.length_nil]; omega)
    simp only [List.nil_append] at log records
    obtain ⟨after, more, continued, extended, extendedRecords⟩ :=
      run_inSessions later log records back
        (fun report member => terminated report (List.mem_append_right _ member))
        (by rw [records.carries.length_eq]; exact few)
    have start : logMachine.run ⟨file, none⟩ (.fdrOpen :: first) =
        some (before, reportsOf first) :=
      logMachine.run_cons_eq_some.mpr ⟨opened, [], reportsOf first, stepped, ran, rfl⟩
    rw [reportsOf_append]
    exact ⟨before, after, entries, more, start,
      logMachine.run_append_eq_some.mpr ⟨before, _, _, start, continued, rfl⟩,
      log.isFlightLog built records (Nat.lt_of_le_of_lt (Nat.le_add_right _ _) few),
      extended.isFlightLog built extendedRecords (by rw [List.length_append]; exact few)⟩

/-- A report with the given severity and nothing else. -/
def sampleReport (severity : String) : FaultReport where
  subsystem := .zeros 16
  severity := (CharArray.zeros 12).strncpyButLast (.literal severity)
  value := 0
  threshold := 0
  description := .zeros 64
  timestamp := .zeros 32

/-- A session of one entry, and then another. -/
theorem fdr_sessions_flightLog_twoSessions :
    ∃ before after entries more,
      logMachine.run ⟨none, none⟩
        [.fdrOpen, .fdrWriteEntry (.ofBytes []) (sampleReport "WARNING"), .fdrClose] =
          some (before, [sampleReport "WARNING"]) ∧
      logMachine.run ⟨none, none⟩
        [.fdrOpen, .fdrWriteEntry (.ofBytes []) (sampleReport "WARNING"), .fdrClose,
          .fdrOpen, .fdrWriteEntry (.ofBytes [1]) (sampleReport "CRITICAL")] =
          some (after, [sampleReport "WARNING", sampleReport "CRITICAL"]) ∧
      IsFlightLog before entries [sampleReport "WARNING"] ∧
      IsFlightLog after (entries ++ more) [sampleReport "WARNING", sampleReport "CRITICAL"] :=
  fdr_sessions_flightLog none rfl
    [.fdrOpen, .fdrWriteEntry (.ofBytes []) (sampleReport "WARNING"), .fdrClose]
    [.fdrOpen, .fdrWriteEntry (.ofBytes [1]) (sampleReport "CRITICAL")]
    (by simp) trivial (by decide) (by decide)

end Fdir
