/-
This file states when the logger keeps and drops the reports of lower severity as safe mode asks
it to: a report received in normal mode is written, one received in safe mode is skipped.

The loop decides by `g_paused`, which it sets at its head to what it reads in `g_safe_mode`, and
then it waits for a report. A signal handled during the wait changes `g_safe_mode` and not
`g_paused`. So the decision is right exactly when the mode is, when the report comes, what that
reading found it to be.
-/

import Fdir.Logger

namespace Fdir

open CMemory FileProgram

/-! ### The logger under observation -/

/-- The next statement of the loop reads `g_safe_mode` and leaves what it reads in `g_paused`:
the first test of a loop that is not paused, the second test of one that is. -/
def LoggerSystem.copiesMode (system : LoggerSystem) : Bool :=
  system.pc = .pauseTest && !system.gPaused || system.pc = .resumeTest && system.gPaused

def LoggerAction.isNext : LoggerAction → Bool
  | .next _ => true
  | _ => false

/-- The logger, and two moments of `g_safe_mode`: when the loop last copied it, and when the
loop last received a report. -/
structure ObservedLogger where
  system : LoggerSystem
  copied : Bool
  received : Bool

def ObservedLogger.start (log : OpenFile) : ObservedLogger := ⟨.start log, false, false⟩

/-- The logger does what it does; each event is emitted with the mode at the last receipt. -/
def observedLogger : Machine ObservedLogger LoggerAction (LoggerEvent × Bool) where
  step observed action :=
    let system := observed.system
    match system.step action with
    | none => none
    | some (next, events) =>
      some ({ system := next
              copied := if action.isNext && system.copiesMode then system.gSafeMode
                else observed.copied
              received := if action.isNext && system.pc = .receive then system.gSafeMode
                else observed.received },
        events.map fun event => (event, observed.received))

/-- Observing changes nothing. -/
theorem observedLogger_run {log : OpenFile} {actions : List LoggerAction}
    {observed : ObservedLogger} {events : List (LoggerEvent × Bool)}
    (ran : observedLogger.run (.start log) actions = some (observed, events)) :
    loggerMachine.run (.start log) actions = some (observed.system, events.map Prod.fst) := by
  have same := observedLogger.run_map loggerMachine ObservedLogger.system id Prod.fst
    (fun state action next emitted stepped => by
      simp only [observedLogger] at stepped
      split at stepped
      · cases stepped
      next stepped' =>
        cases stepped
        rw [List.map_map]
        exact stepped'.trans (congrArg some (Prod.ext rfl (List.map_id _).symm))) ran
  rwa [List.map_id] at same

/-- A report that is not critical is written only if it was received in normal mode, and skipped
only if it was received in safe mode. -/
def KeptByMode (_ : ObservedLogger) (events : List (LoggerEvent × Bool)) : Prop :=
  ∀ report safe, ¬ report.IsCritical →
    ((.written report, safe) ∈ events → safe = false) ∧
      ((.skipped report, safe) ∈ events → safe = true)

/-- When the loop is about to decide on a report that is not critical: the mode was, at its
receipt, what the loop had found it to be. -/
def CopyCurrent (observed : ObservedLogger) (_ : List (LoggerEvent × Bool)) :
    LoggerAction → Prop
  | .next _ => ∀ report, observed.system.pc = .received report → ¬ report.IsCritical →
    observed.received = observed.copied
  | _ => True

/-! ### Right and wrong decisions -/

/-- A step sets `g_paused` only where the loop copies the mode. -/
theorem LoggerSystem.gPaused_of_step {system next : LoggerSystem} {action : LoggerAction}
    {emitted : List LoggerEvent} (stepped : system.step action = some (next, emitted)) :
    next.gPaused =
      if action.isNext && system.copiesMode then system.gSafeMode else system.gPaused := by
  cases LoggerSystem.does_of_step stepped with
  | pauseTests atTest | resumeTests atTest =>
    cases paused : system.gPaused <;>
      simp [LoggerAction.isNext, LoggerSystem.copiesMode, atTest, paused]
  | turns atTurn goesOn =>
    rcases atTurn with atPc | atPc <;> simp [LoggerSystem.copiesMode, atPc]
  | receives atPc | writes atPc | skips atPc => simp [LoggerSystem.copiesMode, atPc]
  | sends | timesOut | sigusr1 | sigusr2 | sigterm => rfl

/-- `g_paused` is the loop's last copy of the mode. -/
theorem gPaused_eq_copied {log : OpenFile} {actions : List LoggerAction}
    {observed : ObservedLogger} {events : List (LoggerEvent × Bool)}
    (ran : observedLogger.run (.start log) actions = some (observed, events)) :
    observed.system.gPaused = observed.copied := by
  refine observedLogger.run_invariant
    (fun observed _ => observed.system.gPaused = observed.copied) rfl ?_ ran
  intro observed _ action next _ same stepped
  simp only [observedLogger] at stepped
  split at stepped
  · cases stepped
  next stepped' =>
    cases stepped
    rw [LoggerSystem.gPaused_of_step stepped', same]

theorem keptByMode_append {observed : ObservedLogger} {front back : List (LoggerEvent × Bool)} :
    KeptByMode observed (front ++ back) ↔
      KeptByMode observed front ∧ KeptByMode observed back := by
  constructor
  · intro kept
    refine ⟨fun report safe other => ?_, fun report safe other => ?_⟩
    · obtain ⟨written, skipped⟩ := kept report safe other
      exact ⟨fun member => written (List.mem_append_left _ member),
        fun member => skipped (List.mem_append_left _ member)⟩
    · obtain ⟨written, skipped⟩ := kept report safe other
      exact ⟨fun member => written (List.mem_append_right _ member),
        fun member => skipped (List.mem_append_right _ member)⟩
  · rintro ⟨first, second⟩ report safe other
    exact ⟨fun member => (List.mem_append.mp member).elim (first report safe other).1
        (second report safe other).1,
      fun member => (List.mem_append.mp member).elim (first report safe other).2
        (second report safe other).2⟩

/-- A step that does not come from a report received, and decides on none. -/
theorem keptByMode_iff_of_undecided {observed next : ObservedLogger} {action : LoggerAction}
    (events : List (LoggerEvent × Bool)) (said : List LoggerEvent)
    (undecided : ∀ stale report, action = .next stale → observed.system.pc ≠ .received report)
    (silent : ∀ report, .written report ∉ said ∧ .skipped report ∉ said) :
    KeptByMode next (said.map fun event => (event, observed.received)) ↔
      CopyCurrent observed events action := by
  refine iff_of_true (fun report safe other => ?_) ?_
  · refine ⟨fun member => ?_, fun member => ?_⟩ <;>
      obtain ⟨event, inside, same⟩ := List.mem_map.mp member <;> cases same
    · exact absurd inside (silent report).1
    · exact absurd inside (silent report).2
  · cases action with
    | next stale => exact fun report holding => absurd holding (undecided stale report rfl)
    | send | timeout | sigusr1 | sigusr2 | sigterm => trivial

/-- A step keeps the decisions right exactly when it decides by a current copy. -/
theorem keptByMode_iff {observed next : ObservedLogger} {action : LoggerAction}
    {events emitted : List (LoggerEvent × Bool)}
    (same : observed.system.gPaused = observed.copied) (kept : KeptByMode observed events)
    (stepped : observedLogger.step observed action = some (next, emitted)) :
    KeptByMode next (events ++ emitted) ↔ CopyCurrent observed events action := by
  rw [keptByMode_append, and_iff_right (show KeptByMode next events from kept)]
  simp only [observedLogger] at stepped
  split at stepped
  · cases stepped
  next after said stepped' =>
    cases stepped
    cases LoggerSystem.does_of_step stepped' with
    | @writes stale report _ _ holding keeps =>
      have normal : ¬ report.IsCritical → observed.copied = false := fun other =>
        same.symm.trans (keeps.resolve_right other)
      constructor
      · intro right report' holding' other
        cases holding.symm.trans holding'
        rw [normal other]
        exact (right report observed.received other).1 (List.mem_singleton_self _)
      · intro current report' safe other
        refine ⟨fun member => ?_, fun member => by simp at member⟩
        cases List.mem_singleton.mp member
        rw [current report holding other, normal other]
    | @skips stale report holding paused other =>
      have safeMode : observed.copied = true := same.symm.trans paused
      constructor
      · intro right report' holding' other'
        cases holding.symm.trans holding'
        rw [safeMode]
        exact (right report observed.received other).2 (List.mem_singleton_self _)
      · intro current report' safe other'
        refine ⟨fun member => by simp at member, fun member => ?_⟩
        cases List.mem_singleton.mp member
        rw [current report holding other, safeMode]
    | turns atTurn =>
      refine keptByMode_iff_of_undecided events _ ?_ (by simp)
      rcases atTurn with atPc | atPc <;> simp [atPc]
    | pauseTests atPc | resumeTests atPc | receives atPc =>
      exact keptByMode_iff_of_undecided events _ (by simp [atPc]) (by simp)
    | sends | timesOut | sigusr1 | sigusr2 | sigterm =>
      exact keptByMode_iff_of_undecided events _ (by simp) (by simp)

/-- The statement after a receive writes the report or skips it. -/
theorem decides_of_received {old : List FdrEntry} {observed : ObservedLogger}
    {events : List LoggerEvent} (pipeline : observed.system.Pipeline old events)
    {report : FaultReport} (holding : observed.system.pc = .received report)
    (stale : FdrHeader) :
    ∃ next decision,
      observedLogger.step observed (.next stale) = some (next, [(decision, observed.received)]) ∧
        (decision = .written report ∨ decision = .skipped report) := by
  obtain ⟨⟨next, emitted⟩, moved⟩ := Option.ne_none_iff_exists'.mp
    (mt (pipeline.next_eq_none stale).mp (by simp [holding]))
  have stepped : observed.system.step (.next stale) = some (next, emitted) := moved
  obtain ⟨decision, rfl, decides⟩ : ∃ decision, emitted = [decision] ∧
      (decision = .written report ∨ decision = .skipped report) := by
    cases LoggerSystem.does_of_step stepped with
    | writes holding' =>
      cases holding.symm.trans holding'
      exact ⟨_, rfl, .inl rfl⟩
    | skips holding' =>
      cases holding.symm.trans holding'
      exact ⟨_, rfl, .inr rfl⟩
    | turns atTurn =>
      rw [holding] at atTurn
      rcases atTurn with atPc | atPc <;> cases atPc
    | pauseTests atPc | resumeTests atPc | receives atPc =>
      rw [holding] at atPc
      cases atPc
  obtain ⟨after, observing⟩ : ∃ after, observedLogger.step observed (.next stale) =
      some (after, [(decision, observed.received)]) := by
    simp only [observedLogger]
    rw [stepped]
    exact ⟨_, rfl⟩
  exact ⟨after, decision, observing, decides⟩

/-! ### What is in the log -/

/-- The reports the loop has passed to `fdr_write_entry`. -/
def writtenReports (events : List LoggerEvent) : List FaultReport :=
  events.filterMap fun
    | .written report => some report
    | .enqueued _ | .skipped _ => none

/-- The log holds the reports written, behind the entries it had at the start. -/
def LoggerSystem.HoldsWritten (old : List FdrEntry) (system : LoggerSystem)
    (events : List LoggerEvent) : Prop :=
  ∃ header entries, system.log.bytes = logBytes header (old ++ entries) ∧
    entries.map FdrEntry.content = (writtenReports events).map FaultReport.content

theorem LoggerSystem.HoldsWritten.step {old : List FdrEntry} {system next : LoggerSystem}
    {events emitted : List LoggerEvent} {action : LoggerAction}
    (holds : system.HoldsWritten old events) (pipeline : system.Pipeline old events)
    (stepped : system.step action = some (next, emitted)) :
    next.HoldsWritten old (events ++ emitted) := by
  obtain ⟨header, entries, bytes, contents⟩ := holds
  have split : writtenReports (events ++ emitted) =
      writtenReports events ++ writtenReports emitted := List.filterMap_append
  unfold LoggerSystem.HoldsWritten
  rw [split, List.map_append, ← contents]
  cases LoggerSystem.does_of_step stepped with
  | @writes stale report _ _ holding _ ran =>
    have terminated : report.Terminated :=
      pipeline.held report (by rw [LoggerSystem.held, holding]; exact List.mem_singleton_self _)
    obtain ⟨entry, built, _, carries⟩ := newEntry_terminated header report terminated
    have wrote := run_fdrWriteEntry stale header (old ++ entries) system.log.offset report entry
      built
    rw [← bytes, ran] at wrote
    obtain ⟨-, log⟩ := Prod.mk.inj (Option.some.inj wrote)
    refine ⟨_, entries ++ [entry], by rw [log, List.append_assoc], ?_⟩
    rw [List.map_append, List.map_singleton, carries.content_eq]
    rfl
  | sends | turns | pauseTests | resumeTests | receives | skips | timesOut | sigusr1 | sigusr2
  | sigterm => exact ⟨header, entries, bytes, (List.append_nil _).symm⟩

/-! ### Whole runs -/

/-- Whatever order the sends, the loop's statements and the signals come in: throughout the run
each report that is not critical is written or skipped by the mode in which it was received
exactly when each is decided on by a copy that was current at its receipt. A report received is
written or skipped, and what was written is in the log, in order. -/
theorem keptByMode_throughout_iff (header : FdrHeader) (old : List FdrEntry) (offset : Nat)
    (actions : List LoggerAction) (observed : ObservedLogger) (events : List (LoggerEvent × Bool))
    (ran : observedLogger.run (.start ⟨logBytes header old, offset⟩) actions =
      some (observed, events)) :
    (observedLogger.Throughout KeptByMode (.start ⟨logBytes header old, offset⟩) actions ↔
        observedLogger.BeforeEach CopyCurrent (.start ⟨logBytes header old, offset⟩) actions) ∧
      (∀ report stale, observed.system.pc = .received report → ∃ next decision,
        observedLogger.step observed (.next stale) =
            some (next, [(decision, observed.received)]) ∧
          (decision = .written report ∨ decision = .skipped report)) ∧
      ∃ counted entries, observed.system.log.bytes = logBytes counted (old ++ entries) ∧
        entries.map FdrEntry.content =
          (writtenReports (events.map Prod.fst)).map FaultReport.content := by
  obtain ⟨pipeline, holds⟩ : observed.system.Pipeline old (events.map Prod.fst) ∧
      observed.system.HoldsWritten old (events.map Prod.fst) := by
    refine loggerMachine.run_invariant
      (fun system events => system.Pipeline old events ∧ system.HoldsWritten old events)
      ⟨LoggerSystem.pipeline_start header old offset, header, [],
        by rw [List.append_nil]; rfl, rfl⟩ ?_ (observedLogger_run ran)
    rintro system events action next emitted ⟨pipeline, holds⟩ stepped
    exact ⟨pipeline.step stepped, holds.step pipeline stepped⟩
  refine ⟨observedLogger.throughout_iff_beforeEach (fun _ _ _ => ⟨nofun, nofun⟩) ?_ ran,
    fun _ stale holding => decides_of_received pipeline holding stale, holds⟩
  exact fun _ _ _ _ _ _ front kept stepped =>
    keptByMode_iff (gPaused_eq_copied front) kept stepped

def batteryRecovered : Fault :=
  ⟨info, 22.0, 20.0, .literal "Battery recovered to normal level"⟩

/-- When the recovery is reported. -/
def recoveryTime : Timestamp := ⟨.literal "2025-01-01 00:00:25", by decide⟩

/-- The loop pauses, sees safe mode end, and receives the recovery report. -/
def resumed : List LoggerAction :=
  [.sigusr1, .next (.ofBytes []), .next (.ofBytes []), .timeout, .next (.ofBytes []), .sigusr2,
    .send .power batteryRecovered recoveryTime, .next (.ofBytes []), .next (.ofBytes []),
    .next (.ofBytes []), .next (.ofBytes []), .next (.ofBytes [])]

theorem keptByMode_throughout_iff_resumed :
    ∃ observed events,
      observedLogger.run (.start ⟨logBytes (.ofBytes []) [], 0⟩) resumed =
        some (observed, events) ∧
      (observedLogger.Throughout KeptByMode (.start ⟨logBytes (.ofBytes []) [], 0⟩) resumed ↔
        observedLogger.BeforeEach CopyCurrent (.start ⟨logBytes (.ofBytes []) [], 0⟩)
          resumed) ∧
      ∃ counted entries, observed.system.log.bytes = logBytes counted ([] ++ entries) ∧
        entries.map FdrEntry.content =
          (writtenReports (events.map Prod.fst)).map FaultReport.content := by
  obtain ⟨kept, _, logged⟩ := keptByMode_throughout_iff (.ofBytes []) [] 0 resumed _ _ rfl
  exact ⟨_, _, rfl, kept, logged⟩

/-- The loop pauses, and safe mode ends while it waits for a report. -/
def resumedUnseen : List LoggerAction :=
  [.sigusr1, .next (.ofBytes []), .next (.ofBytes []), .sigusr2,
    .send .power batteryRecovered recoveryTime, .next (.ofBytes []), .next (.ofBytes [])]

/-- The recovery report, received in normal mode, is skipped. -/
theorem not_keptByMode :
    ¬ ∀ (header : FdrHeader) (old : List FdrEntry) (offset : Nat) (actions : List LoggerAction),
      observedLogger.Throughout KeptByMode (.start ⟨logBytes header old, offset⟩) actions := by
  intro claimed
  have kept := claimed (.ofBytes []) [] 0 resumedUnseen resumedUnseen [] rfl _ _ rfl
  have skipped := (kept (Sender.power.sendFault batteryRecovered recoveryTime).2 false
    (by decide)).2 (List.mem_cons_of_mem _ List.mem_cons_self)
  cases skipped

end Fdir
