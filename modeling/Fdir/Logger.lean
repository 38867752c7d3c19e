/-
This file models the logger's main loop together with everything that runs against it:
the three subsystems that send fault reports to the message queue, and the signals that
set the logger's flags between any two of its statements.

The result is that critical reports pass through the queue and the loop as through one
FIFO. A critical report has the highest priority, so inside the queue the critical
reports keep their order of arrival; the loop writes each one it receives, paused or not.
Reports of lower severity may be overtaken or skipped in between.
-/

import Fdir.FileIo
import Fdir.Machine
import Fdir.SendFault

namespace Fdir

open CMemory FileProgram

/-! ### The main loop -/

/-- Where the logger is in its main loop. -/
inductive LoggerPc where
  | loopTest
  | pauseTest
  | resumeTest
  | receive
  | timedOut
  | received (report : FaultReport)
  | finished
deriving DecidableEq

/-- The message queue, the open log and the variables of the logger process. -/
structure LoggerSystem where
  queue : MessageQueue
  log : OpenFile
  gSafeMode : Bool
  gShutdown : Bool
  gPaused : Bool
  pc : LoggerPc

inductive LoggerAction where
  /-- A `*_send_fault` whose `mq_send` finds room. -/
  | send (sender : Sender) (fault : Fault) (now : Timestamp)
  /-- The logger's next statement; an `fdr_write_entry` finds `stale` in its header variable. -/
  | next (stale : FdrHeader)
  /-- `mq_timedreceive` returns -1. -/
  | timeout
  | sigusr1
  | sigusr2
  | sigterm

inductive LoggerEvent where
  | enqueued (report : FaultReport)
  | written (report : FaultReport)
  | skipped (report : FaultReport)
deriving DecidableEq

/-- The logger's next statement. -/
def LoggerSystem.next (system : LoggerSystem) (stale : FdrHeader) :
    Option (LoggerSystem × List LoggerEvent) :=
  match system.pc with
  | .loopTest =>
    some ({ system with pc := if system.gShutdown then .finished else .pauseTest }, [])
  | .pauseTest =>
    if system.gSafeMode && !system.gPaused then
      some ({ system with gPaused := true, pc := .receive }, [])
    else some ({ system with pc := .resumeTest }, [])
  | .resumeTest =>
    -- The `else if` reads `g_safe_mode` again, so a signal may have changed it.
    if !system.gSafeMode && system.gPaused then
      some ({ system with gPaused := false, pc := .receive }, [])
    else some ({ system with pc := .receive }, [])
  | .receive =>
    match system.queue.receive with
    | none => none
    | some ((_, report), queue) => some ({ system with queue, pc := .received report }, [])
  | .timedOut =>
    some ({ system with pc := if system.gShutdown then .finished else .loopTest }, [])
  | .received report =>
    if !system.gPaused || report.severity.text = critical then
      match (fdrWriteEntry stale report).run system.log with
      | none => none
      | some (_, log) => some ({ system with log, pc := .loopTest }, [.written report])
    else some ({ system with pc := .loopTest }, [.skipped report])
  | .finished => none

def LoggerSystem.step (system : LoggerSystem) :
    LoggerAction → Option (LoggerSystem × List LoggerEvent)
  | .send sender fault now =>
    let (priority, report) := sender.sendFault fault now
    match system.queue.send priority report with
    | none => none
    | some queue => some ({ system with queue }, [.enqueued report])
  | .next stale => system.next stale
  | .timeout =>
    if system.pc = .receive then some ({ system with pc := .timedOut }, []) else none
  | .sigusr1 => some ({ system with gSafeMode := true }, [])
  | .sigusr2 => some ({ system with gSafeMode := false }, [])
  | .sigterm => some ({ system with gShutdown := true }, [])

def loggerMachine : Machine LoggerSystem LoggerAction LoggerEvent := ⟨LoggerSystem.step⟩

/-- The logger at the head of its loop, with an empty queue and its log opened. -/
def LoggerSystem.start (log : OpenFile) : LoggerSystem where
  queue := .empty
  log := log
  gSafeMode := false
  gShutdown := false
  gPaused := false
  pc := .loopTest

/-! ### What one step does -/

/-- What an action does to the system and what it says about it. -/
inductive LoggerSystem.Does (system : LoggerSystem) :
    LoggerAction → LoggerSystem → List LoggerEvent → Prop
  | sends {sender : Sender} {fault : Fault} {now : Timestamp} {queue : MessageQueue}
      (placed : system.queue.send (sender.sendFault fault now).1 (sender.sendFault fault now).2 =
        some queue) :
      Does system (.send sender fault now) { system with queue }
        [.enqueued (sender.sendFault fault now).2]
  /-- At the head of the loop, or after a receive that failed. -/
  | turns {stale : FdrHeader} {again : LoggerPc}
      (atTurn : system.pc = .loopTest ∨ system.pc = .timedOut)
      (goesOn : again = .pauseTest ∨ again = .loopTest) :
      Does system (.next stale)
        { system with pc := if system.gShutdown then .finished else again } []
  | pauseTests {stale : FdrHeader} (atTest : system.pc = .pauseTest) :
      Does system (.next stale)
        { system with
          gPaused := system.gPaused || system.gSafeMode
          pc := if system.gSafeMode && !system.gPaused then .receive else .resumeTest } []
  | resumeTests {stale : FdrHeader} (atTest : system.pc = .resumeTest) :
      Does system (.next stale)
        { system with gPaused := system.gPaused && system.gSafeMode, pc := .receive } []
  | receives {stale : FdrHeader} {message : Nat × FaultReport} {queue : MessageQueue}
      (waiting : system.pc = .receive) (taken : system.queue.receive = some (message, queue)) :
      Does system (.next stale) { system with queue, pc := .received message.2 } []
  | writes {stale : FdrHeader} {report : FaultReport} {status : Int} {log : OpenFile}
      (holding : system.pc = .received report)
      (keeps : system.gPaused = false ∨ report.IsCritical)
      (ran : (fdrWriteEntry stale report).run system.log = some (status, log)) :
      Does system (.next stale) { system with log, pc := .loopTest } [.written report]
  | skips {stale : FdrHeader} {report : FaultReport} (holding : system.pc = .received report)
      (paused : system.gPaused = true) (other : ¬ report.IsCritical) :
      Does system (.next stale) { system with pc := .loopTest } [.skipped report]
  | timesOut (waiting : system.pc = .receive) :
      Does system .timeout { system with pc := .timedOut } []
  | sigusr1 : Does system .sigusr1 { system with gSafeMode := true } []
  | sigusr2 : Does system .sigusr2 { system with gSafeMode := false } []
  | sigterm : Does system .sigterm { system with gShutdown := true } []

/-- The next statement of the loop. -/
theorem LoggerSystem.does_of_next {system next : LoggerSystem} {stale : FdrHeader}
    {emitted : List LoggerEvent} (stepped : system.next stale = some (next, emitted)) :
    system.Does (.next stale) next emitted := by
  unfold LoggerSystem.next at stepped
  split at stepped
  case h_1 atPc =>
    cases stepped
    exact .turns (.inl atPc) (.inl rfl)
  case h_2 atPc =>
    have does : system.Does (.next stale) _ [] := .pauseTests atPc
    cases safe : system.gSafeMode <;> cases paused : system.gPaused <;>
      rw [safe, paused] at stepped does <;> cases stepped <;> exact does
  case h_3 atPc =>
    have does : system.Does (.next stale) _ [] := .resumeTests atPc
    cases safe : system.gSafeMode <;> cases paused : system.gPaused <;>
      rw [safe, paused] at stepped does <;> cases stepped <;> exact does
  case h_4 waiting =>
    split at stepped
    · cases stepped
    next taken =>
      cases stepped
      exact .receives waiting taken
  case h_5 atPc =>
    cases stepped
    exact .turns (.inr atPc) (.inr rfl)
  case h_6 report holding =>
    by_cases keeps : system.gPaused = false ∨ report.IsCritical
    · rw [if_pos (by simpa [FaultReport.IsCritical] using keeps)] at stepped
      split at stepped
      · cases stepped
      next ran =>
        cases stepped
        exact .writes holding keeps ran
    · rw [if_neg (by simpa [FaultReport.IsCritical] using keeps)] at stepped
      cases stepped
      rw [not_or, Bool.not_eq_false] at keeps
      exact .skips holding keeps.1 keeps.2
  case h_7 => cases stepped

theorem LoggerSystem.does_of_step {system next : LoggerSystem} {action : LoggerAction}
    {emitted : List LoggerEvent} (stepped : system.step action = some (next, emitted)) :
    system.Does action next emitted := by
  cases action with
  | next stale => exact does_of_next stepped
  | send sender fault now =>
    simp only [LoggerSystem.step] at stepped
    split at stepped
    · cases stepped
    next placed =>
      cases stepped
      exact .sends placed
  | timeout =>
    simp only [LoggerSystem.step] at stepped
    split at stepped
    next waiting =>
      cases stepped
      exact .timesOut waiting
    · cases stepped
  | sigusr1 =>
    cases stepped
    exact .sigusr1
  | sigusr2 =>
    cases stepped
    exact .sigusr2
  | sigterm =>
    cases stepped
    exact .sigterm

/-! ### What a report says -/

/-- The strings and numbers of a report or of a log entry. -/
structure ReportContent where
  subsystem : CString
  severity : CString
  value : BitVec 32
  threshold : BitVec 32
  description : CString
  timestamp : CString
deriving DecidableEq

def FaultReport.content (report : FaultReport) : ReportContent where
  subsystem := report.subsystem.text
  severity := report.severity.text
  value := report.value
  threshold := report.threshold
  description := report.description.text
  timestamp := report.timestamp.text

def FdrEntry.content (entry : FdrEntry) : ReportContent where
  subsystem := entry.subsystem.text
  severity := entry.severity.text
  value := entry.value
  threshold := entry.threshold
  description := entry.description.text
  timestamp := entry.timestamp.text

theorem FdrEntry.Carries.content_eq {entry : FdrEntry} {report : FaultReport}
    (carries : entry.Carries report) : entry.content = report.content := by
  obtain ⟨first, second, third, fourth, fifth, sixth⟩ := carries
  simp only [FdrEntry.content, FaultReport.content, first, second, third, fourth, fifth, sixth]

/-- The critical ones among some contents, in order. -/
def criticals (contents : List ReportContent) : List ReportContent :=
  contents.filter fun content => content.severity = critical

theorem criticals_append (front back : List ReportContent) :
    criticals (front ++ back) = criticals front ++ criticals back :=
  List.filter_append ..

theorem criticals_of_isCritical {report : FaultReport} (isCritical : report.IsCritical) :
    criticals [report.content] = [report.content] :=
  List.filter_cons_of_pos (decide_eq_true isCritical)

theorem criticals_of_not_isCritical {report : FaultReport} (other : ¬ report.IsCritical) :
    criticals [report.content] = [] :=
  List.filter_cons_of_neg fun positive => other (of_decide_eq_true positive)

def LoggerEvent.enqueued? : LoggerEvent → Option FaultReport
  | .enqueued report => some report
  | .written _ => none
  | .skipped _ => none

/-- The reports enqueued so far. -/
def enqueuedReports (events : List LoggerEvent) : List FaultReport :=
  events.filterMap LoggerEvent.enqueued?

/-- The report the logger has received and not yet dealt with. -/
def LoggerSystem.held (system : LoggerSystem) : List FaultReport :=
  match system.pc with
  | .received report => [report]
  | _ => []

/-! ### The critical reports between the queue and the log -/

/-- A message sent joins the critical reports of the queue at their end if it is critical,
and leaves them as they are if it is not. -/
theorem criticals_place {messages : List (Nat × FaultReport)} {message : Nat × FaultReport}
    (ordered : messages.Pairwise fun first second => second.1 ≤ first.1)
    (allSent : ∀ other ∈ messages, Sent other) (sent : Sent message) :
    criticals ((PriorityQueue.place message messages).map fun other => other.2.content) =
      criticals (messages.map fun other => other.2.content) ++
        criticals [message.2.content] := by
  have commute : ∀ list : List (Nat × FaultReport),
      criticals (list.map fun other => other.2.content) =
        (list.filter fun other => other.2.IsCritical).map fun other => other.2.content :=
    fun list => List.filter_map ..
  rw [commute, commute]
  by_cases isCritical : message.2.IsCritical
  · have top : message.1 = mqPriorityCritical := sent.critical_iff.mpr isCritical
    rw [PriorityQueue.filter_place _ message ordered (decide_eq_true isCritical), List.map_append,
      criticals_of_isCritical isCritical, List.map_singleton]
    intro other member otherCritical
    rw [top, (allSent other member).critical_iff.mpr (of_decide_eq_true otherCritical)]
  · rw [PriorityQueue.filter_place_of_not _ message _ (decide_eq_false isCritical),
      criticals_of_not_isCritical isCritical, List.append_nil]

/-- The state of the pipeline: the log extends the entries it had at the start, and the
critical reports written, held and queued are together those enqueued, in that order. -/
structure LoggerSystem.Pipeline (old : List FdrEntry) (system : LoggerSystem)
    (events : List LoggerEvent) : Prop where
  log : ∃ header written, system.log.bytes = logBytes header (old ++ written) ∧
    criticals (written.map FdrEntry.content) ++
        criticals (system.held.map FaultReport.content) ++
        criticals (system.queue.messages.map fun message => message.2.content) =
      criticals ((enqueuedReports events).map FaultReport.content)
  queue : ∀ message ∈ system.queue.messages, Sent message
  held : ∀ report ∈ system.held, report.Terminated

namespace LoggerSystem.Pipeline

variable {old : List FdrEntry} {system next : LoggerSystem} {events emitted : List LoggerEvent}

/-- A step that leaves the log, the queue and the report held alone. -/
theorem quiet (pipeline : system.Pipeline old events) (log : next.log = system.log)
    (queue : next.queue = system.queue) (held : next.held = system.held) :
    next.Pipeline old events := by
  obtain ⟨whole, allSent, terminated⟩ := pipeline
  exact ⟨by rwa [log, queue, held], by rwa [queue], by rwa [held]⟩

/-- A message sent joins the queue. -/
theorem send (pipeline : system.Pipeline old events) {message : Nat × FaultReport}
    (sent : Sent message) {queue : MessageQueue}
    (placed : system.queue.send message.1 message.2 = some queue) :
    Pipeline old { system with queue } (events ++ [.enqueued message.2]) := by
  obtain ⟨⟨header, written, bytes, conserved⟩, allSent, terminated⟩ := pipeline
  have messages := PriorityQueue.send_eq_some placed
  refine ⟨⟨header, written, bytes, ?_⟩, fun other member => ?_, terminated⟩
  · have more : enqueuedReports (events ++ [.enqueued message.2]) =
        enqueuedReports events ++ [message.2] := List.filterMap_append
    rw [messages, criticals_place system.queue.ordered allSent sent, more, List.map_append,
      criticals_append, ← conserved, List.map_singleton]
    exact (List.append_assoc _ _ _).symm
  · change other ∈ queue.messages at member
    rw [messages] at member
    rcases PriorityQueue.mem_place.mp member with rfl | member
    · exact sent
    · exact allSent other member

/-- The report received moves from the head of the queue into the logger's hands. -/
theorem receive (pipeline : system.Pipeline old events) (empty : system.held = [])
    {message : Nat × FaultReport} {queue : MessageQueue}
    (taken : system.queue.receive = some (message, queue)) :
    Pipeline old { system with queue, pc := .received message.2 } events := by
  obtain ⟨⟨header, written, bytes, conserved⟩, allSent, _⟩ := pipeline
  have shape := PriorityQueue.receive_eq_some taken
  refine ⟨⟨header, written, bytes, ?_⟩, fun other member => allSent other ?_,
    fun report member => ?_⟩
  · rw [empty, List.map_nil, shape, List.map_cons, ← List.singleton_append,
      criticals_append] at conserved
    rw [← conserved, show criticals [] = [] from rfl, List.append_nil, List.append_assoc]
    rfl
  · rw [shape]
    exact List.mem_cons_of_mem _ member
  · rw [List.mem_singleton.mp member]
    exact (allSent message (by rw [shape]; exact List.mem_cons_self)).terminated

/-- The report held moves to the end of the log. -/
theorem write (pipeline : system.Pipeline old events) {report : FaultReport}
    (holding : system.pc = .received report) (stale : FdrHeader) :
    ∃ status log, (fdrWriteEntry stale report).run system.log = some (status, log) ∧
      Pipeline old { system with log, pc := .loopTest } events := by
  obtain ⟨⟨header, written, bytes, conserved⟩, allSent, terminated⟩ := pipeline
  have held : system.held = [report] := by rw [LoggerSystem.held, holding]
  obtain ⟨entry, built, _, carries⟩ := newEntry_terminated header report
    (terminated report (by rw [held]; exact List.mem_singleton_self _))
  have ran := run_fdrWriteEntry stale header (old ++ written) system.log.offset report entry built
  rw [← bytes] at ran
  refine ⟨_, _, ran, ⟨⟨_, written ++ [entry], by rw [List.append_assoc], ?_⟩, allSent, ?_⟩⟩
  · rw [held] at conserved
    rw [← conserved, List.map_append, criticals_append, List.map_singleton, carries.content_eq]
    change criticals _ ++ criticals _ ++ criticals [] ++ criticals _ = _
    rw [show criticals [] = [] from rfl, List.append_nil]
    rfl
  · intro other member
    cases member

/-- A report held that is not critical is dropped. -/
theorem skip (pipeline : system.Pipeline old events) {report : FaultReport}
    (holding : system.pc = .received report) (other : ¬ report.IsCritical) :
    Pipeline old { system with pc := .loopTest } events := by
  obtain ⟨⟨header, written, bytes, conserved⟩, allSent, _⟩ := pipeline
  have held : system.held = [report] := by rw [LoggerSystem.held, holding]
  refine ⟨⟨header, written, bytes, ?_⟩, allSent, fun _ member => by cases member⟩
  rw [held, List.map_singleton, criticals_of_not_isCritical other] at conserved
  exact conserved

end LoggerSystem.Pipeline

/-- Every step of the system keeps the pipeline. -/
theorem LoggerSystem.Pipeline.step {old : List FdrEntry} {system next : LoggerSystem}
    {events emitted : List LoggerEvent} {action : LoggerAction}
    (pipeline : system.Pipeline old events)
    (stepped : system.step action = some (next, emitted)) :
    next.Pipeline old (events ++ emitted) := by
  -- What the loop emits is not an enqueueing, so it leaves the right-hand side as it is.
  have same : ∀ event, event.enqueued? = none → ∀ {other : LoggerSystem},
      other.Pipeline old events → other.Pipeline old (events ++ [event]) := by
    rintro event silent other ⟨whole, allSent, terminated⟩
    refine ⟨?_, allSent, terminated⟩
    rwa [enqueuedReports, List.filterMap_append, List.filterMap_cons_none silent,
      List.filterMap_nil, List.append_nil]
  cases LoggerSystem.does_of_step stepped with
  | sends placed => exact pipeline.send (sent_sendFault ..) placed
  | turns atTurn goesOn =>
    rw [List.append_nil]
    refine pipeline.quiet rfl rfl ?_
    rcases atTurn with atPc | atPc <;> rcases goesOn with rfl | rfl <;>
      cases system.gShutdown <;> simp [LoggerSystem.held, atPc]
  | pauseTests atTest =>
    rw [List.append_nil]
    refine pipeline.quiet rfl rfl ?_
    cases system.gSafeMode <;> cases system.gPaused <;> simp [LoggerSystem.held, atTest]
  | resumeTests atTest =>
    rw [List.append_nil]
    exact pipeline.quiet rfl rfl (by simp only [LoggerSystem.held, atTest])
  | receives waiting taken =>
    rw [List.append_nil]
    exact pipeline.receive (by simp only [LoggerSystem.held, waiting]) taken
  | writes holding _ ran =>
    obtain ⟨status, log, again, kept⟩ := pipeline.write holding _
    cases ran.symm.trans again
    exact same (.written _) rfl kept
  | skips holding _ other => exact same (.skipped _) rfl (pipeline.skip holding other)
  | timesOut waiting =>
    rw [List.append_nil]
    exact pipeline.quiet rfl rfl (by simp only [LoggerSystem.held, waiting])
  | sigusr1 | sigusr2 | sigterm =>
    rw [List.append_nil]
    exact pipeline.quiet rfl rfl rfl

/-- The logger is stopped only by an empty queue or by the end of its loop; in particular no
report it holds makes `fdr_write_entry` run off the end of an array. -/
theorem LoggerSystem.Pipeline.next_eq_none {old : List FdrEntry} {system : LoggerSystem}
    {events : List LoggerEvent} (pipeline : system.Pipeline old events) (stale : FdrHeader) :
    system.next stale = none ↔
      system.pc = .finished ∨ system.pc = .receive ∧ system.queue.receive = none := by
  unfold LoggerSystem.next
  split
  case h_6 report atPc =>
    obtain ⟨status, log, ran, _⟩ := pipeline.write atPc stale
    simp only [ran, atPc]
    split <;> simp
  case h_4 atPc =>
    cases system.queue.receive <;> simp [atPc]
  all_goals
    next atPc => simp [atPc] <;> split <;> simp

/-- The pipeline of a logger that has just opened its log. -/
theorem LoggerSystem.pipeline_start (header : FdrHeader) (old : List FdrEntry) (offset : Nat) :
    (LoggerSystem.start ⟨logBytes header old, offset⟩).Pipeline old [] where
  log := ⟨header, [], by rw [List.append_nil]; rfl, rfl⟩
  queue := fun _ member => by cases member
  held := fun _ member => by cases member

/-- Whatever order the three subsystems' sends, the logger's statements and the signals come in:
the critical entries written since the start, then the critical report the logger holds, then
the critical reports in the queue in delivery order, are the critical reports enqueued, in the
order they were enqueued, each with its own strings and numbers. -/
theorem criticals_conserved (header : FdrHeader) (old : List FdrEntry) (offset : Nat)
    (actions : List LoggerAction) (system : LoggerSystem) (events : List LoggerEvent)
    (ran : loggerMachine.run (.start ⟨logBytes header old, offset⟩) actions =
      some (system, events)) :
    ∃ counted written, system.log.bytes = logBytes counted (old ++ written) ∧
      criticals (written.map FdrEntry.content) ++
          criticals (system.held.map FaultReport.content) ++
          criticals (system.queue.messages.map fun message => message.2.content) =
        criticals ((enqueuedReports events).map FaultReport.content) :=
  (loggerMachine.run_invariant (LoggerSystem.Pipeline old)
    (LoggerSystem.pipeline_start header old offset)
    (fun _ _ _ _ _ pipeline stepped => pipeline.step stepped) ran).log

/-- A warning, then a critical fault that overtakes it and is written. -/
def overtaking : List LoggerAction :=
  [.send .comms ⟨warning, 20.0, 30.0, .literal "Signal quality degraded"⟩
      ⟨.literal "2025-01-01 00:00:00", by decide⟩,
    .send .power ⟨critical, 8.0, 10.0, .literal "Battery critically low"⟩
      ⟨.literal "2025-01-01 00:00:02", by decide⟩,
    .next (.ofBytes []), .next (.ofBytes []), .next (.ofBytes []), .next (.ofBytes []),
    .next (.ofBytes [])]

theorem criticals_conserved_overtaking :
    ∃ system events,
      loggerMachine.run (.start ⟨logBytes (.ofBytes []) [], 0⟩) overtaking =
        some (system, events) ∧
      ∃ counted written, system.log.bytes = logBytes counted ([] ++ written) ∧
        criticals (written.map FdrEntry.content) ++
            criticals (system.held.map FaultReport.content) ++
            criticals (system.queue.messages.map fun message => message.2.content) =
          criticals ((enqueuedReports events).map FaultReport.content) :=
  ⟨_, _, rfl, criticals_conserved (.ofBytes []) [] 0 overtaking _ _ rfl⟩

end Fdir
