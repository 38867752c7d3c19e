/-
This file follows every fault report through the queue and the logger's loop, whatever its
severity.

Reports of one priority stay in the order they were sent in, and each is dealt with once: none is
lost, made up or seen twice, and the log holds those that were written. A report of a higher
priority may overtake, so a report waits for those ahead of it and for those that outrank it and
are sent meanwhile. Nothing outranks a critical one.
-/

import Fdir.PausedLogging
import Fdir.SentEntries

namespace Fdir

open CMemory FileProgram

/-! ### Priorities -/

/-- The priority a report was sent at, as its severity tells. -/
def FaultReport.priority (report : FaultReport) : Nat :=
  if report.severity.text = critical then mqPriorityCritical
  else if report.severity.text = warning then mqPriorityWarning
  else mqPriorityInfo

/-- Cutting a string to eleven bytes leaves a short text only if it was that text. -/
theorem cut_eq_iff {severity text : CString} (short : text.bytes.length < 11) :
    severity.cut 11 = text ↔ severity = text := by
  constructor
  · intro same
    have lengths : min 11 severity.bytes.length = text.bytes.length := by
      rw [← same, CString.cut, List.length_take]
    have whole : severity.cut 11 = severity := by
      obtain ⟨bytes, noNul⟩ := severity
      simp only [CString.cut, CString.mk.injEq]
      exact List.take_of_length_le (by simp only at lengths; omega)
    rwa [whole] at same
  · rintro rfl
    obtain ⟨bytes, noNul⟩ := severity
    simp only [CString.cut, CString.mk.injEq]
    exact List.take_of_length_le short.le

theorem priority_sendFault (sender : Sender) (fault : Fault) (now : Timestamp) :
    (sender.sendFault fault now).1 = (sender.sendFault fault now).2.priority := by
  have text : (sender.sendFault fault now).2.severity.text = fault.severity.cut 11 :=
    congrArg ReportContent.severity (content_sendFault sender fault now)
  rw [FaultReport.priority, text]
  simp only [cut_eq_iff (show critical.bytes.length < 11 by decide),
    cut_eq_iff (show warning.bytes.length < 11 by decide)]
  cases sender <;> rfl

theorem priority_le_critical (report : FaultReport) : report.priority ≤ mqPriorityCritical := by
  unfold FaultReport.priority
  split
  · exact le_rfl
  split <;> decide

theorem FaultReport.IsCritical.priority {report : FaultReport} (isCritical : report.IsCritical) :
    report.priority = mqPriorityCritical :=
  if_pos isCritical

/-! ### Each report once -/

/-- The reports the loop has dealt with, written or skipped. -/
def deliveredReports (events : List LoggerEvent) : List FaultReport :=
  events.filterMap fun
    | .written report | .skipped report => some report
    | .enqueued _ => none

/-- Where the reports are: dealt with, in the logger's hands, or in the queue. -/
def LoggerSystem.reports (system : LoggerSystem) (events : List LoggerEvent) :
    List FaultReport :=
  deliveredReports events ++ system.held ++ system.queue.messages.map Prod.snd

/-- The reports of one priority. -/
def ofPriority (priority : Nat) (reports : List FaultReport) : List FaultReport :=
  reports.filter fun report => report.priority = priority

/-- In every priority the reports are those enqueued, in the order they were enqueued. -/
structure LoggerSystem.Delivers (system : LoggerSystem) (events : List LoggerEvent) : Prop where
  priority : ∀ message ∈ system.queue.messages, message.1 = message.2.priority
  order : ∀ priority, ofPriority priority (system.reports events) =
    ofPriority priority (enqueuedReports events)
  skipped : ∀ report, .skipped report ∈ events → ¬ report.IsCritical

namespace LoggerSystem.Delivers

variable {system next : LoggerSystem} {events emitted : List LoggerEvent}

theorem start (log : OpenFile) : (LoggerSystem.start log).Delivers [] where
  priority := fun _ member => by cases member
  order := fun _ => rfl
  skipped := fun _ member => by cases member

/-- A step that moves a report on, or does nothing to any. -/
theorem moves (delivers : system.Delivers events)
    (queue : ∀ message ∈ next.queue.messages, message ∈ system.queue.messages)
    (reports : next.reports (events ++ emitted) = system.reports events)
    (silent : enqueuedReports emitted = [])
    (skipped : ∀ report, .skipped report ∈ emitted → ¬ report.IsCritical) :
    next.Delivers (events ++ emitted) := by
  refine ⟨fun message member => delivers.priority message (queue message member),
    fun priority => ?_, fun report member => ?_⟩
  · have same : enqueuedReports (events ++ emitted) = enqueuedReports events := by
      rw [enqueuedReports, List.filterMap_append, ← enqueuedReports, ← enqueuedReports, silent,
        List.append_nil]
    rw [reports, same]
    exact delivers.order priority
  · rcases List.mem_append.mp member with before | now
    · exact delivers.skipped report before
    · exact skipped report now

/-- A report sent joins those of its priority at their end. -/
theorem send (delivers : system.Delivers events) {message : Nat × FaultReport}
    (tells : message.1 = message.2.priority) {queue : MessageQueue}
    (placed : system.queue.send message.1 message.2 = some queue) :
    LoggerSystem.Delivers { system with queue } (events ++ [.enqueued message.2]) := by
  have messages := PriorityQueue.send_eq_some placed
  refine ⟨fun other member => ?_, fun priority => ?_, fun report member => ?_⟩
  · change other ∈ queue.messages at member
    rw [messages] at member
    rcases PriorityQueue.mem_place.mp member with rfl | member
    · exact tells
    · exact delivers.priority other member
  · have more : enqueuedReports (events ++ [.enqueued message.2]) =
        enqueuedReports events ++ [message.2] := List.filterMap_append
    have same : deliveredReports (events ++ [.enqueued message.2]) = deliveredReports events := by
      rw [deliveredReports, List.filterMap_append]
      exact List.append_nil _
    have ofQueue : ∀ list : List (Nat × FaultReport), ofPriority priority (list.map Prod.snd) =
        (list.filter fun other => other.2.priority = priority).map Prod.snd :=
      fun list => List.filter_map
    have before := delivers.order priority
    rw [LoggerSystem.reports, ofPriority, List.filter_append, ← ofPriority, ← ofPriority,
      ofQueue] at before
    rw [more, LoggerSystem.reports, ofPriority, List.filter_append, ← ofPriority, ← ofPriority,
      ofQueue, ofPriority, ofPriority, List.filter_append (enqueuedReports events), ← ofPriority,
      ← ofPriority, ← before, same]
    show _ ++ (queue.messages.filter _).map Prod.snd = _
    rw [messages, List.append_assoc]
    congr 1
    by_cases inside : message.2.priority = priority
    · rw [PriorityQueue.filter_place _ message system.queue.ordered (decide_eq_true inside),
        List.map_append]
      · have own : ofPriority priority [message.2] = [message.2] :=
          List.filter_cons_of_pos (decide_eq_true inside)
        exact congrArg _ own.symm
      · intro other member otherInside
        rw [tells, inside, delivers.priority other member]
        exact (of_decide_eq_true otherInside).ge
    · rw [PriorityQueue.filter_place_of_not _ message _ (decide_eq_false inside),
        List.filter_cons_of_neg (by simpa using inside)]
      exact (List.append_nil _).symm
  · rcases List.mem_append.mp member with before | now
    · exact delivers.skipped report before
    · simp at now

/-- Every step of the system keeps it. -/
theorem step (delivers : system.Delivers events) {action : LoggerAction}
    (stepped : system.step action = some (next, emitted)) : next.Delivers (events ++ emitted) := by
  -- The loop's other statements leave every report where it is.
  have stays : ∀ {other : LoggerSystem}, other.queue = system.queue → other.held = system.held →
      other.Delivers (events ++ []) := by
    intro other queue held
    refine delivers.moves (fun _ member => by rwa [queue] at member) ?_ rfl (by simp)
    rw [LoggerSystem.reports, queue, held, List.append_nil]
    rfl
  have dealt : ∀ {report : FaultReport} {event : LoggerEvent}, system.pc = .received report →
      deliveredReports (events ++ [event]) = deliveredReports events ++ [report] →
      ∀ {other : LoggerSystem}, other.queue = system.queue → other.held = [] →
        other.reports (events ++ [event]) = system.reports events := by
    intro report event holding more other queue held
    have mine : system.held = [report] := by rw [LoggerSystem.held, holding]
    rw [LoggerSystem.reports, LoggerSystem.reports, more, queue, held, mine, List.append_nil]
  cases LoggerSystem.does_of_step stepped with
  | sends placed => exact delivers.send (priority_sendFault ..) placed
  | turns atTurn goesOn =>
    refine stays rfl ?_
    rcases atTurn with atPc | atPc <;> rcases goesOn with rfl | rfl <;>
      cases system.gShutdown <;> simp [LoggerSystem.held, atPc]
  | pauseTests atTest =>
    refine stays rfl ?_
    cases system.gSafeMode <;> cases system.gPaused <;> simp [LoggerSystem.held, atTest]
  | resumeTests atTest => exact stays rfl (by simp only [LoggerSystem.held, atTest])
  | @receives _ message queue waiting taken =>
    have shape := PriorityQueue.receive_eq_some taken
    refine delivers.moves (fun other member => ?_) ?_ rfl (by simp)
    · rw [shape]
      exact List.mem_cons_of_mem _ member
    · rw [LoggerSystem.reports, LoggerSystem.reports, List.append_nil]
      simp only [LoggerSystem.held, waiting, shape, List.map_cons, List.append_nil]
      exact List.append_assoc _ _ _
  | @writes _ report _ _ holding =>
    refine delivers.moves (fun _ member => member) (dealt holding ?_ rfl rfl) rfl (by simp)
    exact List.filterMap_append
  | @skips _ report holding _ other =>
    refine delivers.moves (fun _ member => member) (dealt holding ?_ rfl rfl) rfl ?_
    · exact List.filterMap_append
    · intro skipped member
      cases List.mem_singleton.mp member
      exact other
  | timesOut waiting => exact stays rfl (by simp only [LoggerSystem.held, waiting])
  | sigusr1 | sigusr2 | sigterm => exact stays rfl rfl

end LoggerSystem.Delivers

/-- Lists that agree in every priority have the same reports the same number of times. -/
theorem perm_of_ofPriority {first second : List FaultReport}
    (same : ∀ priority, ofPriority priority first = ofPriority priority second) :
    first.Perm second := by
  refine List.perm_iff_count.mpr fun report => ?_
  have own : ∀ reports : List FaultReport,
      (ofPriority report.priority reports).count report = reports.count report :=
    fun reports => List.count_filter (decide_eq_true rfl)
  rw [← own first, ← own second, same]

/-- Whatever order the sends, the loop's statements and the signals come in: the reports of each
severity that were written or skipped, then the one the logger holds, then those in the queue are
those enqueued, in the order they were enqueued. So each report enqueued is in one of these places
once; a critical one is not skipped; and the log holds those written, in order. -/
theorem reports_delivered (header : FdrHeader) (old : List FdrEntry) (offset : Nat)
    (actions : List LoggerAction) (system : LoggerSystem) (events : List LoggerEvent)
    (ran : loggerMachine.run (.start ⟨logBytes header old, offset⟩) actions =
      some (system, events)) :
    (∀ priority, ofPriority priority (system.reports events) =
        ofPriority priority (enqueuedReports events)) ∧
      (system.reports events).Perm (enqueuedReports events) ∧
      (∀ report, .skipped report ∈ events → ¬ report.IsCritical) ∧
      ∃ counted entries, system.log.bytes = logBytes counted (old ++ entries) ∧
        entries.map FdrEntry.content = (writtenReports events).map FaultReport.content := by
  obtain ⟨delivers, _, holds⟩ : system.Delivers events ∧ system.Pipeline old events ∧
      system.HoldsWritten old events := by
    refine loggerMachine.run_invariant (fun system events => system.Delivers events ∧
        system.Pipeline old events ∧ system.HoldsWritten old events)
      ⟨.start _, LoggerSystem.pipeline_start header old offset, header, [],
        by rw [List.append_nil]; rfl, rfl⟩ ?_ ran
    rintro system events action next emitted ⟨delivers, pipeline, holds⟩ stepped
    exact ⟨delivers.step stepped, pipeline.step stepped, holds.step pipeline stepped⟩
  exact ⟨delivers.order, perm_of_ofPriority delivers.order, delivers.skipped, holds⟩

theorem reports_delivered_overtaking :
    ∃ system events,
      loggerMachine.run (.start ⟨logBytes (.ofBytes []) [], 0⟩) overtaking =
        some (system, events) ∧
      (∀ priority, ofPriority priority (system.reports events) =
          ofPriority priority (enqueuedReports events)) ∧
        (system.reports events).Perm (enqueuedReports events) ∧
        (∀ report, .skipped report ∈ events → ¬ report.IsCritical) ∧
        ∃ counted entries, system.log.bytes = logBytes counted ([] ++ entries) ∧
          entries.map FdrEntry.content = (writtenReports events).map FaultReport.content :=
  ⟨_, _, rfl, reports_delivered (.ofBytes []) [] 0 overtaking _ _ rfl⟩

/-! ### How long a report waits -/

/-- The reports enqueued that outrank a message. -/
def overtakers (message : Nat × FaultReport) (events : List LoggerEvent) : List FaultReport :=
  (enqueuedReports events).filter fun report => message.1 < report.priority

/-- A message is still in the queue behind those ahead of it, or has been received after them.
Those ahead were ahead before, or have outranked it since. -/
def Waits (before : LoggerSystem) (message : Nat × FaultReport) (count : Nat)
    (system : LoggerSystem) (events : List LoggerEvent) : Prop :=
  ∃ received, before.held ++ received = deliveredReports events ++ system.held ∧
    ((∃ ahead rest, received = ahead ++ message.2 :: rest ∧
        ahead.length ≤ count + (overtakers message events).length) ∨
      ∃ front back, system.queue.messages = front ++ message :: back ∧
        received.length + front.length = count + (overtakers message events).length)

theorem overtakers_append (message : Nat × FaultReport) (front back : List LoggerEvent) :
    overtakers message (front ++ back) = overtakers message front ++ overtakers message back := by
  rw [overtakers, enqueuedReports, List.filterMap_append, List.filter_append]
  rfl

theorem deliveredReports_append (front back : List LoggerEvent) :
    deliveredReports (front ++ back) = deliveredReports front ++ deliveredReports back :=
  List.filterMap_append

namespace Waits

variable {before system next : LoggerSystem} {message : Nat × FaultReport} {count : Nat}
  {events emitted : List LoggerEvent}

theorem moves (waits : Waits before message count system events)
    (queue : next.queue = system.queue)
    (reports : deliveredReports emitted ++ next.held = system.held)
    (silent : overtakers message emitted = []) :
    Waits before message count next (events ++ emitted) := by
  obtain ⟨received, conserved, place⟩ := waits
  refine ⟨received, ?_, ?_⟩
  · rw [deliveredReports_append, List.append_assoc, reports, conserved]
  · rwa [queue, overtakers_append, silent, List.append_nil]

/-- A report sent goes ahead of the message if it outranks it, and behind it otherwise. -/
theorem send (waits : Waits before message count system events) {sent : Nat × FaultReport}
    (tells : sent.1 = sent.2.priority) {queue : MessageQueue}
    (placed : system.queue.send sent.1 sent.2 = some queue) :
    Waits before message count { system with queue } (events ++ [.enqueued sent.2]) := by
  obtain ⟨received, conserved, place⟩ := waits
  have messages := PriorityQueue.send_eq_some placed
  refine ⟨received, ?_, ?_⟩
  · rw [deliveredReports_append, List.append_assoc]
    exact conserved
  rw [overtakers_append, List.length_append]
  rcases place with ⟨ahead, rest, split, few⟩ | ⟨front, back, shape, counted⟩
  · exact .inl ⟨ahead, rest, split, by omega⟩
  have ordered := system.queue.ordered
  rw [shape] at messages ordered
  by_cases outranks : message.1 < sent.1
  · obtain ⟨ahead, placed, longer⟩ := PriorityQueue.place_ahead outranks front back
    have one : overtakers message [.enqueued sent.2] = [sent.2] := by
      rw [tells] at outranks
      exact List.filter_cons_of_pos (decide_eq_true outranks)
    refine .inr ⟨ahead, back, messages.trans placed, ?_⟩
    rw [one, longer, List.length_singleton]
    omega
  · obtain ⟨behind, placed⟩ := PriorityQueue.place_behind (Nat.le_of_not_lt outranks) ordered
    have none : overtakers message [.enqueued sent.2] = [] := by
      rw [tells] at outranks
      exact List.filter_cons_of_neg (by simpa using outranks)
    refine .inr ⟨front, behind, messages.trans placed, ?_⟩
    rw [none, List.length_nil]
    omega

/-- A receive takes the message, or one ahead of it. -/
theorem receive (waits : Waits before message count system events) (empty : system.held = [])
    {first : Nat × FaultReport} {queue : MessageQueue}
    (taken : system.queue.receive = some (first, queue)) :
    Waits before message count { system with queue, pc := .received first.2 } events := by
  obtain ⟨received, conserved, place⟩ := waits
  have shape := PriorityQueue.receive_eq_some taken
  refine ⟨received ++ [first.2], ?_, ?_⟩
  · rw [← List.append_assoc, conserved, empty, List.append_nil]
    rfl
  rcases place with ⟨ahead, rest, split, few⟩ | ⟨front, back, split, counted⟩
  · refine .inl ⟨ahead, rest ++ [first.2], ?_, few⟩
    rw [split, List.append_assoc]
    rfl
  cases front with
  | nil =>
    obtain ⟨rfl, -⟩ := List.cons.inj (shape.symm.trans split)
    exact .inl ⟨received, [], rfl, by rw [← counted]; exact le_rfl⟩
  | cons head rest =>
    obtain ⟨-, same⟩ := List.cons.inj (shape.symm.trans split)
    refine .inr ⟨rest, back, same, ?_⟩
    rw [List.length_append, List.length_singleton, ← counted, List.length_cons]
    omega

theorem step (waits : Waits before message count system events) {action : LoggerAction}
    (stepped : system.step action = some (next, emitted)) :
    Waits before message count next (events ++ emitted) := by
  cases LoggerSystem.does_of_step stepped with
  | sends placed => exact waits.send (priority_sendFault ..) placed
  | receives waiting taken =>
    rw [List.append_nil]
    exact waits.receive (by simp only [LoggerSystem.held, waiting]) taken
  | turns atTurn goesOn =>
    refine waits.moves rfl ?_ rfl
    rcases atTurn with atPc | atPc <;> rcases goesOn with rfl | rfl <;>
      cases system.gShutdown <;> simp [LoggerSystem.held, atPc, deliveredReports]
  | pauseTests atTest =>
    refine waits.moves rfl ?_ rfl
    cases system.gSafeMode <;> cases system.gPaused <;>
      simp [LoggerSystem.held, atTest, deliveredReports]
  | resumeTests atPc | timesOut atPc =>
    exact waits.moves rfl (by simp [LoggerSystem.held, atPc, deliveredReports]) rfl
  | writes holding | skips holding =>
    exact waits.moves rfl (by simp [LoggerSystem.held, holding, deliveredReports]) rfl
  | sigusr1 | sigusr2 | sigterm => exact waits.moves rfl rfl rfl

/-- Once more reports have been dealt with than were ahead, the message is one of them. -/
theorem delivered (waits : Waits before message count system events)
    (enough : before.held.length + count + (overtakers message events).length <
      (deliveredReports events).length) :
    message.2 ∈ deliveredReports events := by
  obtain ⟨received, conserved, place⟩ := waits
  have many := congrArg List.length conserved
  rw [List.length_append, List.length_append] at many
  rcases place with ⟨ahead, rest, rfl, early⟩ | ⟨front, back, _, counted⟩
  · rw [← List.append_assoc] at conserved
    rcases List.append_eq_append_iff.mp conserved with ⟨middle, split, tail⟩ | ⟨middle, split, _⟩
    · cases middle with
      | nil =>
        have short := congrArg List.length split
        simp only [List.append_nil, List.length_append] at short
        omega
      | cons first others =>
        obtain ⟨rfl, -⟩ := List.cons.inj tail
        rw [split]
        exact List.mem_append_right _ List.mem_cons_self
    · have short := congrArg List.length split
      simp only [List.length_append] at short
      omega
  · omega

end Waits

/-- However the run goes on, a report in the queue waits only for the one the logger holds, for
those ahead of it, and for those that outrank it and are sent meanwhile: once more have been
written or skipped, it has been too. Nothing outranks a critical report, and it is written. -/
theorem report_waits (header : FdrHeader) (old : List FdrEntry) (offset : Nat)
    (earlier later : List LoggerAction) (before last : LoggerSystem)
    (events laterEvents : List LoggerEvent)
    (ran : loggerMachine.run (.start ⟨logBytes header old, offset⟩) earlier =
      some (before, events))
    (goesOn : loggerMachine.run before later = some (last, laterEvents))
    (message : Nat × FaultReport) (front back : List (Nat × FaultReport))
    (queued : before.queue.messages = front ++ message :: back)
    (enough : before.held.length + front.length + (overtakers message laterEvents).length <
      (deliveredReports laterEvents).length) :
    message.2 ∈ deliveredReports laterEvents ∧
      (message.2.IsCritical →
        overtakers message laterEvents = [] ∧ .written message.2 ∈ laterEvents) := by
  have delivers : ∀ {actions system events},
      loggerMachine.run (.start ⟨logBytes header old, offset⟩) actions = some (system, events) →
        system.Delivers events := fun ran =>
    loggerMachine.run_invariant LoggerSystem.Delivers (.start _)
      (fun _ _ _ _ _ delivers stepped => delivers.step stepped) ran
  have waits : Waits before message front.length last laterEvents :=
    loggerMachine.run_invariant (Waits before message front.length)
      ⟨[], List.append_nil _, .inr ⟨front, back, queued, Nat.zero_add _⟩⟩
      (fun _ _ _ _ _ waits stepped => waits.step stepped) goesOn
  have dealt := waits.delivered enough
  refine ⟨dealt, fun isCritical => ⟨?_, ?_⟩⟩
  · have top : message.1 = mqPriorityCritical := by
      rw [(delivers ran).priority message (by rw [queued]; simp), isCritical.priority]
    refine List.filter_eq_nil_iff.mpr fun report _ => ?_
    rw [decide_eq_true_eq, top]
    exact Nat.not_lt_of_le (priority_le_critical report)
  · obtain ⟨event, member, isReport⟩ := List.mem_filterMap.mp dealt
    cases event with
    | enqueued report => cases isReport
    | written report =>
      cases isReport
      exact member
    | skipped report =>
      cases isReport
      have whole := delivers (loggerMachine.run_append_eq_some.mpr ⟨before, _, _, ran, goesOn, rfl⟩)
      exact absurd isCritical (whole.skipped _ (List.mem_append_right _ member))

/-- The battery's CRITICAL report, sent while the logger holds a warning. -/
def whileHolding : List LoggerAction :=
  overtaking.take 1 ++ List.replicate 4 (.next (.ofBytes [])) ++ (overtaking.drop 1).take 1

/-- The loop writes the report it holds and comes round once more. -/
def oneRound : List LoggerAction := List.replicate 6 (.next (.ofBytes []))

theorem report_waits_whileHolding :
    ∃ before last events laterEvents message back,
      loggerMachine.run (.start ⟨logBytes (.ofBytes []) [], 0⟩) whileHolding =
        some (before, events) ∧
      loggerMachine.run before oneRound = some (last, laterEvents) ∧
      before.queue.messages = [] ++ message :: back ∧
      message.2 ∈ deliveredReports laterEvents ∧
      (message.2.IsCritical →
        overtakers message laterEvents = [] ∧ .written message.2 ∈ laterEvents) := by
  have reached : (loggerMachine.run (.start ⟨logBytes (.ofBytes []) [], 0⟩) whileHolding).any
      (fun before => before.1.queue.messages.head?.any fun message =>
        (loggerMachine.run before.1 oneRound).any fun last =>
          decide (before.1.held.length + 0 + (overtakers message last.2).length <
            (deliveredReports last.2).length)) = true := by decide +kernel
  obtain ⟨⟨before, events⟩, ran, inQueue⟩ := (Option.any_eq_true _ _).mp reached
  obtain ⟨message, first, goesOn⟩ := (Option.any_eq_true _ _).mp inQueue
  obtain ⟨⟨last, laterEvents⟩, goesOn, enough⟩ := (Option.any_eq_true _ _).mp goesOn
  obtain ⟨back, queued⟩ := List.head?_eq_some_iff.mp first
  exact ⟨before, last, events, laterEvents, message, back, ran, goesOn, queued,
    report_waits (.ofBytes []) [] 0 whileHolding oneRound before last events laterEvents ran goesOn
      message [] back queued (of_decide_eq_true enough)⟩

end Fdir
