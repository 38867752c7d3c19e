/-
This file states which critical reports the logger still writes once SIGTERM has come.

The loop tests `g_shutdown` at its head and after a receive that failed, and nothing empties the
queue after the loop. So from the moment the signal is handled the logger receives at most one
message more, and none at all if it was not on its way to a receive. A critical report that is
still in the queue then is lost with the queue.
-/

import Fdir.Logger

namespace Fdir

open CMemory FileProgram

/-- The critical reports in the queue, in delivery order. -/
def LoggerSystem.queuedCriticals (system : LoggerSystem) : List ReportContent :=
  criticals (system.queue.messages.map fun message => message.2.content)

/-- The logger has tested `g_shutdown` and not yet received. -/
def LoggerPc.awaits : LoggerPc → Bool
  | pauseTest | resumeTest | receive => true
  | _ => false

/-- The critical reports of some contents are in the log behind the entries it had at the start,
before any other critical ones. -/
def CriticalsLogged (old : List FdrEntry) (bytes : List UInt8) (contents : List ReportContent) :
    Prop :=
  ∃ header written, bytes = logBytes header (old ++ written) ∧
    contents <+: criticals (written.map FdrEntry.content)

/-! ### The head of the queue -/

/-- A queue that holds a critical report delivers one. -/
theorem isCritical_head {message : Nat × FaultReport} {rest : List (Nat × FaultReport)}
    (ordered : (message :: rest).Pairwise fun first second => second.1 ≤ first.1)
    (allSent : ∀ other ∈ message :: rest, Sent other)
    (some : criticals ((message :: rest).map fun other => other.2.content) ≠ []) :
    message.2.IsCritical := by
  obtain ⟨content, found⟩ := List.exists_mem_of_ne_nil _ some
  obtain ⟨inside, isCritical⟩ := List.mem_filter.mp found
  obtain ⟨other, member, rfl⟩ := List.mem_map.mp inside
  have otherSent := allSent other member
  have top : other.1 = mqPriorityCritical :=
    otherSent.critical_iff.mpr (of_decide_eq_true isCritical)
  have sent := allSent message List.mem_cons_self
  refine sent.critical_iff.mp (sent.priority_le.antisymm ?_)
  rcases List.mem_cons.mp member with rfl | member
  · exact top.ge
  · exact top.ge.trans ((List.pairwise_cons.mp ordered).1 other member)

/-- A receive takes at most one critical report, and takes one if there is any. -/
theorem criticals_cons (message : Nat × FaultReport) (rest : List (Nat × FaultReport)) :
    criticals ((message :: rest).map fun other => other.2.content) =
      criticals [message.2.content] ++ criticals (rest.map fun other => other.2.content) := by
  rw [List.map_cons, ← List.singleton_append, criticals_append]

theorem length_criticals_singleton_le (content : ReportContent) :
    (criticals [content]).length ≤ 1 :=
  List.length_filter_le _ _

/-! ### After the signal -/

/-- What has happened since the signal was handled: `since` are the critical reports received,
and whether there can be any depends on where the logger was. -/
inductive Received (before : LoggerSystem) (actions : List LoggerAction) (pc : LoggerPc)
    (since : List ReportContent) : Prop
  /-- The receive is still to come. -/
  | awaiting (awaits : pc.awaits = true) (was : before.pc.awaits = true) (none : since = [])
      (patient : .timeout ∉ actions)
  /-- There was no receive, or it failed. -/
  | dry (past : pc.awaits = false) (none : since = [])
      (timedOut : before.pc.awaits = true → .timeout ∈ actions)
  /-- The receive delivered a message. -/
  | delivered (past : pc.awaits = false) (was : before.pc.awaits = true)
      (patient : .timeout ∉ actions) (atMost : since.length ≤ 1)
      (some : before.queuedCriticals ≠ [] → since.length = 1)

/-- The state of the logger after the signal. -/
structure Closing (before : LoggerSystem) (actions : List LoggerAction) (system : LoggerSystem)
    (events : List LoggerEvent) : Prop where
  shutdown : system.gShutdown = true
  queue : ∀ message ∈ system.queue.messages, Sent message
  taken : ∃ since, Received before actions system.pc since ∧
    before.queuedCriticals ++ criticals ((enqueuedReports events).map FaultReport.content) =
      since ++ system.queuedCriticals

/-- Nothing changes for a step that is no timeout and leaves the logger on its side of the
receive. -/
theorem Received.mono {before : LoggerSystem} {actions : List LoggerAction} {pc after : LoggerPc}
    {since : List ReportContent} (received : Received before actions pc since)
    {action : LoggerAction} (other : action ≠ .timeout) (awaits : after.awaits = pc.awaits) :
    Received before (actions ++ [action]) after since := by
  have same : LoggerAction.timeout ∈ actions ++ [action] ↔ LoggerAction.timeout ∈ actions := by
    simp [other.symm]
  cases received with
  | awaiting waits was none patient =>
    exact .awaiting (awaits.trans waits) was none (mt same.mp patient)
  | dry past none timedOut => exact .dry (awaits.trans past) none fun was => same.mpr (timedOut was)
  | delivered past was patient atMost some =>
    exact .delivered (awaits.trans past) was (mt same.mp patient) atMost some

namespace Closing

variable {before system next : LoggerSystem} {actions : List LoggerAction}
  {events : List LoggerEvent}

/-- A step that changes neither the queue nor where the logger stands to its receive. -/
theorem quiet (closing : Closing before actions system events) {action : LoggerAction}
    (other : action ≠ .timeout) (shutdown : next.gShutdown = system.gShutdown)
    (queue : next.queue = system.queue) (awaits : next.pc.awaits = system.pc.awaits)
    {emitted : List LoggerEvent} (silent : enqueuedReports emitted = []) :
    Closing before (actions ++ [action]) next (events ++ emitted) := by
  obtain ⟨set, allSent, since, received, conserved⟩ := closing
  refine ⟨shutdown.trans set, by rwa [queue], since, received.mono other awaits, ?_⟩
  rw [enqueuedReports, List.filterMap_append, ← enqueuedReports, ← enqueuedReports, silent,
    List.append_nil, conserved, LoggerSystem.queuedCriticals, LoggerSystem.queuedCriticals, queue]

/-- A message sent joins the queue behind what is critical there. -/
theorem send (closing : Closing before actions system events) {action : LoggerAction}
    (other : action ≠ .timeout) {message : Nat × FaultReport} (sent : Sent message)
    {queue : MessageQueue} (placed : system.queue.send message.1 message.2 = some queue) :
    Closing before (actions ++ [action]) { system with queue }
      (events ++ [.enqueued message.2]) := by
  obtain ⟨set, allSent, since, received, conserved⟩ := closing
  have messages := PriorityQueue.send_eq_some placed
  refine ⟨set, fun one member => ?_, since, received.mono other rfl, ?_⟩
  · change one ∈ queue.messages at member
    rw [messages] at member
    rcases PriorityQueue.mem_place.mp member with rfl | member
    · exact sent
    · exact allSent one member
  · have more : enqueuedReports (events ++ [.enqueued message.2]) =
        enqueuedReports events ++ [message.2] := List.filterMap_append
    rw [more, List.map_append, criticals_append, ← List.append_assoc, conserved,
      LoggerSystem.queuedCriticals, LoggerSystem.queuedCriticals, messages,
      criticals_place system.queue.ordered allSent sent, List.append_assoc]
    rfl

/-- The one receive that may still succeed. -/
theorem receive (closing : Closing before actions system events)
    (awaits : system.pc.awaits = true) {action : LoggerAction} (other : action ≠ .timeout)
    {message : Nat × FaultReport} {queue : MessageQueue}
    (taken : system.queue.receive = some (message, queue)) :
    Closing before (actions ++ [action]) { system with queue, pc := .received message.2 }
      events := by
  obtain ⟨set, allSent, since, received, conserved⟩ := closing
  have shape := PriorityQueue.receive_eq_some taken
  have ordered := system.queue.ordered
  rw [shape] at allSent ordered
  cases received with
  | dry past => rw [past] at awaits; cases awaits
  | delivered past => rw [past] at awaits; cases awaits
  | awaiting _ was none patient =>
    subst none
    rw [List.nil_append, LoggerSystem.queuedCriticals, LoggerSystem.queuedCriticals, shape]
      at conserved
    refine ⟨set, fun one member => allSent one (List.mem_cons_of_mem _ member),
      criticals [message.2.content], .delivered rfl was ?_ ?_ fun some => ?_, ?_⟩
    · simp [patient, other.symm]
    · exact length_criticals_singleton_le _
    · have isCritical := isCritical_head ordered allSent fun empty => some <| by
        rw [LoggerSystem.queuedCriticals]
        rw [empty] at conserved
        exact (List.append_eq_nil_iff.mp conserved).1
      rw [criticals_of_isCritical isCritical]
      rfl
    · rw [LoggerSystem.queuedCriticals, conserved, criticals_cons]
      rfl

/-- A receive that fails. -/
theorem timeout (closing : Closing before actions system events)
    (awaits : system.pc.awaits = true) :
    Closing before (actions ++ [.timeout]) { system with pc := .timedOut } events := by
  obtain ⟨set, allSent, since, received, conserved⟩ := closing
  refine ⟨set, allSent, since, ?_, conserved⟩
  cases received with
  | dry past => rw [past] at awaits; cases awaits
  | delivered past => rw [past] at awaits; cases awaits
  | awaiting _ _ none =>
    exact .dry rfl none fun _ => List.mem_append_right _ List.mem_cons_self

/-- Every step after the signal. -/
theorem step (closing : Closing before actions system events) {action : LoggerAction}
    {emitted : List LoggerEvent} (stepped : system.step action = some (next, emitted)) :
    Closing before (actions ++ [action]) next (events ++ emitted) := by
  cases LoggerSystem.does_of_step stepped with
  | sends placed => exact closing.send (by simp) (sent_sendFault ..) placed
  | turns atTurn goesOn =>
    refine closing.quiet (by simp) ?_ ?_ ?awaits ?_
    case awaits =>
      -- The flag is set, so the loop ends here.
      rw [closing.shutdown, if_pos rfl]
      rcases atTurn with atPc | atPc <;> rw [atPc] <;> rfl
    all_goals rfl
  | pauseTests atTest =>
    refine closing.quiet (by simp) ?_ ?_ ?awaits ?_
    case awaits =>
      rw [atTest]
      cases system.gSafeMode <;> cases system.gPaused <;> rfl
    all_goals rfl
  | resumeTests atPc | writes atPc | skips atPc =>
    refine closing.quiet (by simp) ?_ ?_ ?awaits ?_
    case awaits =>
      rw [atPc]
      rfl
    all_goals rfl
  | receives waiting taken =>
    rw [List.append_nil]
    exact closing.receive (by rw [waiting]; rfl) (by simp) taken
  | timesOut waiting =>
    rw [List.append_nil]
    exact closing.timeout (by rw [waiting]; rfl)
  | sigusr1 | sigusr2 =>
    refine closing.quiet (by simp) ?_ ?_ ?_ ?_ <;> rfl
  | sigterm =>
    refine closing.quiet (by simp) closing.shutdown.symm ?_ ?_ ?_ <;> rfl

/-- The signal itself. -/
theorem of_sigterm (sent : ∀ message ∈ before.queue.messages, Sent message) :
    Closing before [] { before with gShutdown := true } [] := by
  refine ⟨rfl, sent, [], ?_, List.append_nil _⟩
  cases awaits : before.pc.awaits with
  | true => exact .awaiting awaits awaits rfl List.not_mem_nil
  | false => exact .dry awaits rfl fun was => by rw [awaits] at was; cases was

theorem of_run (sent : ∀ message ∈ before.queue.messages, Sent message)
    (ran : loggerMachine.run { before with gShutdown := true } actions = some (system, events)) :
    Closing before actions system events :=
  loggerMachine.run_induction (Closing before) (of_sigterm sent)
    (fun _ _ _ _ _ _ _ closing stepped => closing.step stepped) ran

end Closing

/-! ### What is lost -/

theorem criticals_enqueued_append (front back : List LoggerEvent) :
    criticals ((enqueuedReports (front ++ back)).map FaultReport.content) =
      criticals ((enqueuedReports front).map FaultReport.content) ++
        criticals ((enqueuedReports back).map FaultReport.content) := by
  rw [enqueuedReports, List.filterMap_append, List.map_append, criticals_append]
  rfl

/-- What was queued at the signal is a beginning of what was received after it exactly when it is
no longer, and that is so in three cases. -/
theorem Received.prefix_iff {before : LoggerSystem} {actions : List LoggerAction} {pc : LoggerPc}
    {since : List ReportContent} (received : Received before actions pc since)
    (past : pc.awaits = false) {more left : List ReportContent}
    (taken : before.queuedCriticals ++ more = since ++ left) :
    before.queuedCriticals <+: since ↔
      before.queuedCriticals = [] ∨
        before.queuedCriticals.length = 1 ∧ before.pc.awaits = true ∧ .timeout ∉ actions := by
  have shorter : before.queuedCriticals <+: since ↔
      before.queuedCriticals.length ≤ since.length :=
    ⟨List.IsPrefix.length_le, List.prefix_of_prefix_length_le (List.prefix_append _ more)
      (by rw [taken]; exact List.prefix_append _ _)⟩
  rw [shorter]
  cases received with
  | awaiting awaits => rw [past] at awaits; cases awaits
  | dry _ none timedOut =>
    rw [none, List.length_nil, Nat.le_zero, List.length_eq_zero_iff]
    exact ⟨.inl, fun either => either.resolve_right fun ⟨_, was, patient⟩ =>
      patient (timedOut was)⟩
  | delivered _ was patient atMost some =>
    constructor
    · intro fits
      by_cases empty : before.queuedCriticals = []
      · exact .inl empty
      · have positive := List.length_pos_iff.mpr empty
        exact .inr ⟨by omega, was, patient⟩
    · rintro (empty | ⟨one, _⟩)
      · rw [empty]
        exact Nat.zero_le _
      · rw [some (List.ne_nil_of_length_pos (by omega)), one]

/-- For every run and every moment SIGTERM is handled in it: once the loop has ended, all critical
reports enqueued before that moment are in the log exactly when none was in the queue then, or
one was, the logger was on its way to a receive, and that receive did not fail. -/
theorem criticalsLogged_iff (header : FdrHeader) (old : List FdrEntry) (offset : Nat)
    (earlier later : List LoggerAction) (before last : LoggerSystem)
    (events laterEvents : List LoggerEvent)
    (ran : loggerMachine.run (.start ⟨logBytes header old, offset⟩) earlier =
      some (before, events))
    (ended : loggerMachine.run before (.sigterm :: later) = some (last, laterEvents))
    (finished : last.pc = .finished) :
    CriticalsLogged old last.log.bytes
        (criticals ((enqueuedReports events).map FaultReport.content)) ↔
      before.queuedCriticals = [] ∨
        before.queuedCriticals.length = 1 ∧ before.pc.awaits = true ∧ .timeout ∉ later := by
  have pipeline : ∀ {actions system events},
      loggerMachine.run (.start ⟨logBytes header old, offset⟩) actions = some (system, events) →
      system.Pipeline old events := fun ran =>
    loggerMachine.run_invariant (LoggerSystem.Pipeline old)
      (LoggerSystem.pipeline_start header old offset)
      (fun _ _ _ _ _ pipeline stepped => pipeline.step stepped) ran
  obtain ⟨⟨_, first, _, firstConserved⟩, allSent, _⟩ := pipeline ran
  obtain ⟨_, _, emitted, ⟨⟩, rest, rfl⟩ := loggerMachine.run_cons_eq_some.mp ended
  obtain ⟨⟨counted, written, bytes, conserved⟩, _, _⟩ := pipeline
    (loggerMachine.run_append_eq_some.mpr ⟨before, events, _, ran, ended, rfl⟩)
  obtain ⟨_, _, since, received, taken⟩ := Closing.of_run allSent rest
  have none : last.held = [] := by rw [LoggerSystem.held, finished]
  have logged : criticals (written.map FdrEntry.content) =
      criticals (first.map FdrEntry.content) ++
        criticals (before.held.map FaultReport.content) ++ since := by
    have whole := conserved
    rw [none, criticals_enqueued_append, ← firstConserved, List.append_assoc (_ ++ _)] at whole
    change _ ++ criticals [] ++ last.queuedCriticals = _ ++ (before.queuedCriticals ++ _) at whole
    rw [taken, ← List.append_assoc, show criticals [] = [] from rfl, List.append_nil] at whole
    exact List.append_cancel_right whole
  have exactly : CriticalsLogged old last.log.bytes
      (criticals ((enqueuedReports events).map FaultReport.content)) ↔
        before.queuedCriticals <+: since := by
    rw [← firstConserved]
    constructor
    · rintro ⟨header', written', bytes', isPrefix⟩
      obtain ⟨_, same⟩ := logBytes_inj.mp (bytes.symm.trans bytes')
      rw [← List.append_cancel_left same, logged] at isPrefix
      exact (List.prefix_append_right_inj _).mp isPrefix
    · intro isPrefix
      refine ⟨counted, written, bytes, ?_⟩
      rw [logged]
      exact (List.prefix_append_right_inj _).mpr isPrefix
  rw [exactly, received.prefix_iff (by rw [finished]; rfl) taken]

/-- The logger's last statements: it is on its way to a receive, and writes what it gets. -/
def lastReceive : List LoggerAction :=
  [.next (.ofBytes []), .next (.ofBytes []), .next (.ofBytes []), .next (.ofBytes []),
    .next (.ofBytes [])]

theorem criticalsLogged_iff_lastReceive :
    ∃ before last events laterEvents,
      loggerMachine.run (.start ⟨logBytes (.ofBytes []) [], 0⟩) (overtaking.take 3) =
        some (before, events) ∧
      loggerMachine.run before (.sigterm :: lastReceive) = some (last, laterEvents) ∧
      (CriticalsLogged [] last.log.bytes
          (criticals ((enqueuedReports events).map FaultReport.content)) ↔
        before.queuedCriticals = [] ∨
          before.queuedCriticals.length = 1 ∧ before.pc.awaits = true ∧
            .timeout ∉ lastReceive) :=
  ⟨_, _, _, _, rfl, rfl, criticalsLogged_iff (.ofBytes []) [] 0 (overtaking.take 3) lastReceive
    _ _ _ _ rfl rfl rfl⟩

/-- SIGTERM comes before the loop tests its flag, and a critical report stays in the queue. -/
theorem not_criticalsLogged :
    ¬ ∀ (header : FdrHeader) (old : List FdrEntry) (offset : Nat)
      (earlier later : List LoggerAction) (before last : LoggerSystem)
      (events laterEvents : List LoggerEvent),
      loggerMachine.run (.start ⟨logBytes header old, offset⟩) earlier = some (before, events) →
      loggerMachine.run before (.sigterm :: later) = some (last, laterEvents) →
      last.pc = .finished →
      CriticalsLogged old last.log.bytes
        (criticals ((enqueuedReports events).map FaultReport.content)) := by
  intro claimed
  obtain ⟨header, written, bytes, isPrefix⟩ := claimed (.ofBytes []) [] 0 (overtaking.take 2)
    [.next (.ofBytes [])] _ _ _ _ rfl rfl rfl
  -- The log has no entry.
  obtain ⟨_, rfl⟩ := logBytes_inj.mp bytes
  exact absurd isPrefix.length_le (by decide)

end Fdir
