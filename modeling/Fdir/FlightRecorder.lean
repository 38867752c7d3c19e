/-
This file puts the mission's threads and the logger together: a report a thread sends joins the
message queue, and one the logger receives makes room for the threads.

Seen from either side the other only decides when a step can be taken, so what is known of the
threads and of the logger holds of the two together. From the ground only `fdr.log` is seen, and
the result is what it tells: the CRITICAL entries of each process are those of its latch.
-/

import Fdir.Delivery
import Fdir.MissionReports

namespace Fdir

open CMemory LockedThreads

/-! ### The threads and the logger -/

/-- The process a thread sends its reports from; the OBC sends none. -/
def MissionThread.sender : MissionThread → Option Sender
  | solar | battery | powerBusWriter => some .power
  | sensor | heater | thermalBusWriter => some .thermal
  | uplink | downlink => some .comms
  | watchdog => none

/-- The threads' view of the queue is how many reports there are in it. -/
structure RecordedMission where
  threads : MissionFineState
  logger : LoggerSystem

def RecordedMission.start (registers : MissionThread → Registers) (log : FileProgram.OpenFile) :
    RecordedMission :=
  ⟨.start (missionStore registers), .start log⟩

inductive RecordedAction where
  /-- A thread's next operation or access; a report it sends is stamped `now`. -/
  | run (thread : MissionThread) (input : MissionInput) (now : Timestamp)
  /-- The logger's next statement, the end of its wait, or a signal to it. -/
  | logger (action : LoggerAction)

inductive RecordedEvent where
  | sent (thread : MissionThread) (fault : Fault)
  | logged (event : LoggerEvent)

/-- The action takes a report from the queue. -/
def LoggerSystem.receives (system : LoggerSystem) : LoggerAction → Bool
  | .next _ => system.pc = .receive
  | _ => false

def RecordedMission.step (recorded : RecordedMission) :
    RecordedAction → Option (RecordedMission × List RecordedEvent)
  | .run thread input now =>
    match missionFine.machine.step recorded.threads (.run thread input) with
    | none => none
    | some (threads, []) => some ({ recorded with threads }, [])
    | some (threads, (_, fault) :: _) =>
      match thread.sender with
      | none => none
      | some sender =>
        match recorded.logger.step (.send sender fault now) with
        | none => none
        | some (logger, logged) =>
          some (⟨threads, logger⟩, .sent thread fault :: logged.map .logged)
  | .logger (.send ..) => none
  | .logger action =>
    match recorded.logger.step action with
    | none => none
    | some (logger, logged) =>
      if recorded.logger.receives action then
        match missionFine.machine.step recorded.threads .receive with
        | none => none
        | some (threads, _) => some (⟨threads, logger⟩, logged.map .logged)
      else some ({ recorded with logger }, logged.map .logged)

def recordedMission : Machine RecordedMission RecordedAction RecordedEvent :=
  ⟨RecordedMission.step⟩

/-! ### What a step does -/

/-- What an action does to the threads and to the logger. -/
inductive RecordedMission.Does (recorded : RecordedMission) :
    RecordedAction → RecordedMission → List RecordedEvent → Prop
  | runs {thread : MissionThread} {input : MissionInput} {now : Timestamp}
      {threads : MissionFineState}
      (ran : missionFine.machine.step recorded.threads (.run thread input) = some (threads, []))
      (queued : threads.queued = recorded.threads.queued) :
      Does recorded (.run thread input now) { recorded with threads } []
  | sends {thread : MissionThread} {input : MissionInput} {now : Timestamp}
      {threads : MissionFineState} {fault : Fault} {sender : Sender} {queue : MessageQueue}
      (ran : missionFine.machine.step recorded.threads (.run thread input) =
        some (threads, [(thread, fault)]))
      (queued : threads.queued = recorded.threads.queued + 1)
      (sentBy : thread.sender = some sender)
      (placed : recorded.logger.queue.send (sender.sendFault fault now).1
        (sender.sendFault fault now).2 = some queue) :
      Does recorded (.run thread input now) ⟨threads, { recorded.logger with queue }⟩
        [.sent thread fault, .logged (.enqueued (sender.sendFault fault now).2)]
  | receives {stale : FdrHeader} {logger : LoggerSystem} {logged : List LoggerEvent}
      (waiting : recorded.logger.pc = .receive)
      (stepped : recorded.logger.step (.next stale) = some (logger, logged))
      (some' : 0 < recorded.threads.queued) :
      Does recorded (.logger (.next stale))
        ⟨{ recorded.threads with queued := recorded.threads.queued - 1 }, logger⟩
        (logged.map .logged)
  | logs {action : LoggerAction} {logger : LoggerSystem} {logged : List LoggerEvent}
      (noSend : ∀ sender fault now, action ≠ .send sender fault now)
      (elsewhere : recorded.logger.receives action = false)
      (stepped : recorded.logger.step action = some (logger, logged)) :
      Does recorded (.logger action) { recorded with logger } (logged.map .logged)

theorem RecordedMission.does_of_run {recorded next : RecordedMission} {thread : MissionThread}
    {input : MissionInput} {now : Timestamp} {emitted : List RecordedEvent}
    (stepped : recorded.step (.run thread input now) = some (next, emitted)) :
    recorded.Does (.run thread input now) next emitted := by
  simp only [RecordedMission.step] at stepped
  split at stepped
  · cases stepped
  next threads ran =>
    cases stepped
    rcases missionFine.sent_of_run ran with ⟨_, queued⟩ | ⟨_, some', _⟩
    · exact .runs ran queued
    · cases some'
  next threads who fault rest ran =>
    rcases missionFine.sent_of_run ran with ⟨none, _⟩ | ⟨fault, some', queued, _⟩
    · cases none
    cases some'
    split at stepped
    · cases stepped
    next sender sentBy =>
      split at stepped
      · cases stepped
      next logger logged sends =>
        cases stepped
        cases LoggerSystem.does_of_step sends with
        | sends placed => exact .sends ran queued sentBy placed

theorem RecordedMission.does_of_step {recorded next : RecordedMission} {action : RecordedAction}
    {emitted : List RecordedEvent} (stepped : recorded.step action = some (next, emitted)) :
    recorded.Does action next emitted := by
  cases action with
  | run thread input now => exact does_of_run stepped
  | logger action =>
    have general : (∀ sender fault now, action ≠ .send sender fault now) →
        recorded.Does (.logger action) next emitted := by
      intro noSend
      have both : (match recorded.logger.step action with
          | none => none
          | some (logger, logged) =>
            if recorded.logger.receives action then
              match missionFine.machine.step recorded.threads .receive with
              | none => none
              | some (threads, _) => some (⟨threads, logger⟩, logged.map .logged)
            else some ({ recorded with logger }, logged.map .logged)) = some (next, emitted) := by
        cases action with
        | send sender fault now => exact absurd rfl (noSend sender fault now)
        | _ => exact stepped
      split at both
      · cases both
      next logger logged moved =>
        split at both
        next receives =>
          cases action with
          | next stale =>
            have some' : 0 < recorded.threads.queued := by
              by_contra none
              simp [Accesses.machine, none] at both
            simp only [Accesses.machine, if_pos some'] at both
            cases both
            exact .receives (of_decide_eq_true receives) moved some'
          | _ => cases receives
        next elsewhere =>
          cases both
          exact .logs noSend (Bool.not_eq_true _ ▸ elsewhere) moved
    cases action with
    | send sender fault now => cases stepped
    | _ => exact general (by simp)

/-! ### Either side by itself -/

def RecordedEvent.sent? : RecordedEvent → Option (MissionThread × Fault)
  | sent thread fault => some (thread, fault)
  | logged _ => none

def RecordedEvent.logged? : RecordedEvent → Option LoggerEvent
  | sent _ _ => none
  | logged event => some event

/-- What the threads have sent. -/
def sentFaults (events : List RecordedEvent) : List (MissionThread × Fault) :=
  events.filterMap RecordedEvent.sent?

/-- What became of the reports since. -/
def loggerEvents (events : List RecordedEvent) : List LoggerEvent :=
  events.filterMap RecordedEvent.logged?

theorem sent?_logged (logged : List LoggerEvent) :
    (logged.map RecordedEvent.logged).filterMap RecordedEvent.sent? = [] := by
  rw [List.filterMap_map]
  exact List.filterMap_eq_nil_iff.mpr fun _ _ => rfl

theorem logged?_logged (logged : List LoggerEvent) :
    (logged.map RecordedEvent.logged).filterMap RecordedEvent.logged? = logged := by
  rw [List.filterMap_map]
  exact List.filterMap_some

section Parts

variable {registers : MissionThread → Registers} {log : FileProgram.OpenFile}
  {actions : List RecordedAction} {recorded : RecordedMission} {events : List RecordedEvent}

/-- The threads do nothing the mission by itself does not do. -/
theorem threads_of_run
    (ran : recordedMission.run (.start registers log) actions = some (recorded, events)) :
    ∃ whole, missionFine.machine.run (.start (missionStore registers)) whole =
      some (recorded.threads, sentFaults events) := by
  refine recordedMission.run_part missionFine.machine RecordedMission.threads
    RecordedEvent.sent? ?_ ran
  intro recorded action next emitted stepped
  cases RecordedMission.does_of_step stepped with
  | runs ran => exact .inr ⟨_, ran⟩
  | sends ran => exact .inr ⟨_, ran⟩
  | receives waiting moved some' =>
    refine .inr ⟨.receive, ?_⟩
    rw [sent?_logged]
    simp only [Accesses.machine, if_pos some']
  | logs => exact .inl ⟨rfl, sent?_logged _⟩

/-- The logger does nothing it does not do with any senders. -/
theorem logger_of_run
    (ran : recordedMission.run (.start registers log) actions = some (recorded, events)) :
    ∃ whole, loggerMachine.run (.start log) whole =
      some (recorded.logger, loggerEvents events) := by
  refine recordedMission.run_part loggerMachine RecordedMission.logger RecordedEvent.logged? ?_ ran
  intro recorded action next emitted stepped
  cases RecordedMission.does_of_step stepped with
  | runs => exact .inl ⟨rfl, rfl⟩
  | @sends _ _ now _ fault sender queue _ _ _ placed =>
    refine .inr ⟨.send sender fault now, ?_⟩
    simp only [loggerMachine, LoggerSystem.step, placed]
    rfl
  | @receives stale _ _ _ moved =>
    rw [logged?_logged]
    exact .inr ⟨.next stale, moved⟩
  | logs _ _ moved =>
    rw [logged?_logged]
    exact .inr ⟨_, moved⟩

/-- Only a receive changes the queue, if nothing is sent. -/
theorem LoggerSystem.queue_of_step {system next : LoggerSystem} {action : LoggerAction}
    {emitted : List LoggerEvent} (noSend : ∀ sender fault now, action ≠ .send sender fault now)
    (stepped : system.step action = some (next, emitted)) :
    next.queue.messages.length + (system.receives action).toNat = system.queue.messages.length ∧
      enqueuedReports emitted = [] := by
  have elsewhere : ∀ {stale : FdrHeader}, system.pc ≠ .receive →
      system.receives (.next stale) = false := fun other => decide_eq_false other
  cases LoggerSystem.does_of_step stepped with
  | sends => exact absurd rfl (noSend _ _ _)
  | @receives stale _ _ waiting taken =>
    have here : system.receives (.next stale) = true := decide_eq_true waiting
    rw [here, PriorityQueue.receive_eq_some taken]
    exact ⟨rfl, rfl⟩
  | turns atTurn =>
    rw [elsewhere (by rcases atTurn with atPc | atPc <;> simp [atPc])]
    exact ⟨rfl, rfl⟩
  | pauseTests atPc | resumeTests atPc | writes atPc | skips atPc =>
    rw [elsewhere (by simp [atPc])]
    exact ⟨rfl, rfl⟩
  | timesOut | sigusr1 | sigusr2 | sigterm => exact ⟨rfl, rfl⟩

end Parts

/-! ### What is sent is what is enqueued -/

/-- The content of a report but for its time. -/
def ReportContent.undated (content : ReportContent) : ReportContent :=
  { content with timestamp := .literal "" }

/-- What a helper's arguments leave in the log but for the time. -/
def Fault.undated (fault : Fault) (sender : Sender) : ReportContent :=
  fault.sentContent sender ⟨.literal "", by decide⟩

/-- What the threads have sent, as the log would hold it. -/
def undatedReports (sent : List (MissionThread × Fault)) : List ReportContent :=
  sent.filterMap fun (thread, fault) => thread.sender.map fault.undated

/-- The reports enqueued are those the threads have sent, in order. -/
theorem undated_enqueued {registers : MissionThread → Registers} {log : FileProgram.OpenFile}
    {actions : List RecordedAction} {recorded : RecordedMission} {events : List RecordedEvent}
    (ran : recordedMission.run (.start registers log) actions = some (recorded, events)) :
    (enqueuedReports (loggerEvents events)).map (fun report => report.content.undated) =
      undatedReports (sentFaults events) := by
  refine recordedMission.run_invariant (fun _ events =>
    (enqueuedReports (loggerEvents events)).map (fun report => report.content.undated) =
      undatedReports (sentFaults events)) rfl ?_ ran
  intro recorded events action next emitted same stepped
  have split : ∀ more : List RecordedEvent,
      enqueuedReports (loggerEvents (events ++ more)) =
          enqueuedReports (loggerEvents events) ++ enqueuedReports (loggerEvents more) ∧
        undatedReports (sentFaults (events ++ more)) =
          undatedReports (sentFaults events) ++ undatedReports (sentFaults more) := by
    intro more
    simp only [enqueuedReports, loggerEvents, undatedReports, sentFaults, List.filterMap_append,
      and_self]
  rw [(split emitted).1, (split emitted).2, List.map_append, same]
  congr 1
  have silent : ∀ logged : List LoggerEvent, enqueuedReports logged = [] →
      (enqueuedReports (loggerEvents (logged.map .logged))).map
          (fun report => report.content.undated) =
        undatedReports (sentFaults (logged.map .logged)) := by
    intro logged none
    rw [loggerEvents, logged?_logged, none, sentFaults, sent?_logged]
    rfl
  cases RecordedMission.does_of_step stepped with
  | runs => rfl
  | @sends thread _ now _ fault sender _ _ _ sentBy =>
    have undated := congrArg ReportContent.undated (content_sendFault sender fault now)
    simp only [loggerEvents, enqueuedReports, sentFaults, undatedReports, RecordedEvent.logged?,
      RecordedEvent.sent?, LoggerEvent.enqueued?, List.filterMap_cons, List.filterMap_nil, sentBy,
      Option.map_some, List.map_cons, List.map_nil, undated]
    rfl
  | receives _ moved => exact silent _ (LoggerSystem.queue_of_step (by simp) moved).2
  | logs noSend _ moved => exact silent _ (LoggerSystem.queue_of_step noSend moved).2

/-! ### The CRITICAL entries of a process -/

/-- The thread whose latch a process's CRITICAL reports are about. -/
def Sender.measuring : Sender → MissionThread
  | power => .battery
  | thermal => .sensor
  | comms => .downlink

/-- The mutex the latch is guarded by. -/
def Sender.mutex : Sender → SharedLock
  | power => .gPowerMutex
  | thermal => .gThermalMutex
  | comms => .gCommsMutex

def Sender.faultActive : Sender → MissionData → Bool
  | power, data => data.power.faultActive
  | thermal, data => data.thermal.faultActive
  | comms, data => data.downlink.comms.faultActive

def Sender.thresholds : Sender → FaultThresholds
  | power => batteryThresholds
  | thermal => sensorThresholds
  | comms => downlinkThresholds

theorem Sender.keepsLatch (sender : Sender) :
    KeepsLatch sender.measuring sender.faultActive sender.thresholds := by
  cases sender with
  | power => exact battery_keepsLatch
  | thermal => exact sensor_keepsLatch
  | comms => exact downlink_keepsLatch

theorem Sender.tellsLatch (sender : Sender) {registers : MissionThread → Registers}
    {actions : List MissionAction} {state : MissionFineState}
    {events : List (MissionThread × Fault)}
    (ran : missionFine.machine.run (.start (missionStore registers)) actions =
      some (state, events)) :
    TellsLatch state events sender.measuring sender.mutex sender.faultActive
      sender.thresholds.recoveredDesc := by
  refine sender.keepsLatch.tells (fun first second same => ?_) ran
  cases sender with
  | power => exact congrArg PowerData.faultActive same
  | thermal => exact congrArg ThermalData.faultActive same
  | comms => exact congrArg CommsData.faultActive same

theorem Sender.sender_measuring (sender : Sender) : sender.measuring.sender = some sender := by
  cases sender <;> rfl

/-- The only report a ground command sends is an INFO one. -/
theorem snapshot_of_commandEffect {cmd : CString} {fault : Fault}
    (sends : commandEffect cmd = .sendFault fault) : fault.severity = info := by
  unfold commandEffect at sends
  split at sends
  · cases sends
  split at sends
  · cases sends
  split at sends
  · cases sends
    rfl
  split at sends <;> cases sends

/-- Only the three measuring threads report something CRITICAL. -/
def CriticalsMeasured (reports : MissionThread → List Fault) : Prop :=
  ∀ who, ∀ fault ∈ reports who, fault.severity = critical →
    ∃ sender : Sender, who = sender.measuring

theorem not_critical_reports {effect : MissionEffect} {input : MissionInput} {data : MissionData}
    (other : ∀ sender : Sender, effect.thread ≠ sender.measuring) :
    ∀ fault ∈ effect.reports input data, fault.severity ≠ critical := by
  have names : warning ≠ critical ∧ info ≠ critical := by decide
  intro fault member
  cases silent : effect.mayReport with
  | false =>
    rw [reports_of_silent silent] at member
    cases member
  | true =>
    cases effect with
    | batteryUpdate => exact absurd rfl (other .power)
    | sensorUpdate => exact absurd rfl (other .thermal)
    | downlinkUpdate => exact absurd rfl (other .comms)
    | heaterUpdate =>
      have told : MissionEffect.heaterUpdate.reports input data =
          (heaterCheck data.thermal).2.fault?.toList := toSend_sendAlert _ _
      rw [told] at member
      unfold heaterCheck at member
      split at member
      · rw [List.mem_singleton.mp member]
        exact names.1
      split at member <;> cases member
    | readCommand =>
      simp only [MissionEffect.reports, missionEffect, handleRead] at member
      split at member
      · rw [toSend_append, toSend_guardedBy, List.nil_append, handleCommand, toSend_append,
          toSend_guardedBy, List.append_nil] at member
        cases kind : commandEffect (fifoReadCommand input.read).2.text with
        | sendFault sent =>
          rw [kind] at member
          rw [List.mem_singleton.mp member]
          rw [snapshot_of_commandEffect kind]
          exact names.2
        | printStatus | killParent | printUnknown =>
          rw [kind] at member
          cases member
      · cases member
    | _ => cases silent

theorem criticalsMeasured_of_run {actions : List MissionAction} {state : MissionState}
    {events : List (MissionThread × Fault)}
    (ran : mission.machine.run (.start missionData) actions = some (state, events)) :
    CriticalsMeasured fun who => announced who state events := by
  refine mission_invariant (fun _ reports => CriticalsMeasured reports)
    (fun _ _ member => by cases member) ?_ ran
  intro effect input data reports reports' measured others own who fault member isCritical
  by_cases mine : who = effect.thread
  · subst mine
    rw [own] at member
    rcases List.mem_append.mp member with before | now
    · exact measured _ fault before isCritical
    · by_contra other
      exact not_critical_reports (not_exists.mp other) fault now isCritical
  · rw [others who mine] at member
    exact measured who fault member isCritical

/-- The CRITICAL reports of a process among some contents, but for their times. -/
def criticalsOf (sender : Sender) (contents : List ReportContent) : List ReportContent :=
  ((criticals contents).filter fun content => content.subsystem = sender.subsystem).map .undated

theorem criticalsOf_append (sender : Sender) (front back : List ReportContent) :
    criticalsOf sender (front ++ back) = criticalsOf sender front ++ criticalsOf sender back := by
  simp only [criticalsOf, criticals_append, List.filter_append, List.map_append]

theorem Sender.subsystem_inj {first second : Sender} :
    first.subsystem = second.subsystem ↔ first = second := by
  cases first <;> cases second <;> decide

theorem Sender.measuring_inj {first second : Sender} (same : first.measuring = second.measuring) :
    first = second := by
  cases first <;> cases second <;> first | rfl | cases same

theorem criticals_undated (fault : Fault) (sender : Sender) :
    criticals [fault.undated sender] =
      if fault.severity = critical then [fault.undated sender] else [] := by
  have same : (fault.undated sender).severity = critical ↔ fault.severity = critical :=
    cut_eq_critical fault.severity
  rw [criticals, List.filter_singleton]
  simp only [same, Bool.cond_decide]

/-- A single report. -/
theorem criticalsOf_undatedReports_singleton (sender : Sender) {thread : MissionThread}
    {fault : Fault} (measured : fault.severity = critical →
      ∃ sender : Sender, thread = sender.measuring) :
    criticalsOf sender (undatedReports [(thread, fault)]) =
      ((sentBy sender.measuring [(thread, fault)]).filter fun fault =>
        fault.severity = critical).map fun fault => fault.undated sender := by
  by_cases isCritical : fault.severity = critical
  · obtain ⟨owner, rfl⟩ := measured isCritical
    have own : undatedReports [(owner.measuring, fault)] = [fault.undated owner] := by
      simp only [undatedReports, List.filterMap_cons, List.filterMap_nil, owner.sender_measuring,
        Option.map_some]
    have subsystem : (fault.undated owner).subsystem = owner.subsystem := rfl
    rw [own, criticalsOf, criticals_undated, if_pos isCritical, List.filter_singleton, subsystem]
    by_cases same : owner = sender
    · subst same
      have again : (fault.undated owner).undated = fault.undated owner := rfl
      simp [sentBy, isCritical, again]
    · have apart : owner.subsystem ≠ sender.subsystem := mt Sender.subsystem_inj.mp same
      have others : owner.measuring ≠ sender.measuring := mt Sender.measuring_inj same
      simp [sentBy, apart, others]
  · have none : ∀ sender : Sender, criticals [fault.undated sender] = [] := fun sender => by
      rw [criticals_undated, if_neg isCritical]
    have left : criticalsOf sender (undatedReports [(thread, fault)]) = [] := by
      simp only [undatedReports, List.filterMap_cons, List.filterMap_nil]
      cases thread.sender with
      | none => rfl
      | some owner => rw [Option.map_some, criticalsOf, none]; rfl
    rw [left, eq_comm, List.map_eq_nil_iff, List.filter_eq_nil_iff]
    intro other member
    obtain ⟨report, inside, rfl⟩ := List.mem_map.mp member
    rw [List.mem_singleton.mp (List.mem_filter.mp inside).1]
    simpa using isCritical

/-- Of what the threads send, the CRITICAL reports of a process are its measuring thread's. -/
theorem criticalsOf_undatedReports (sender : Sender) {sent : List (MissionThread × Fault)}
    (measured : ∀ report ∈ sent, report.2.severity = critical →
      ∃ sender : Sender, report.1 = sender.measuring) :
    criticalsOf sender (undatedReports sent) =
      ((sentBy sender.measuring sent).filter fun fault => fault.severity = critical).map
        fun fault => fault.undated sender := by
  induction sent with
  | nil => rfl
  | cons report rest inductionHypothesis =>
    obtain ⟨thread, fault⟩ := report
    have later := inductionHypothesis fun report member =>
      measured report (List.mem_cons_of_mem _ member)
    have split : sentBy sender.measuring ((thread, fault) :: rest) =
        sentBy sender.measuring [(thread, fault)] ++ sentBy sender.measuring rest :=
      sentBy_append _ [(thread, fault)] rest
    have first : undatedReports ((thread, fault) :: rest) =
        undatedReports [(thread, fault)] ++ undatedReports rest :=
      List.filterMap_append (l := [(thread, fault)])
    rw [first, criticalsOf_append, later, split, List.filter_append, List.map_append]
    congr 1
    exact criticalsOf_undatedReports_singleton sender (measured _ List.mem_cons_self)

theorem criticalsOf_map_undated (sender : Sender) (contents : List ReportContent) :
    criticalsOf sender (contents.map .undated) = criticalsOf sender contents := by
  simp only [criticalsOf, criticals, List.filter_map, List.map_map]
  rfl

/-! ### What the log tells -/

/-- The reports in the queue. -/
def LoggerSystem.queuedContents (system : LoggerSystem) : List ReportContent :=
  system.queue.messages.map fun message => message.2.content

/-- The CRITICAL reports of a process that are in the log or on their way to it. -/
def RecordedMission.criticalsOf (recorded : RecordedMission) (written : List FdrEntry)
    (sender : Sender) : List ReportContent :=
  Fdir.criticalsOf sender (written.map FdrEntry.content) ++
    Fdir.criticalsOf sender (recorded.logger.held.map FaultReport.content) ++
      Fdir.criticalsOf sender recorded.logger.queuedContents

/-- What the log entries written tell of a process's latch. -/
structure RecordsLatch (recorded : RecordedMission) (sent : List (MissionThread × Fault))
    (written : List FdrEntry) (sender : Sender) : Prop where
  /-- The CRITICAL reports in the log or on their way are those the measuring thread has sent, in
  order. -/
  conserved : recorded.criticalsOf written sender =
    ((sentBy sender.measuring sent).filter fun fault => fault.severity = critical).map
      fun fault => fault.undated sender
  /-- Between two of them the thread has reported that its value was back to normal. -/
  alternates : Alternates true
    (latchReports sender.thresholds.recoveredDesc (sentBy sender.measuring sent))
  /-- Once nothing of the process is on its way. -/
  faultActive_iff : recorded.threads.owner sender.mutex = none →
    recorded.threads.stage sender.measuring = none →
    toSend (recorded.threads.todo sender.measuring) = [] →
    criticalsOf sender (recorded.logger.held.map FaultReport.content) = [] →
    criticalsOf sender recorded.logger.queuedContents = [] →
      (sender.faultActive (MissionStore.view recorded.threads.store) = true ↔
        (criticalsOf sender (written.map FdrEntry.content)).length =
          (latchReports sender.thresholds.recoveredDesc
            (sentBy sender.measuring sent)).count false + 1)

/-- The CRITICAL reports are the changes of the latch to set. -/
theorem count_latchReports (recoveredDesc : CString) (faults : List Fault) :
    (latchReports recoveredDesc faults).count true =
      (faults.filter fun fault => fault.severity = critical).length := by
  rw [latchReports, List.count_filterMap, ← List.countP_eq_length_filter]
  refine List.countP_congr fun fault _ => ?_
  unfold Fault.change?
  split
  next isCritical => simp [isCritical]
  next other => split <;> simp [other]

theorem conserved_of_run {registers : MissionThread → Registers} {header : FdrHeader}
    {old : List FdrEntry} {offset : Nat} {actions : List RecordedAction}
    {recorded : RecordedMission} {events : List RecordedEvent}
    (ran : recordedMission.run (.start registers ⟨logBytes header old, offset⟩) actions =
      some (recorded, events)) :
    ∃ counted written, recorded.logger.log.bytes = logBytes counted (old ++ written) ∧
      ∀ sender, recorded.criticalsOf written sender =
        ((sentBy sender.measuring (sentFaults events)).filter fun fault =>
          fault.severity = critical).map fun fault => fault.undated sender := by
  obtain ⟨_, threads⟩ := threads_of_run ran
  obtain ⟨_, logger⟩ := logger_of_run ran
  obtain ⟨counted, written, bytes, conserved⟩ := (loggerMachine.run_invariant
    (LoggerSystem.Pipeline old) (LoggerSystem.pipeline_start header old offset)
    (fun _ _ _ _ _ pipeline stepped => pipeline.step stepped) logger).log
  have measured : ∀ report ∈ sentFaults events, report.2.severity = critical →
      ∃ sender : Sender, report.1 = sender.measuring := by
    obtain ⟨_, coarse, _, coarseRan, _⟩ := keeps_of_run ascends_missionRound threads
    intro report member isCritical
    refine criticalsMeasured_of_run coarseRan report.1 report.2 (List.mem_append_left _ ?_)
      isCritical
    exact List.mem_map_of_mem (List.mem_filter.mpr ⟨member, decide_eq_true rfl⟩)
  refine ⟨counted, written, bytes, fun sender => ?_⟩
  rw [← criticalsOf_undatedReports sender measured, ← undated_enqueued ran, ← Function.comp_def,
    ← List.map_map, criticalsOf_map_undated, RecordedMission.criticalsOf, criticalsOf,
    criticalsOf, criticalsOf, criticalsOf, ← List.map_append, ← List.map_append,
    ← List.filter_append, ← List.filter_append]
  exact congrArg _ (congrArg _ conserved)

/-- However the accesses of all threads, the logger's statements and its signals interleave, and
whatever the threads measure: `fdr.log` keeps its old entries, and for each process the CRITICAL
entries written since, with those still on their way, are the CRITICAL reports of its latch, one
for each time it was set. When nothing is on its way, the latch is set exactly when the log has
one CRITICAL entry more than recoveries were reported. -/
theorem flightLog_recordsLatches (registers : MissionThread → Registers) (header : FdrHeader)
    (old : List FdrEntry) (offset : Nat) (actions : List RecordedAction)
    (recorded : RecordedMission) (events : List RecordedEvent)
    (ran : recordedMission.run (.start registers ⟨logBytes header old, offset⟩) actions =
      some (recorded, events)) :
    ∃ counted written, recorded.logger.log.bytes = logBytes counted (old ++ written) ∧
      ∀ sender, RecordsLatch recorded (sentFaults events) written sender := by
  obtain ⟨_, threads⟩ := threads_of_run ran
  obtain ⟨counted, written, bytes, conserved⟩ := conserved_of_run ran
  refine ⟨counted, written, bytes, fun sender => ?_⟩
  obtain ⟨alternates, tells⟩ := sender.tellsLatch threads
  refine ⟨conserved sender, alternates, fun free outside idle holdsNone queuesNone => ?_⟩
  have counts := congrArg List.length (conserved sender)
  rw [RecordedMission.criticalsOf, holdsNone, queuesNone, List.append_nil, List.append_nil,
    List.length_map, ← count_latchReports sender.thresholds.recoveredDesc, alternates.count]
    at counts
  rw [tells free outside idle, counts]
  split
  next set => simp [set]
  next clear => simp [clear]

/-- When the reports below are sent. -/
def oneMinuteIn : Timestamp := ⟨.literal "2025-01-01 00:01:00", by decide⟩

/-- The link is lost in the first iteration of `downlink_thread`, and the logger writes the
report. -/
def lossLogged : List RecordedAction :=
  List.replicate 18 (.run .downlink zeros oneMinuteIn) ++
    List.replicate 5 (.logger (.next (.ofBytes [])))

theorem flightLog_recordsLatches_lossLogged :
    ∃ recorded events,
      recordedMission.run (.start (fun _ => zeroRegisters) ⟨logBytes (.ofBytes []) [], 0⟩)
        lossLogged = some (recorded, events) ∧
      loggerEvents events ≠ [] ∧
      ∃ counted written, recorded.logger.log.bytes = logBytes counted ([] ++ written) ∧
        ∀ sender, RecordsLatch recorded (sentFaults events) written sender := by
  have reached : (recordedMission.run
      (.start (fun _ => zeroRegisters) ⟨logBytes (.ofBytes []) [], 0⟩) lossLogged).any
      (fun reached => decide (loggerEvents reached.2 ≠ [])) = true := by decide +kernel
  obtain ⟨⟨recorded, events⟩, ran, some'⟩ := (Option.any_eq_true _ _).mp reached
  exact ⟨recorded, events, ran, of_decide_eq_true some',
    flightLog_recordsLatches _ _ [] 0 lossLogged recorded events ran⟩

/-! ### The thermal spike -/

end Fdir
