/-
This file proves what the ground can tell from the reports of the mission's threads, with every
load and store a step of its own and the locks contended for in any order.

Each process's threads do their iterations as if they were alone. So what is known of the power
and the thermal process by themselves, and of the three fault latches, holds of the mission: the
data under a free mutex and the pair on the free bus come from whole iterations, and what a thread
has sent is a beginning of what it would have sent.
-/

import Fdir.FaultLatches
import Fdir.MissionAccesses
import Fdir.Overheat
import Fdir.PowerThreads

namespace Fdir

open CMemory LockedThreads

/-! ### Whose effects they are -/

/-- The thread whose iterations an effect belongs to. -/
def MissionEffect.thread : MissionEffect → MissionThread
  | solarUpdate => .solar
  | batteryUpdate => .battery
  | powerBusWrite => .powerBusWriter
  | sensorUpdate => .sensor
  | heaterUpdate => .heater
  | thermalBusWrite => .thermalBusWriter
  | readCommand | setUplinkActive _ | storeCommand _ => .uplink
  | downlinkUpdate | downlinkBusWrite _ => .downlink
  | sampleBus | storeMode _ => .watchdog

/-- A report may come after the effect. -/
def MissionEffect.mayReport : MissionEffect → Bool
  | batteryUpdate | sensorUpdate | heaterUpdate | readCommand | downlinkUpdate => true
  | _ => false

/-- A thread does its own effects, and one that may lead to a report last. -/
def Comes (thread : MissionThread) : List MissionOp → Prop
  | [] => True
  | .perform effect :: rest =>
    effect.thread = thread ∧ (effect.mayReport = true → rest = []) ∧ Comes thread rest
  | _ :: rest => Comes thread rest

theorem Comes.tail {thread : MissionThread} {op : MissionOp} {rest : List MissionOp}
    (comes : Comes thread (op :: rest)) : Comes thread rest := by
  cases op with
  | perform effect => exact comes.2.2
  | acquire lock | release lock | send message => exact comes

theorem comes_append {thread : MissionThread} {front back : List MissionOp}
    (own : ∀ effect, .perform effect ∈ front → effect.thread = thread ∧ effect.mayReport = false)
    (comes : Comes thread back) : Comes thread (front ++ back) := by
  induction front with
  | nil => exact comes
  | cons op rest inductionHypothesis =>
    have later := inductionHypothesis fun effect member =>
      own effect (List.mem_cons_of_mem _ member)
    cases op with
    | perform effect =>
      obtain ⟨mine, silent⟩ := own effect List.mem_cons_self
      exact ⟨mine, fun reports => absurd (silent.symm.trans reports) Bool.false_ne_true, later⟩
    | acquire lock | release lock | send message => exact later

theorem own_sendAlert (mutex : SharedLock) (alert : Alert) (effect : MissionEffect) :
    .perform effect ∉ sendAlert mutex alert := by
  cases alert <;> simp [sendAlert]

theorem own_guardedBy {lock : SharedLock} {inside effect : MissionEffect}
    (member : .perform effect ∈ guardedBy lock inside) : effect = inside := by
  simpa [guardedBy] using member

theorem own_sendDownlink {elapsed : Nat} {sig : Float32} {alert : Alert} {effect : MissionEffect}
    (member : .perform effect ∈ sendDownlink elapsed sig alert) :
    effect = .downlinkBusWrite sig := by
  cases alert with
  | released fault => exact absurd member (own_sendAlert .gCommsMutex (.released fault) effect)
  | holding fault => exact absurd member (own_sendAlert .gCommsMutex (.holding fault) effect)
  | none =>
    simp only [sendDownlink, List.mem_cons, List.mem_append, List.mem_map, reduceCtorEq,
      and_false, exists_false, false_or] at member
    exact own_guardedBy member

/-- What an effect leads to is done by the same thread, with no other report. -/
theorem own_missionEffect (effect : MissionEffect) (input : MissionInput) (data : MissionData)
    (next : MissionEffect) (member : .perform next ∈ (missionEffect effect input data).2) :
    next.thread = effect.thread ∧ next.mayReport = false := by
  cases effect with
  | batteryUpdate | sensorUpdate | heaterUpdate =>
    exact absurd member (own_sendAlert _ _ next)
  | downlinkUpdate =>
    simp only [missionEffect] at member
    split at member
    · simp at member
    · rw [own_sendDownlink member]
      exact ⟨rfl, rfl⟩
  | readCommand =>
    simp only [missionEffect, handleRead] at member
    split at member
    · rcases List.mem_append.mp member with active | handled
      · rw [own_guardedBy active]
        exact ⟨rfl, rfl⟩
      · rcases List.mem_append.mp handled with command | stored
        · cases kind : commandEffect (fifoReadCommand input.read).2.text <;> simp [kind] at command
        · rw [own_guardedBy stored]
          exact ⟨rfl, rfl⟩
    · rw [own_guardedBy member]
      exact ⟨rfl, rfl⟩
  | sampleBus =>
    simp only [missionEffect, List.mem_cons, reduceCtorEq, false_or, actOnSample,
      List.mem_append] at member
    have acts : ∀ {condition : Bool} {mode : Bool}, .perform next ∈
        (if condition then guardedBy .gSem (.storeMode mode) else []) →
          next.thread = .watchdog ∧ next.mayReport = false := by
      intro condition mode member
      split at member
      · rw [own_guardedBy member]
        exact ⟨rfl, rfl⟩
      · cases member
    rcases member with enters | leaves
    · exact acts enters
    · exact acts leaves
  | _ => cases member

theorem comes_missionRound (thread : MissionThread) : Comes thread (missionRound thread) := by
  cases thread <;> simp [missionRound, guardedBy, Comes, MissionEffect.thread,
    MissionEffect.mayReport]

theorem comes_of_run {actions : List MissionAction} {state : MissionState}
    {events : List (MissionThread × Fault)}
    (ran : mission.machine.run (.start missionData) actions = some (state, events))
    (thread : MissionThread) : Comes thread (state.todo thread) := by
  refine todo_invariant Comes (fun _ => trivial) comes_missionRound
    (fun _ _ _ _ comes => comes.tail) ?_ ran thread
  intro thread effect rest input data comes
  refine comes_append (fun next member => ?_) comes.tail
  obtain ⟨mine, silent⟩ := own_missionEffect effect input data next member
  exact ⟨mine.trans comes.1, silent⟩

/-! ### What an effect announces -/

/-- The reports an effect has its thread send. -/
def MissionEffect.reports (effect : MissionEffect) (input : MissionInput) (data : MissionData) :
    List Fault :=
  toSend (missionEffect effect input data).2

theorem toSend_guardedBy (lock : SharedLock) (effect : MissionEffect) :
    toSend (guardedBy lock effect) = [] := rfl

theorem toSend_sendAlert (mutex : SharedLock) (alert : Alert) :
    toSend (sendAlert mutex alert) = alert.fault?.toList := by
  cases alert <;> rfl

theorem toSend_map_send (faults : List Fault) :
    toSend (faults.map (.send : Fault → MissionOp)) = faults := by
  rw [toSend, List.filterMap_map]
  exact List.filterMap_some

theorem reports_of_silent {effect : MissionEffect} (silent : effect.mayReport = false)
    (input : MissionInput) (data : MissionData) : effect.reports input data = [] := by
  cases effect with
  | batteryUpdate | sensorUpdate | heaterUpdate | readCommand | downlinkUpdate => cases silent
  | sampleBus =>
    have acts : ∀ (condition : Bool) (mode : Bool),
        toSend (if condition then guardedBy .gSem (.storeMode mode) else []) = [] := by
      intro condition mode
      cases condition <;> rfl
    show toSend (actOnSample data.bus.sample) = []
    rw [actOnSample, toSend_append, acts, acts]
    rfl
  | _ => rfl

theorem toSend_missionRound (thread : MissionThread) : toSend (missionRound thread) = [] := by
  cases thread <;> rfl

/-- What a step of the mission does to the data and to the reports of each thread. -/
theorem mission_step {state next : MissionState} {action : MissionAction}
    {events emitted : List (MissionThread × Fault)}
    (comes : ∀ thread, Comes thread (state.todo thread))
    (stepped : mission.machine.step state action = some (next, emitted)) :
    (next.data = state.data ∧
        ∀ who, announced who next (events ++ emitted) = announced who state events) ∨
      ∃ effect input, next.data = (missionEffect effect input state.data).1 ∧
        (∀ who ≠ effect.thread,
          announced who next (events ++ emitted) = announced who state events) ∧
        announced effect.thread next (events ++ emitted) =
          announced effect.thread state events ++ effect.reports input state.data := by
  rcases announced_step toSend_missionRound stepped with
    same | ⟨thread, input, effect, rest, rfl, atEffect, data, others, own⟩
  · exact .inl same
  have comes := comes thread
  rw [atEffect] at comes
  obtain ⟨rfl, last, _⟩ := comes
  refine .inr ⟨effect, input, data, others, own.trans ?_⟩
  have before : announced effect.thread state events =
      sentBy effect.thread events ++ toSend rest := by
    rw [announced, atEffect]
    rfl
  rw [before]
  cases silent : effect.mayReport with
  | true =>
    rw [last silent]
    show _ ++ effect.reports input state.data ++ [] = _ ++ [] ++ _
    rw [List.append_nil, List.append_nil]
  | false =>
    show _ ++ effect.reports input state.data ++ _ = _
    rw [reports_of_silent silent, List.append_nil, List.append_nil]

/-- What holds of the data and of the reports the threads have sent or are about to send, and is
kept by every effect, holds in every run. -/
theorem mission_invariant
    (Invariant : MissionData → (MissionThread → List Fault) → Prop)
    (initial : Invariant missionData fun _ => [])
    (preserved : ∀ effect input data reports reports', Invariant data reports →
      (∀ who ≠ effect.thread, reports' who = reports who) →
      reports' effect.thread = reports effect.thread ++ effect.reports input data →
      Invariant (missionEffect effect input data).1 reports')
    {actions : List MissionAction} {state : MissionState} {events : List (MissionThread × Fault)}
    (ran : mission.machine.run (.start missionData) actions = some (state, events)) :
    Invariant state.data fun who => announced who state events := by
  refine mission.machine.run_induction
    (fun _ state events => Invariant state.data fun who => announced who state events) initial ?_
    ran
  intro actions state events action next emitted ran held stepped
  rcases mission_step (comes_of_run ran) stepped with
    ⟨data, told⟩ | ⟨effect, input, data, others, own⟩
  · rw [data, funext told]
    exact held
  · rw [data]
    exact preserved effect input state.data _ _ held others own

/-! ### The power process -/

theorem reports_batteryUpdate (input : MissionInput) (data : MissionData) :
    MissionEffect.batteryUpdate.reports input data =
      (batteryCheck (batteryMeasure (input.rand 0) data.power) data.power).2.fault?.toList :=
  toSend_sendAlert _ _

/-- The power process in the mission: its data, what the bus has from it, and the battery's reports
are those of some iterations of its threads. -/
structure PowerProcess.Shown (process : PowerProcess) (faults : List Fault) (data : MissionData)
    (reports : MissionThread → List Fault) : Prop where
  power : data.power = process.power
  elapsed : data.solarElapsed = process.elapsed
  solarWatts : data.bus.solarWatts = process.bus.solarWatts
  batteryPct : data.bus.batteryPct = process.bus.batteryPct
  battery : reports .battery = faults

/-- An effect is an iteration of the power process's threads, or leaves all of it as it is. -/
theorem PowerProcess.Shown.effect {process : PowerProcess} {faults : List Fault}
    {data : MissionData} {reports reports' : MissionThread → List Fault}
    (shown : process.Shown faults data reports) (effect : MissionEffect) (input : MissionInput)
    (others : ∀ who ≠ effect.thread, reports' who = reports who)
    (own : reports' effect.thread = reports effect.thread ++ effect.reports input data) :
    process.Shown faults (missionEffect effect input data).1 reports' ∨
      ∃ iteration next emitted, powerThreads.step process iteration = some (next, emitted) ∧
        next.Shown (faults ++ emitted) (missionEffect effect input data).1 reports' := by
  obtain ⟨power, elapsed, solarWatts, batteryPct, battery⟩ := shown
  have quiet : effect.thread ≠ .battery → reports' .battery = faults := fun other =>
    (others .battery other.symm).trans battery
  cases effect with
  | solarUpdate =>
    refine .inr ⟨.solar (input.rand 0), _, _, rfl, ?_, ?_, solarWatts, batteryPct, ?_⟩
    · simp only [missionEffect, power, elapsed]
    · simp only [missionEffect, elapsed]
    · rw [List.append_nil]
      exact quiet (by decide)
  | batteryUpdate =>
    have stepped : ∀ batt, batt = batteryMeasure (input.rand 0) process.power →
        powerThreads.step process (.battery (input.rand 0)) = some
          ({ process with power := (batteryCheck batt process.power).1 },
            (batteryCheck batt process.power).2.fault?.toList) := by
      rintro _ rfl
      rfl
    refine .inr ⟨_, _, _, stepped _ rfl, ?_, elapsed, solarWatts, batteryPct, ?_⟩
    · simp only [missionEffect, power]
    · rw [← power, ← reports_batteryUpdate input data, ← battery]
      exact own
  | powerBusWrite =>
    refine .inr ⟨.busWriter input.gSafeMode, _, _, rfl, power, elapsed, ?_, ?_, ?_⟩
    · exact congrArg PowerData.solarWatts power
    · exact congrArg PowerData.batteryPct power
    · rw [List.append_nil]
      exact quiet (by decide)
  | downlinkUpdate =>
    have same : ∀ next, (∃ downlink, next = { data with downlink }) →
        process.Shown faults next reports' := by
      rintro next ⟨downlink, rfl⟩
      exact ⟨power, elapsed, solarWatts, batteryPct, quiet (by decide)⟩
    refine .inl (same _ ?_)
    simp only [missionEffect]
    split <;> exact ⟨_, rfl⟩
  | sensorUpdate | heaterUpdate | thermalBusWrite | readCommand | setUplinkActive _
  | storeCommand _ | downlinkBusWrite _ | sampleBus | storeMode _ =>
    exact .inl ⟨power, elapsed, solarWatts, batteryPct, quiet (by simp [MissionEffect.thread])⟩

theorem powerProcess_shown {actions : List MissionAction} {state : MissionState}
    {events : List (MissionThread × Fault)}
    (ran : mission.machine.run (.start missionData) actions = some (state, events)) :
    ∃ iterations process faults, powerThreads.run .start iterations = some (process, faults) ∧
      process.Shown faults state.data fun who => announced who state events := by
  refine mission_invariant (fun data reports => ∃ iterations process faults,
    powerThreads.run .start iterations = some (process, faults) ∧
      process.Shown faults data reports) ⟨[], .start, [], rfl, rfl, rfl, rfl, rfl, rfl⟩ ?_ ran
  rintro effect input data reports reports' ⟨iterations, process, faults, went, shown⟩ others own
  rcases shown.effect effect input others own with
    shown | ⟨iteration, next, emitted, stepped, shown⟩
  · exact ⟨iterations, process, faults, went, shown⟩
  · exact ⟨iterations ++ [iteration], next, faults ++ emitted,
      powerThreads.run_snoc_eq_some.mpr ⟨process, faults, emitted, went, stepped, rfl⟩, shown⟩

/-! ### The thermal process -/

/-- The thermal process in the mission: its threads have done so many iterations of the sensor, and
have reported what there is to report by then. -/
structure ThermalRun.Shown (thermalRun : ThermalRun) (data : MissionData)
    (reports : MissionThread → List Fault) : Prop where
  thermal : data.thermal = thermalRun.thermal
  elapsed : data.sensorElapsed = thermalRun.elapsed
  holds : thermalRun.Holds
  sensor : reports .sensor = (thermalReports thermalRun.elapsed).map Prod.snd
  heater : reports .heater = []

theorem ThermalRun.Shown.effect {thermalRun : ThermalRun} {data : MissionData}
    {reports reports' : MissionThread → List Fault} (shown : thermalRun.Shown data reports)
    (effect : MissionEffect) (input : MissionInput)
    (others : ∀ who ≠ effect.thread, reports' who = reports who)
    (own : reports' effect.thread = reports effect.thread ++ effect.reports input data) :
    ∃ next : ThermalRun, next.Shown (missionEffect effect input data).1 reports' := by
  obtain ⟨thermal, elapsed, holds, sensor, heater⟩ := shown
  have quietSensor : effect.thread ≠ .sensor →
      reports' .sensor = (thermalReports thermalRun.elapsed).map Prod.snd := fun other =>
    (others .sensor other.symm).trans sensor
  have quietHeater : effect.thread ≠ .heater → reports' .heater = [] := fun other =>
    (others .heater other.symm).trans heater
  cases effect with
  | sensorUpdate =>
    have stepped : thermalThreads.step thermalRun (.sensor fun index => input.rand index) = some
        (⟨thermalRun.elapsed + 1, (sensorCheck (sensorMeasure (thermalRun.elapsed + 1)
            (fun index => input.rand index) thermalRun.thermal) thermalRun.thermal).1⟩,
          (sensorCheck (sensorMeasure (thermalRun.elapsed + 1) (fun index => input.rand index)
            thermalRun.thermal) thermalRun.thermal).2.fault?.toList.map
              fun fault => (thermalRun.elapsed + 1, fault)) := rfl
    obtain ⟨kept, counted, more⟩ := holds.sensor stepped
    refine ⟨_, ?_, ?_, kept, ?_, quietHeater (by decide)⟩
    · simp only [missionEffect, thermal, elapsed]
    · simp only [missionEffect, elapsed]
    · have told : MissionEffect.sensorUpdate.reports input data =
          (sensorCheck (sensorMeasure (data.sensorElapsed + 1) (fun index => input.rand index)
            data.thermal) data.thermal).2.fault?.toList := toSend_sendAlert _ _
      rw [counted, more, List.map_append, ← sensor, List.map_map, ← elapsed, ← thermal]
      refine own.trans ?_
      rw [told]
      congr 1
      exact (List.map_id _).symm
  | heaterUpdate =>
    have stepped : thermalThreads.step thermalRun .heater = some
        ({ thermalRun with thermal := (heaterCheck thermalRun.thermal).1 },
          (heaterCheck thermalRun.thermal).2.fault?.toList.map
            fun fault => (thermalRun.elapsed, fault)) := rfl
    obtain ⟨same, silent⟩ := holds.heater stepped
    have told : MissionEffect.heaterUpdate.reports input data =
        (heaterCheck data.thermal).2.fault?.toList := toSend_sendAlert _ _
    refine ⟨thermalRun, ?_, elapsed, holds, quietSensor (by decide), ?_⟩
    · have still := congrArg ThermalRun.thermal same
      simp only at still
      simp only [missionEffect, thermal, still]
    · refine own.trans ?_
      rw [told, thermal, List.map_eq_nil_iff.mp silent, List.append_nil]
      exact heater
  | downlinkUpdate =>
    have same : ∀ next, (∃ downlink, next = { data with downlink }) →
        thermalRun.Shown next reports' := by
      rintro next ⟨downlink, rfl⟩
      exact ⟨thermal, elapsed, holds, quietSensor (by decide), quietHeater (by decide)⟩
    refine ⟨thermalRun, same _ ?_⟩
    simp only [missionEffect]
    split <;> exact ⟨_, rfl⟩
  | solarUpdate | batteryUpdate | powerBusWrite | thermalBusWrite | readCommand
  | setUplinkActive _ | storeCommand _ | downlinkBusWrite _ | sampleBus | storeMode _ =>
    exact ⟨thermalRun, thermal, elapsed, holds, quietSensor (by simp [MissionEffect.thread]),
      quietHeater (by simp [MissionEffect.thread])⟩

/-- The thread judges a value in some of its effects and reports the verdict; nothing else changes
its latch or says something about it. -/
structure KeepsLatch (thread : MissionThread) (faultActive : MissionData → Bool)
    (thresholds : FaultThresholds) : Prop where
  clear : faultActive missionData = false
  other : ∀ effect input data, effect.thread ≠ thread →
    faultActive (missionEffect effect input data).1 = faultActive data
  own : ∀ effect input data, effect.thread = thread →
    faultActive (missionEffect effect input data).1 = faultActive data ∧
        latchReports thresholds.recoveredDesc (effect.reports input data) = [] ∨
      ∃ value, faultActive (missionEffect effect input data).1 =
          thresholds.next (faultActive data) value ∧
        latchReports thresholds.recoveredDesc (effect.reports input data) =
          (thresholds.judge (faultActive data) value).change?.toList

theorem KeepsLatch.follows {thread : MissionThread} {faultActive : MissionData → Bool}
    {thresholds : FaultThresholds} (keeps : KeepsLatch thread faultActive thresholds)
    {actions : List MissionAction} {state : MissionState} {events : List (MissionThread × Fault)}
    (ran : mission.machine.run (.start missionData) actions = some (state, events)) :
    Follows (faultActive state.data)
      (latchReports thresholds.recoveredDesc (announced thread state events)) := by
  refine mission_invariant
    (fun data reports => Follows (faultActive data)
      (latchReports thresholds.recoveredDesc (reports thread)))
    (by rw [keeps.clear]; exact .nil) ?_ ran
  intro effect input data reports reports' follows others own
  by_cases mine : effect.thread = thread
  · have split : latchReports thresholds.recoveredDesc (reports' thread) =
        latchReports thresholds.recoveredDesc (reports thread) ++
          latchReports thresholds.recoveredDesc (effect.reports input data) := by
      rw [← mine, own]
      exact List.filterMap_append
    rw [split]
    rcases keeps.own effect input data mine with ⟨same, silent⟩ | ⟨value, moved, told⟩
    · rwa [same, silent, List.append_nil]
    · rw [moved, told]
      exact thresholds.follows_next value follows
  · rw [others thread (Ne.symm mine), keeps.other effect input data mine]
    exact follows

theorem battery_keepsLatch :
    KeepsLatch .battery (fun data => data.power.faultActive) batteryThresholds where
  clear := rfl
  other effect input data other := by
    cases effect with
    | solarUpdate =>
      simp only [missionEffect, solarUpdate]
      split <;> rfl
    | downlinkUpdate =>
      simp only [missionEffect]
      split <;> rfl
    | batteryUpdate => exact absurd rfl other
    | _ => rfl
  own effect input data mine := by
    cases effect with
    | batteryUpdate =>
      refine .inr ⟨batteryMeasure (input.rand 0) data.power, ?_, ?_⟩
      · simp only [missionEffect, batteryCheck_eq]
        rfl
      · rw [reports_batteryUpdate, fault?_batteryCheck, change?_fault]
    | _ => cases mine

theorem sensor_keepsLatch :
    KeepsLatch .sensor (fun data => data.thermal.faultActive) sensorThresholds where
  clear := rfl
  other effect input data other := by
    cases effect with
    | heaterUpdate => simp only [missionEffect, heaterCheck_eq]
    | downlinkUpdate =>
      simp only [missionEffect]
      split <;> rfl
    | sensorUpdate => exact absurd rfl other
    | _ => rfl
  own effect input data mine := by
    cases effect with
    | sensorUpdate =>
      refine .inr ⟨(sensorMeasure (data.sensorElapsed + 1) (fun index => input.rand index)
        data.thermal).cpu, rfl, ?_⟩
      have told : MissionEffect.sensorUpdate.reports input data =
          (sensorThresholds.check data.thermal.faultActive (sensorMeasure (data.sensorElapsed + 1)
            (fun index => input.rand index) data.thermal).cpu).2.fault?.toList :=
        toSend_sendAlert _ _
      rw [told, sensorThresholds.fault?_check, change?_fault]
    | _ => cases mine

/-- Of what the downlink sends, the snapshots say nothing about the latch. -/
theorem latchReports_sendDownlink (elapsed : Nat) (sig : Float32) (alert : Alert) :
    latchReports downlinkThresholds.recoveredDesc (toSend (sendDownlink elapsed sig alert)) =
      latchReports downlinkThresholds.recoveredDesc alert.fault?.toList := by
  cases alert with
  | released fault => rfl
  | holding fault => rfl
  | none =>
    show latchReports _ (toSend ((downlinkSnapshot elapsed sig).toList.map .send ++ _)) = []
    rw [toSend_append, toSend_map_send, toSend_guardedBy, List.append_nil]
    exact (latchReports_downlinkSnapshot elapsed sig).1

theorem downlink_keepsLatch :
    KeepsLatch .downlink (fun data => data.downlink.comms.faultActive) downlinkThresholds where
  clear := rfl
  other effect input data other := by
    cases effect with
    | downlinkUpdate | downlinkBusWrite sig => exact absurd rfl other
    | _ => rfl
  own effect input data mine := by
    cases effect with
    | downlinkUpdate =>
      by_cases safe : input.gSafeMode = true
      · refine .inl ⟨?_, ?_⟩
        · simp only [missionEffect, if_pos safe]
          rfl
        · simp only [MissionEffect.reports, missionEffect, if_pos safe]
          rfl
      · refine .inr ⟨downlinkMeasure (input.rand 0) (input.rand 1), ?_, ?_⟩
        · simp only [missionEffect, if_neg safe]
          rfl
        · simp only [MissionEffect.reports, missionEffect, if_neg safe]
          rw [latchReports_sendDownlink]
          refine Eq.trans ?_ (change?_fault downlinkThresholds
            (downlinkMeasure (input.rand 0) (input.rand 1)) _)
          rw [← downlinkThresholds.fault?_check]
          rfl
    | downlinkBusWrite sig => exact .inl ⟨rfl, rfl⟩
    | _ => cases mine

/-! ### Between single accesses -/

/-- What the reports a thread has sent tell of its latch. -/
structure TellsLatch (state : MissionFineState) (events : List (MissionThread × Fault))
    (thread : MissionThread) (mutex : SharedLock) (faultActive : MissionData → Bool)
    (recoveredDesc : CString) : Prop where
  alternates : Alternates true (latchReports recoveredDesc (sentBy thread events))
  /-- Once the thread has sent what it has to send. -/
  faultActive_iff : state.owner mutex = none → state.stage thread = none →
    toSend (state.todo thread) = [] →
      (faultActive (MissionStore.view state.store) = true ↔
        (latchReports recoveredDesc (sentBy thread events)).getLast? = some true)

theorem KeepsLatch.tells {thread : MissionThread} {faultActive : MissionData → Bool}
    {thresholds : FaultThresholds} (keeps : KeepsLatch thread faultActive thresholds)
    {mutex : SharedLock} (guards : ∀ first second, mutex.Agrees first second →
      faultActive first = faultActive second)
    {registers : MissionThread → Registers} {actions : List MissionAction}
    {state : MissionFineState} {events : List (MissionThread × Fault)}
    (ran : missionFine.machine.run (.start (missionStore registers)) actions =
      some (state, events)) :
    TellsLatch state events thread mutex faultActive thresholds.recoveredDesc := by
  obtain ⟨whole, coarse, ideal, ran, fine⟩ := keeps_of_run ascends_missionRound ran
  have follows := keeps.follows ran
  constructor
  · have front := follows.alternates
    rw [announced, latchReports, List.filterMap_append] at front
    exact front.front
  · intro free outside sent
    rw [guards _ _ (agrees_of_free fine free), follows.last, announced, fine.todo_eq outside, sent,
      List.append_nil]
    cases (latchReports thresholds.recoveredDesc (sentBy thread events)).getLast? <;> simp

/-- However the accesses of the threads interleave and whatever they measure, the CRITICAL and the
recovery reports each of the three measuring threads has sent alternate, a CRITICAL report first;
and when such a thread has nothing left to send and its mutex is free, its latch is set exactly
when the last of them was CRITICAL. -/
theorem mission_tellsLatches (registers : MissionThread → Registers) (actions : List MissionAction)
    (state : MissionFineState) (events : List (MissionThread × Fault))
    (ran : missionFine.machine.run (.start (missionStore registers)) actions =
      some (state, events)) :
    TellsLatch state events .battery .gPowerMutex (fun data => data.power.faultActive)
        (.literal "Battery recovered to normal level") ∧
      TellsLatch state events .sensor .gThermalMutex (fun data => data.thermal.faultActive)
        (.literal "CPU temperature back to normal") ∧
      TellsLatch state events .downlink .gCommsMutex (fun data => data.downlink.comms.faultActive)
        (.literal "Ground link restored") :=
  ⟨battery_keepsLatch.tells (by exact fun _ _ same => congrArg PowerData.faultActive same) ran,
    sensor_keepsLatch.tells (by exact fun _ _ same => congrArg ThermalData.faultActive same) ran,
    downlink_keepsLatch.tells (by exact fun _ _ same => congrArg CommsData.faultActive same) ran⟩

/-- Every number `rand` returns is zero. -/
def zeros : MissionInput := ⟨fun _ => 0, false, .again⟩

/-- The link is lost in the first iteration of `downlink_thread`, which sends its report. -/
def outage : List MissionAction := turns 18 .downlink zeros

theorem mission_tellsLatches_outage :
    ∃ state events,
      missionFine.machine.run (.start (missionStore fun _ => zeroRegisters)) outage =
        some (state, events) ∧
      events.length = 1 ∧
      TellsLatch state events .battery .gPowerMutex (fun data => data.power.faultActive)
          (.literal "Battery recovered to normal level") ∧
        TellsLatch state events .sensor .gThermalMutex (fun data => data.thermal.faultActive)
          (.literal "CPU temperature back to normal") ∧
        TellsLatch state events .downlink .gCommsMutex
          (fun data => data.downlink.comms.faultActive) (.literal "Ground link restored") := by
  have reached : (missionFine.machine.run (.start (missionStore fun _ => zeroRegisters)) outage).any
      (fun reached => decide (reached.2.length = 1)) = true := by decide +kernel
  obtain ⟨⟨state, events⟩, ran, one⟩ := (Option.any_eq_true _ _).mp reached
  exact ⟨state, events, ran, of_decide_eq_true one, mission_tellsLatches _ outage state events ran⟩

theorem sentBy_prefix {thread : MissionThread} {state : MissionState}
    {events : List (MissionThread × Fault)} {reports : List Fault}
    (told : announced thread state events = reports) : sentBy thread events <+: reports :=
  ⟨toSend (state.todo thread), told⟩

/-- However the accesses of all nine threads interleave, the power process does whole iterations in
some order: under a free mutex its data are those of a run of its three threads alone, and sound;
on the free bus the power and the charge are of one instant of that run; and the battery's reports
sent so far are the first ones of that run. -/
theorem mission_showsPower (registers : MissionThread → Registers) (actions : List MissionAction)
    (state : MissionFineState) (events : List (MissionThread × Fault))
    (ran : missionFine.machine.run (.start (missionStore registers)) actions =
      some (state, events)) :
    ∃ iterations process faults, powerThreads.run .start iterations = some (process, faults) ∧
      sentBy .battery events <+: faults ∧
      (state.owner .gPowerMutex = none →
        (MissionStore.view state.store).power = process.power ∧ process.power.Sound) ∧
      (state.owner .gSem = none →
        PowerProcess.ShowsOneInstant iterations (MissionStore.view state.store).bus) := by
  obtain ⟨whole, coarse, ideal, ran, fine⟩ := keeps_of_run ascends_missionRound ran
  obtain ⟨iterations, process, faults, went, shown⟩ := powerProcess_shown ran
  obtain ⟨sound, front, back, held, sent, split, before, watts, charge⟩ := sound_and_shows went
  refine ⟨iterations, process, faults, went, sentBy_prefix shown.battery, fun free => ?_,
    fun free => ?_⟩
  · have same : (MissionStore.view state.store).power = coarse.data.power :=
      agrees_of_free fine free
    exact ⟨same.trans shown.power, sound⟩
  · have same : (MissionStore.view state.store).bus = coarse.data.bus := agrees_of_free fine free
    refine ⟨front, back, held, sent, split, before, ?_, ?_⟩
    · rw [same, shown.solarWatts, watts]
    · rw [same, shown.batteryPct, charge]

/-- The battery drains in the eclipse until its CRITICAL report, and the bus writer publishes it. -/
def drainedOut : List MissionAction :=
  turns 40 .solar sevens ++ turns 25 .battery sevens ++ turns 6 .powerBusWriter sevens

theorem mission_showsPower_drainedOut :
    ∃ actions state events,
      missionFine.machine.run (.start (missionStore fun _ => zeroRegisters)) actions =
        some (state, events) ∧
      sentBy .battery events ≠ [] ∧
      ∃ iterations process faults, powerThreads.run .start iterations = some (process, faults) ∧
        sentBy .battery events <+: faults ∧
        (MissionStore.view state.store).power = process.power ∧ process.power.Sound ∧
        PowerProcess.ShowsOneInstant iterations (MissionStore.view state.store).bus := by
  have reached : (mission.machine.run (.start missionData) drainedOut).any (fun reached =>
      decide (sentBy .battery reached.2 ≠ []) &&
        decide (reached.1.owner .gPowerMutex = none ∧ reached.1.owner .gSem = none)) = true := by
    decide +kernel
  obtain ⟨⟨coarse, events⟩, ran, reached⟩ := (Option.any_eq_true _ _).mp reached
  rw [Bool.and_eq_true, decide_eq_true_eq, decide_eq_true_eq] at reached
  obtain ⟨told, powerFree, busFree⟩ := reached
  obtain ⟨actions, state, ran, ⟨owner, _⟩, _⟩ := mission_realizes (fun _ => zeroRegisters) ran
  obtain ⟨iterations, process, faults, went, sent, power, bus⟩ :=
    mission_showsPower _ actions state events ran
  rw [owner] at power bus
  exact ⟨actions, state, events, ran, told, iterations, process, faults, went, sent,
    (power powerFree).1, (power powerFree).2, bus busFree⟩

end Fdir
