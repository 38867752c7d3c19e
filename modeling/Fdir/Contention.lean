/-
This file models the threads of the power, thermal and comms processes and the OBC's watchdog
as they contend for the three mutexes, the bus semaphore and the message queue.

The bus writers hold the semaphore while they wait for their process's mutex, so a thread that
waits for space in the queue under that mutex keeps the semaphore from everybody. Two reports
are sent so: the battery's recovery and the heater's switching on. Every other report is sent
with all locks released, and as long as those two find room no holder of the semaphore waits.
-/

import Fdir.LockedThreads
import Fdir.Supervisor
import Fdir.Uplink

namespace Fdir

open CMemory LockedThreads

/-! ### The threads -/

inductive SharedLock where
  | gPowerMutex
  | gThermalMutex
  | gCommsMutex
  | gSem
deriving DecidableEq

inductive MissionThread where
  | solar
  | battery
  | powerBusWriter
  | sensor
  | heater
  | thermalBusWriter
  | uplink
  | downlink
  | watchdog
deriving DecidableEq

/-- The data the threads share and the counters of their own. -/
structure MissionData where
  power : PowerData
  solarElapsed : Nat
  thermal : ThermalData
  sensorElapsed : Nat
  downlink : Downlink
  bus : TelemetryBus
deriving DecidableEq

/-- What a step takes from outside: the numbers `rand` returns, the process's `g_safe_mode`,
which signals may change at any time, and what `read` returns. -/
structure MissionInput where
  rand : Nat → Nat
  gSafeMode : Bool
  read : FifoRead cmdMaxLen

/-- What a thread does to the data in one critical section, or between two. -/
inductive MissionEffect where
  | solarUpdate
  | batteryUpdate
  | powerBusWrite
  | sensorUpdate
  | heaterUpdate
  | thermalBusWrite
  | readCommand
  | setUplinkActive (active : Bool)
  | storeCommand (cmd : CString)
  | downlinkUpdate
  | downlinkBusWrite (sig : Float32)
  | sampleBus
  | storeMode (mode : Bool)
deriving DecidableEq

abbrev MissionOp := Op SharedLock Fault MissionEffect

/-- An effect in a critical section of its own. -/
def guardedBy (lock : SharedLock) (effect : MissionEffect) : List MissionOp :=
  [.acquire lock, .perform effect, .release lock]

/-- What a check leaves a measuring thread to do in its iteration. -/
def sendAlert (mutex : SharedLock) : Alert → List MissionOp
  | .none => [.release mutex]
  | .released fault => [.release mutex, .send fault]
  | .holding fault => [.send fault, .release mutex]

/-- What the downlink's check leaves `downlink_thread` to do. -/
def sendDownlink (elapsed : Nat) (sig : Float32) : Alert → List MissionOp
  | .none =>
    .release .gCommsMutex :: ((downlinkSnapshot elapsed sig).toList.map .send ++
      guardedBy .gSem (.downlinkBusWrite sig))
  | alert => sendAlert .gCommsMutex alert

/-- What `comms_handle_command` does; a `kill` waits for nothing. -/
def handleCommand (cmd : CString) : List MissionOp :=
  (match commandEffect cmd with
    | .printStatus => [.acquire .gSem, .release .gSem]
    | .sendFault fault => [.send fault]
    | .killParent _ => []
    | .printUnknown => []) ++ guardedBy .gCommsMutex (.storeCommand cmd)

/-- The rest of an iteration of `uplink_thread`. -/
def handleRead (read : FifoRead cmdMaxLen) : List MissionOp :=
  let (bytes, cmdBuf) := fifoReadCommand read
  if 0 < bytes then guardedBy .gCommsMutex (.setUplinkActive true) ++ handleCommand cmdBuf.text
  else guardedBy .gCommsMutex (.setUplinkActive false)

/-- The rest of `watchdog`; the broadcasts wait for nothing. -/
def actOnSample (sample : Sample) : List MissionOp :=
  (if !sample.safe && sample.isCritical then guardedBy .gSem (.storeMode modeSafe) else []) ++
    (if sample.safe && sample.isNominal then guardedBy .gSem (.storeMode modeNormal) else [])

/-- What an effect does to the data and has the thread do next. -/
def missionEffect (effect : MissionEffect) (input : MissionInput) (data : MissionData) :
    MissionData × List MissionOp :=
  match effect with
  | .solarUpdate =>
    let elapsed := data.solarElapsed + 1
    ({ data with power := solarUpdate elapsed (input.rand 0) data.power
                 solarElapsed := elapsed }, [])
  | .batteryUpdate =>
    let (power, alert) := batteryCheck (batteryMeasure (input.rand 0) data.power) data.power
    ({ data with power }, sendAlert .gPowerMutex alert)
  | .powerBusWrite =>
    ({ data with bus := powerBusWrite data.power input.gSafeMode data.bus }, [])
  | .sensorUpdate =>
    let elapsed := data.sensorElapsed + 1
    let (thermal, alert) :=
      sensorCheck (sensorMeasure elapsed (fun index => input.rand index) data.thermal) data.thermal
    ({ data with thermal, sensorElapsed := elapsed }, sendAlert .gThermalMutex alert)
  | .heaterUpdate =>
    let (thermal, alert) := heaterCheck data.thermal
    ({ data with thermal }, sendAlert .gThermalMutex alert)
  | .thermalBusWrite => ({ data with bus := thermalBusWrite data.thermal data.bus }, [])
  | .readCommand => (data, handleRead input.read)
  | .setUplinkActive active =>
    ({ data with downlink.comms.uplinkActive := active }, [])
  | .storeCommand cmd =>
    ({ data with downlink.comms := storeCommand cmd data.downlink.comms }, [])
  | .downlinkUpdate =>
    let elapsed := data.downlink.elapsed + 1
    if input.gSafeMode then
      ({ data with downlink := ⟨downlinkSuspend data.downlink.comms, elapsed⟩ },
        [.release .gCommsMutex])
    else
      let sig := downlinkMeasure (input.rand 0) (input.rand 1)
      let (comms, alert) := downlinkCheck sig data.downlink.comms
      ({ data with downlink := ⟨comms, elapsed⟩ }, sendDownlink elapsed sig alert)
  | .downlinkBusWrite sig =>
    ({ data with bus := downlinkBusWrite sig data.downlink.comms data.bus }, [])
  | .sampleBus => (data, .release .gSem :: actOnSample data.bus.sample)
  | .storeMode mode => ({ data with bus.safeMode := mode }, [])

/-- One iteration of each thread's loop. -/
def missionRound : MissionThread → List MissionOp
  | .solar => guardedBy .gPowerMutex .solarUpdate
  | .battery => [.acquire .gPowerMutex, .perform .batteryUpdate]
  | .powerBusWriter => .acquire .gSem :: guardedBy .gPowerMutex .powerBusWrite ++ [.release .gSem]
  | .sensor => [.acquire .gThermalMutex, .perform .sensorUpdate]
  | .heater => [.acquire .gThermalMutex, .perform .heaterUpdate]
  | .thermalBusWriter =>
    .acquire .gSem :: guardedBy .gThermalMutex .thermalBusWrite ++ [.release .gSem]
  | .uplink => [.perform .readCommand]
  | .downlink => [.acquire .gCommsMutex, .perform .downlinkUpdate]
  | .watchdog => [.acquire .gSem, .perform .sampleBus]

/-- The threads of the mission. -/
def mission : Program MissionThread SharedLock Fault MissionEffect MissionInput MissionData where
  capacity := mqMaxMessages
  round := missionRound
  apply := missionEffect

abbrev MissionState := LockedThreads.State MissionThread SharedLock Fault MissionEffect MissionData

abbrev MissionAction := LockedThreads.Action MissionThread MissionInput

/-- The data `shm_create` and the processes' `main` functions set up. -/
def missionData : MissionData where
  power := powerInit
  solarElapsed := 0
  thermal := thermalInit
  sensorElapsed := 0
  downlink := ⟨commsInit, 0⟩
  bus := shmCreate

/-- The reports sent with a mutex locked: the battery's recovery and the heater's. -/
def SentLocked (thread : MissionThread) (fault : Fault) : Prop :=
  thread = .battery ∧ fault.severity = info ∨ thread = .heater

/-! ### The reports -/

/-- The common check has no report sent under the mutex. -/
theorem check_ne_holding (thresholds : FaultThresholds) (active : Bool) (value : Float32)
    (fault : Fault) : (thresholds.check active value).2 ≠ .holding fault := by
  rw [FaultThresholds.check]
  cases thresholds.fault value (thresholds.judge active value) <;> simp

/-- The battery's INFO report, and no other, is sent under the mutex. -/
theorem alert_batteryCheck (batt : Float32) (power : PowerData) :
    (∀ fault, (batteryCheck batt power).2 = .released fault → fault.severity ≠ info) ∧
      ∀ fault, (batteryCheck batt power).2 = .holding fault → fault.severity = info := by
  have other : critical ≠ info ∧ warning ≠ info := by decide
  unfold batteryCheck
  split
  · exact ⟨fun _ sent => (by cases sent; exact other.1), fun _ sent => (by cases sent)⟩
  split
  · exact ⟨fun _ sent => (by cases sent; exact other.2), fun _ sent => (by cases sent)⟩
  split
  · exact ⟨fun _ sent => (by cases sent), fun _ sent => (by cases sent; rfl)⟩
  · exact ⟨fun _ sent => (by cases sent), fun _ sent => (by cases sent)⟩

theorem heaterCheck_ne_released (thermal : ThermalData) (fault : Fault) :
    (heaterCheck thermal).2 ≠ .released fault := by
  unfold heaterCheck
  split
  · simp
  split <;> simp

/-! ### Every thread releases before it sends -/

/-- The threads that send nothing under a mutex. -/
def SendsReleased (thread : MissionThread) : Prop := thread ≠ .battery ∧ thread ≠ .heater

theorem SendsReleased.not_sentLocked {thread : MissionThread} (released : SendsReleased thread)
    (fault : Fault) : ¬ SentLocked thread fault := by
  rintro (⟨isBattery, _⟩ | isHeater)
  · exact released.1 isBattery
  · exact released.2 isHeater

/-- A thread's rest closes: it sends only with all locks released. -/
abbrev MissionCloses (thread : MissionThread) (held : List SharedLock) (todo : List MissionOp) :
    Prop :=
  Closes mission SentLocked thread held todo

theorem closes_guardedBy {thread : MissionThread} {held : List SharedLock} {lock : SharedLock}
    {effect : MissionEffect} {rest : List MissionOp} (fresh : lock ∉ held)
    (quiet : ∀ input data, (missionEffect effect input data).2 = [])
    (after : MissionCloses thread held rest) :
    MissionCloses thread held (guardedBy lock effect ++ rest) :=
  Closes.section fresh quiet after

theorem closes_sendAlert {thread : MissionThread} {mutex : SharedLock} {alert : Alert}
    (released : ∀ fault, alert = .released fault → ¬ SentLocked thread fault)
    (holding : ∀ fault, alert = .holding fault → SentLocked thread fault) :
    Ready mission SentLocked thread [mutex] (sendAlert mutex alert) := by
  cases alert with
  | none => exact .closes (.release List.not_mem_nil .done)
  | released fault =>
    exact .closes (.release List.not_mem_nil (.send (released fault rfl) .done))
  | holding fault => exact .exempt (holding fault rfl) (.release List.not_mem_nil .done)

theorem closes_sendDownlink (elapsed : Nat) (sig : Float32) {alert : Alert}
    (notHolding : ∀ fault, alert ≠ .holding fault) :
    Ready mission SentLocked .downlink [.gCommsMutex] (sendDownlink elapsed sig alert) := by
  have released : SendsReleased .downlink := ⟨by decide, by decide⟩
  have free := released.not_sentLocked
  have busWrite : MissionCloses .downlink [] (guardedBy .gSem (.downlinkBusWrite sig)) :=
    closes_guardedBy List.not_mem_nil (fun _ _ => rfl) .done
  cases alert with
  | none =>
    refine .closes (.release List.not_mem_nil ?_)
    cases downlinkSnapshot elapsed sig with
    | none => exact busWrite
    | some fault => exact .send (free fault) busWrite
  | released fault =>
    have rest : Ready mission SentLocked .downlink [.gCommsMutex]
        (sendAlert .gCommsMutex (.released fault)) :=
      closes_sendAlert (fun fault _ => free fault) fun other same => by cases same
    exact rest
  | holding fault => exact absurd rfl (notHolding fault)

theorem closes_handleCommand (cmd : CString) : MissionCloses .uplink [] (handleCommand cmd) := by
  have store : MissionCloses .uplink [] (guardedBy .gCommsMutex (.storeCommand cmd)) :=
    closes_guardedBy List.not_mem_nil (fun _ _ => rfl) .done
  unfold handleCommand
  cases commandEffect cmd with
  | printStatus => exact .acquire List.not_mem_nil (.release List.not_mem_nil store)
  | sendFault fault =>
    exact .send (SendsReleased.not_sentLocked ⟨by decide, by decide⟩ fault) store
  | killParent signal => exact store
  | printUnknown => exact store

theorem closes_handleRead (read : FifoRead cmdMaxLen) :
    MissionCloses .uplink [] (handleRead read) := by
  by_cases positive : 0 < (fifoReadCommand read).1
  · simp only [handleRead, if_pos positive]
    exact closes_guardedBy List.not_mem_nil (fun _ _ => rfl) (closes_handleCommand _)
  · simp only [handleRead, if_neg positive]
    exact closes_guardedBy List.not_mem_nil (fun _ _ => rfl) .done

theorem closes_actOnSample (sample : Sample) :
    MissionCloses .watchdog [] (actOnSample sample) := by
  have exits : MissionCloses .watchdog []
      (if sample.safe && sample.isNominal then guardedBy .gSem (.storeMode modeNormal)
        else []) := by
    split
    · exact closes_guardedBy List.not_mem_nil (fun _ _ => rfl) .done
    · exact .done
  rw [actOnSample]
  split
  · exact closes_guardedBy List.not_mem_nil (fun _ _ => rfl) exits
  · exact exits

/-- In every iteration of every thread, a report that is not sent with all locks released is
one of the two. -/
theorem closes_missionRound (thread : MissionThread) :
    MissionCloses thread [] (missionRound thread) := by
  cases thread with
  | solar => exact closes_guardedBy List.not_mem_nil (fun _ _ => rfl) .done
  | battery =>
    refine .acquire List.not_mem_nil (.perform fun input data => ?_)
    rw [List.append_nil]
    obtain ⟨released, holding⟩ :=
      alert_batteryCheck (batteryMeasure (input.rand 0) data.power) data.power
    refine closes_sendAlert (fun fault same => ?_) fun fault same => .inl ⟨rfl, holding fault same⟩
    rintro (⟨_, isInfo⟩ | other)
    · exact released fault same isInfo
    · cases other
  | powerBusWriter =>
    exact .acquire List.not_mem_nil (closes_guardedBy (by decide) (fun _ _ => rfl)
      (.release List.not_mem_nil .done))
  | sensor =>
    refine .acquire List.not_mem_nil (.perform fun input data => ?_)
    rw [List.append_nil]
    exact closes_sendAlert
      (fun fault _ => SendsReleased.not_sentLocked ⟨by decide, by decide⟩ fault)
      fun fault same => absurd same (check_ne_holding _ _ _ fault)
  | heater =>
    refine .acquire List.not_mem_nil (.perform fun input data => ?_)
    rw [List.append_nil]
    exact closes_sendAlert (fun fault same => absurd same (heaterCheck_ne_released _ fault))
      fun fault _ => .inr rfl
  | thermalBusWriter =>
    exact .acquire List.not_mem_nil (closes_guardedBy (by decide) (fun _ _ => rfl)
      (.release List.not_mem_nil .done))
  | uplink =>
    refine .perform fun input data => ?_
    rw [List.append_nil]
    exact .closes (closes_handleRead input.read)
  | downlink =>
    refine .acquire List.not_mem_nil (.perform fun input data => ?_)
    rw [List.append_nil]
    simp only [mission, missionEffect]
    split
    · exact .closes (.release List.not_mem_nil .done)
    · exact closes_sendDownlink _ _ (check_ne_holding _ _ _)
  | watchdog =>
    refine .acquire List.not_mem_nil (.perform fun input data => ?_)
    rw [List.append_nil]
    exact .closes (.release List.not_mem_nil (closes_actOnSample _))

/-! ### The semaphore -/

/-- As long as the reports sent with a mutex locked find room in the queue, no holder of the bus
semaphore waits for space in it, and neither does `watchdog` at a `sem_wait`. -/
theorem gSem_not_waits {actions : List MissionAction}
    (leaves : mission.machine.Guarded (LeavesRoom mission SentLocked) (.start missionData) actions)
    {state : MissionState} {events : List (MissionThread × Fault)}
    (ran : mission.machine.run (.start missionData) actions = some (state, events)) :
    (∀ thread, state.owner .gSem = some thread → ¬ WaitsForSpace mission state thread) ∧
      ∀ rest, state.todo .watchdog = .acquire .gSem :: rest →
        ¬ WaitsForSpace mission state .watchdog := by
  have free : ∀ thread, state.owner .gSem = some thread → ¬ WaitsForSpace mission state thread :=
    fun thread owned => not_waits_of_leavesRoom closes_missionRound leaves ran owned
  refine ⟨free, fun rest atWait waits => ?_⟩
  cases waits with
  | space atSend _ =>
    rw [atWait] at atSend
    cases atSend
  | lock atAcquire owned waits =>
    rw [atWait] at atAcquire
    cases atAcquire
    exact free _ owned waits

/-- A thread does so many operations, with the same input. -/
def turns (count : Nat) (thread : MissionThread) (input : MissionInput) : List MissionAction :=
  List.replicate count (.run thread input)

/-- Every number `rand` returns is seven: the battery loses 15 or gains 6. -/
def sevens : MissionInput := ⟨fun _ => 7, false, .again⟩

/-- The link drops out to 15. -/
def dropout : MissionInput := ⟨fun index => if index = 0 then 0 else 10, false, .again⟩

/-- The battery drains in the eclipse to its CRITICAL report and comes back to 22 %. Its recovery
report is about to be sent under the mutex when the power bus writer takes the semaphore and comes
to the mutex; then the report is sent. -/
def recoveringWithRoom : List MissionAction :=
  turns 40 .solar sevens ++ turns 25 .battery sevens ++ turns 44 .solar sevens ++
    turns 7 .battery sevens ++ turns 2 .powerBusWriter sevens ++ turns 1 .battery sevens

theorem gSem_not_waits_recovering :
    ∃ state events,
      mission.machine.run (.start missionData) recoveringWithRoom = some (state, events) ∧
        (∃ report, events.getLast? = some (.battery, report) ∧ report.severity = info) ∧
        state.owner .gSem = some .powerBusWriter ∧
        ¬ WaitsForSpace mission state .powerBusWriter := by
  have spare : mission.machine.Guarded (fun state _ => state.queued + 1 < mission.capacity)
      (.start missionData) recoveringWithRoom := by decide +kernel
  have leaves : mission.machine.Guarded (LeavesRoom mission SentLocked) (.start missionData)
      recoveringWithRoom :=
    mission.machine.guarded_mono (fun _ _ spare => leavesRoom_of_spare spare) spare
  have reached : (mission.machine.run (.start missionData) recoveringWithRoom).any
      (fun reached => decide (reached.1.owner .gSem = some .powerBusWriter) &&
        reached.2.getLast?.any fun sent => sent.1 = .battery && sent.2.severity = info) =
        true := by decide +kernel
  obtain ⟨⟨state, events⟩, ran, reached⟩ := (Option.any_eq_true _ _).mp reached
  rw [Bool.and_eq_true, decide_eq_true_eq] at reached
  obtain ⟨⟨thread, report⟩, last, recovery⟩ := (Option.any_eq_true _ _).mp reached.2
  rw [Bool.and_eq_true, decide_eq_true_eq, decide_eq_true_eq] at recovery
  obtain ⟨rfl, severity⟩ := recovery
  exact ⟨state, events, ran, ⟨report, last, severity⟩, reached.1,
    (gSem_not_waits leaves ran).1 _ reached.1⟩

/-- With the logger stopped, the battery drains in the eclipse to its CRITICAL report, nine link
warnings fill the queue, and the battery comes back to 22 %. Its recovery report waits under the
mutex, and the power bus writer takes the semaphore and waits for the mutex. -/
def starving : List MissionAction :=
  turns 40 .solar sevens ++ turns 25 .battery sevens ++ turns 44 .solar sevens ++
    turns 45 .downlink dropout ++ turns 7 .battery sevens ++ turns 2 .powerBusWriter sevens

/-- Whether the power bus writer holds the semaphore and waits for the mutex, whose owner is the
battery thread at a send with the queue full. -/
def starves (state : MissionState) : Bool :=
  decide (state.owner .gSem = some .powerBusWriter) &&
    decide ((state.todo .powerBusWriter).head? = some (.acquire .gPowerMutex)) &&
    decide (state.owner .gPowerMutex = some .battery) &&
    decide (mission.capacity ≤ state.queued) &&
    match state.todo .battery with
    | .send _ :: _ => true
    | _ => false

theorem waits_of_starves {state : MissionState} (starved : starves state = true) :
    state.owner .gSem = some .powerBusWriter ∧ WaitsForSpace mission state .powerBusWriter := by
  simp only [starves, Bool.and_eq_true, decide_eq_true_eq] at starved
  obtain ⟨⟨⟨⟨holds, atMutex⟩, owned⟩, full⟩, atSend⟩ := starved
  obtain ⟨rest, atMutex⟩ := List.head?_eq_some_iff.mp atMutex
  refine ⟨holds, .lock atMutex owned ?_⟩
  split at atSend
  next message rest here => exact .space here full
  · cases atSend

/-- The power bus writer holds the semaphore while it waits, through `g_power_mutex` and the
battery thread's recovery report, for space in the queue. -/
theorem not_gSem_not_waits :
    ¬ ∀ (actions : List MissionAction) (state : MissionState)
        (events : List (MissionThread × Fault)),
      mission.machine.run (.start missionData) actions = some (state, events) →
      ∀ thread, state.owner .gSem = some thread → ¬ WaitsForSpace mission state thread := by
  intro claimed
  have starved : (mission.machine.run (.start missionData) starving).any
      (fun reached => starves reached.1) = true := by decide +kernel
  obtain ⟨⟨state, events⟩, ran, starved⟩ := (Option.any_eq_true _ _).mp starved
  obtain ⟨holds, waits⟩ := waits_of_starves starved
  exact claimed starving state events ran .powerBusWriter holds waits

end Fdir
