/-
This file takes the critical sections of the mission apart into single accesses: every load of a
shared variable, and every store to one, is a step of its own, between which the other threads
may make theirs.

One variable is shared without a lock. `uplink_thread` stores `uplink_active` under
`g_comms_mutex`, and `downlink_thread` loads it for the bus under the semaphore; each does so in
one access. So the sections still take place in one go, and what is proved of whole sections
holds of the single accesses.
-/

import Fdir.Heater
import Fdir.MissionLocks
import Fdir.SingleAccesses

namespace Fdir

open CMemory LockedThreads

/-! ### Variables -/

/-- The registers and the local variables of a thread. -/
structure Registers where
  value : Float32
  flag : Bool
  elapsed : Nat
  verdict : Verdict
  sample : Sample

/-- The variables of the threads; `uplinkActive` is the field of `g_comms`, and is not counted in
`gComms`. -/
inductive MissionCell where
  | gPower
  | solarElapsed
  | gThermal
  | sensorElapsed
  | gComms
  | uplinkActive
  | downlinkElapsed
  | gBus
  | registers (thread : MissionThread)
deriving DecidableEq

@[reducible] def MissionValue : MissionCell → Type
  | .gPower => PowerData
  | .gThermal => ThermalData
  | .gComms => CommsData
  | .uplinkActive => Bool
  | .solarElapsed | .sensorElapsed | .downlinkElapsed => Nat
  | .gBus => TelemetryBus
  | .registers _ => Registers

abbrev MissionStore := Store MissionValue

/-- The data the variables hold. -/
def MissionStore.view (store : MissionStore) : MissionData where
  power := store .gPower
  solarElapsed := store .solarElapsed
  thermal := store .gThermal
  sensorElapsed := store .sensorElapsed
  downlink :=
    ⟨{ store .gComms with uplinkActive := store .uplinkActive }, store .downlinkElapsed⟩
  bus := store .gBus

/-- The lock a variable is accessed under. -/
def MissionCell.lock : MissionCell → Option SharedLock
  | gPower | solarElapsed => some .gPowerMutex
  | gThermal | sensorElapsed => some .gThermalMutex
  | gComms | downlinkElapsed => some .gCommsMutex
  | gBus => some .gSem
  | uplinkActive | registers _ => none

/-- The variables a thread may access in an effect: its registers, and what the effect's locks
guard. -/
def MissionCell.Touched (thread : MissionThread) (effect : MissionEffect) : MissionCell → Prop
  | registers who => who = thread
  | cell => ∃ lock ∈ cell.lock, lock ∈ effect.guards

/-! ### Accesses -/

/-- One access to a variable. -/
inductive MissionAccess where
  /-- A load, into the registers. -/
  | load (cell : MissionCell) (read : MissionValue cell → Registers → Registers)
  /-- A store of what the registers hold; of a structure it changes one field. -/
  | put (cell : MissionCell) (write : Registers → MissionValue cell → MissionValue cell)
  /-- No access at all. -/
  | idle

def MissionAccess.run (thread : MissionThread) : MissionAccess → MissionStore → MissionStore
  | load cell read =>
    assign (.registers thread) fun store => read (store cell) (store (.registers thread))
  | put cell write => assign cell fun store => write (store (.registers thread)) (store cell)
  | idle => id

/-- The variable an access is to. -/
def MissionAccess.cell? : MissionAccess → Option MissionCell
  | load cell _ => some cell
  | put cell _ => some cell
  | idle => none

/-- What the three tests of a check load, one after another: each `fault_active`, after the value
if that is not a local variable. -/
def testReads {Data : Type} (thresholds : FaultThresholds) (value : Data → Float32 → Float32)
    (faultActive : Data → Bool) : List (Data → Registers → Registers) :=
  [fun data registers => { registers with value := value data registers.value },
    fun data registers =>
      { registers with
        verdict :=
          if thresholds.critical registers.value && !faultActive data then .raised else .quiet },
    fun data registers =>
      if registers.verdict = .quiet then
        { registers with value := value data registers.value }
      else registers,
    fun data registers =>
      if registers.verdict = .quiet then
        { registers with
          verdict :=
            if thresholds.warning registers.value && !faultActive data then .warned else .quiet }
      else registers,
    fun data registers =>
      if registers.verdict = .quiet then
        { registers with value := value data registers.value }
      else registers,
    fun data registers =>
      if registers.verdict = .quiet then
        { registers with
          verdict :=
            if thresholds.nominal registers.value && faultActive data then .cleared else .quiet }
      else registers]

def loadTests (thresholds : FaultThresholds) (cell : MissionCell)
    (value : MissionValue cell → Float32 → Float32) (faultActive : MissionValue cell → Bool) :
    List MissionAccess :=
  (testReads thresholds value faultActive).map (.load cell)

/-- The measuring part of `battery_thread`. -/
def measureBattery (rand : Nat) : List MissionAccess :=
  [.load .gPower fun power registers => { registers with flag := power.inEclipse },
    .load .gPower fun power registers => { registers with value := power.batteryPct },
    .put .gPower fun registers power =>
      { power with
        batteryPct :=
          if registers.flag then registers.value - (rand % 8 + 8).toFloat32
          else registers.value + (rand % 4 + 3).toFloat32 },
    .load .gPower fun power registers => { registers with value := power.batteryPct },
    .put .gPower fun registers power =>
      if registers.flag then
        if registers.value < 0.0 then { power with batteryPct := 0.0 } else power
      else if 100.0 < registers.value then { power with batteryPct := 100.0 } else power,
    .load .gPower fun power registers => { registers with value := power.batteryPct }]

/-- The measuring part of `sensor_thread`. -/
def measureSensor (rand : Nat → Nat) : List MissionAccess :=
  [.put .sensorElapsed fun _ elapsed => elapsed + 1,
    .load .sensorElapsed fun elapsed registers => { registers with elapsed },
    .put .gThermal fun _ thermal =>
      { thermal with tempBattery := (rand 0 % 15 + 15).toFloat32 },
    .put .gThermal fun _ thermal =>
      { thermal with tempAntenna := (rand 1 % 20 + 20).toFloat32 },
    .put .gThermal fun _ thermal => { thermal with tempBody := (rand 2 % 15 + 18).toFloat32 },
    .load .gThermal fun thermal registers => { registers with value := thermal.tempCpu },
    .put .gThermal fun registers thermal =>
      { thermal with
        tempCpu :=
          if registers.elapsed = thermalSpike then 110.0
          else if thermalSpike < registers.elapsed ∧ registers.elapsed < thermalSpike + 8 then
            registers.value - 5.0
          else (rand 3 % 18 + 28).toFloat32 },
    .load .gThermal fun thermal registers => { registers with value := thermal.tempCpu },
    .put .gThermal fun registers thermal =>
      if thermalSpike < registers.elapsed ∧ registers.elapsed < thermalSpike + 8 ∧
          registers.value < 35.0 then { thermal with tempCpu := 35.0 }
      else thermal]

/-- The loads with which `heater_thread` finds the coldest zone. -/
def minReads : List (ThermalData → Registers → Registers) :=
  [fun thermal registers => { registers with value := thermal.tempBattery },
    fun thermal registers => { registers with flag := thermal.tempAntenna < registers.value },
    fun thermal registers =>
      if registers.flag then { registers with value := thermal.tempAntenna } else registers,
    fun thermal registers => { registers with flag := thermal.tempBody < registers.value },
    fun thermal registers =>
      if registers.flag then { registers with value := thermal.tempBody } else registers]

/-- The two tests of `heater_thread`; each loads `heater_on`. -/
def heaterTests : List (ThermalData → Registers → Registers) :=
  [fun thermal registers =>
      { registers with
        verdict :=
          if registers.value ≤ tempFreeze ∧ ¬ thermal.heaterOn then .raised else .quiet },
    fun thermal registers =>
      { registers with
        verdict :=
          if registers.verdict = .quiet ∧ 10.0 < registers.value ∧ thermal.heaterOn then .cleared
          else registers.verdict }]

/-- The measuring part of `downlink_thread`, outside safe mode. -/
def measureDownlink (dropout value : Nat) : List MissionAccess :=
  [.put .gComms fun _ comms => { comms with signalQuality := downlinkMeasure dropout value },
    .put .gComms fun _ comms => { comms with downlinkActive := true },
    .load .gComms fun comms registers => { registers with value := comms.signalQuality }]

/-- What an effect does before its commit. -/
def missionEarly (effect : MissionEffect) (input : MissionInput) : List MissionAccess :=
  match effect with
  | .solarUpdate =>
    [.put .solarElapsed fun _ elapsed => elapsed + 1,
      .load .solarElapsed fun elapsed registers => { registers with elapsed },
      .put .gPower fun registers power =>
        if eclipseStart ≤ registers.elapsed ∧ registers.elapsed ≤ eclipseEnd then
          { power with solarWatts := 0.0 }
        else { power with solarWatts := (input.rand 0 % 40 + 90).toFloat32 }]
  | .batteryUpdate =>
    measureBattery (input.rand 0) ++
      loadTests batteryThresholds .gPower (fun _ batt => batt) PowerData.faultActive
  | .powerBusWrite =>
    [.load .gPower fun power registers => { registers with value := power.solarWatts },
      .put .gBus fun registers bus => { bus with solarWatts := registers.value },
      .load .gPower fun power registers => { registers with value := power.batteryPct },
      .put .gBus fun registers bus => { bus with batteryPct := registers.value }]
  | .sensorUpdate =>
    measureSensor input.rand ++
      loadTests sensorThresholds .gThermal (fun thermal _ => thermal.tempCpu)
        ThermalData.faultActive
  | .heaterUpdate => (minReads ++ heaterTests).map (.load .gThermal)
  | .thermalBusWrite =>
    [.load .gThermal fun thermal registers => { registers with value := thermal.tempCpu },
      .put .gBus fun registers bus => { bus with tempCpu := registers.value },
      .load .gThermal fun thermal registers => { registers with value := thermal.tempBattery },
      .put .gBus fun registers bus => { bus with tempBattery := registers.value },
      .load .gThermal fun thermal registers => { registers with value := thermal.tempAntenna },
      .put .gBus fun registers bus => { bus with tempAntenna := registers.value },
      .load .gThermal fun thermal registers => { registers with value := thermal.tempBody }]
  | .downlinkUpdate =>
    [.put .downlinkElapsed fun _ elapsed => elapsed + 1,
      .load .downlinkElapsed fun elapsed registers => { registers with elapsed }] ++
      if input.gSafeMode then [.put .gComms fun _ comms => { comms with downlinkActive := false }]
      else
        measureDownlink (input.rand 0) (input.rand 1) ++
          loadTests downlinkThresholds .gComms (fun _ sig => sig) CommsData.faultActive
  | .downlinkBusWrite sig => [.put .gBus fun _ bus => { bus with signalQuality := sig }]
  | .sampleBus =>
    [.load .gBus fun bus registers =>
        { registers with sample := { registers.sample with batt := bus.batteryPct } },
      .load .gBus fun bus registers =>
        { registers with sample := { registers.sample with temp := bus.tempCpu } },
      .load .gBus fun bus registers =>
        { registers with sample := { registers.sample with solar := bus.solarWatts } }]
  | .readCommand | .setUplinkActive _ | .storeCommand _ | .storeMode _ => []

/-- The access an effect commits with. -/
def missionCommit (effect : MissionEffect) (input : MissionInput) : MissionAccess :=
  match effect with
  | .solarUpdate =>
    .put .gPower fun registers power =>
      { power with
        inEclipse := eclipseStart ≤ registers.elapsed ∧ registers.elapsed ≤ eclipseEnd }
  | .batteryUpdate =>
    .put .gPower fun registers power =>
      { power with faultActive := registers.verdict.applied power.faultActive }
  | .powerBusWrite => .put .gBus fun _ bus => { bus with safeMode := input.gSafeMode }
  | .sensorUpdate =>
    .put .gThermal fun registers thermal =>
      { thermal with faultActive := registers.verdict.applied thermal.faultActive }
  | .heaterUpdate =>
    .put .gThermal fun registers thermal =>
      { thermal with heaterOn := registers.verdict.applied thermal.heaterOn }
  | .thermalBusWrite => .put .gBus fun registers bus => { bus with tempBody := registers.value }
  | .readCommand => .idle
  | .setUplinkActive active => .put .uplinkActive fun _ _ => active
  | .storeCommand cmd =>
    .put .gComms fun _ comms =>
      { comms with lastCommand := comms.lastCommand.strncpyButLast cmd }
  | .downlinkUpdate =>
    if input.gSafeMode then .put .gComms fun _ comms => { comms with signalQuality := 0.0 }
    else
      .put .gComms fun registers comms =>
        { comms with faultActive := registers.verdict.applied comms.faultActive }
  | .downlinkBusWrite _ =>
    .load .uplinkActive fun active registers => { registers with flag := active }
  | .sampleBus =>
    .load .gBus fun bus registers =>
      { registers with sample := { registers.sample with safe := bus.safeMode } }
  | .storeMode mode => .put .gBus fun _ bus => { bus with safeMode := mode }

/-- What an effect does after its commit. -/
def missionLate : MissionEffect → List MissionAccess
  | .downlinkBusWrite _ =>
    [.put .gBus fun registers bus => { bus with uplinkActive := registers.flag }]
  | .sensorUpdate =>
    [.load .gThermal fun thermal registers =>
      if registers.verdict = .quiet then registers
      else { registers with value := thermal.tempCpu }]
  | .solarUpdate | .batteryUpdate | .powerBusWrite | .heaterUpdate | .thermalBusWrite
  | .readCommand | .setUplinkActive _ | .storeCommand _ | .downlinkUpdate | .sampleBus
  | .storeMode _ => []

/-- What the registers have a thread do after an effect. -/
def missionNext (effect : MissionEffect) (input : MissionInput) (registers : Registers) :
    List MissionOp :=
  match effect with
  | .batteryUpdate =>
    sendAlert .gPowerMutex <|
      match registers.verdict with
      | .cleared => (batteryThresholds.fault registers.value .cleared).elim .none .holding
      | verdict => (batteryThresholds.fault registers.value verdict).elim .none .released
  | .sensorUpdate =>
    sendAlert .gThermalMutex
      ((sensorThresholds.fault registers.value registers.verdict).elim .none .released)
  | .heaterUpdate =>
    sendAlert .gThermalMutex <|
      if registers.verdict = .raised then
        .holding ⟨warning, registers.value, tempFreeze,
          .literal "Component near freezing — heater activated"⟩
      else .none
  | .readCommand => handleRead input.read
  | .downlinkUpdate =>
    if input.gSafeMode then [.release .gCommsMutex]
    else
      sendDownlink registers.elapsed registers.value
        ((downlinkThresholds.fault registers.value registers.verdict).elim .none .released)
  | .sampleBus => .release .gSem :: actOnSample registers.sample
  | .solarUpdate | .powerBusWrite | .thermalBusWrite | .setUplinkActive _ | .storeCommand _
  | .downlinkBusWrite _ | .storeMode _ => []

/-! ### Sections -/

theorem within_run {cells : MissionCell → Prop} {thread : MissionThread} {access : MissionAccess}
    (own : cells (.registers thread)) (inside : ∀ cell ∈ access.cell?, cells cell) :
    Within cells (access.run thread) := by
  cases access with
  | load cell read =>
    refine within_assign own fun first second agree => ?_
    rw [agree cell (inside cell rfl), agree _ own]
  | put cell write =>
    have inside := inside cell rfl
    refine within_assign inside fun first second agree => ?_
    rw [agree cell inside, agree _ own]
  | idle => exact ⟨fun _ _ _ => rfl, fun _ _ agree => agree⟩

/-- The access is to a variable that the effect's locks guard. -/
def MissionAccess.Locked (effect : MissionEffect) (access : MissionAccess) : Prop :=
  ∀ cell ∈ access.cell?, ∃ lock ∈ cell.lock, lock ∈ effect.guards

theorem MissionAccess.Locked.touched {effect : MissionEffect} {access : MissionAccess}
    (locked : access.Locked effect) (thread : MissionThread) :
    ∀ cell ∈ access.cell?, cell.Touched thread effect := by
  intro cell found
  obtain ⟨lock, isLock, guards⟩ := locked cell found
  cases cell with
  | registers who => cases isLock
  | _ => exact ⟨lock, isLock, guards⟩

theorem locked_loadTests {thresholds : FaultThresholds} {cell : MissionCell}
    {value : MissionValue cell → Float32 → Float32} {faultActive : MissionValue cell → Bool}
    {effect : MissionEffect} (locked : ∃ lock ∈ cell.lock, lock ∈ effect.guards) :
    ∀ access ∈ loadTests thresholds cell value faultActive, access.Locked effect := by
  intro access member
  obtain ⟨read, _, rfl⟩ := List.mem_map.mp member
  rintro _ ⟨⟩
  exact locked

theorem locked_missionEarly (effect : MissionEffect) (input : MissionInput) :
    ∀ access ∈ missionEarly effect input, access.Locked effect := by
  cases effect with
  | batteryUpdate =>
    refine List.forall_mem_append.mpr ⟨?_, locked_loadTests ?_⟩ <;>
      simp [measureBattery, MissionAccess.Locked, MissionAccess.cell?, MissionCell.lock,
        MissionEffect.guards]
  | sensorUpdate =>
    refine List.forall_mem_append.mpr ⟨?_, locked_loadTests ?_⟩ <;>
      simp [measureSensor, MissionAccess.Locked, MissionAccess.cell?, MissionCell.lock,
        MissionEffect.guards]
  | downlinkUpdate =>
    refine List.forall_mem_append.mpr ⟨?_, ?_⟩
    · simp [MissionAccess.Locked, MissionAccess.cell?, MissionCell.lock, MissionEffect.guards]
    split
    · simp [MissionAccess.Locked, MissionAccess.cell?, MissionCell.lock, MissionEffect.guards]
    refine List.forall_mem_append.mpr ⟨?_, locked_loadTests ?_⟩ <;>
      simp [measureDownlink, MissionAccess.Locked, MissionAccess.cell?, MissionCell.lock,
        MissionEffect.guards]
  | heaterUpdate =>
    intro access member
    obtain ⟨read, _, rfl⟩ := List.mem_map.mp member
    simp [MissionAccess.Locked, MissionAccess.cell?, MissionCell.lock, MissionEffect.guards]
  | _ =>
    simp [missionEarly, MissionAccess.Locked, MissionAccess.cell?, MissionCell.lock,
      MissionEffect.guards]

theorem locked_missionLate (effect : MissionEffect) :
    ∀ access ∈ missionLate effect, access.Locked effect := by
  cases effect <;>
    simp [missionLate, MissionAccess.Locked, MissionAccess.cell?, MissionCell.lock,
      MissionEffect.guards]

/-- Only a commit accesses the variable that has no lock. -/
theorem locked_missionCommit (effect : MissionEffect) (input : MissionInput) :
    (missionCommit effect input).Locked effect ∨
      (missionCommit effect input).cell? = some .uplinkActive := by
  cases effect with
  | downlinkUpdate =>
    left
    simp only [missionCommit]
    split <;>
      simp [MissionAccess.Locked, MissionAccess.cell?, MissionCell.lock, MissionEffect.guards]
  | _ =>
    simp [missionCommit, MissionAccess.Locked, MissionAccess.cell?, MissionCell.lock,
      MissionEffect.guards]

/-- The accesses of an effect, in order. -/
def missionAccesses (effect : MissionEffect) (input : MissionInput) : List MissionAccess :=
  missionEarly effect input ++ missionCommit effect input :: missionLate effect

/-- The variables after the accesses of an effect. -/
def runAccesses (thread : MissionThread) (accesses : List MissionAccess) (store : MissionStore) :
    MissionStore :=
  accesses.foldl (fun store access => access.run thread store) store

theorem runAccesses_append (thread : MissionThread) (front back : List MissionAccess)
    (store : MissionStore) :
    runAccesses thread (front ++ back) store =
      runAccesses thread back (runAccesses thread front store) :=
  List.foldl_append

theorem accessAll_map_run (thread : MissionThread) (accesses : List MissionAccess)
    (store : MissionStore) :
    accessAll (accesses.map (MissionAccess.run thread)) store = runAccesses thread accesses store :=
  List.foldl_map

/-- Loads change the registers only. -/
theorem runAccesses_loads {cell : MissionCell} {thread : MissionThread}
    (shared : cell ≠ .registers thread)
    (reads : List (MissionValue cell → Registers → Registers)) (store : MissionStore) :
    runAccesses thread (reads.map (.load cell)) store =
      Function.update store (.registers thread)
        (reads.foldl (fun registers read => read (store cell) registers)
          (store (.registers thread))) := by
  induction reads generalizing store with
  | nil => exact (Function.update_eq_self _ _).symm
  | cons read rest inductionHypothesis =>
    rw [List.map_cons, runAccesses, List.foldl_cons, ← runAccesses, inductionHypothesis]
    simp only [MissionAccess.run, assign, Function.update_of_ne shared, Function.update_self,
      Function.update_idem, List.foldl_cons]

/-- The three tests come to the verdict of the check. -/
theorem foldl_testReads {Data : Type} (thresholds : FaultThresholds)
    (value : Data → Float32 → Float32) (faultActive : Data → Bool) (data : Data)
    (registers : Registers)
    (again : value data (value data registers.value) = value data registers.value) :
    (testReads thresholds value faultActive).foldl (fun registers read => read data registers)
        registers =
      { registers with
        value := value data registers.value
        verdict := thresholds.judge (faultActive data) (value data registers.value) } := by
  simp only [testReads, List.foldl_cons, List.foldl_nil, Latch.judge]
  cases faultActive data <;> cases thresholds.critical (value data registers.value) <;>
    cases warned : thresholds.warning (value data registers.value) <;>
    cases nominal : thresholds.nominal (value data registers.value) <;>
    simp [again, warned, nominal]

/-! ### Sections are effects -/

section Whole

variable (thread : MissionThread) (input : MissionInput) (store : MissionStore)

/-- Tests, and the store of the latch by their verdict. -/
theorem runAccesses_check {cell : MissionCell} (shared : cell ≠ .registers thread)
    (thresholds : FaultThresholds) (value : MissionValue cell → Float32 → Float32)
    (faultActive : MissionValue cell → Bool)
    (write : Registers → MissionValue cell → MissionValue cell) (late : List MissionAccess)
    (again : ∀ register, value (store cell) (value (store cell) register) =
      value (store cell) register) :
    runAccesses thread (loadTests thresholds cell value faultActive ++ .put cell write :: late)
        store =
      let registers : Registers := { store (.registers thread) with
        value := value (store cell) (store (.registers thread)).value
        verdict := thresholds.judge (faultActive (store cell))
          (value (store cell) (store (.registers thread)).value) }
      runAccesses thread late (Function.update
        (Function.update store (.registers thread) registers) cell
          (write registers (store cell))) := by
  rw [runAccesses_append, loadTests, runAccesses_loads shared, foldl_testReads _ _ _ _ _ (again _)]
  simp only [runAccesses, List.foldl_cons, MissionAccess.run, assign, Function.update_self,
    Function.update_of_ne shared]

theorem runAccesses_measureBattery (rand : Nat) :
    runAccesses thread (measureBattery rand) store =
      Function.update
        (Function.update store .gPower
          { store .gPower with batteryPct := batteryMeasure rand (store .gPower) })
        (.registers thread)
        { store (.registers thread) with
          flag := (store .gPower).inEclipse
          value := batteryMeasure rand (store .gPower) } := by
  funext cell
  by_cases isPower : cell = .gPower
  · subst isPower
    simp [runAccesses, measureBattery, MissionAccess.run, assign, batteryMeasure]
    split <;> split <;> simp_all
  by_cases isRegisters : cell = .registers thread
  · subst isRegisters
    simp [runAccesses, measureBattery, MissionAccess.run, assign, batteryMeasure]
    split <;> split <;> simp_all
  · simp [runAccesses, measureBattery, MissionAccess.run, assign, isPower, isRegisters]

theorem runAccesses_measureSensor (rand : Nat → Nat) :
    let elapsed := store .sensorElapsed + 1
    let reading := sensorMeasure elapsed (fun index => rand index) (store .gThermal)
    ∃ registers : Registers, runAccesses thread (measureSensor rand) store =
      Function.update
        (Function.update (Function.update store .sensorElapsed elapsed) .gThermal
          { store .gThermal with
            tempCpu := reading.cpu
            tempBattery := reading.battery
            tempAntenna := reading.antenna
            tempBody := reading.body }) (.registers thread) registers := by
  refine ⟨runAccesses thread (measureSensor rand) store (.registers thread), ?_⟩
  funext cell
  by_cases isRegisters : cell = .registers thread
  · subst isRegisters
    rw [Function.update_self]
  by_cases isThermal : cell = .gThermal
  · subst isThermal
    obtain ⟨elapsed, counted⟩ : ∃ elapsed : Nat, store .sensorElapsed + 1 = elapsed := ⟨_, rfl⟩
    by_cases spike : elapsed = thermalSpike
    · have notYet : ¬ thermalSpike < elapsed := by omega
      simp [runAccesses, measureSensor, MissionAccess.run, assign, sensorMeasure, counted, spike]
    by_cases after : thermalSpike < elapsed
    · by_cases before : elapsed < thermalSpike + 8
      · by_cases cold : (store .gThermal).tempCpu - 5.0 < 35.0 <;>
          simp [runAccesses, measureSensor, MissionAccess.run, assign, sensorMeasure, counted,
            spike, after, before, cold]
      · simp [runAccesses, measureSensor, MissionAccess.run, assign, sensorMeasure, counted,
          spike, after, before]
    · simp [runAccesses, measureSensor, MissionAccess.run, assign, sensorMeasure, counted, spike,
        after]
  by_cases isElapsed : cell = .sensorElapsed
  · subst isElapsed
    simp [runAccesses, measureSensor, MissionAccess.run, assign]
  · simp [runAccesses, measureSensor, MissionAccess.run, assign, isThermal, isElapsed, isRegisters]

/-- What all accesses of an effect come to. -/
structure Whole (effect : MissionEffect) : Prop where
  view : (runAccesses thread (missionAccesses effect input) store).view =
    (missionEffect effect input store.view).1
  next : missionNext effect input
      (runAccesses thread (missionAccesses effect input) store (.registers thread)) =
    (missionEffect effect input store.view).2

theorem whole_batteryUpdate : Whole thread input store .batteryUpdate := by
  constructor
  · rw [missionAccesses, missionEarly, missionCommit, missionLate, List.append_assoc,
      runAccesses_append, runAccesses_measureBattery,
      runAccesses_check _ _ (by simp) _ _ _ _ _ (fun _ => rfl)]
    simp [runAccesses, MissionStore.view, missionEffect, batteryCheck_eq, FaultThresholds.check]
  · rw [missionAccesses, missionEarly, missionCommit, missionLate, List.append_assoc,
      runAccesses_append, runAccesses_measureBattery,
      runAccesses_check _ _ (by simp) _ _ _ _ _ (fun _ => rfl)]
    simp only [runAccesses, missionNext, missionEffect, batteryCheck_eq, FaultThresholds.check]
    cases verdict : batteryThresholds.judge (store .gPower).faultActive
      (batteryMeasure (input.rand 0) (store .gPower)) <;> simp [MissionStore.view, verdict]

theorem whole_sensorUpdate : Whole thread input store .sensorUpdate := by
  constructor
  · rw [missionAccesses, missionEarly, missionCommit, missionLate, List.append_assoc,
      runAccesses_append]
    obtain ⟨registers, measured⟩ := runAccesses_measureSensor thread store input.rand
    rw [measured, runAccesses_check _ _ (by simp) _ _ _ _ _ (fun _ => rfl)]
    simp [runAccesses, MissionAccess.run, assign, MissionStore.view, missionEffect, sensorCheck,
      FaultThresholds.check]
  · rw [missionAccesses, missionEarly, missionCommit, missionLate, List.append_assoc,
      runAccesses_append]
    obtain ⟨registers, measured⟩ := runAccesses_measureSensor thread store input.rand
    rw [measured, runAccesses_check _ _ (by simp) _ _ _ _ _ (fun _ => rfl)]
    simp [runAccesses, MissionAccess.run, assign, MissionStore.view, missionEffect, sensorCheck,
      FaultThresholds.check, missionNext]

theorem foldl_minReads (thermal : ThermalData) (registers : Registers) :
    (minReads.foldl (fun registers read => read thermal registers) registers).value =
      minTemp thermal := by
  by_cases antenna : thermal.tempAntenna < thermal.tempBattery
  · by_cases body : thermal.tempBody < thermal.tempAntenna <;>
      simp [minReads, minTemp, antenna, body]
  · by_cases body : thermal.tempBody < thermal.tempBattery <;>
      simp [minReads, minTemp, antenna, body]

/-- The two tests come to the verdict of the heater's latch. -/
theorem foldl_heaterTests (thermal : ThermalData) (registers : Registers)
    (least : registers.value = minTemp thermal) :
    heaterTests.foldl (fun registers read => read thermal registers) registers =
      { registers with verdict := heaterLatch.judge thermal.heaterOn (minTemp thermal) } := by
  have judged : heaterLatch.judge thermal.heaterOn (minTemp thermal) =
      if minTemp thermal ≤ tempFreeze ∧ ¬ thermal.heaterOn then .raised
      else if 10.0 < minTemp thermal ∧ thermal.heaterOn then .cleared
      else .quiet := by
    simp [Latch.judge, heaterLatch]
  simp only [heaterTests, List.foldl_cons, List.foldl_nil, least, judged]
  split <;> simp

theorem whole_heaterUpdate : Whole thread input store .heaterUpdate := by
  have shared : MissionCell.gThermal ≠ .registers thread := by simp
  have least := foldl_minReads (store .gThermal) (store (.registers thread))
  constructor
  · rw [missionAccesses, missionEarly, missionCommit, missionLate, runAccesses_append,
      runAccesses_loads shared, List.foldl_append, foldl_heaterTests _ _ least]
    simp [runAccesses, MissionAccess.run, assign, MissionStore.view, missionEffect, heaterCheck_eq,
      Latch.next]
  · rw [missionAccesses, missionEarly, missionCommit, missionLate, runAccesses_append,
      runAccesses_loads shared, List.foldl_append, foldl_heaterTests _ _ least]
    simp [runAccesses, MissionAccess.run, assign, MissionStore.view, missionEffect, heaterCheck_eq,
      missionNext, least]

theorem runAccesses_measureDownlink (dropout value : Nat) :
    runAccesses thread (measureDownlink dropout value) store =
      Function.update
        (Function.update store .gComms
          { store .gComms with
            signalQuality := downlinkMeasure dropout value
            downlinkActive := true })
        (.registers thread)
        { store (.registers thread) with value := downlinkMeasure dropout value } := by
  simp [runAccesses, measureDownlink, MissionAccess.run, assign]

theorem whole_downlinkUpdate : Whole thread input store .downlinkUpdate := by
  cases safe : input.gSafeMode with
  | true =>
    constructor <;>
      simp [missionAccesses, missionEarly, missionCommit, missionLate, safe, runAccesses,
        MissionAccess.run, assign, MissionStore.view, missionEffect, downlinkSuspend, missionNext]
  | false =>
    have split : missionAccesses .downlinkUpdate input =
        [.put .downlinkElapsed fun _ elapsed => elapsed + 1,
          .load .downlinkElapsed fun elapsed registers => { registers with elapsed }] ++
        (measureDownlink (input.rand 0) (input.rand 1) ++
          (loadTests downlinkThresholds .gComms (fun _ sig => sig) CommsData.faultActive ++
            [.put .gComms fun registers comms =>
              { comms with faultActive := registers.verdict.applied comms.faultActive }])) := by
      simp only [missionAccesses, missionEarly, missionCommit, missionLate, safe, if_false,
        List.append_assoc, Bool.false_eq_true]
    constructor
    · rw [split, runAccesses_append, runAccesses_append, runAccesses_measureDownlink,
        runAccesses_check _ _ (by simp) _ _ _ _ _ (fun _ => rfl)]
      simp [runAccesses, MissionAccess.run, assign, MissionStore.view, missionEffect, safe,
        downlinkCheck, FaultThresholds.check]
    · rw [split, runAccesses_append, runAccesses_append, runAccesses_measureDownlink,
        runAccesses_check _ _ (by simp) _ _ _ _ _ (fun _ => rfl)]
      simp [runAccesses, MissionAccess.run, assign, MissionStore.view, missionEffect, safe,
        downlinkCheck, FaultThresholds.check, missionNext]

theorem whole_missionEffect (effect : MissionEffect) : Whole thread input store effect := by
  cases effect with
  | batteryUpdate => exact whole_batteryUpdate thread input store
  | sensorUpdate => exact whole_sensorUpdate thread input store
  | heaterUpdate => exact whole_heaterUpdate thread input store
  | downlinkUpdate => exact whole_downlinkUpdate thread input store
  | solarUpdate =>
    refine ⟨?_, rfl⟩
    obtain ⟨count, counted⟩ : ∃ count : Nat, store .solarElapsed + 1 = count := ⟨_, rfl⟩
    by_cases eclipse : eclipseStart ≤ count ∧ count ≤ eclipseEnd <;>
      simp [missionAccesses, missionEarly, missionCommit, missionLate, runAccesses,
        MissionAccess.run, assign, MissionStore.view, missionEffect, solarUpdate, counted, eclipse,
        -Bool.decide_and]
  | _ =>
    constructor <;>
      simp [missionAccesses, missionEarly, missionCommit, missionLate, runAccesses,
        MissionAccess.run, assign, MissionStore.view, missionEffect, missionNext, powerBusWrite,
        thermalBusWrite, storeCommand, downlinkBusWrite, TelemetryBus.sample]

end Whole

/-! ### The mission, one access at a time -/

theorem touched_inj {first second : MissionThread} {effect other : MissionEffect}
    {cell : MissionCell} (different : first ≠ second) (touched : cell.Touched first effect)
    (both : cell.Touched second other) : ∃ lock ∈ effect.guards, lock ∈ other.guards := by
  have locked : (∃ lock ∈ cell.lock, lock ∈ effect.guards) →
      (∃ lock ∈ cell.lock, lock ∈ other.guards) →
      ∃ lock ∈ effect.guards, lock ∈ other.guards := by
    rintro ⟨lock, isLock, mine⟩ ⟨again, isAgain, others⟩
    obtain rfl := Option.mem_unique isLock isAgain
    exact ⟨lock, mine, others⟩
  cases cell with
  | registers who => exact absurd (touched.symm.trans both) different
  | _ => exact locked touched both

/-- The threads of the mission, taken apart. -/
def missionFine : Accesses mission missionOrder MissionValue where
  view := MissionStore.view
  touches thread effect cell := cell.Touched thread effect
  shared cell := cell = .uplinkActive
  early thread effect input := (missionEarly effect input).map (MissionAccess.run thread)
  commit thread effect input := (missionCommit effect input).run thread
  late thread effect _ := (missionLate effect).map (MissionAccess.run thread)
  next thread effect input store := missionNext effect input (store (.registers thread))
  unshared thread effect cell touched shared := by
    subst shared
    obtain ⟨lock, isLock, _⟩ := touched
    cases isLock
  early_within thread effect input access member := by
    obtain ⟨access, inside, rfl⟩ := List.mem_map.mp member
    exact within_run rfl ((locked_missionEarly effect input access inside).touched thread)
  commit_within thread effect input := by
    refine within_run (.inl rfl) fun cell found => ?_
    rcases locked_missionCommit effect input with locked | unlocked
    · exact .inl (locked.touched thread cell found)
    · rw [unlocked] at found
      cases found
      exact .inr rfl
  late_within thread effect input access member := by
    obtain ⟨access, inside, rfl⟩ := List.mem_map.mp member
    exact within_run rfl ((locked_missionLate effect access inside).touched thread)
  next_reads thread effect input first second agree := by rw [agree (.registers thread) rfl]
  guarded first second different effect other cell touched both :=
    touched_inj different touched both
  view_all thread effect input store := by
    have whole := (whole_missionEffect thread input store effect).view
    rwa [missionAccesses, ← accessAll_map_run, List.map_append, List.map_cons] at whole
  next_all thread effect input store := by
    have whole := (whole_missionEffect thread input store effect).next
    rwa [missionAccesses, ← accessAll_map_run, List.map_append, List.map_cons] at whole

abbrev MissionFineState :=
  FineState MissionThread SharedLock Fault MissionEffect MissionInput MissionValue

/-- Two states of the data have the same in what a lock guards. -/
def SharedLock.Agrees : SharedLock → MissionData → MissionData → Prop
  | gPowerMutex, first, second => first.power = second.power
  | gThermalMutex, first, second => first.thermal = second.thermal
  | gCommsMutex, first, second => first.downlink.comms = second.downlink.comms
  | gSem, first, second => first.bus = second.bus

/-- While a lock is free, what it guards is as whole sections leave it. -/
theorem agrees_of_free {state : MissionFineState} {coarse : MissionState} {ideal : MissionStore}
    (keeps : missionFine.Keeps state coarse ideal) {lock : SharedLock}
    (free : state.owner lock = none) :
    lock.Agrees (MissionStore.view state.store) coarse.data := by
  have guards : ∀ {cell : MissionCell}, cell.lock = some lock → ∀ thread effect,
      cell.Touched thread effect → lock ∈ effect.guards := by
    intro cell isLock thread effect touched
    have locked : ∃ other ∈ cell.lock, other ∈ effect.guards := by
      cases cell with
      | registers who => cases isLock
      | _ => exact touched
    obtain ⟨other, isOther, member⟩ := locked
    rw [isLock] at isOther
    cases isOther
    exact member
  cases lock with
  | gPowerMutex =>
    refine keeps.part_eq free (fun cell => cell = .gPower) MissionData.power
      (fun first second agree => agree .gPower rfl) fun thread effect cell inside touched => ?_
    exact guards (by rw [inside]; rfl) thread effect touched
  | gThermalMutex =>
    refine keeps.part_eq free (fun cell => cell = .gThermal) MissionData.thermal
      (fun first second agree => agree .gThermal rfl) fun thread effect cell inside touched => ?_
    exact guards (by rw [inside]; rfl) thread effect touched
  | gCommsMutex =>
    refine keeps.part_eq free (fun cell => cell = .gComms ∨ cell = .uplinkActive)
      (fun data => data.downlink.comms) (fun first second agree => ?_)
      fun thread effect cell inside touched => ?_
    · have comms := agree .gComms (.inl rfl)
      have active := agree .uplinkActive (.inr rfl)
      simp only [missionFine, MissionStore.view, comms, active]
    · rcases inside with rfl | rfl
      · exact guards (show MissionCell.gComms.lock = _ from rfl) thread effect touched
      · obtain ⟨other, isOther, _⟩ := touched
        cases isOther
  | gSem =>
    refine keeps.part_eq free (fun cell => cell = .gBus) MissionData.bus
      (fun first second agree => agree .gBus rfl) fun thread effect cell inside touched => ?_
    exact guards (by rw [inside]; rfl) thread effect touched

/-- The variables the processes' `main` functions set up; the registers hold anything. -/
def missionStore (registers : MissionThread → Registers) : MissionStore
  | .gPower => powerInit
  | .solarElapsed | .sensorElapsed | .downlinkElapsed => (0 : Nat)
  | .gThermal => thermalInit
  | .gComms => commsInit
  | .uplinkActive => commsInit.uplinkActive
  | .gBus => shmCreate
  | .registers thread => registers thread

/-- Every run of the mission taken apart into single loads and stores is a run of whole sections:
the same reports are sent by the same threads in the same order, the locks have the same owners and
the queue the same length, a thread outside its sections has the same to do, and whatever a free
lock guards is the same. -/
theorem mission_refines (registers : MissionThread → Registers) (actions : List MissionAction)
    (state : MissionFineState) (events : List (MissionThread × Fault))
    (ran : missionFine.machine.run (.start (missionStore registers)) actions =
      some (state, events)) :
    ∃ whole coarse, mission.machine.run (.start missionData) whole = some (coarse, events) ∧
      coarse.owner = state.owner ∧ coarse.queued = state.queued ∧
      (∀ thread, state.stage thread = none → coarse.todo thread = state.todo thread) ∧
      ∀ lock, state.owner lock = none →
        lock.Agrees (MissionStore.view state.store) coarse.data := by
  obtain ⟨whole, coarse, ideal, ran, keeps⟩ := keeps_of_run ascends_missionRound ran
  exact ⟨whole, coarse, ran, keeps.owner, keeps.queued, fun _ => keeps.todo_eq,
    fun _ => agrees_of_free keeps⟩

/-- Every run of whole sections is a run of single loads and stores, with the same reports, after
which no thread is in a section and the variables hold the data. -/
theorem mission_realizes (registers : MissionThread → Registers) {whole : List MissionAction}
    {coarse : MissionState} {events : List (MissionThread × Fault)}
    (ran : mission.machine.run (.start missionData) whole = some (coarse, events)) :
    ∃ actions state, missionFine.machine.run (.start (missionStore registers)) actions =
        some (state, events) ∧
      (state.owner = coarse.owner ∧ state.todo = coarse.todo ∧
        (∀ thread, state.stage thread = none) ∧ MissionStore.view state.store = coarse.data) ∧
      ∀ action ∈ actions, action ∈ whole := by
  have start : missionFine.view (missionStore registers) = missionData := rfl
  rw [← start] at ran
  obtain ⟨actions, ideal, ran, data, among⟩ := exists_run_of_whole ran
  exact ⟨actions, _, ran, ⟨rfl, rfl, fun _ => rfl, data⟩, among⟩

def zeroRegisters : Registers := ⟨0.0, false, 0, .quiet, ⟨0.0, 0.0, 0.0, false⟩⟩

/-- The power bus writer is between its two pairs of accesses while the uplink stores
`uplink_active`. -/
def interleaved : List MissionAction :=
  turns 7 .powerBusWriter sevens ++ turns 5 .uplink sevens ++ turns 5 .powerBusWriter sevens ++
    turns 3 .uplink sevens

theorem mission_refines_interleaved :
    ∃ state events,
      missionFine.machine.run (.start (missionStore fun _ => zeroRegisters)) interleaved =
        some (state, events) ∧
      ∃ whole coarse, mission.machine.run (.start missionData) whole = some (coarse, events) ∧
        coarse.owner = state.owner ∧ coarse.queued = state.queued ∧
        (∀ thread, state.stage thread = none → coarse.todo thread = state.todo thread) ∧
        ∀ lock, state.owner lock = none →
          lock.Agrees (MissionStore.view state.store) coarse.data :=
  ⟨_, _, rfl, mission_refines _ interleaved _ _ rfl⟩

end Fdir
