/-
This file proves that the processes that write to the telemetry bus do not disturb each other.

Every write is a section under the bus semaphore, so a history of the bus is a list of writes,
and what the scheduler decides is how the processes' own sequences of writes are interleaved.
The power, thermal and comms processes own the fields they measure; only the mode is written by
two, the power process and `watchdog`. So up to the mode the bus shows what each process
published last, in whatever order the writes came.
-/

import Fdir.Ownership
import Fdir.Supervisor

namespace Fdir

/-! ### Writes -/

inductive BusWriter where
  | power
  | thermal
  | comms
  | watchdog
deriving DecidableEq

/-- A section in which a process publishes the values it holds. -/
inductive BusUpdate where
  /-- A pass of the power process's `bus_writer_thread`. -/
  | power (power : PowerData) (gSafeMode : Bool)
  /-- A pass of the thermal process's `bus_writer_thread`. -/
  | thermal (thermal : ThermalData)
  /-- The bus write of `downlink_thread`. -/
  | comms (sig : Float32) (comms : CommsData)
  /-- A store of `watchdog`. -/
  | watchdog (mode : Bool)

def BusUpdate.writer : BusUpdate → BusWriter
  | power .. => .power
  | thermal _ => .thermal
  | comms .. => .comms
  | watchdog _ => .watchdog

def BusUpdate.apply : BusUpdate → TelemetryBus → TelemetryBus
  | .power data gSafeMode, bus => powerBusWrite data gSafeMode bus
  | .thermal data, bus => thermalBusWrite data bus
  | .comms sig data, bus => downlinkBusWrite sig data bus
  | .watchdog mode, bus => { bus with safeMode := mode }

/-- The fields a process measures. -/
def BusWriter.Part : BusWriter → Type
  | power => Float32 × Float32
  | thermal => Float32 × Float32 × Float32 × Float32
  | comms => Float32 × Bool
  | watchdog => Unit

def TelemetryBus.part (bus : TelemetryBus) : (who : BusWriter) → who.Part
  | .power => (bus.batteryPct, bus.solarWatts)
  | .thermal => (bus.tempCpu, bus.tempBattery, bus.tempAntenna, bus.tempBody)
  | .comms => (bus.signalQuality, bus.uplinkActive)
  | .watchdog => ()

/-- A write sets its process's part, whatever was there. -/
theorem BusUpdate.part_apply_self (update : BusUpdate) (bus other : TelemetryBus) :
    (update.apply bus).part update.writer = (update.apply other).part update.writer := by
  cases update <;> rfl

/-- A write leaves the parts of the other processes alone. -/
theorem BusUpdate.part_apply_other (update : BusUpdate) (bus : TelemetryBus) (who : BusWriter)
    (other : who ≠ update.writer) : (update.apply bus).part who = bus.part who := by
  cases update <;> cases who <;> first | rfl | exact absurd rfl other

/-- The fields nothing measures. -/
def TelemetryBus.unused (bus : TelemetryBus) : Float32 × BitVec 32 × BitVec 32 :=
  (bus.spinRate, bus.adcsMode, bus.faultFlags)

theorem BusUpdate.unused_apply (update : BusUpdate) (bus : TelemetryBus) :
    (update.apply bus).unused = bus.unused := by
  cases update <;> rfl

def busOwnership : Ownership BusWriter BusUpdate TelemetryBus where
  Part := BusWriter.Part
  part who bus := bus.part who
  writer := BusUpdate.writer
  apply := BusUpdate.apply
  own update bus other _ := update.part_apply_self bus other
  frame := BusUpdate.part_apply_other

/-- The bus after some writes to the one `shm_create` leaves. -/
def busAfter (updates : List BusUpdate) : TelemetryBus := busOwnership.applyAll updates shmCreate

/-! ### Histories -/

/-- What each process publishes, in its own order. -/
structure BusStreams where
  power : List (PowerData × Bool)
  thermal : List ThermalData
  comms : List (Float32 × CommsData)
  watchdog : List Bool

def BusStreams.updates (streams : BusStreams) : BusWriter → List BusUpdate
  | .power => streams.power.map fun pass => .power pass.1 pass.2
  | .thermal => streams.thermal.map .thermal
  | .comms => streams.comms.map fun pass => .comms pass.1 pass.2
  | .watchdog => streams.watchdog.map .watchdog

/-- The bus that shows, beside some mode, what each process published last, and the defaults of
`shm_create` where it has published nothing. -/
def BusStreams.lastPublished (streams : BusStreams) (mode : Bool) : TelemetryBus :=
  { shmCreate with
    batteryPct := streams.power.getLast?.elim shmCreate.batteryPct fun pass => pass.1.batteryPct
    solarWatts := streams.power.getLast?.elim shmCreate.solarWatts fun pass => pass.1.solarWatts
    tempCpu := streams.thermal.getLast?.elim shmCreate.tempCpu ThermalData.tempCpu
    tempBattery := streams.thermal.getLast?.elim shmCreate.tempBattery ThermalData.tempBattery
    tempAntenna := streams.thermal.getLast?.elim shmCreate.tempAntenna ThermalData.tempAntenna
    tempBody := streams.thermal.getLast?.elim shmCreate.tempBody ThermalData.tempBody
    signalQuality := streams.comms.getLast?.elim shmCreate.signalQuality Prod.fst
    uplinkActive := streams.comms.getLast?.elim shmCreate.uplinkActive fun pass =>
      pass.2.uplinkActive
    safeMode := mode }

/-- Two buses with the same parts and the same mode are the same. -/
theorem TelemetryBus.eq_of_parts {first second : TelemetryBus}
    (parts : ∀ who, first.part who = second.part who) (unused : first.unused = second.unused)
    (mode : first.safeMode = second.safeMode) : first = second := by
  obtain ⟨battery, solar⟩ := Prod.mk.inj (parts .power)
  obtain ⟨cpu, rest⟩ := Prod.mk.inj (parts .thermal)
  obtain ⟨pack, rest⟩ := Prod.mk.inj rest
  obtain ⟨antenna, body⟩ := Prod.mk.inj rest
  obtain ⟨signal, uplink⟩ := Prod.mk.inj (parts .comms)
  obtain ⟨spin, rest⟩ := Prod.mk.inj unused
  obtain ⟨adcs, flags⟩ := Prod.mk.inj rest
  cases first
  cases second
  simp_all

/-- However the streams are interleaved, up to the mode the bus shows what was published last. -/
theorem busAfter_eq {streams : BusStreams} {updates : List BusUpdate}
    (order : busOwnership.Interleaves streams.updates updates) :
    busAfter updates = streams.lastPublished (busAfter updates).safeMode := by
  refine TelemetryBus.eq_of_parts (fun who => ?_) ?_ rfl
  · refine (busOwnership.part_of_blind BusUpdate.part_apply_self order who shmCreate).trans ?_
    cases who with
    | power =>
      simp only [BusStreams.updates, List.getLast?_map]
      cases last : streams.power.getLast? <;> simp [BusStreams.lastPublished, last] <;> rfl
    | thermal =>
      simp only [BusStreams.updates, List.getLast?_map]
      cases last : streams.thermal.getLast? <;> simp [BusStreams.lastPublished, last] <;> rfl
    | comms =>
      simp only [BusStreams.updates, List.getLast?_map]
      cases last : streams.comms.getLast? <;> simp [BusStreams.lastPublished, last] <;> rfl
    | watchdog => rfl
  · exact busOwnership.view_applyAll _ BusUpdate.unused_apply updates shmCreate

/-- Any two interleavings of the same streams leave the same bus up to the mode: the one that
shows what each process published last, and the defaults where it published nothing. No write
changes the fields of another process, or those that nothing measures. -/
theorem telemetry_isolated (streams : BusStreams) (first second : List BusUpdate)
    (firstOrder : busOwnership.Interleaves streams.updates first)
    (secondOrder : busOwnership.Interleaves streams.updates second) :
    (∀ mode, { busAfter first with safeMode := mode } = { busAfter second with safeMode := mode }) ∧
      busAfter first = streams.lastPublished (busAfter first).safeMode ∧
      busAfter second = streams.lastPublished (busAfter second).safeMode ∧
      ∀ (update : BusUpdate) (bus : TelemetryBus), (update.apply bus).unused = bus.unused ∧
        ∀ who, who ≠ update.writer → (update.apply bus).part who = bus.part who := by
  have unused := busOwnership.view_applyAll _ BusUpdate.unused_apply
  refine ⟨fun mode => ?_, busAfter_eq firstOrder, busAfter_eq secondOrder, fun update bus =>
    ⟨update.unused_apply bus, update.part_apply_other bus⟩⟩
  refine TelemetryBus.eq_of_parts (fun who => ?_)
    ((unused first shmCreate).trans (unused second shmCreate).symm) rfl
  have parts := busOwnership.part_eq_of_interleaves firstOrder secondOrder who shmCreate
  cases who <;> exact parts

/-- One write of each process. -/
def oneEach : BusStreams where
  power := [(⟨0.0, 52.0, true, false⟩, true)]
  thermal := [⟨110.0, 20.0, 25.0, 22.0, false, true⟩]
  comms := [(75.0, commsInit)]
  watchdog := [true]

theorem telemetry_isolated_oneEach :
    { busAfter [.power ⟨0.0, 52.0, true, false⟩ true, .watchdog true, .comms 75.0 commsInit,
        .thermal ⟨110.0, 20.0, 25.0, 22.0, false, true⟩] with safeMode := false } =
      { busAfter [.watchdog true, .thermal ⟨110.0, 20.0, 25.0, 22.0, false, true⟩,
        .comms 75.0 commsInit, .power ⟨0.0, 52.0, true, false⟩ true] with safeMode := false } :=
  (telemetry_isolated oneEach _ _ (fun who => by cases who <;> rfl)
    (fun who => by cases who <;> rfl)).1 false

/-! ### The whole mission -/

/-- The write to the bus an action of the mission makes, if it makes one. -/
def Obc.update? (obc : Obc) : ObcAction → Option BusUpdate
  | .powerBusWriter power =>
    (obc.children .power).map fun child => .power power child.flags.gSafeMode
  | .thermalBusWriter thermal => some (.thermal thermal)
  | .downlinkBusWriter sig comms => some (.comms sig comms)
  | .main =>
    match obc.pc with
    | .storeSafe _ => some (.watchdog modeSafe)
    | .storeNormal => some (.watchdog modeNormal)
    | _ => none
  | _ => none

def BusUpdate.power? : BusUpdate → Option (PowerData × Bool)
  | .power data gSafeMode => some (data, gSafeMode)
  | _ => none

def BusUpdate.thermal? : BusUpdate → Option ThermalData
  | .thermal data => some data
  | _ => none

def BusUpdate.comms? : BusUpdate → Option (Float32 × CommsData)
  | .comms sig data => some (sig, data)
  | _ => none

def BusUpdate.watchdog? : BusUpdate → Option Bool
  | .watchdog mode => some mode
  | _ => none

/-- The streams some writes are an interleaving of. -/
def BusStreams.of (updates : List BusUpdate) : BusStreams where
  power := updates.filterMap BusUpdate.power?
  thermal := updates.filterMap BusUpdate.thermal?
  comms := updates.filterMap BusUpdate.comms?
  watchdog := updates.filterMap BusUpdate.watchdog?

theorem interleaves_of (updates : List BusUpdate) :
    busOwnership.Interleaves (BusStreams.of updates).updates updates := by
  intro who
  rw [Ownership.byWriter, ← List.filterMap_eq_filter]
  cases who <;>
    (simp only [BusStreams.updates, BusStreams.of, List.map_filterMap]
     congr 1
     funext update
     cases update <;> rfl)

/-- What the processes publish in a run of the mission: the data of their passes and the modes
`watchdog` stores. -/
structure BusStreams.Of (streams : BusStreams) (actions : List ObcAction)
    (events : List ObcEvent) : Prop where
  power : streams.power.map Prod.fst = actions.filterMap fun
    | .powerBusWriter power => some power
    | _ => none
  thermal : streams.thermal = actions.filterMap fun
    | .thermalBusWriter thermal => some thermal
    | _ => none
  comms : streams.comms = actions.filterMap fun
    | .downlinkBusWriter sig comms => some (sig, comms)
    | _ => none
  watchdog : streams.watchdog = events.filterMap fun
    | .stored mode => some mode
    | _ => none

theorem BusStreams.Of.append {front back : List BusUpdate} {actions more : List ObcAction}
    {events later : List ObcEvent} (first : (BusStreams.of front).Of actions events)
    (second : (BusStreams.of back).Of more later) :
    (BusStreams.of (front ++ back)).Of (actions ++ more) (events ++ later) := by
  obtain ⟨power, thermal, comms, watchdog⟩ := first
  obtain ⟨power', thermal', comms', watchdog'⟩ := second
  constructor <;> simp only [BusStreams.of, List.filterMap_append, List.map_append] at *
  · rw [power, power']
  · rw [thermal, thermal']
  · rw [comms, comms']
  · rw [watchdog, watchdog']

/-- The bus changes by these writes only, and they publish what the action or its event says. -/
theorem Obc.update?_of_step {obc next : Obc} {action : ObcAction} {emitted : List ObcEvent}
    (stepped : obc.step action = some (next, emitted)) :
    next.bus = ((obc.update? action).elim obc.bus fun update => update.apply obc.bus) ∧
      (BusStreams.of (obc.update? action).toList).Of [action] emitted := by
  cases action with
  | main =>
    simp only [Obc.step] at stepped
    split at stepped
    · cases stepped
    · cases Obc.statement_of_next stepped <;> simp only [Obc.update?, *] <;>
        exact ⟨rfl, rfl, rfl, rfl, rfl⟩
  | powerBusWriter power =>
    simp only [Obc.step, Option.map_eq_some_iff] at stepped
    obtain ⟨child, live, ⟨⟩⟩ := stepped
    simp only [Obc.update?, (Obc.of_live live).1]
    exact ⟨rfl, rfl, rfl, rfl, rfl⟩
  | thermalBusWriter | downlinkBusWriter | exit =>
    simp only [Obc.step, Option.map_eq_some_iff] at stepped
    obtain ⟨child, live, ⟨⟩⟩ := stepped
    exact ⟨rfl, rfl, rfl, rfl, rfl⟩
  | command cmd =>
    simp only [Obc.step, Option.map_eq_some_iff] at stepped
    obtain ⟨child, live, stepped⟩ := stepped
    split at stepped <;> cases stepped <;> exact ⟨rfl, rfl, rfl, rfl, rfl⟩
  | sigint =>
    cases stepped
    exact ⟨rfl, rfl, rfl, rfl, rfl⟩
  | sigusr1 | sigusr2 | sigchld | sigchldReturns | handle =>
    simp only [Obc.step] at stepped
    split at stepped <;> cases stepped
    exact ⟨rfl, rfl, rfl, rfl, rfl⟩
  | fork | forkFails | wait =>
    simp only [Obc.step] at stepped
    split at stepped
    · split at stepped <;> cases stepped
      exact ⟨rfl, rfl, rfl, rfl, rfl⟩
    · cases stepped
  | reap =>
    simp only [Obc.step] at stepped
    split at stepped
    · cases stepped
    · split at stepped <;> cases stepped
      exact ⟨rfl, rfl, rfl, rfl, rfl⟩

/-- In any run of the mission the bus shows, up to the mode, what each process published last. -/
theorem obc_bus_lastPublished {actions : List ObcAction} {obc : Obc} {events : List ObcEvent}
    (ran : obcMachine.run .start actions = some (obc, events)) :
    ∃ streams : BusStreams, streams.Of actions events ∧
      obc.bus = streams.lastPublished obc.bus.safeMode := by
  obtain ⟨updates, bus, streams⟩ : ∃ updates, obc.bus = busAfter updates ∧
      (BusStreams.of updates).Of actions events := by
    refine obcMachine.run_induction
      (fun actions obc events => ∃ updates, obc.bus = busAfter updates ∧
        (BusStreams.of updates).Of actions events) ⟨[], rfl, rfl, rfl, rfl, rfl⟩ ?_ ran
    rintro actions obc events action next emitted _ ⟨updates, bus, streams⟩ stepped
    obtain ⟨moved, published⟩ := Obc.update?_of_step stepped
    refine ⟨updates ++ (obc.update? action).toList, ?_, ?_⟩
    · rw [moved]
      cases obc.update? action with
      | none => rw [Option.toList_none, List.append_nil, ← bus, Option.elim_none]
      | some update =>
        rw [Option.toList_some, busAfter, busOwnership.applyAll_snoc, Option.elim_some, bus]
        rfl
    · exact streams.append published
  refine ⟨.of updates, streams, ?_⟩
  rw [bus]
  exact busAfter_eq (interleaves_of updates)

end Fdir
