/-
This file models the OBC together with the power and the thermal process, whose bus writers
publish the data these processes really hold.

A check sets or clears a latch and decides to report that; a bus writer publishes the value the
latch was judged by; `watchdog` samples what was published last and decides the mode. So a change of
mode is accounted for by the checks: safe mode is entered only while what the bus shows comes with
a CRITICAL report that was decided on and not taken back, and left only when it comes with none. The
reports themselves are sent later, and may come after the change of mode.
-/

import Fdir.BusIsolation
import Fdir.Heater
import Fdir.SafeMode
import Mathlib.Data.List.DropRight

namespace Fdir

open CMemory

/-! ### The processes -/

/-- The OBC with its children and the bus, the counter of `solar_thread` and the data of the power
process, and the counter of `sensor_thread` and the data of the thermal process. -/
structure Spacecraft where
  obc : Obc
  solarElapsed : Nat
  power : PowerData
  sensorElapsed : Nat
  thermal : ThermalData

def Spacecraft.start : Spacecraft := ⟨.start, 0, powerInit, 0, thermalInit⟩

inductive SpacecraftAction where
  /-- Anything but a pass of one of the two bus writers. -/
  | obc (action : ObcAction)
  /-- An iteration of `solar_thread`, with the number `rand` returns. -/
  | solar (rand : Nat)
  /-- An iteration of `battery_thread`, with the number `rand` returns. -/
  | battery (rand : Nat)
  /-- A pass of the power process's `bus_writer_thread`. -/
  | powerBusWriter
  /-- An iteration of `sensor_thread`, with the numbers its calls of `rand` return. -/
  | sensor (rand : Fin 4 → Nat)
  /-- An iteration of `heater_thread`. -/
  | heater
  /-- A pass of the thermal process's `bus_writer_thread`. -/
  | thermalBusWriter

inductive SpacecraftEvent where
  | obc (event : ObcEvent)
  /-- A check has decided on a report. Its thread sends it later: after the `unlock`, for all but
  the two sent under the mutex, and when there is room in the queue. -/
  | decided (who : Subsystem) (fault : Fault)
  | published (who : Subsystem)

/-- The threads of a process run while it is alive. -/
def Spacecraft.step (craft : Spacecraft) :
    SpacecraftAction → Option (Spacecraft × List SpacecraftEvent)
  | .obc (.powerBusWriter _) | .obc (.thermalBusWriter _) => none
  | .obc action =>
    (craft.obc.step action).map fun (obc, emitted) => ({ craft with obc }, emitted.map .obc)
  | .solar rand =>
    (craft.obc.live .power).map fun _ =>
      let elapsed := craft.solarElapsed + 1
      ({ craft with solarElapsed := elapsed, power := solarUpdate elapsed rand craft.power }, [])
  | .battery rand =>
    (craft.obc.live .power).map fun _ =>
      let (power, alert) := batteryCheck (batteryMeasure rand craft.power) craft.power
      ({ craft with power }, alert.fault?.toList.map (.decided .power))
  | .powerBusWriter =>
    (craft.obc.step (.powerBusWriter craft.power)).map fun (obc, _) =>
      ({ craft with obc }, [.published .power])
  | .sensor rand =>
    (craft.obc.live .thermal).map fun _ =>
      let elapsed := craft.sensorElapsed + 1
      let (thermal, alert) := sensorCheck (sensorMeasure elapsed rand craft.thermal) craft.thermal
      ({ craft with sensorElapsed := elapsed, thermal },
        alert.fault?.toList.map (.decided .thermal))
  | .heater =>
    (craft.obc.live .thermal).map fun _ =>
      let (thermal, alert) := heaterCheck craft.thermal
      ({ craft with thermal }, alert.fault?.toList.map (.decided .thermal))
  | .thermalBusWriter =>
    (craft.obc.step (.thermalBusWriter craft.thermal)).map fun (obc, _) =>
      ({ craft with obc }, [.published .thermal])

def spacecraft : Machine Spacecraft SpacecraftAction SpacecraftEvent := ⟨Spacecraft.step⟩

/-- What each action does, with the states and events it goes between. -/
inductive Spacecraft.Does (craft : Spacecraft) :
    SpacecraftAction → Spacecraft → List SpacecraftEvent → Prop
  | obc {action : ObcAction} {obc : Obc} {emitted : List ObcEvent}
      (stepped : craft.obc.step action = some (obc, emitted))
      (power : ∀ data, action ≠ .powerBusWriter data)
      (thermal : ∀ data, action ≠ .thermalBusWriter data) :
      Does craft (.obc action) { craft with obc } (emitted.map .obc)
  | solar {rand : Nat} (child : ChildProc) (live : craft.obc.live .power = some child) :
      Does craft (.solar rand)
        { craft with
          solarElapsed := craft.solarElapsed + 1
          power := solarUpdate (craft.solarElapsed + 1) rand craft.power } []
  | battery {rand : Nat} (child : ChildProc) (live : craft.obc.live .power = some child) :
      Does craft (.battery rand)
        { craft with
          power := (batteryCheck (batteryMeasure rand craft.power) craft.power).1 }
        ((batteryCheck (batteryMeasure rand craft.power) craft.power).2.fault?.toList.map
          (.decided .power))
  | powerBusWriter (child : ChildProc) (live : craft.obc.live .power = some child) :
      Does craft .powerBusWriter
        { craft with
          obc.bus := powerBusWrite craft.power child.flags.gSafeMode craft.obc.bus }
        [.published .power]
  | sensor {rand : Fin 4 → Nat} (child : ChildProc) (live : craft.obc.live .thermal = some child) :
      Does craft (.sensor rand)
        { craft with
          sensorElapsed := craft.sensorElapsed + 1
          thermal := (sensorCheck (sensorMeasure (craft.sensorElapsed + 1) rand craft.thermal)
            craft.thermal).1 }
        ((sensorCheck (sensorMeasure (craft.sensorElapsed + 1) rand craft.thermal)
          craft.thermal).2.fault?.toList.map (.decided .thermal))
  | heater (child : ChildProc) (live : craft.obc.live .thermal = some child) :
      Does craft .heater { craft with thermal := (heaterCheck craft.thermal).1 }
        ((heaterCheck craft.thermal).2.fault?.toList.map (.decided .thermal))
  | thermalBusWriter (child : ChildProc) (live : craft.obc.live .thermal = some child) :
      Does craft .thermalBusWriter
        { craft with obc.bus := thermalBusWrite craft.thermal craft.obc.bus }
        [.published .thermal]

theorem Spacecraft.does_of_step {craft next : Spacecraft} {action : SpacecraftAction}
    {emitted : List SpacecraftEvent}
    (stepped : spacecraft.step craft action = some (next, emitted)) :
    craft.Does action next emitted := by
  cases action with
  | obc action =>
    cases action with
    | powerBusWriter | thermalBusWriter => cases stepped
    | _ =>
      simp only [spacecraft, Spacecraft.step, Option.map_eq_some_iff] at stepped
      obtain ⟨⟨obc, more⟩, inner, same⟩ := stepped
      cases same
      exact .obc inner (by simp) (by simp)
  | solar rand =>
    obtain ⟨child, live, ⟨⟩⟩ := Option.map_eq_some_iff.mp stepped
    exact .solar child live
  | battery rand =>
    obtain ⟨child, live, ⟨⟩⟩ := Option.map_eq_some_iff.mp stepped
    exact .battery child live
  | sensor rand =>
    obtain ⟨child, live, ⟨⟩⟩ := Option.map_eq_some_iff.mp stepped
    exact .sensor child live
  | heater =>
    obtain ⟨child, live, ⟨⟩⟩ := Option.map_eq_some_iff.mp stepped
    exact .heater child live
  | powerBusWriter =>
    obtain ⟨⟨obc, more⟩, inner, ⟨⟩⟩ := Option.map_eq_some_iff.mp stepped
    obtain ⟨child, live, ⟨⟩⟩ := Option.map_eq_some_iff.mp inner
    exact .powerBusWriter child live
  | thermalBusWriter =>
    obtain ⟨⟨obc, more⟩, inner, ⟨⟩⟩ := Option.map_eq_some_iff.mp stepped
    obtain ⟨child, live, ⟨⟩⟩ := Option.map_eq_some_iff.mp inner
    exact .thermalBusWriter child live

/-! ### What the decisions amount to -/

def SpacecraftEvent.decisionOf? (who : Subsystem) : SpacecraftEvent → Option Fault
  | decided sender fault => if sender = who then some fault else none
  | _ => none

/-- The reports the checks of a process have decided on. -/
def decidedBy (who : Subsystem) (events : List SpacecraftEvent) : List Fault :=
  events.filterMap (SpacecraftEvent.decisionOf? who)

/-- The last CRITICAL or recovery report a process has decided on is a CRITICAL one. -/
def Outstanding (who : Subsystem) (thresholds : FaultThresholds) (events : List SpacecraftEvent) :
    Prop :=
  (latchReports thresholds.recoveredDesc (decidedBy who events)).getLast? = some true

/-- The process did not publish anything here. -/
def SpacecraftEvent.keepsShown (who : Subsystem) : SpacecraftEvent → Bool
  | published writer => writer ≠ who
  | _ => true

/-- The events up to the moment the process published last. -/
def shownBy (who : Subsystem) (events : List SpacecraftEvent) : List SpacecraftEvent :=
  events.rdropWhile (SpacecraftEvent.keepsShown who)

/-- The sample was taken after the first events, and none since. -/
structure LastSample (events before : List SpacecraftEvent) (sample : Sample)
    (since : List SpacecraftEvent) : Prop where
  split : events = before ++ .obc (.sampled sample) :: since
  last : ∀ other, .obc (.sampled other) ∉ since

theorem decidedBy_append (who : Subsystem) (front back : List SpacecraftEvent) :
    decidedBy who (front ++ back) = decidedBy who front ++ decidedBy who back :=
  List.filterMap_append

theorem decidedBy_map_decided (who sender : Subsystem) (faults : List Fault) :
    decidedBy who (faults.map (.decided sender)) = if sender = who then faults else [] := by
  rw [decidedBy, List.filterMap_map]
  split
  next same =>
    subst same
    refine Eq.trans (congrArg (faults.filterMap ·) (funext fun fault => ?_)) List.filterMap_some
    exact if_pos rfl
  next other =>
    refine List.filterMap_eq_nil_iff.mpr fun fault _ => ?_
    exact if_neg other

theorem decidedBy_map_obc (who : Subsystem) (events : List ObcEvent) :
    decidedBy who (events.map .obc) = [] := by
  rw [decidedBy, List.filterMap_map]
  exact List.filterMap_eq_nil_iff.mpr fun _ _ => rfl

theorem decidedBy_published (who writer : Subsystem) (events : List SpacecraftEvent) :
    decidedBy who (events ++ [.published writer]) = decidedBy who events := by
  rw [decidedBy_append]
  exact List.append_nil _

/-- What is shown stays shown until the process publishes again. -/
theorem shownBy_append_of_keeps {who : Subsystem} (events : List SpacecraftEvent)
    {more : List SpacecraftEvent} (keeps : ∀ event ∈ more, event.keepsShown who = true) :
    shownBy who (events ++ more) = shownBy who events := by
  induction more using List.reverseRecOn with
  | nil => rw [List.append_nil]
  | append_singleton front event inductionHypothesis =>
    rw [← List.append_assoc, shownBy, List.rdropWhile_concat_pos]
    · exact inductionHypothesis fun other member => keeps other (List.mem_append_left _ member)
    · exact keeps event (List.mem_append_right _ (List.mem_singleton_self _))

theorem shownBy_published (who : Subsystem) (events : List SpacecraftEvent) :
    shownBy who (events ++ [.published who]) = events ++ [.published who] := by
  rw [shownBy, List.rdropWhile_concat_neg]
  simp [SpacecraftEvent.keepsShown]

/-! ### A value and its latch -/

/-- A latch, the value it was judged by last and the reports decided on go together. -/
structure Gauge (thresholds : FaultThresholds) (value : Float32) (faults : List Fault)
    (active : Bool) : Prop where
  follows : Follows active (latchReports thresholds.recoveredDesc faults)
  critical : thresholds.critical value = true → active = true
  nominal : thresholds.nominal value = true → active = false

namespace Gauge

variable {thresholds : FaultThresholds} {value : Float32} {faults : List Fault} {active : Bool}

/-- A check makes them go together again. -/
theorem check (gauge : Gauge thresholds value faults active) (measured : Float32) :
    Gauge thresholds measured
      (faults ++ (thresholds.check active measured).2.fault?.toList)
      (thresholds.check active measured).1 where
  follows := by
    have reports : ∀ front back, latchReports thresholds.recoveredDesc (front ++ back) =
        latchReports thresholds.recoveredDesc front ++
          latchReports thresholds.recoveredDesc back := fun _ _ => List.filterMap_append
    rw [reports, thresholds.fault?_check, change?_fault]
    exact thresholds.follows_next measured gauge.follows
  critical isCritical := thresholds.next_of_critical isCritical
  nominal isNominal := thresholds.next_of_nominal isNominal

/-- Reports that say nothing about the latch do not matter. -/
theorem silent (gauge : Gauge thresholds value faults active) {more : List Fault}
    (silent : latchReports thresholds.recoveredDesc more = []) :
    Gauge thresholds value (faults ++ more) active where
  follows := by
    rw [latchReports, List.filterMap_append]
    change Follows active (_ ++ latchReports thresholds.recoveredDesc more)
    rw [silent, List.append_nil]
    exact gauge.follows
  critical := gauge.critical
  nominal := gauge.nominal

/-- A critical value comes with a CRITICAL report, and a nominal one without. -/
theorem outstanding {who : Subsystem} {events : List SpacecraftEvent}
    (gauge : Gauge thresholds value (decidedBy who events) active) :
    (thresholds.critical value = true → Outstanding who thresholds events) ∧
      (thresholds.nominal value = true → ¬ Outstanding who thresholds events) := by
  have last := gauge.follows.last
  constructor
  · intro isCritical
    rw [gauge.critical isCritical] at last
    unfold Outstanding
    cases changes : (latchReports thresholds.recoveredDesc (decidedBy who events)).getLast? with
    | none => rw [changes] at last; cases last
    | some change => rw [changes] at last; rw [last, Option.getD_some]
  · intro isNominal set
    rw [gauge.nominal isNominal, set] at last
    cases last

end Gauge

/-! ### Samples -/

/-- The sample `watchdog` holds. -/
def ObcPc.taken? : ObcPc → Option Sample
  | enterTest taken | exitTest taken | storeSafe taken => some taken
  | testing (.safeMode taken) _ | killing (.safeMode taken) _ _ => some taken
  | _ => none

/-- Where a held sample comes from, and what a change of mode is decided by. -/
structure Obc.Samples (obc next : Obc) (emitted : List ObcEvent) : Prop where
  taken : ∀ sample, next.pc.taken? = some sample →
    emitted = [.sampled sample] ∧ sample = obc.bus.sample ∨
      obc.pc.taken? = some sample ∧ ∀ other, .sampled other ∉ emitted
  enters : ∀ sample, .began (.safeMode sample) ∈ emitted →
    emitted = [.began (.safeMode sample)] ∧ obc.pc.taken? = some sample ∧ sample.isCritical = true
  leaves : .began .safeModeExit ∈ emitted → ∃ sample, emitted = [.began .safeModeExit] ∧
    obc.pc.taken? = some sample ∧ sample.isNominal = true

/-- A step that does not decide anything. -/
theorem Obc.Samples.idle {obc next : Obc} {emitted : List ObcEvent}
    (pc : next.pc.taken? = none ∨ next.pc.taken? = obc.pc.taken?)
    (sampled : ∀ other, .sampled other ∉ emitted)
    (began : ∀ broadcast, .began broadcast ∈ emitted → broadcast = .shutdown) :
    obc.Samples next emitted where
  taken sample holds := by
    rcases pc with none | same
    · rw [none] at holds
      cases holds
    · exact .inr ⟨same ▸ holds, sampled⟩
  enters _ member := by cases began _ member
  leaves member := by cases began _ member

theorem Obc.samples_of_statement {obc next : Obc} {emitted : List ObcEvent}
    (statement : obc.Statement next emitted) : obc.Samples next emitted := by
  cases statement with
  | sample atPc =>
    refine ⟨fun sample holds => .inl ?_, by simp, by simp⟩
    cases holds
    exact ⟨rfl, rfl⟩
  | enter sample atPc normal isCritical =>
    refine ⟨fun other holds => .inr ⟨?_, by simp⟩, fun other member => ?_, by simp⟩
    · cases holds
      rw [atPc]
      rfl
    · cases List.mem_singleton.mp member
      exact ⟨rfl, by rw [atPc]; rfl, isCritical⟩
  | leave sample atPc safe isNominal =>
    refine ⟨fun other holds => (by cases holds), by simp, fun _ => ⟨sample, rfl, ?_, isNominal⟩⟩
    rw [atPc]
    rfl
  | started atPc | assign who pid todo atPc | shutDown atPc | count atPc | tick atPc
  | noLeave sample atPc | storeNormal atPc | noChild calls atPc | waited atPc =>
    exact .idle (.inl rfl) (by simp) (by simp)
  | noEnter sample atPc | storeSafe sample atPc =>
    exact .idle (.inr (by rw [atPc]; rfl)) (by simp) (by simp)
  | broadcasted broadcast atPc | tested broadcast who rest atPc | skipped broadcast who rest atPc
  | kill broadcast who rest atPc =>
    refine .idle (.inr ?_) (by simp) (by simp)
    rw [atPc]
    cases broadcast <;> rfl

theorem Obc.samples_of_step {obc next : Obc} {action : ObcAction} {emitted : List ObcEvent}
    (stepped : obc.step action = some (next, emitted)) : obc.Samples next emitted := by
  cases Obc.does_of_step stepped with
  | main free statement => exact Obc.samples_of_statement statement
  | fork | forkFails | wait => exact .idle (.inl rfl) (by simp) (by simp)
  | reap | exit | handle | powerBusWriter | publish | signalled =>
    exact .idle (.inr rfl) (by simp) (by simp)

/-- Only the two bus writers change what the bus has of the battery and of the CPU. -/
theorem Obc.bus_of_step {obc next : Obc} {action : ObcAction} {emitted : List ObcEvent}
    (stepped : obc.step action = some (next, emitted))
    (power : ∀ data, action ≠ .powerBusWriter data)
    (thermal : ∀ data, action ≠ .thermalBusWriter data) :
    next.bus.batteryPct = obc.bus.batteryPct ∧ next.bus.solarWatts = obc.bus.solarWatts ∧
      next.bus.tempCpu = obc.bus.tempCpu := by
  rw [(Obc.update?_of_step stepped).1]
  cases action with
  | powerBusWriter data => exact absurd rfl (power data)
  | thermalBusWriter data => exact absurd rfl (thermal data)
  | main =>
    simp only [Obc.update?]
    split <;> exact ⟨rfl, rfl, rfl⟩
  | _ => exact ⟨rfl, rfl, rfl⟩

/-! ### What the bus tells -/

/-- The charge and the CPU's temperature go with the reports of the moments they were published. -/
structure Told (events : List SpacecraftEvent) (batt temp : Float32) : Prop where
  power : ∃ active, Gauge batteryThresholds batt (decidedBy .power (shownBy .power events)) active
  thermal : ∃ active,
    Gauge sensorThresholds temp (decidedBy .thermal (shownBy .thermal events)) active

theorem Told.keep {events more : List SpacecraftEvent} {batt temp : Float32}
    (told : Told events batt temp)
    (keeps : ∀ event ∈ more, ∀ who, event.keepsShown who = true) :
    Told (events ++ more) batt temp where
  power := by
    rw [shownBy_append_of_keeps events fun event member => keeps event member .power]
    exact told.power
  thermal := by
    rw [shownBy_append_of_keeps events fun event member => keeps event member .thermal]
    exact told.thermal

theorem LastSample.append {events before since more : List SpacecraftEvent} {sample : Sample}
    (last : LastSample events before sample since)
    (none : ∀ other, .obc (.sampled other) ∉ more) :
    LastSample (events ++ more) before sample (since ++ more) where
  split := by rw [last.split, List.append_assoc, List.cons_append]
  last other member := by
    rcases List.mem_append.mp member with member | member
    · exact last.last other member
    · exact none other member

/-- What the processes, the bus and the sample `watchdog` holds have to do with the reports. -/
structure Spacecraft.Tracks (craft : Spacecraft) (events : List SpacecraftEvent) : Prop where
  battery : Gauge batteryThresholds craft.power.batteryPct (decidedBy .power events)
    craft.power.faultActive
  sensor : Gauge sensorThresholds craft.thermal.tempCpu (decidedBy .thermal events)
    craft.thermal.faultActive
  bus : Told events craft.obc.bus.batteryPct craft.obc.bus.tempCpu
  taken : ∀ sample, craft.obc.pc.taken? = some sample → ∃ before since,
    LastSample events before sample since ∧ Told before sample.batt sample.temp

/-- What accounts for an event. -/
def Explains (front : List SpacecraftEvent) : SpacecraftEvent → Prop
  | .obc (.began (.safeMode sample)) => ∃ before since, LastSample front before sample since ∧
    sample.isCritical = true ∧ Told before sample.batt sample.temp
  | .obc (.began .safeModeExit) => ∃ sample before since, LastSample front before sample since ∧
    sample.isNominal = true ∧ Told before sample.batt sample.temp
  | _ => True

namespace Spacecraft.Tracks

variable {craft next : Spacecraft} {events emitted : List SpacecraftEvent}

theorem start : Spacecraft.start.Tracks [] where
  battery := ⟨.nil, by decide +kernel, fun _ => rfl⟩
  sensor := ⟨.nil, by decide +kernel, fun _ => rfl⟩
  bus := ⟨⟨false, .nil, by decide +kernel, fun _ => rfl⟩,
    ⟨false, .nil, by decide +kernel, fun _ => rfl⟩⟩
  taken _ holds := by cases holds

/-- A held sample stays accounted for. -/
theorem taken_append (tracks : craft.Tracks events) {more : List SpacecraftEvent}
    (none : ∀ other, .obc (.sampled other) ∉ more) (sample : Sample)
    (holds : craft.obc.pc.taken? = some sample) : ∃ before since,
    LastSample (events ++ more) before sample since ∧ Told before sample.batt sample.temp := by
  obtain ⟨before, since, last, told⟩ := tracks.taken sample holds
  exact ⟨before, since ++ more, last.append none, told⟩

/-- An iteration of a measuring thread, or of another thread of its process. -/
theorem iteration (tracks : craft.Tracks events) (who : Subsystem) (faults : List Fault)
    (obc : next.obc = craft.obc)
    (battery : Gauge batteryThresholds next.power.batteryPct
      (decidedBy .power (events ++ faults.map (.decided who))) next.power.faultActive)
    (sensor : Gauge sensorThresholds next.thermal.tempCpu
      (decidedBy .thermal (events ++ faults.map (.decided who))) next.thermal.faultActive) :
    next.Tracks (events ++ faults.map (.decided who)) := by
  refine ⟨battery, sensor, ?_, fun sample holds => ?_⟩
  · rw [obc]
    refine tracks.bus.keep fun event member process => ?_
    obtain ⟨fault, _, rfl⟩ := List.mem_map.mp member
    rfl
  · rw [obc] at holds
    exact tracks.taken_append (by simp) sample holds

/-- A pass of a bus writer. -/
theorem publish (tracks : craft.Tracks events) (who : Subsystem)
    (power : next.power = craft.power) (thermal : next.thermal = craft.thermal)
    (pc : next.obc.pc = craft.obc.pc)
    (bus : Told (events ++ [.published who]) next.obc.bus.batteryPct next.obc.bus.tempCpu) :
    next.Tracks (events ++ [.published who]) := by
  refine ⟨?_, ?_, bus, fun sample holds => ?_⟩
  · rw [decidedBy_published, power]
    exact tracks.battery
  · rw [decidedBy_published, thermal]
    exact tracks.sensor
  · rw [pc] at holds
    exact tracks.taken_append (by simp) sample holds

/-- A step of the OBC, of one of its children or of a thread of the comms process. -/
theorem obc (tracks : craft.Tracks events) {action : ObcAction} {obc : Obc}
    {emitted : List ObcEvent} (stepped : craft.obc.step action = some (obc, emitted))
    (power : ∀ data, action ≠ .powerBusWriter data)
    (thermal : ∀ data, action ≠ .thermalBusWriter data) :
    Tracks { craft with obc } (events ++ emitted.map .obc) := by
  have silent : ∀ process, decidedBy process (events ++ emitted.map .obc) =
      decidedBy process events := by
    intro process
    rw [decidedBy_append, decidedBy_map_obc, List.append_nil]
  have keeps : ∀ event ∈ emitted.map SpacecraftEvent.obc, ∀ who, event.keepsShown who = true := by
    intro event member who
    obtain ⟨_, _, rfl⟩ := List.mem_map.mp member
    rfl
  obtain ⟨batt, _, temp⟩ := Obc.bus_of_step stepped power thermal
  refine ⟨?_, ?_, ?_, fun sample holds => ?_⟩
  · rw [silent]
    exact tracks.battery
  · rw [silent]
    exact tracks.sensor
  · rw [batt, temp]
    exact tracks.bus.keep keeps
  · rcases (Obc.samples_of_step stepped).taken sample holds with ⟨rfl, rfl⟩ | ⟨holds, none⟩
    · exact ⟨events, [], ⟨rfl, fun _ => List.not_mem_nil⟩, tracks.bus⟩
    · refine tracks.taken_append (fun other member => ?_) sample holds
      obtain ⟨event, member, ⟨⟩⟩ := List.mem_map.mp member
      exact none other member

/-- A change of mode is decided on the sample held. -/
theorem explains (tracks : craft.Tracks events) {action : ObcAction} {obc : Obc}
    {emitted : List ObcEvent} (stepped : craft.obc.step action = some (obc, emitted))
    {front back : List SpacecraftEvent} {event : SpacecraftEvent}
    (split : emitted.map .obc = front ++ event :: back) : Explains (events ++ front) event := by
  have samples := Obc.samples_of_step stepped
  obtain ⟨happened, member, rfl⟩ : ∃ happened ∈ emitted, SpacecraftEvent.obc happened = event :=
    List.mem_map.mp (split ▸ List.mem_append_right _ List.mem_cons_self)
  have alone : emitted = [happened] → front = [] := by
    rintro rfl
    cases front with
    | nil => rfl
    | cons first rest =>
      obtain ⟨_, none⟩ := List.cons.inj split
      exact absurd none.symm (List.append_ne_nil_of_right_ne_nil _ (List.cons_ne_nil _ _))
  cases happened with
  | began broadcast =>
    cases broadcast with
    | safeMode sample =>
      obtain ⟨only, holds, isCritical⟩ := samples.enters sample member
      rw [alone only, List.append_nil]
      obtain ⟨before, since, last, told⟩ := tracks.taken sample holds
      exact ⟨before, since, last, isCritical, told⟩
    | safeModeExit =>
      obtain ⟨sample, only, holds, isNominal⟩ := samples.leaves member
      rw [alone only, List.append_nil]
      obtain ⟨before, since, last, told⟩ := tracks.taken sample holds
      exact ⟨sample, before, since, last, isNominal, told⟩
    | shutdown => trivial
  | sampled | killed | stored | reaped => trivial

/-- The reports of another process are not counted. -/
theorem decidedBy_other {who process : Subsystem} (other : who ≠ process) (faults : List Fault) :
    decidedBy process (events ++ faults.map (.decided who)) = decidedBy process events := by
  rw [decidedBy_append, decidedBy_map_decided, if_neg other, List.append_nil]

theorem decidedBy_own (who : Subsystem) (faults : List Fault) :
    decidedBy who (events ++ faults.map (.decided who)) = decidedBy who events ++ faults := by
  rw [decidedBy_append, decidedBy_map_decided, if_pos rfl]

theorem solar (tracks : craft.Tracks events) (elapsed rand : Nat) :
    Tracks { craft with
      solarElapsed := elapsed, power := solarUpdate elapsed rand craft.power } events := by
  refine ⟨?_, tracks.sensor, tracks.bus, tracks.taken⟩
  have kept : (solarUpdate elapsed rand craft.power).batteryPct = craft.power.batteryPct ∧
      (solarUpdate elapsed rand craft.power).faultActive = craft.power.faultActive := by
    unfold solarUpdate
    split <;> exact ⟨rfl, rfl⟩
  simp only [kept]
  exact tracks.battery

theorem batteryIteration (tracks : craft.Tracks events) (batt : Float32) :
    Tracks { craft with power := (batteryCheck batt craft.power).1 }
      (events ++ (batteryCheck batt craft.power).2.fault?.toList.map (.decided .power)) := by
  refine tracks.iteration .power _ rfl ?_ ?_
  · rw [decidedBy_own, fault?_batteryCheck, ← batteryThresholds.fault?_check, batteryCheck_eq]
    exact tracks.battery.check batt
  · rw [decidedBy_other (by decide)]
    exact tracks.sensor

theorem sensorIteration (tracks : craft.Tracks events) (elapsed : Nat) (reading : ZoneReading) :
    Tracks { craft with sensorElapsed := elapsed, thermal := (sensorCheck reading craft.thermal).1 }
      (events ++ (sensorCheck reading craft.thermal).2.fault?.toList.map (.decided .thermal)) := by
  refine tracks.iteration .thermal _ rfl ?_ ?_
  · rw [decidedBy_other (by decide)]
    exact tracks.battery
  · rw [decidedBy_own]
    exact tracks.sensor.check reading.cpu

theorem heaterIteration (tracks : craft.Tracks events) :
    Tracks { craft with thermal := (heaterCheck craft.thermal).1 }
      (events ++ (heaterCheck craft.thermal).2.fault?.toList.map (.decided .thermal)) := by
  refine tracks.iteration .thermal _ rfl ?_ ?_
  · rw [decidedBy_other (by decide)]
    exact tracks.battery
  · rw [decidedBy_own, heaterCheck_eq]
    refine tracks.sensor.silent ?_
    have other : warning ≠ critical ∧ warning ≠ info := by decide
    split <;> simp [Alert.fault?, latchReports, Fault.change?, other]

theorem step (tracks : craft.Tracks events) {action : SpacecraftAction}
    (stepped : spacecraft.step craft action = some (next, emitted)) :
    next.Tracks (events ++ emitted) ∧
      ∀ front event back, emitted = front ++ event :: back → Explains (events ++ front) event := by
  have unmoved : ∀ (faults : List Fault) (who : Subsystem) (front : List SpacecraftEvent)
      (event : SpacecraftEvent) (back : List SpacecraftEvent),
      faults.map (.decided who) = front ++ event :: back → Explains (events ++ front) event := by
    intro faults who front event back split
    obtain ⟨fault, _, rfl⟩ : ∃ fault ∈ faults, SpacecraftEvent.decided who fault = event :=
      List.mem_map.mp (split ▸ List.mem_append_right _ List.mem_cons_self)
    trivial
  have published : ∀ (who : Subsystem) (front : List SpacecraftEvent) (event : SpacecraftEvent)
      (back : List SpacecraftEvent), [.published who] = front ++ event :: back →
      Explains (events ++ front) event := by
    intro who front event back split
    obtain rfl : event = .published who :=
      List.mem_singleton.mp (split ▸ List.mem_append_right _ List.mem_cons_self)
    trivial
  cases Spacecraft.does_of_step stepped with
  | obc inner power thermal =>
    exact ⟨tracks.obc inner power thermal, fun _ _ _ => tracks.explains inner⟩
  | @solar rand =>
    rw [List.append_nil]
    exact ⟨tracks.solar _ rand, unmoved [] .power⟩
  | battery => exact ⟨tracks.batteryIteration _, unmoved _ _⟩
  | sensor => exact ⟨tracks.sensorIteration _ _, unmoved _ _⟩
  | heater => exact ⟨tracks.heaterIteration, unmoved _ _⟩
  | powerBusWriter =>
    refine ⟨tracks.publish .power rfl rfl rfl ⟨⟨craft.power.faultActive, ?_⟩, ?_⟩, published _⟩
    · rw [shownBy_published, decidedBy_published]
      exact tracks.battery
    · rw [shownBy_append_of_keeps events (by simp [SpacecraftEvent.keepsShown])]
      exact tracks.bus.thermal
  | thermalBusWriter =>
    refine ⟨tracks.publish .thermal rfl rfl rfl ⟨?_, ⟨craft.thermal.faultActive, ?_⟩⟩, published _⟩
    · rw [shownBy_append_of_keeps events (by simp [SpacecraftEvent.keepsShown])]
      exact tracks.bus.power
    · rw [shownBy_published, decidedBy_published]
      exact tracks.sensor

end Spacecraft.Tracks

/-! ### Whole runs -/

theorem Told.of_isCritical {events : List SpacecraftEvent} {sample : Sample}
    (told : Told events sample.batt sample.temp) (isCritical : sample.isCritical = true) :
    Outstanding .power batteryThresholds (shownBy .power events) ∨
      Outstanding .thermal sensorThresholds (shownBy .thermal events) := by
  obtain ⟨⟨_, battery⟩, ⟨_, sensor⟩⟩ := told
  rcases (Bool.or_eq_true _ _).mp isCritical with low | hot
  · exact .inl (battery.outstanding.1 low)
  · exact .inr (sensor.outstanding.1 hot)

theorem Told.of_isNominal {events : List SpacecraftEvent} {sample : Sample}
    (told : Told events sample.batt sample.temp) (isNominal : sample.isNominal = true) :
    ¬ Outstanding .power batteryThresholds (shownBy .power events) ∧
      ¬ Outstanding .thermal sensorThresholds (shownBy .thermal events) := by
  obtain ⟨⟨_, battery⟩, ⟨_, sensor⟩⟩ := told
  simp only [Sample.isNominal, Bool.and_eq_true] at isNominal
  exact ⟨battery.outstanding.2 isNominal.1.1, sensor.outstanding.2 isNominal.1.2⟩

theorem explained_of_run {actions : List SpacecraftAction} {craft : Spacecraft}
    {events : List SpacecraftEvent} (ran : spacecraft.run .start actions = some (craft, events)) :
    ∀ front event back, events = front ++ event :: back → Explains front event :=
  (spacecraft.run_explained Spacecraft.Tracks Explains .start
    (fun _ _ _ _ _ tracks stepped => tracks.step stepped) ran).2

/-- However the processes, the signals and `watchdog` interleave, every change of mode goes with
what the checks have decided. Safe mode is entered on the sample taken last, when the power or the
thermal process had decided on a CRITICAL report and not yet on its recovery as it published what
the sample shows; it is left when neither had. -/
theorem modeChanges_explained (actions : List SpacecraftAction) (craft : Spacecraft)
    (events : List SpacecraftEvent) (ran : spacecraft.run .start actions = some (craft, events)) :
    (∀ front sample back, events = front ++ .obc (.began (.safeMode sample)) :: back →
      ∃ before since, LastSample front before sample since ∧
        (Outstanding .power batteryThresholds (shownBy .power before) ∨
          Outstanding .thermal sensorThresholds (shownBy .thermal before))) ∧
      ∀ front back, events = front ++ .obc (.began .safeModeExit) :: back →
        ∃ sample before since, LastSample front before sample since ∧
          ¬ Outstanding .power batteryThresholds (shownBy .power before) ∧
          ¬ Outstanding .thermal sensorThresholds (shownBy .thermal before) := by
  constructor
  · intro front sample back split
    obtain ⟨before, since, last, isCritical, told⟩ := explained_of_run ran front _ back split
    exact ⟨before, since, last, told.of_isCritical isCritical⟩
  · intro front back split
    obtain ⟨sample, before, since, last, isNominal, told⟩ := explained_of_run ran front _ back split
    exact ⟨sample, before, since, last, told.of_isNominal isNominal⟩

/-- The subsystems are started and the loop begins. -/
def startingUp : List SpacecraftAction :=
  [.obc (.fork 100), .obc .main, .obc (.fork 101), .obc .main, .obc (.fork 102), .obc .main,
    .obc (.fork 103), .obc .main, .obc .main]

/-- Every number `rand` returns to the sensor is zero. -/
def sensing (iterations : Nat) : List SpacecraftAction :=
  List.replicate iterations (.sensor fun _ => 0)

/-- The CPU overheats, and a tick samples it. -/
def overheating : List SpacecraftAction :=
  startingUp ++ sensing 30 ++ [.thermalBusWriter, .obc .main, .obc .main, .obc .main, .obc .main]

/-- The last thing that happened is that a broadcast of safe mode began. -/
def entersLast (events : List SpacecraftEvent) : Bool :=
  match events.getLast? with
  | some (.obc (.began (.safeMode _))) => true
  | _ => false

theorem exists_of_entersLast {events : List SpacecraftEvent} (enters : entersLast events = true) :
    ∃ front sample, events = front ++ [.obc (.began (.safeMode sample))] := by
  unfold entersLast at enters
  split at enters
  next sample last =>
    obtain ⟨front, split⟩ := List.getLast?_eq_some_iff.mp last
    exact ⟨front, sample, split⟩
  · cases enters

theorem modeChanges_explained_overheating :
    ∃ craft front sample,
      spacecraft.run .start overheating =
        some (craft, front ++ [.obc (.began (.safeMode sample))]) ∧
      ∃ before since, LastSample front before sample since ∧
        (Outstanding .power batteryThresholds (shownBy .power before) ∨
          Outstanding .thermal sensorThresholds (shownBy .thermal before)) := by
  have reached : (spacecraft.run .start overheating).any
      (fun reached => entersLast reached.2) = true := by decide +kernel
  obtain ⟨⟨craft, events⟩, ran, enters⟩ := (Option.any_eq_true _ _).mp reached
  obtain ⟨front, sample, rfl⟩ := exists_of_entersLast enters
  exact ⟨craft, front, sample, ran,
    (modeChanges_explained overheating craft _ ran).1 front sample [] rfl⟩

end Fdir
