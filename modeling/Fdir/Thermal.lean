/-
This file models the data of the thermal process and what one iteration of each of its
threads does to it: the four zone temperatures with the check of the CPU's, the heater, and
the copy to the telemetry bus.

The sensor thread's check is the common one. The heater thread keeps a latch of its own; it
reports only that the heater goes on, and does so under the mutex.
-/

import Fdir.FaultLatch

namespace Fdir

open CMemory

/-- `thermal_data_t`. -/
structure ThermalData where
  tempCpu : Float32
  tempBattery : Float32
  tempAntenna : Float32
  tempBody : Float32
  heaterOn : Bool
  faultActive : Bool
deriving DecidableEq

/-- The thermal data `main` sets up. -/
def thermalInit : ThermalData where
  tempCpu := 30.0
  tempBattery := 20.0
  tempAntenna := 25.0
  tempBody := 22.0
  heaterOn := false
  faultActive := false

/-! ### The sensor -/

/-- The four temperatures of one reading. -/
structure ZoneReading where
  cpu : Float32
  battery : Float32
  antenna : Float32
  body : Float32
deriving DecidableEq

/-- The temperatures `sensor_thread` measures in its `elapsed`-th iteration, with the numbers
its calls of `rand` return. -/
def sensorMeasure (elapsed : Nat) (rand : Fin 4 → Nat) (thermal : ThermalData) : ZoneReading where
  battery := (rand 0 % 15 + 15).toFloat32
  antenna := (rand 1 % 20 + 20).toFloat32
  body := (rand 2 % 15 + 18).toFloat32
  cpu :=
    if elapsed = thermalSpike then 110.0
    else if thermalSpike < elapsed ∧ elapsed < thermalSpike + 8 then
      let cooled := thermal.tempCpu - 5.0
      if cooled < 35.0 then 35.0 else cooled
    else (rand 3 % 18 + 28).toFloat32

def sensorThresholds : FaultThresholds where
  critical cpu := decide (tempCritical ≤ cpu)
  warning cpu := decide (tempWarning ≤ cpu)
  nominal cpu := decide (cpu < tempWarning)
  apart cpu isCritical := decide_eq_false
    (FloatOrder.not_lt_of_ge (of_decide_eq_true isCritical) (by decide))
  criticalLevel := tempCritical
  warningLevel := tempWarning
  criticalDesc := .literal "CPU overheat — cooling required"
  warningDesc := .literal "CPU temperature elevated"
  recoveredDesc := .literal "CPU temperature back to normal"

/-- The rest of an iteration of `sensor_thread`. -/
def sensorCheck (reading : ZoneReading) (thermal : ThermalData) : ThermalData × Alert :=
  let (faultActive, alert) := sensorThresholds.check thermal.faultActive reading.cpu
  ({ thermal with
      tempCpu := reading.cpu
      tempBattery := reading.battery
      tempAntenna := reading.antenna
      tempBody := reading.body
      faultActive }, alert)

/-- The iterations of `sensor_thread`, whatever temperatures they measure. -/
def sensorThread : Machine ThermalData ZoneReading Fault where
  step thermal reading :=
    let (thermal, alert) := sensorCheck reading thermal
    some (thermal, alert.fault?.toList)

theorem sensorThread_judgesBy :
    JudgesBy sensorThread ThermalData.faultActive (fun reading => some reading.cpu)
      sensorThresholds where
  judged thermal reading value evaluated := by
    cases evaluated
    refine ⟨(sensorCheck reading thermal).1, [], ?_, rfl, rfl, fun _ member => by cases member⟩
    rw [List.append_nil, ← sensorThresholds.fault?_check]
    rfl
  unjudged _ _ evaluated := by cases evaluated

/-! ### The heater -/

/-- The coldest of the three zones `heater_thread` looks at. -/
def minTemp (thermal : ThermalData) : Float32 :=
  let least := thermal.tempBattery
  let least := if thermal.tempAntenna < least then thermal.tempAntenna else least
  if thermal.tempBody < least then thermal.tempBody else least

/-- One iteration of `heater_thread`. -/
def heaterCheck (thermal : ThermalData) : ThermalData × Alert :=
  if minTemp thermal ≤ tempFreeze ∧ ¬ thermal.heaterOn then
    ({ thermal with heaterOn := true },
      .holding ⟨warning, minTemp thermal, tempFreeze,
        .literal "Component near freezing — heater activated"⟩)
  else if 10.0 < minTemp thermal ∧ thermal.heaterOn then
    ({ thermal with heaterOn := false }, .none)
  else (thermal, .none)

/-! ### The bus -/

/-- What `bus_writer_thread` writes inside its critical section. -/
def thermalBusWrite (thermal : ThermalData) (bus : TelemetryBus) : TelemetryBus :=
  { bus with
    tempCpu := thermal.tempCpu
    tempBattery := thermal.tempBattery
    tempAntenna := thermal.tempAntenna
    tempBody := thermal.tempBody }

end Fdir
