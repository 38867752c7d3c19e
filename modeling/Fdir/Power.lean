/-
This file models the data of the power process and what one iteration of each of its threads
does to it: the solar panel, the battery with its fault check, and the copy to the telemetry
bus.

The battery thread differs from the other measuring threads in one branch. It sends the
recovery report before it unlocks the mutex, so it has its own check; apart from when the
mutex is unlocked it is the common one.
-/

import Fdir.FaultLatch

namespace Fdir

open CMemory

/-- `power_data_t`. -/
structure PowerData where
  solarWatts : Float32
  batteryPct : Float32
  inEclipse : Bool
  faultActive : Bool
deriving DecidableEq

/-- The power data `main` sets up. -/
def powerInit : PowerData where
  solarWatts := 110.0
  batteryPct := 100.0
  inEclipse := false
  faultActive := false

/-- One iteration of `solar_thread`, its `elapsed`-th, with the number `rand` returns. -/
def solarUpdate (elapsed rand : Nat) (power : PowerData) : PowerData :=
  if eclipseStart ≤ elapsed ∧ elapsed ≤ eclipseEnd then
    { power with solarWatts := 0.0, inEclipse := true }
  else { power with solarWatts := (rand % 40 + 90).toFloat32, inEclipse := false }

/-! ### The battery -/

/-- The charge `battery_thread` measures, with the number `rand` returns. -/
def batteryMeasure (rand : Nat) (power : PowerData) : Float32 :=
  if power.inEclipse then
    let left := power.batteryPct - (rand % 8 + 8).toFloat32
    if left < 0.0 then 0.0 else left
  else
    let charged := power.batteryPct + (rand % 4 + 3).toFloat32
    if 100.0 < charged then 100.0 else charged

/-- The rest of an iteration of `battery_thread`. -/
def batteryCheck (batt : Float32) (power : PowerData) : PowerData × Alert :=
  if batt ≤ batteryCritical ∧ ¬ power.faultActive then
    ({ power with batteryPct := batt, faultActive := true },
      .released ⟨critical, batt, batteryCritical,
        .literal "Battery critically low — Safe Mode required"⟩)
  else if batt ≤ batteryWarning ∧ ¬ power.faultActive then
    ({ power with batteryPct := batt },
      .released ⟨warning, batt, batteryWarning, .literal "Battery low — monitoring closely"⟩)
  else if batteryWarning < batt ∧ power.faultActive then
    -- No `continue` and no unlock here: the report goes out under the mutex.
    ({ power with batteryPct := batt, faultActive := false },
      .holding ⟨info, batt, batteryWarning, .literal "Battery recovered to normal level"⟩)
  else ({ power with batteryPct := batt }, .none)

/-- The iterations of `battery_thread`, whatever charges they measure. -/
def batteryThread : Machine PowerData Float32 Fault where
  step power batt :=
    let (power, alert) := batteryCheck batt power
    some (power, alert.fault?.toList)

def batteryThresholds : FaultThresholds where
  critical batt := decide (batt ≤ batteryCritical)
  warning batt := decide (batt ≤ batteryWarning)
  nominal batt := decide (batteryWarning < batt)
  apart batt isCritical := decide_eq_false
    (FloatOrder.not_lt_of_le (of_decide_eq_true isCritical) (by decide))
  criticalLevel := batteryCritical
  warningLevel := batteryWarning
  criticalDesc := .literal "Battery critically low — Safe Mode required"
  warningDesc := .literal "Battery low — monitoring closely"
  recoveredDesc := .literal "Battery recovered to normal level"

/-- Up to the mutex, the battery's check is the common one. -/
theorem batteryCheck_eq (batt : Float32) (power : PowerData) :
    batteryCheck batt power =
      ({ power with batteryPct := batt
                    faultActive := (batteryThresholds.check power.faultActive batt).1 },
        match batteryThresholds.judge power.faultActive batt with
        | .cleared => (batteryThresholds.fault batt .cleared).elim .none .holding
        | _ => (batteryThresholds.check power.faultActive batt).2) := by
  obtain ⟨solar, charge, eclipse, active⟩ := power
  cases active <;> by_cases critical : batt ≤ batteryCritical <;>
    by_cases warning : batt ≤ batteryWarning <;> by_cases nominal : batteryWarning < batt <;>
    simp [batteryCheck, FaultThresholds.check, batteryThresholds, Latch.judge,
      FaultThresholds.fault, Verdict.applied, critical, warning, nominal]

theorem fault?_batteryCheck (batt : Float32) (power : PowerData) :
    (batteryCheck batt power).2.fault? =
      batteryThresholds.fault batt (batteryThresholds.judge power.faultActive batt) := by
  rw [batteryCheck_eq]
  cases verdict : batteryThresholds.judge power.faultActive batt <;>
    simp only [batteryThresholds.fault?_check, verdict]
  rfl

theorem batteryThread_judgesBy :
    JudgesBy batteryThread PowerData.faultActive some batteryThresholds where
  judged power batt value evaluated := by
    cases evaluated
    refine ⟨(batteryCheck batt power).1, [], ?_, ?_, rfl, fun _ member => by cases member⟩
    · rw [List.append_nil, ← fault?_batteryCheck]
      rfl
    · rw [batteryCheck_eq]
      rfl
  unjudged _ _ evaluated := by cases evaluated

/-! ### The bus -/

/-- What `bus_writer_thread` writes inside its critical section. -/
def powerBusWrite (power : PowerData) (gSafeMode : Bool) (bus : TelemetryBus) : TelemetryBus :=
  { bus with
    solarWatts := power.solarWatts
    batteryPct := power.batteryPct
    safeMode := gSafeMode }

end Fdir
