/-
This file proves what the thermal process reports over any run: the overheating at the spike,
the recovery six iterations later, and nothing else.

The spike sets the CPU's temperature to 110 degrees and each of the seven iterations after it
takes 5 off, so the temperature passes 95 and 85 on the way and ends at 75. In every other
iteration it is drawn anew, far below the warning level. The other zones are never near
freezing, so it does not matter when the heater's thread looks at them.
-/

import Fdir.Thermal
import Fdir.WholeFloat

namespace Fdir

open CMemory

/-! ### The two threads -/

/-- The counter of `sensor_thread` and the data the two threads share. -/
structure ThermalRun where
  elapsed : Nat
  thermal : ThermalData

def ThermalRun.start : ThermalRun := ⟨0, thermalInit⟩

inductive ThermalAction where
  /-- An iteration of `sensor_thread`, with the numbers its calls of `rand` return. -/
  | sensor (rand : Fin 4 → Nat)
  /-- An iteration of `heater_thread`. -/
  | heater

/-- The iterations in any order; a report is emitted with the counter of `sensor_thread`. -/
def thermalThreads : Machine ThermalRun ThermalAction (Nat × Fault) where
  step state
    | .sensor rand =>
      let elapsed := state.elapsed + 1
      let (thermal, alert) := sensorCheck (sensorMeasure elapsed rand state.thermal) state.thermal
      some (⟨elapsed, thermal⟩, alert.fault?.toList.map fun fault => (elapsed, fault))
    | .heater =>
      let (thermal, alert) := heaterCheck state.thermal
      some ({ state with thermal }, alert.fault?.toList.map fun fault => (state.elapsed, fault))

/-- The number of iterations of `sensor_thread` in a run. -/
def sensorIterations (actions : List ThermalAction) : Nat :=
  actions.countP fun
    | .sensor _ => true
    | .heater => false

/-- The iteration is one of those that cool the CPU down. -/
def isCooling (iteration : Nat) : Prop :=
  thermalSpike < iteration ∧ iteration < thermalSpike + 8

def overheatFault : Fault :=
  ⟨critical, 110.0, tempCritical, .literal "CPU overheat — cooling required"⟩

def recoveryFault : Fault :=
  ⟨info, 80.0, tempWarning, .literal "CPU temperature back to normal"⟩

/-- What the process has reported after so many iterations of `sensor_thread`. -/
def thermalReports (iterations : Nat) : List (Nat × Fault) :=
  (if thermalSpike ≤ iterations then [(thermalSpike, overheatFault)] else []) ++
    if thermalSpike + 6 ≤ iterations then [(thermalSpike + 6, recoveryFault)] else []

/-- One more iteration adds at most one report. -/
theorem thermalReports_succ (iterations : Nat) :
    thermalReports (iterations + 1) = thermalReports iterations ++
      if iterations + 1 = thermalSpike then [(thermalSpike, overheatFault)]
      else if iterations + 1 = thermalSpike + 6 then [(thermalSpike + 6, recoveryFault)]
      else [] := by
  have spike : thermalSpike = 30 := rfl
  unfold thermalReports
  rw [spike]
  by_cases atSpike : iterations + 1 = 30
  · rw [if_pos (by omega), if_neg (by omega), if_neg (by omega), if_neg (by omega),
      if_pos atSpike]
    rfl
  by_cases atRecovery : iterations + 1 = 30 + 6
  · rw [if_pos (by omega), if_pos (by omega), if_pos (by omega), if_neg (by omega),
      if_neg atSpike, if_pos atRecovery, List.append_nil]
  · rw [if_neg atSpike, if_neg atRecovery, List.append_nil]
    congr 2 <;> · rw [eq_iff_iff]; omega

/-! ### Temperatures are whole numbers -/

/-- The verdict on a temperature of the CPU, over whole numbers. -/
def cpuVerdict (active : Bool) (cpu : Nat) : Verdict :=
  if 95 ≤ cpu && !active then .raised
  else if 85 ≤ cpu && !active then .warned
  else if cpu < 85 && active then .cleared
  else .quiet

theorem sensorJudge_toFloat32 (active : Bool) {cpu : Nat} (small : cpu < 2 ^ 23) :
    sensorThresholds.judge active cpu.toFloat32 = cpuVerdict active cpu := by
  have isCritical : tempCritical = (95).toFloat32 := by decide +kernel
  have isWarning : tempWarning = (85).toFloat32 := by decide +kernel
  have critical := WholeFloat.le_toFloat32 (show 95 < 2 ^ 23 by decide) small
  have warning := WholeFloat.le_toFloat32 (show 85 < 2 ^ 23 by decide) small
  have nominal := WholeFloat.lt_toFloat32 small (show 85 < 2 ^ 23 by decide)
  rw [← isCritical] at critical
  rw [← isWarning] at warning nominal
  simp only [Latch.judge, cpuVerdict, sensorThresholds, critical, warning, nominal]

theorem cpuVerdict_of_warm {cpu : Nat} (warm : 85 ≤ cpu) : cpuVerdict true cpu = .quiet := by
  simp [cpuVerdict, warm]

theorem cpuVerdict_of_cool {cpu : Nat} (cool : cpu < 85) : cpuVerdict false cpu = .quiet := by
  simp [cpuVerdict, Nat.not_le.mpr cool, Nat.not_le.mpr (cool.trans (show 85 < 95 by decide))]

/-- A zone above five degrees is not near freezing. -/
theorem tempFreeze_lt {zone : Nat} (warm : 5 < zone) (small : zone < 2 ^ 23) :
    tempFreeze < zone.toFloat32 := by
  have freeze : tempFreeze = (5).toFloat32 := by decide +kernel
  rw [freeze]
  exact (WholeFloat.lt_toFloat32 (by decide) small).mpr warm

/-- The temperature of the CPU at the spike and in the iterations that cool it down. -/
def spikeTemp (elapsed : Nat) : Nat := 110 - 5 * (elapsed - thermalSpike)

/-! ### What one iteration keeps -/

/-- The zones are warm, the heater is off, and in the eight iterations from the spike on the
CPU's temperature is known; the latch is set in the first six of them. -/
structure ThermalRun.Holds (state : ThermalRun) : Prop where
  battery : tempFreeze < state.thermal.tempBattery
  antenna : tempFreeze < state.thermal.tempAntenna
  body : tempFreeze < state.thermal.tempBody
  off : state.thermal.heaterOn = false
  hot : thermalSpike ≤ state.elapsed → state.elapsed < thermalSpike + 8 →
    state.thermal.tempCpu = (spikeTemp state.elapsed).toFloat32
  active : state.thermal.faultActive =
    decide (thermalSpike ≤ state.elapsed ∧ state.elapsed < thermalSpike + 6)

namespace ThermalRun.Holds

variable {state next : ThermalRun} {emitted : List (Nat × Fault)}

theorem start : ThermalRun.start.Holds where
  battery := by decide +kernel
  antenna := by decide +kernel
  body := by decide +kernel
  off := rfl
  hot spiked := absurd spiked (by decide)
  active := rfl

/-- The floor is below every temperature the cooling comes to. -/
theorem floor_lt (holds : state.Holds) (cooling : isCooling (state.elapsed + 1)) :
    state.thermal.tempCpu - 5.0 = (spikeTemp (state.elapsed + 1)).toFloat32 ∧
      35.0 < state.thermal.tempCpu - 5.0 := by
  have spike : thermalSpike = 30 := rfl
  have five : (5.0 : Float32) = (5).toFloat32 := by decide +kernel
  have floor : (35.0 : Float32) = (35).toFloat32 := by decide +kernel
  obtain ⟨after, within⟩ := cooling
  have lower : spikeTemp state.elapsed - 5 = spikeTemp (state.elapsed + 1) := by
    simp only [spikeTemp]
    omega
  have bounds : 5 ≤ spikeTemp state.elapsed ∧ 35 < spikeTemp (state.elapsed + 1) ∧
      spikeTemp state.elapsed ≤ 110 := by
    simp only [spikeTemp]
    omega
  rw [holds.hot (by omega) (by omega), five, floor,
    WholeFloat.sub_toFloat32 (by omega) bounds.1, lower,
    WholeFloat.lt_toFloat32 (by decide) (by omega)]
  exact ⟨rfl, bounds.2.1⟩

/-- The temperature of the CPU an iteration measures. -/
theorem exists_cpu (holds : state.Holds) (rand : Fin 4 → Nat) :
    ∃ cpu, (sensorMeasure (state.elapsed + 1) rand state.thermal).cpu = cpu.toFloat32 ∧
      cpu ≤ 110 ∧ if thermalSpike ≤ state.elapsed + 1 ∧ state.elapsed + 1 < thermalSpike + 8 then
        cpu = spikeTemp (state.elapsed + 1) else cpu < 85 := by
  simp only [sensorMeasure]
  by_cases atSpike : state.elapsed + 1 = thermalSpike
  · refine ⟨110, ?_, le_rfl, ?_⟩
    · rw [if_pos atSpike]
      decide +kernel
    · rw [if_pos (by omega), atSpike]
      rfl
  rw [if_neg atSpike]
  by_cases cooling : isCooling (state.elapsed + 1)
  · obtain ⟨cooled, above⟩ := holds.floor_lt cooling
    refine ⟨spikeTemp (state.elapsed + 1), ?_, Nat.sub_le .., ?_⟩
    · exact (if_pos cooling).trans ((if_neg (FloatOrder.asymm above)).trans cooled)
    · rw [if_pos ⟨cooling.1.le, cooling.2⟩]
  · refine ⟨rand 3 % 18 + 28, if_neg cooling, by omega, ?_⟩
    rw [if_neg]
    · omega
    · rintro ⟨lower, upper⟩
      exact cooling ⟨Nat.lt_of_le_of_ne lower (Ne.symm atSpike), upper⟩

/-- The latch and the report of an iteration. -/
theorem check_eq (holds : state.Holds) (rand : Fin 4 → Nat) :
    sensorThresholds.check state.thermal.faultActive
        (sensorMeasure (state.elapsed + 1) rand state.thermal).cpu =
      (decide (thermalSpike ≤ state.elapsed + 1 ∧ state.elapsed + 1 < thermalSpike + 6),
        if state.elapsed + 1 = thermalSpike then .released overheatFault
        else if state.elapsed + 1 = thermalSpike + 6 then .released recoveryFault
        else .none) := by
  have spike : thermalSpike = 30 := rfl
  obtain ⟨cpu, measured, most, known⟩ := holds.exists_cpu rand
  rw [measured, FaultThresholds.check, sensorJudge_toFloat32 _ (by omega), holds.active]
  simp only [spike] at known ⊢
  by_cases atSpike : state.elapsed + 1 = 30
  · rw [if_pos (by omega), atSpike] at known
    subst known
    rw [if_pos atSpike, decide_eq_false (by omega), decide_eq_true (by omega)]
    have degrees : (spikeTemp 30).toFloat32 = 110.0 := by decide +kernel
    rw [degrees]
    rfl
  rw [if_neg atSpike]
  by_cases atRecovery : state.elapsed + 1 = 30 + 6
  · rw [if_pos (by omega), atRecovery] at known
    subst known
    rw [if_pos atRecovery, decide_eq_true (by omega), decide_eq_false (by omega)]
    have degrees : (spikeTemp (30 + 6)).toFloat32 = 80.0 := by decide +kernel
    rw [degrees]
    rfl
  rw [if_neg atRecovery]
  by_cases latched : 30 ≤ state.elapsed ∧ state.elapsed < 30 + 6
  · have warm : 85 ≤ cpu := by
      rw [if_pos (by omega)] at known
      simp only [spikeTemp] at known
      omega
    rw [decide_eq_true latched, decide_eq_true (by omega), cpuVerdict_of_warm warm]
    rfl
  · have cool : cpu < 85 := by
      split at known
      · simp only [spikeTemp] at known
        omega
      · exact known
    rw [decide_eq_false latched, decide_eq_false (by omega), cpuVerdict_of_cool cool]
    rfl

theorem sensor (holds : state.Holds) {rand : Fin 4 → Nat}
    (stepped : thermalThreads.step state (.sensor rand) = some (next, emitted)) :
    next.Holds ∧ next.elapsed = state.elapsed + 1 ∧
      thermalReports (state.elapsed + 1) = thermalReports state.elapsed ++ emitted := by
  simp only [thermalThreads, sensorCheck, holds.check_eq, Option.some.injEq, Prod.mk.injEq]
    at stepped
  obtain ⟨rfl, rfl⟩ := stepped
  refine ⟨⟨tempFreeze_lt (by omega) (by omega), tempFreeze_lt (by omega) (by omega),
    tempFreeze_lt (by omega) (by omega), holds.off, fun spiked within => ?_, rfl⟩, rfl, ?_⟩
  · obtain ⟨cpu, measured, _, known⟩ := holds.exists_cpu rand
    rw [if_pos ⟨spiked, within⟩] at known
    exact measured.trans (congrArg _ known)
  · rw [thermalReports_succ]
    congr 1
    split
    next atSpike => rw [atSpike]; rfl
    next =>
      split
      next atRecovery => rw [atRecovery]; rfl
      next => rfl

/-- The heater's thread finds nothing to do. -/
theorem heater (holds : state.Holds)
    (stepped : thermalThreads.step state .heater = some (next, emitted)) :
    next = state ∧ emitted = [] := by
  have warm : tempFreeze < minTemp state.thermal := by
    simp only [minTemp]
    split
    · split
      · exact holds.body
      · exact holds.antenna
    · split
      · exact holds.body
      · exact holds.battery
  have idle : heaterCheck state.thermal = (state.thermal, .none) := by
    simp [heaterCheck, FloatOrder.not_le_of_lt warm, holds.off]
  simp only [thermalThreads, idle, Option.some.injEq, Prod.mk.injEq] at stepped
  obtain ⟨rfl, rfl⟩ := stepped
  exact ⟨rfl, rfl⟩

end ThermalRun.Holds

/-! ### Whole runs -/

theorem thermalThreads_total (state : ThermalRun) (action : ThermalAction) :
    (thermalThreads.step state action).isSome := by
  cases action <;> rfl

/-- Whatever `rand` returns and in whatever order the threads take their turns, the process
reports the overheating and the recovery, when their iterations have come, and nothing else; the
heater stays off and the cooling above its floor. -/
theorem thermalReports_exact (actions : List ThermalAction) :
    ∃ last, thermalThreads.run ThermalRun.start actions =
        some (last, thermalReports (sensorIterations actions)) ∧
      last.thermal.heaterOn = false ∧
      (isCooling (sensorIterations actions + 1) → 35.0 < last.thermal.tempCpu - 5.0) := by
  obtain ⟨last, reports, ran⟩ :=
    thermalThreads.exists_run thermalThreads_total ThermalRun.start actions
  have kept : last.Holds ∧ last.elapsed = sensorIterations actions ∧
      reports = thermalReports (sensorIterations actions) := by
    refine thermalThreads.run_induction
      (fun actions last reports => last.Holds ∧ last.elapsed = sensorIterations actions ∧
        reports = thermalReports (sensorIterations actions)) ⟨.start, rfl, rfl⟩ ?_ ran
    rintro actions state reports action next emitted - ⟨holds, counted, rfl⟩ stepped
    cases action with
    | sensor rand =>
      obtain ⟨later, elapsed, more⟩ := holds.sensor stepped
      have count : sensorIterations (actions ++ [.sensor rand]) = sensorIterations actions + 1 :=
        List.countP_append
      rw [count, elapsed, counted, ← counted, more]
      exact ⟨later, rfl, rfl⟩
    | heater =>
      obtain ⟨rfl, rfl⟩ := holds.heater stepped
      have count : sensorIterations (actions ++ [.heater]) = sensorIterations actions :=
        List.countP_append
      rw [count, List.append_nil]
      exact ⟨holds, counted, rfl⟩
  obtain ⟨holds, counted, rfl⟩ := kept
  refine ⟨last, ran, holds.off, fun cooling => ?_⟩
  rw [← counted] at cooling
  exact (holds.floor_lt cooling).2

end Fdir
