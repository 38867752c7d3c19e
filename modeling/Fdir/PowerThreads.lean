/-
This file proves what the three threads of the power process keep between them, in whatever
order their iterations come.

Each iteration changes the shared data in one section under `g_power_mutex`, so the runs are
the lists of iterations. Between any two of them the charge is a whole percentage, the panel's
power goes with the eclipse flag, and the bus shows a pair the data held after some earlier
part of the run. A battery that charges seven times in a row is past the warning level from
wherever it was, and its latch is clear.
-/

import Fdir.Eclipse

namespace Fdir

/-! ### The three threads -/

/-- The counter of `solar_thread`, an `int` its iterations do not run out of, the data the threads
share, and the telemetry bus. -/
structure PowerProcess where
  elapsed : Nat
  power : PowerData
  bus : TelemetryBus

def PowerProcess.start : PowerProcess := ⟨0, powerInit, shmCreate⟩

inductive PowerAction where
  /-- An iteration of `solar_thread`, with the number `rand` returns. -/
  | solar (rand : Nat)
  /-- An iteration of `battery_thread`, with the number `rand` returns. -/
  | battery (rand : Nat)
  /-- An iteration of `bus_writer_thread`, with the `g_safe_mode` it reads. -/
  | busWriter (gSafeMode : Bool)

/-- The iterations in any order. -/
def powerThreads : Machine PowerProcess PowerAction Fault where
  step process
    | .solar rand =>
      let elapsed := process.elapsed + 1
      some ({ process with elapsed, power := solarUpdate elapsed rand process.power }, [])
    | .battery rand =>
      let (power, alert) := batteryCheck (batteryMeasure rand process.power) process.power
      some ({ process with power }, alert.fault?.toList)
    | .busWriter gSafeMode =>
      some ({ process with bus := powerBusWrite process.power gSafeMode process.bus }, [])

/-- The number of iterations of `battery_thread` in a run. -/
def batteryIterations (actions : List PowerAction) : Nat :=
  actions.countP fun
    | .battery _ => true
    | _ => false

/-- An iteration of `battery_thread` finds no eclipse. -/
def Sunlit (process : PowerProcess) : PowerAction → Prop
  | .battery _ => process.power.inEclipse = false
  | _ => True

instance (process : PowerProcess) (action : PowerAction) : Decidable (Sunlit process action) :=
  match action with
  | .battery _ => inferInstanceAs (Decidable (_ = false))
  | .solar _ | .busWriter _ => .isTrue trivial

/-! ### The data between two iterations -/

/-- The charge is a whole percentage, which the next iteration of `battery_thread` computes with
exactly, and the eclipse flag says whether the panel gives anything. -/
structure PowerData.Sound (power : PowerData) : Prop where
  charge : ∃ charge ≤ 100, power.batteryPct = charge.toFloat32 ∧
    ∀ rands : PowerRands, batteryMeasure rands.battery power =
      (chargeAfter power.inEclipse rands charge).toFloat32
  eclipse : power.inEclipse = true ↔ power.solarWatts = 0.0
  sunlight : power.inEclipse = false →
    ∃ watts, 90 ≤ watts ∧ watts ≤ 129 ∧ power.solarWatts = watts.toFloat32

/-- The bus shows the power and the charge that some part of the run left in the data. -/
def PowerProcess.ShowsOneInstant (actions : List PowerAction) (bus : TelemetryBus) : Prop :=
  ∃ front back process faults, actions = front ++ back ∧
    powerThreads.run .start front = some (process, faults) ∧
    bus.solarWatts = process.power.solarWatts ∧ bus.batteryPct = process.power.batteryPct

namespace PowerData.Sound

variable {power : PowerData}

/-- Sunlight is not mistaken for darkness. -/
theorem toFloat32_ne_zero {watts : Nat} (some' : 0 < watts) (small : watts < 2 ^ 23) :
    watts.toFloat32 ≠ 0.0 := by
  have none : (0.0 : Float32) = (0).toFloat32 := by decide +kernel
  have above := (WholeFloat.lt_toFloat32 (show 0 < 2 ^ 23 by decide) small).mpr some'
  intro same
  rw [same, none] at above
  exact FloatOrder.asymm above above

theorem of_charge {charge : Nat} (whole : power.batteryPct = charge.toFloat32)
    (most : charge ≤ 100) : ∃ charge ≤ 100, power.batteryPct = charge.toFloat32 ∧
      ∀ rands : PowerRands, batteryMeasure rands.battery power =
        (chargeAfter power.inEclipse rands charge).toFloat32 :=
  ⟨charge, most, whole, fun rands => batteryMeasure_eq rands whole most⟩

theorem init : powerInit.Sound where
  charge := of_charge (show powerInit.batteryPct = (100).toFloat32 by decide +kernel) le_rfl
  eclipse := by decide +kernel
  sunlight _ := ⟨110, by decide, by decide, by decide +kernel⟩

theorem solar (sound : power.Sound) (elapsed rand : Nat) :
    (solarUpdate elapsed rand power).Sound := by
  obtain ⟨charge, most, whole, _⟩ := sound.charge
  unfold solarUpdate
  split
  · exact ⟨of_charge whole most, ⟨fun _ => rfl, fun _ => rfl⟩, fun sunlit => by cases sunlit⟩
  · have bright := toFloat32_ne_zero (show 0 < rand % 40 + 90 by omega) (by omega)
    exact ⟨of_charge whole most, ⟨fun eclipse => absurd eclipse Bool.false_ne_true,
      fun dark => absurd dark bright⟩, fun _ => ⟨rand % 40 + 90, by omega, by omega, rfl⟩⟩

theorem battery (sound : power.Sound) (rand : Nat) :
    (batteryCheck (batteryMeasure rand power) power).1.Sound := by
  obtain ⟨charge, most, whole, _⟩ := sound.charge
  rw [(batteryIteration_eq ⟨0, rand⟩ whole most rfl).1]
  exact ⟨of_charge rfl (chargeAfter_le most _ _), sound.eclipse, sound.sunlight⟩

end PowerData.Sound

/-! ### Charging -/

/-- After some iterations of `battery_thread` in the sun the charge has gained three percent in
each, up to the full charge, and a charge past the warning level has the latch clear. -/
structure PowerData.Charged (power : PowerData) (iterations : Nat) : Prop where
  gained : ∃ charge ≤ 100, power.batteryPct = charge.toFloat32 ∧ min 100 (3 * iterations) ≤ charge ∧
    (0 < iterations → 20 < charge → power.faultActive = false)

/-- No latch is left set by a charge past the warning level. -/
theorem applied_chargeVerdict {charge : Nat} (high : 20 < charge) (active : Bool) :
    (chargeVerdict active charge).applied active = false := by
  rw [Verdict.applied_eq]
  cases active with
  | false => rw [change?_of_clear (by omega), Option.getD_none]
  | true => rw [change?_of_nominal high, Option.getD_some]

theorem PowerData.Charged.battery {power : PowerData} {iterations : Nat}
    (charged : power.Charged iterations) (sunlit : power.inEclipse = false) (rand : Nat) :
    (batteryCheck (batteryMeasure rand power) power).1.Charged (iterations + 1) := by
  obtain ⟨charge, most, whole, gained, _⟩ := charged.gained
  have more : chargeAfter power.inEclipse ⟨0, rand⟩ charge =
      min 100 (charge + (rand % 4 + 3)) := by
    rw [sunlit]
    rfl
  rw [(batteryIteration_eq ⟨0, rand⟩ whole most more).1]
  refine ⟨_, Nat.min_le_left .., rfl, by omega, fun _ high => ?_⟩
  exact applied_chargeVerdict high power.faultActive

/-- Every run whose iterations of `battery_thread` are all in the sun. -/
theorem charged_of_sunlit {process last : PowerProcess} (sound : process.power.Sound)
    {actions : List PowerAction} {faults : List Fault}
    (sunlit : powerThreads.Guarded Sunlit process actions)
    (ran : powerThreads.run process actions = some (last, faults)) :
    last.power.Charged (batteryIterations actions) := by
  refine powerThreads.guarded_induction
    (fun actions last _ => last.power.Charged (batteryIterations actions)) ?_ ?_ sunlit ran
  · obtain ⟨charge, most, whole, _⟩ := sound.charge
    exact ⟨charge, most, whole, Nat.zero_le _, fun none => absurd none (Nat.lt_irrefl 0)⟩
  intro actions state _ action next emitted charged allowed stepped
  have count : batteryIterations (actions ++ [action]) =
      batteryIterations actions + batteryIterations [action] := List.countP_append
  rw [count]
  cases action with
  | solar rand =>
    cases stepped
    obtain ⟨charge, most, whole, gained, clear⟩ := charged.gained
    refine ⟨charge, most, ?_, gained, fun positive high => ?_⟩
    · simp only [solarUpdate]
      split <;> exact whole
    · simp only [solarUpdate]
      split <;> exact clear positive high
  | battery rand =>
    simp only [powerThreads, Option.some.injEq, Prod.mk.injEq] at stepped
    obtain ⟨rfl, -⟩ := stepped
    exact charged.battery allowed rand
  | busWriter gSafeMode =>
    cases stepped
    exact charged

/-! ### Whole runs -/

theorem powerThreads_total (process : PowerProcess) (action : PowerAction) :
    (powerThreads.step process action).isSome := by
  cases action <;> rfl

theorem sound_and_shows {actions : List PowerAction} {process : PowerProcess}
    {faults : List Fault} (ran : powerThreads.run .start actions = some (process, faults)) :
    process.power.Sound ∧ PowerProcess.ShowsOneInstant actions process.bus := by
  refine powerThreads.run_induction
    (fun actions process _ => process.power.Sound ∧
      PowerProcess.ShowsOneInstant actions process.bus)
    ⟨.init, [], [], .start, [], rfl, rfl, rfl, rfl⟩ ?_ ran
  rintro actions process faults action next emitted ran ⟨sound, front, back, shown, sent, rfl, held⟩
    stepped
  have before : PowerProcess.ShowsOneInstant (front ++ back ++ [action]) process.bus :=
    ⟨front, back ++ [action], shown, sent, List.append_assoc .., held⟩
  cases action with
  | solar rand =>
    cases stepped
    exact ⟨sound.solar _ rand, before⟩
  | battery rand =>
    simp only [powerThreads, Option.some.injEq, Prod.mk.injEq] at stepped
    obtain ⟨rfl, -⟩ := stepped
    exact ⟨sound.battery rand, before⟩
  | busWriter gSafeMode =>
    cases stepped
    exact ⟨sound, front ++ back, [_], process, faults, rfl, ran, rfl, rfl⟩

/-- However the iterations of the three threads interleave and whatever `rand` returns: between
any two of them the data are sound and the bus shows the power and the charge of one instant;
and from there any run with seven iterations of `battery_thread`, all of them in the sun, ends
with the charge past the warning level and the latch clear. -/
theorem powerThreads_keep (actions : List PowerAction) :
    ∃ process faults, powerThreads.run .start actions = some (process, faults) ∧
      process.power.Sound ∧ PowerProcess.ShowsOneInstant actions process.bus ∧
      ∀ later last sent, powerThreads.run process later = some (last, sent) →
        powerThreads.Guarded Sunlit process later → batteryIterations later = 7 →
        batteryWarning < last.power.batteryPct ∧ last.power.faultActive = false := by
  obtain ⟨process, faults, ran⟩ := powerThreads.exists_run powerThreads_total .start actions
  obtain ⟨sound, shows⟩ := sound_and_shows ran
  refine ⟨process, faults, ran, sound, shows, fun later last sent tail sunlit seven => ?_⟩
  obtain ⟨charge, most, whole, gained, clear⟩ := (charged_of_sunlit sound sunlit tail).gained
  rw [seven] at gained clear
  have level : batteryWarning = (20).toFloat32 := by decide +kernel
  have high : 20 < charge := by omega
  refine ⟨?_, clear (by decide) high⟩
  rw [whole, level]
  exact (WholeFloat.lt_toFloat32 (by decide) (by omega)).mpr high

/-- The battery runs empty in the eclipse, and the sun comes back. -/
def emptied : List PowerAction :=
  List.replicate 10 (.solar 0) ++ List.replicate 7 (.battery 7) ++ List.replicate 11 (.solar 0)

/-- The least the battery can gain in seven iterations. -/
def sevenCharges : List PowerAction := List.replicate 7 (.battery 0)

theorem powerThreads_keep_emptied :
    ∃ process faults last sent, powerThreads.run .start emptied = some (process, faults) ∧
      powerThreads.run process sevenCharges = some (last, sent) ∧
      batteryWarning < last.power.batteryPct ∧ last.power.faultActive = false := by
  obtain ⟨process, faults, ran, _, _, charges⟩ := powerThreads_keep emptied
  have sunlit : (powerThreads.run .start emptied).any (fun reached =>
      decide (powerThreads.Guarded Sunlit reached.1 sevenCharges)) = true := by
    decide +kernel
  rw [ran, Option.any_some, decide_eq_true_iff] at sunlit
  obtain ⟨last, sent, tail⟩ := powerThreads.exists_run powerThreads_total process sevenCharges
  exact ⟨process, faults, last, sent, ran, tail, charges _ last sent tail sunlit rfl⟩

end Fdir
