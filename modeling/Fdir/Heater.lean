/-
This file states when the heater follows the rule its thread is meant to follow: on once a zone
is at or below freezing, off once every zone is above ten degrees.

The rule is a latch over the four zones. The thread keeps the same latch over the least of three
of them, for it never looks at the CPU's temperature. So its latch is set by less and cleared by
more, and the two agree for as long as no iteration has the fourth zone decide.
-/

import Fdir.Thermal

namespace Fdir

open CMemory

/-! ### The thread and the rule -/

/-- Some zone is at or below `TEMP_FREEZE`. -/
def ZoneReading.AnyCold (reading : ZoneReading) : Prop :=
  reading.cpu ≤ tempFreeze ∨ reading.battery ≤ tempFreeze ∨ reading.antenna ≤ tempFreeze ∨
    reading.body ≤ tempFreeze

/-- Every zone is above ten degrees. -/
def ZoneReading.AllWarm (reading : ZoneReading) : Prop :=
  10.0 < reading.cpu ∧ 10.0 < reading.battery ∧ 10.0 < reading.antenna ∧ 10.0 < reading.body

instance (reading : ZoneReading) : Decidable reading.AnyCold :=
  inferInstanceAs (Decidable (_ ∨ _))

instance (reading : ZoneReading) : Decidable reading.AllWarm :=
  inferInstanceAs (Decidable (_ ∧ _))

/-- The data once the zones have these temperatures. -/
def ThermalData.see (thermal : ThermalData) (reading : ZoneReading) : ThermalData :=
  { thermal with
    tempCpu := reading.cpu
    tempBattery := reading.battery
    tempAntenna := reading.antenna
    tempBody := reading.body }

/-- One iteration of `heater_thread`: the temperatures it finds, the heater before and after it,
and the report it sends. -/
structure HeaterPass where
  reading : ZoneReading
  wasOn : Bool
  isOn : Bool
  sent : Option Fault

/-- The iterations of `heater_thread`, whatever temperatures they find. -/
def heaterThread : Machine ThermalData ZoneReading HeaterPass where
  step thermal reading :=
    let (next, alert) := heaterCheck (thermal.see reading)
    some (next, [⟨reading, thermal.heaterOn, next.heaterOn, alert.fault?⟩])

/-- What the iterations so far and the heater have to do with each other. -/
structure HeaterRule (thermal : ThermalData) (passes : List HeaterPass) : Prop where
  heaterOn_iff : thermal.heaterOn = true ↔ ∃ earlier reading later,
    passes.map HeaterPass.reading = earlier ++ reading :: later ∧ reading.AnyCold ∧
      ∀ other ∈ later, ¬ other.AllWarm
  sent_iff : ∀ pass ∈ passes, (pass.sent.isSome ↔ pass.wasOn = false ∧ pass.isOn = true)
  warning : ∀ pass ∈ passes, ∀ fault, pass.sent = some fault →
    pass.reading.AnyCold ∧ fault.severity = warning ∧
      fault.desc = .literal "Component near freezing — heater activated"
  apart : ∀ front first middle second back, passes = front ++ first :: middle ++ second :: back →
    first.sent.isSome → second.sent.isSome → ∃ pass ∈ middle, pass.reading.AllWarm

/-- The iteration does not depend on the zone the thread leaves out: when a zone is freezing, the
least of the three is, or the heater is on already and the least of the three leaves it on; and
when none is and not all are warm, the least of the three leaves a heater on. -/
def ThreeZonesDecide (thermal : ThermalData) (reading : ZoneReading) : Prop :=
  (reading.AnyCold → minTemp (thermal.see reading) ≤ tempFreeze ∨
    thermal.heaterOn = true ∧ ¬ 10.0 < minTemp (thermal.see reading)) ∧
  (¬ reading.AnyCold → ¬ reading.AllWarm → thermal.heaterOn = true →
    ¬ 10.0 < minTemp (thermal.see reading))

instance (thermal : ThermalData) (reading : ZoneReading) :
    Decidable (ThreeZonesDecide thermal reading) :=
  inferInstanceAs (Decidable (_ ∧ _))

/-! ### Two latches -/

theorem tempFreeze_lt_ten : tempFreeze < 10.0 := by decide +kernel

/-- The latch the rule asks for. -/
def zoneLatch : Latch ZoneReading where
  critical reading := decide reading.AnyCold
  warning _ := false
  nominal reading := decide reading.AllWarm
  apart reading isCold := by
    refine decide_eq_false fun ⟨cpu, battery, antenna, body⟩ => ?_
    have cool : ∀ zone : Float32, zone ≤ tempFreeze → ¬ 10.0 < zone := fun zone cold =>
      FloatOrder.not_lt_of_le cold tempFreeze_lt_ten
    rcases of_decide_eq_true isCold with cold | cold | cold | cold
    · exact cool _ cold cpu
    · exact cool _ cold battery
    · exact cool _ cold antenna
    · exact cool _ cold body

/-- The latch the thread keeps, over the least of three zones. -/
def heaterLatch : Latch Float32 where
  critical least := decide (least ≤ tempFreeze)
  warning _ := false
  nominal least := decide (10.0 < least)
  apart _ isCold := decide_eq_false
    (FloatOrder.not_lt_of_le (of_decide_eq_true isCold) tempFreeze_lt_ten)

theorem heaterCheck_eq (thermal : ThermalData) :
    heaterCheck thermal =
      ({ thermal with heaterOn := heaterLatch.next thermal.heaterOn (minTemp thermal) },
        if heaterLatch.judge thermal.heaterOn (minTemp thermal) = .raised then
          .holding ⟨warning, minTemp thermal, tempFreeze,
            .literal "Component near freezing — heater activated"⟩
        else .none) := by
  obtain ⟨cpu, battery, antenna, body, on, active⟩ := thermal
  unfold heaterCheck
  generalize minTemp ⟨cpu, battery, antenna, body, on, active⟩ = least
  by_cases cold : least ≤ tempFreeze <;> by_cases warm : 10.0 < least <;> cases on <;>
    simp [heaterLatch, Latch.next, Latch.judge, Verdict.applied, cold, warm]

/-- The least of the three is one of them. -/
theorem minTemp_mem (thermal : ThermalData) :
    minTemp thermal = thermal.tempBattery ∨ minTemp thermal = thermal.tempAntenna ∨
      minTemp thermal = thermal.tempBody := by
  unfold minTemp
  dsimp only
  split <;> split <;> simp

theorem minTemp_see_le {thermal : ThermalData} {reading : ZoneReading}
    (cold : minTemp (thermal.see reading) ≤ tempFreeze) : reading.AnyCold := by
  rcases minTemp_mem (thermal.see reading) with same | same | same <;> rw [same] at cold
  · exact Or.inr (Or.inl cold)
  · exact Or.inr (Or.inr (Or.inl cold))
  · exact Or.inr (Or.inr (Or.inr cold))

theorem lt_minTemp_see {thermal : ThermalData} {reading : ZoneReading} (warm : reading.AllWarm) :
    10.0 < minTemp (thermal.see reading) := by
  obtain ⟨_, battery, antenna, body⟩ := warm
  rcases minTemp_mem (thermal.see reading) with same | same | same <;> rw [same]
  · exact battery
  · exact antenna
  · exact body

/-- One iteration does what the rule asks exactly when the three zones decide. -/
theorem next_eq_iff (thermal : ThermalData) (reading : ZoneReading) :
    heaterLatch.next thermal.heaterOn (minTemp (thermal.see reading)) =
        zoneLatch.next thermal.heaterOn reading ↔ ThreeZonesDecide thermal reading := by
  rw [heaterLatch.next_eq_next_iff zoneLatch
    (fun cold => decide_eq_true (minTemp_see_le (of_decide_eq_true cold)))
    (fun warm => decide_eq_true (lt_minTemp_see (of_decide_eq_true warm)))]
  simp only [heaterLatch, zoneLatch, decide_eq_true_eq, decide_eq_false_iff_not, ThreeZonesDecide]

/-! ### Whole runs -/

theorem zoneLatch_after_iff (readings : List ZoneReading) :
    zoneLatch.after readings = true ↔ ∃ earlier reading later,
      readings = earlier ++ reading :: later ∧ reading.AnyCold ∧
        ∀ other ∈ later, ¬ other.AllWarm := by
  rw [zoneLatch.after_eq_true_iff]
  simp only [zoneLatch, decide_eq_true_eq, decide_eq_false_iff_not]

namespace HeaterRule

variable {thermal : ThermalData} {passes : List HeaterPass}

theorem start : HeaterRule thermalInit [] where
  heaterOn_iff := by simp [thermalInit]
  sent_iff := nofun
  warning := nofun
  apart := by simp

/-- The rule says where the heater is. -/
theorem heaterOn (rule : HeaterRule thermal passes) :
    thermal.heaterOn = zoneLatch.after (passes.map HeaterPass.reading) := by
  rw [Bool.eq_iff_iff, rule.heaterOn_iff, zoneLatch_after_iff]

/-- Between two reports the rule has had the heater off, so all zones were warm. -/
theorem exists_allWarm {passes front middle : List HeaterPass} {first : HeaterPass}
    (off : zoneLatch.after (passes.map HeaterPass.reading) = false)
    (split : passes = front ++ first :: middle) (cold : first.reading.AnyCold) :
    ∃ pass ∈ middle, pass.reading.AllWarm := by
  by_contra none
  refine Bool.eq_false_iff.mp off ((zoneLatch_after_iff _).mpr
    ⟨front.map HeaterPass.reading, first.reading, middle.map HeaterPass.reading, ?_, cold, ?_⟩)
  · rw [split, List.map_append, List.map_cons]
  · intro other member warm
    obtain ⟨pass, inMiddle, rfl⟩ := List.mem_map.mp member
    exact none ⟨pass, inMiddle, warm⟩

end HeaterRule

/-- What one iteration does to the heater and what it sends. -/
theorem heaterThread_step {thermal next : ThermalData} {emitted : List HeaterPass}
    {reading : ZoneReading}
    (stepped : heaterThread.step thermal reading = some (next, emitted)) :
    next.heaterOn = heaterLatch.next thermal.heaterOn (minTemp (thermal.see reading)) ∧
      ∃ pass, emitted = [pass] ∧ pass.reading = reading ∧ pass.wasOn = thermal.heaterOn ∧
        pass.isOn = next.heaterOn ∧
        (pass.sent.isSome ↔ pass.wasOn = false ∧ pass.isOn = true) ∧
        ∀ fault, pass.sent = some fault → reading.AnyCold ∧ fault.severity = warning ∧
          fault.desc = .literal "Component near freezing — heater activated" := by
  simp only [heaterThread, heaterCheck_eq, Option.some.injEq, Prod.mk.injEq] at stepped
  obtain ⟨rfl, rfl⟩ := stepped
  have kept : (thermal.see reading).heaterOn = thermal.heaterOn := rfl
  rw [kept]
  refine ⟨rfl, _, rfl, rfl, rfl, rfl, ?_, ?_⟩
  · have change := heaterLatch.judge_eq_raised_iff thermal.heaterOn (minTemp (thermal.see reading))
    dsimp only
    rw [← change]
    split
    next raised => simp [Alert.fault?, raised]
    next quiet => simp [Alert.fault?, quiet]
  · intro fault report
    split at report
    next raised =>
      cases report
      have freezing := of_decide_eq_true (heaterLatch.critical_of_judge_eq_raised raised)
      exact ⟨minTemp_see_le freezing, rfl, rfl⟩
    next => cases report

/-- If the rule held before an iteration, it holds after it exactly when the three zones
decide. -/
theorem heaterRule_iff {thermal next : ThermalData} {passes emitted : List HeaterPass}
    {reading : ZoneReading} (rule : HeaterRule thermal passes)
    (stepped : heaterThread.step thermal reading = some (next, emitted)) :
    HeaterRule next (passes ++ emitted) ↔ ThreeZonesDecide thermal reading := by
  obtain ⟨moved, pass, rfl, rfl, wasOn, isOn, sent, isWarning⟩ := heaterThread_step stepped
  have asked : zoneLatch.after ((passes ++ [pass]).map HeaterPass.reading) =
      zoneLatch.next thermal.heaterOn pass.reading := by
    rw [List.map_append, List.map_singleton, zoneLatch.after_snoc, ← rule.heaterOn]
  rw [← next_eq_iff, ← moved]
  constructor
  · intro ruled
    rw [ruled.heaterOn, asked]
  · intro same
    refine ⟨?_, fun other member => ?_, fun other member => ?_, ?_⟩
    · rw [same, ← asked, zoneLatch_after_iff]
    · rcases List.mem_append.mp member with member | member
      · exact rule.sent_iff other member
      · rw [List.mem_singleton.mp member]
        exact sent
    · rcases List.mem_append.mp member with member | member
      · exact rule.warning other member
      · rw [List.mem_singleton.mp member]
        exact isWarning
    · intro front first middle second back split firstSent secondSent
      rcases List.eq_nil_or_concat back with rfl | ⟨before, last, rfl⟩
      · obtain ⟨before, last⟩ := List.append_inj' split rfl
        obtain rfl := List.singleton_inj.mp last
        have off := (sent.mp secondSent).1
        rw [wasOn, rule.heaterOn] at off
        obtain ⟨fault, report⟩ := Option.isSome_iff_exists.mp firstSent
        exact HeaterRule.exists_allWarm off before
          (rule.warning first (by simp [before]) fault report).1
      · rw [List.concat_eq_append, ← List.cons_append, ← List.append_assoc] at split
        exact rule.apart front first middle second before (List.append_inj' split rfl).1
          firstSent secondSent

/-- For any temperatures the iterations find: the heater follows the rule and the reports tell of
it throughout the run exactly when three of the four zones decide at every iteration. -/
theorem heaterRule_throughout_iff (readings : List ZoneReading) :
    ∃ thermal passes, heaterThread.run thermalInit readings = some (thermal, passes) ∧
      (heaterThread.Throughout HeaterRule thermalInit readings ↔
        heaterThread.BeforeEach (fun thermal _ => ThreeZonesDecide thermal) thermalInit
          readings) := by
  obtain ⟨thermal, passes, ran⟩ := heaterThread.exists_run (fun _ _ => rfl) thermalInit readings
  exact ⟨thermal, passes, ran, heaterThread.throughout_iff_beforeEach .start
    (fun _ _ _ _ _ _ _ rule stepped => heaterRule_iff rule stepped) ran⟩

/-- A CPU at freezing, with the other zones warm. -/
def coldCpu : ZoneReading := ⟨0.0, 20.0, 25.0, 22.0⟩

/-- The heater stays off when only the CPU is cold. -/
theorem not_heaterRule :
    ¬ ∀ readings, heaterThread.Throughout HeaterRule thermalInit readings := by
  intro claimed
  obtain ⟨next, emitted, ran⟩ :=
    heaterThread.exists_run (fun _ _ => rfl) thermalInit [coldCpu]
  have rule := claimed [coldCpu] [coldCpu] [] rfl next emitted ran
  rw [heaterThread.run_singleton] at ran
  exact absurd ((heaterRule_iff .start ran).mp rule) (by decide +kernel)

end Fdir
