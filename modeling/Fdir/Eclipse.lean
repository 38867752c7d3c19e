/-
This file proves when the eclipse brings the emergency and the recovery the scenario promises.

A round is an iteration of `solar_thread` and one of `battery_thread` after it. All charges are
whole numbers, so the rounds can be followed over `Nat`: the battery is full when the eclipse
begins, loses between 8 and 15 percent in each of its eleven rounds, and gains at least 3 in
each round after it. The least it can lose is 88 percent, and 12 percent are not critical.
-/

import Fdir.Power
import Fdir.WholeFloat

namespace Fdir

open CMemory

/-! ### Rounds -/

/-- What `rand` returns to the two threads in one round. -/
structure PowerRands where
  solar : Nat
  battery : Nat

/-- The counter of `solar_thread` and the data the two threads share. -/
structure PowerRound where
  elapsed : Nat
  power : PowerData

def PowerRound.start : PowerRound := ⟨0, powerInit⟩

/-- One round after another; a report is emitted with the number of its round. -/
def powerRounds : Machine PowerRound PowerRands (Nat × Fault) where
  step state rands :=
    let elapsed := state.elapsed + 1
    let power := solarUpdate elapsed rands.solar state.power
    let (power, alert) := batteryCheck (batteryMeasure rands.battery power) power
    some (⟨elapsed, power⟩, alert.fault?.toList.map fun fault => (elapsed, fault))

/-- The rounds whose report says that the latch was set, or that it was cleared. -/
def roundsOf (change : Bool) (reports : List (Nat × Fault)) : List Nat :=
  reports.filterMap fun report =>
    if report.2.change? batteryThresholds.recoveredDesc = some change then some report.1 else none

/-- The emergency and the recovery: one CRITICAL report during the eclipse and one recovery
report in the seven rounds after it. -/
def EclipseEmergency (reports : List (Nat × Fault)) : Prop :=
  (∃ round, eclipseStart ≤ round ∧ round ≤ eclipseEnd ∧ roundsOf true reports = [round]) ∧
    ∃ round, eclipseEnd < round ∧ round ≤ eclipseEnd + 7 ∧ roundsOf false reports = [round]

/-- What `battery_thread` takes off the charge in a round of the eclipse. -/
def drain (rands : PowerRands) : Nat := rands.battery % 8 + 8

/-- What the eleven rounds of the eclipse take off together. -/
def drained (rounds : List PowerRands) : Nat :=
  (((rounds.drop (eclipseStart - 1)).take (eclipseEnd + 1 - eclipseStart)).map drain).sum

theorem drained_snoc (rounds : List PowerRands) (rands : PowerRands) :
    drained (rounds ++ [rands]) =
      if eclipseStart ≤ rounds.length + 1 ∧ rounds.length + 1 ≤ eclipseEnd then
        drained rounds + drain rands
      else drained rounds := by
  have start : eclipseStart - 1 = 9 := rfl
  have rest : eclipseEnd + 1 - eclipseStart = 11 := rfl
  rw [drained, drained, start, rest, List.drop_append, List.take_append, List.map_append,
    List.sum_append, List.length_drop]
  by_cases within : eclipseStart ≤ rounds.length + 1 ∧ rounds.length + 1 ≤ eclipseEnd
  · have lower : 10 ≤ rounds.length + 1 := within.1
    have upper : rounds.length + 1 ≤ 20 := within.2
    obtain ⟨places, more⟩ : ∃ places, 11 - (rounds.length - 9) = places + 1 :=
      ⟨10 - (rounds.length - 9), by omega⟩
    rw [if_pos within, Nat.sub_eq_zero_of_le (show 9 ≤ rounds.length by omega), List.drop_zero,
      more, List.take_succ_cons, List.take_nil, List.map_singleton, List.sum_singleton]
  · have outside : List.take (11 - (rounds.length - 9)) (List.drop (9 - rounds.length) [rands]) =
        [] := by
      by_cases before : rounds.length < 9
      · rw [List.drop_eq_nil_of_le (by simp; omega), List.take_nil]
      · have beyond : 20 ≤ rounds.length := by
          simp only [eclipseStart, eclipseEnd] at within
          omega
        rw [Nat.sub_eq_zero_of_le (show 11 ≤ rounds.length - 9 by omega), List.take_zero]
    rw [if_neg within, outside, List.map_nil, List.sum_nil, Nat.add_zero]

theorem drained_eq_zero {rounds : List PowerRands} (before : rounds.length < eclipseStart) :
    drained rounds = 0 := by
  rw [drained, List.drop_eq_nil_of_le (Nat.le_sub_one_of_lt before)]
  rfl

/-! ### Charges are whole numbers -/

/-- The battery's next charge, over whole numbers. -/
def chargeAfter (inEclipse : Bool) (rands : PowerRands) (charge : Nat) : Nat :=
  if inEclipse then charge - drain rands else min 100 (charge + (rands.battery % 4 + 3))

theorem chargeAfter_le {charge : Nat} (most : charge ≤ 100) (inEclipse : Bool)
    (rands : PowerRands) : chargeAfter inEclipse rands charge ≤ 100 := by
  unfold chargeAfter
  split
  · exact (Nat.sub_le ..).trans most
  · exact Nat.min_le_left ..

theorem batteryMeasure_eq {power : PowerData} {charge : Nat} (rands : PowerRands)
    (whole : power.batteryPct = charge.toFloat32) (most : charge ≤ 100) :
    batteryMeasure rands.battery power =
      (chargeAfter power.inEclipse rands charge).toFloat32 := by
  have none : (0.0 : Float32) = (0).toFloat32 := by decide +kernel
  have full : (100.0 : Float32) = (100).toFloat32 := by decide +kernel
  unfold batteryMeasure chargeAfter drain
  rw [whole, none, full]
  cases power.inEclipse with
  | true => exact WholeFloat.clamp_sub_toFloat32 (by omega) (by omega)
  | false => exact WholeFloat.clamp_add_toFloat32 (by omega) (by decide)

/-- The verdict on a charge, over whole numbers. -/
def chargeVerdict (active : Bool) (charge : Nat) : Verdict :=
  if charge ≤ 10 && !active then .raised
  else if charge ≤ 20 && !active then .warned
  else if 20 < charge && active then .cleared
  else .quiet

theorem judge_toFloat32 (active : Bool) {charge : Nat} (most : charge ≤ 100) :
    batteryThresholds.judge active charge.toFloat32 = chargeVerdict active charge := by
  have isCritical : batteryCritical = (10).toFloat32 := by decide +kernel
  have isWarning : batteryWarning = (20).toFloat32 := by decide +kernel
  have small : charge < 2 ^ 23 := by omega
  have critical := WholeFloat.le_toFloat32 small (show 10 < 2 ^ 23 by decide)
  have warning := WholeFloat.le_toFloat32 small (show 20 < 2 ^ 23 by decide)
  have nominal := WholeFloat.lt_toFloat32 (show 20 < 2 ^ 23 by decide) small
  rw [← isCritical] at critical
  rw [← isWarning] at warning nominal
  simp only [Latch.judge, chargeVerdict, batteryThresholds, critical, warning, nominal]

/-- What an iteration of `battery_thread` leaves, over whole numbers. -/
theorem batteryIteration_eq {power : PowerData} {charge : Nat} (rands : PowerRands)
    (whole : power.batteryPct = charge.toFloat32) (most : charge ≤ 100) {after : Nat}
    (measured : chargeAfter power.inEclipse rands charge = after) :
    batteryCheck (batteryMeasure rands.battery power) power =
      ({ power with
          batteryPct := after.toFloat32
          faultActive := (chargeVerdict power.faultActive after).applied power.faultActive },
        (batteryCheck (batteryMeasure rands.battery power) power).2) ∧
      (batteryCheck (batteryMeasure rands.battery power) power).2.fault? =
        batteryThresholds.fault after.toFloat32 (chargeVerdict power.faultActive after) := by
  subst measured
  have after := chargeAfter_le most power.inEclipse rands
  rw [fault?_batteryCheck, batteryMeasure_eq rands whole most, judge_toFloat32 _ after]
  refine ⟨Prod.ext ?_ rfl, rfl⟩
  rw [batteryCheck_eq, FaultThresholds.check, judge_toFloat32 _ after]

theorem change?_of_critical {charge : Nat} (low : charge ≤ 10) :
    (chargeVerdict false charge).change? = some true := by
  simp [chargeVerdict, low, Verdict.change?]

theorem change?_of_clear {charge : Nat} (high : 10 < charge) :
    (chargeVerdict false charge).change? = none := by
  by_cases low : charge ≤ 20 <;> simp [chargeVerdict, Nat.not_le.mpr high, low, Verdict.change?]

theorem change?_of_low {charge : Nat} (low : charge ≤ 20) :
    (chargeVerdict true charge).change? = none := by
  simp [chargeVerdict, Nat.not_lt.mpr low, Verdict.change?]

theorem change?_of_nominal {charge : Nat} (high : 20 < charge) :
    (chargeVerdict true charge).change? = some false := by
  simp [chargeVerdict, high, Verdict.change?]

/-! ### One round -/

/-- A state after so many rounds, with a whole charge. -/
structure PowerRound.Holds (state : PowerRound) (elapsed charge : Nat) (active : Bool) :
    Prop where
  elapsed : state.elapsed = elapsed
  whole : state.power.batteryPct = charge.toFloat32
  most : charge ≤ 100
  active : state.power.faultActive = active

theorem PowerRound.holds_start : PowerRound.start.Holds 0 100 false where
  elapsed := rfl
  whole := by decide +kernel
  most := le_rfl
  active := rfl

/-- The eclipse is on in the round. -/
def inEclipse (round : Nat) : Bool := eclipseStart ≤ round && round ≤ eclipseEnd

theorem inEclipse_iff {round : Nat} :
    inEclipse round = true ↔ eclipseStart ≤ round ∧ round ≤ eclipseEnd := by
  simp [inEclipse]

theorem not_inEclipse_of_beyond {elapsed : Nat} (beyond : eclipseEnd < elapsed) :
    inEclipse (elapsed + 1) = false :=
  Bool.eq_false_iff.mpr fun eclipse =>
    Nat.not_lt.mpr (inEclipse_iff.mp eclipse).2 (beyond.trans (Nat.lt_succ_self _))

theorem inEclipse_solarUpdate (elapsed rand : Nat) (power : PowerData) :
    (solarUpdate elapsed rand power).inEclipse = inEclipse elapsed := by
  unfold solarUpdate
  split
  next within => simp [inEclipse, within]
  next outside => simpa [inEclipse] using outside

theorem roundsOf_append (change : Bool) (front back : List (Nat × Fault)) :
    roundsOf change (front ++ back) = roundsOf change front ++ roundsOf change back :=
  List.filterMap_append

/-- The round as a list, if the latch was changed in it to `change`. -/
def changedIn (round : Nat) (changed : Option Bool) (change : Bool) : List Nat :=
  if changed = some change then [round] else []

theorem roundsOf_fault (value : Float32) (verdict : Verdict) (change : Bool) (round : Nat) :
    roundsOf change ((batteryThresholds.fault value verdict).toList.map fun fault =>
      (round, fault)) = changedIn round verdict.change? change := by
  have other : warning ≠ critical ∧ warning ≠ info ∧ info ≠ critical := by decide
  cases verdict <;> cases change <;>
    simp [FaultThresholds.fault, roundsOf, Fault.change?, changedIn, Verdict.change?, other]

/-- What one round does to the charge and the latch, and what it reports. -/
theorem PowerRound.Holds.step {state next : PowerRound} {elapsed charge : Nat} {active : Bool}
    (holds : state.Holds elapsed charge active) {rands : PowerRands}
    {emitted : List (Nat × Fault)} (stepped : powerRounds.step state rands = some (next, emitted))
    {after : Nat} (measured : chargeAfter (inEclipse (elapsed + 1)) rands charge = after) :
    next.Holds (elapsed + 1) after ((chargeVerdict active after).applied active) ∧
      ∀ change, roundsOf change emitted =
        changedIn (elapsed + 1) (chargeVerdict active after).change? change := by
  obtain ⟨rfl, whole, most, rfl⟩ := holds
  have kept : (solarUpdate (state.elapsed + 1) rands.solar state.power).batteryPct =
        charge.toFloat32 ∧
      (solarUpdate (state.elapsed + 1) rands.solar state.power).faultActive =
        state.power.faultActive := by
    unfold solarUpdate
    split <;> exact ⟨whole, rfl⟩
  rw [← inEclipse_solarUpdate _ rands.solar state.power] at measured
  obtain ⟨checked, sent⟩ := batteryIteration_eq rands kept.1 most measured
  simp only [powerRounds, Option.some.injEq, Prod.mk.injEq, sent] at stepped
  obtain ⟨rfl, rfl⟩ := stepped
  rw [checked, kept.2]
  refine ⟨⟨rfl, rfl, ?_, rfl⟩, fun change => roundsOf_fault _ _ change _⟩
  rw [← measured]
  exact chargeAfter_le most _ rands

/-! ### The phases of the run -/

/-- The charge, the latch and the rounds of both reports after `elapsed` rounds, when those of
the eclipse among them have taken `spent` off the charge. -/
inductive EclipsePhase (elapsed spent : Nat) : Nat → Bool → List Nat → List Nat → Prop
  /-- Up to the end of the eclipse, with no critical charge so far. -/
  | draining (within : elapsed ≤ eclipseEnd) (enough : spent < 90) :
      EclipsePhase elapsed spent (100 - spent) false [] []
  | drained (round : Nat) (began : eclipseStart ≤ round) (ended : round ≤ eclipseEnd)
      (within : elapsed ≤ eclipseEnd) (exhausted : 90 ≤ spent) :
      EclipsePhase elapsed spent (100 - spent) true [round] []
  /-- After an eclipse that took too little. -/
  | spared (charge : Nat) (beyond : eclipseEnd < elapsed) (enough : spent < 90)
      (left : 10 < charge) : EclipsePhase elapsed spent charge false [] []
  | charging (charge round : Nat) (began : eclipseStart ≤ round) (ended : round ≤ eclipseEnd)
      (beyond : eclipseEnd < elapsed) (exhausted : 90 ≤ spent)
      (gained : 3 * (elapsed - eclipseEnd) ≤ charge) (low : charge ≤ 20) :
      EclipsePhase elapsed spent charge true [round] []
  | recovered (charge round back : Nat) (began : eclipseStart ≤ round)
      (ended : round ≤ eclipseEnd) (beyond : eclipseEnd < elapsed) (exhausted : 90 ≤ spent)
      (high : 20 < charge) (later : eclipseEnd < back) (soon : back ≤ eclipseEnd + 7) :
      EclipsePhase elapsed spent charge false [round] [back]

namespace EclipsePhase

variable {elapsed spent charge : Nat} {active : Bool} {criticals recoveries : List Nat}

/-- A round of the eclipse. -/
theorem next_inEclipse
    (phase : EclipsePhase elapsed spent charge active criticals recoveries) {rands : PowerRands}
    (eclipse : inEclipse (elapsed + 1) = true) {after : Nat}
    (measured : chargeAfter true rands charge = after) :
    EclipsePhase (elapsed + 1) (spent + drain rands) after
      ((chargeVerdict active after).applied active)
      (criticals ++ changedIn (elapsed + 1) (chargeVerdict active after).change? true)
      (recoveries ++ changedIn (elapsed + 1) (chargeVerdict active after).change? false) := by
  obtain ⟨began, ended⟩ := inEclipse_iff.mp eclipse
  have loss : chargeAfter true rands (100 - spent) = 100 - (spent + drain rands) := Nat.sub_sub ..
  have notBeyond : ¬ eclipseEnd < elapsed := fun beyond => by
    rw [not_inEclipse_of_beyond beyond] at eclipse
    cases eclipse
  rw [Verdict.applied_eq]
  cases phase with
  | draining within enough =>
    rw [loss] at measured
    subst measured
    by_cases exhausted : 90 ≤ spent + drain rands
    · rw [change?_of_critical (by omega)]
      exact .drained (elapsed + 1) began ended ended exhausted
    · rw [change?_of_clear (by omega)]
      exact .draining ended (Nat.lt_of_not_le exhausted)
  | drained round alarmed alarmed' within exhausted =>
    rw [loss] at measured
    subst measured
    rw [change?_of_low (by omega)]
    exact .drained round alarmed alarmed' ended (exhausted.trans (Nat.le_add_right ..))
  | spared _ beyond | charging _ _ _ _ beyond | recovered _ _ _ _ _ beyond =>
    exact absurd beyond notBeyond

/-- A round in the sun. -/
theorem next_sunlit (phase : EclipsePhase elapsed spent charge active criticals recoveries)
    (before : elapsed < eclipseStart → spent = 0) {rands : PowerRands}
    (eclipse : inEclipse (elapsed + 1) = false) {after : Nat}
    (measured : chargeAfter false rands charge = after) :
    EclipsePhase (elapsed + 1) spent after ((chargeVerdict active after).applied active)
      (criticals ++ changedIn (elapsed + 1) (chargeVerdict active after).change? true)
      (recoveries ++ changedIn (elapsed + 1) (chargeVerdict active after).change? false) := by
  have gain : after = min 100 (charge + (rands.battery % 4 + 3)) := measured.symm
  -- A round in the sun is before the start of the eclipse or past its end.
  have beyond : ¬ elapsed + 1 < eclipseStart → eclipseEnd < elapsed + 1 := fun late =>
    Nat.lt_of_not_le fun ended =>
      Bool.eq_false_iff.mp eclipse (inEclipse_iff.mpr ⟨Nat.le_of_not_lt late, ended⟩)
  rw [Verdict.applied_eq]
  cases phase with
  | draining within enough =>
    rw [change?_of_clear (by omega)]
    by_cases early : elapsed + 1 < eclipseStart
    · have full : after = 100 - spent := by
        rw [before (Nat.lt_of_succ_lt early)] at gain ⊢
        omega
      rw [full]
      exact .draining (early.le.trans (by decide)) enough
    · exact .spared after (beyond early) enough (by omega)
  | drained round began ended within exhausted =>
    have late : ¬ elapsed + 1 < eclipseStart := fun early => by
      rw [before (Nat.lt_of_succ_lt early)] at exhausted
      cases exhausted
    have past := beyond late
    rw [change?_of_low (by omega)]
    exact .charging after round began ended past exhausted (by omega) (by omega)
  | spared charge past enough left =>
    rw [change?_of_clear (by omega)]
    exact .spared after (past.trans (Nat.lt_succ_self _)) enough (by omega)
  | charging charge round began ended past exhausted gained low =>
    have later := past.trans (Nat.lt_succ_self _)
    by_cases high : 20 < after
    · rw [change?_of_nominal high]
      exact .recovered after round (elapsed + 1) began ended later exhausted high later (by omega)
    · rw [change?_of_low (by omega)]
      exact .charging after round began ended later exhausted (by omega) (by omega)
  | recovered charge round back began ended past exhausted high later soon =>
    rw [change?_of_clear (by omega)]
    exact .recovered after round back began ended (past.trans (Nat.lt_succ_self _)) exhausted
      (by omega) later soon

theorem next (phase : EclipsePhase elapsed spent charge active criticals recoveries)
    (before : elapsed < eclipseStart → spent = 0) (rands : PowerRands) {after : Nat}
    (measured : chargeAfter (inEclipse (elapsed + 1)) rands charge = after) :
    EclipsePhase (elapsed + 1) (if inEclipse (elapsed + 1) then spent + drain rands else spent)
      after ((chargeVerdict active after).applied active)
      (criticals ++ changedIn (elapsed + 1) (chargeVerdict active after).change? true)
      (recoveries ++ changedIn (elapsed + 1) (chargeVerdict active after).change? false) := by
  cases eclipse : inEclipse (elapsed + 1) with
  | true =>
    rw [eclipse] at measured
    exact phase.next_inEclipse eclipse measured
  | false =>
    rw [eclipse] at measured
    exact phase.next_sunlit before eclipse measured

end EclipsePhase

/-! ### Whole runs -/

theorem eclipsePhase_of_run {rounds : List PowerRands} {last : PowerRound}
    {reports : List (Nat × Fault)}
    (ran : powerRounds.run PowerRound.start rounds = some (last, reports)) :
    ∃ charge active, last.Holds rounds.length charge active ∧
      EclipsePhase rounds.length (drained rounds) charge active (roundsOf true reports)
        (roundsOf false reports) := by
  refine powerRounds.run_induction
    (fun rounds last reports => ∃ charge active, last.Holds rounds.length charge active ∧
      EclipsePhase rounds.length (drained rounds) charge active (roundsOf true reports)
        (roundsOf false reports)) ?_ ?_ ran
  · exact ⟨100, false, PowerRound.holds_start, .draining (by decide) (by decide)⟩
  · rintro rounds state reports rands next emitted - ⟨charge, active, holds, phase⟩ stepped
    obtain ⟨later, reported⟩ := holds.step stepped rfl
    refine ⟨_, _, by rwa [List.length_append], ?_⟩
    have moved := phase.next drained_eq_zero rands rfl
    rw [List.length_append, List.length_singleton, drained_snoc, roundsOf_append,
      roundsOf_append, reported, reported]
    simpa only [inEclipse_iff] using moved

/-- A run brings the emergency and the recovery exactly when the eleven rounds of the eclipse
together take at least 90 percent off the charge. -/
theorem eclipseEmergency_iff (rounds : List PowerRands) (last : PowerRound)
    (reports : List (Nat × Fault)) (long : eclipseEnd + 7 ≤ rounds.length)
    (ran : powerRounds.run PowerRound.start rounds = some (last, reports)) :
    EclipseEmergency reports ↔ 90 ≤ drained rounds := by
  obtain ⟨charge, active, _, phase⟩ := eclipsePhase_of_run ran
  have beyond : eclipseEnd < rounds.length := Nat.lt_of_lt_of_le (by decide) long
  have ended : eclipseEnd = 20 := rfl
  generalize criticals : roundsOf true reports = trues at phase
  generalize recoveries : roundsOf false reports = falses at phase
  rw [EclipseEmergency, criticals, recoveries]
  cases phase with
  | draining within | drained _ _ _ within => exact absurd within (Nat.not_le.mpr beyond)
  | charging _ _ _ _ _ _ gained low => omega
  | spared _ _ enough =>
    refine iff_of_false ?_ (Nat.not_le.mpr enough)
    rintro ⟨⟨_, _, _, same⟩, _⟩
    cases same
  | recovered _ round back began ended _ exhausted _ later soon =>
    exact iff_of_true ⟨⟨round, began, ended, rfl⟩, back, later, soon, rfl⟩ exhausted

theorem powerRounds_total (state : PowerRound) (rands : PowerRands) :
    (powerRounds.step state rands).isSome := rfl

/-- Rounds whose drains are in the middle of their range. -/
def middlingRounds : List PowerRands := List.replicate 27 ⟨0, 4⟩

theorem eclipseEmergency_iff_middling :
    ∃ last reports, powerRounds.run PowerRound.start middlingRounds = some (last, reports) ∧
      (EclipseEmergency reports ↔ 90 ≤ drained middlingRounds) := by
  obtain ⟨last, reports, ran⟩ :=
    powerRounds.exists_run powerRounds_total PowerRound.start middlingRounds
  exact ⟨last, reports, ran,
    eclipseEmergency_iff middlingRounds last reports (by decide) ran⟩

/-- Every round of the eclipse takes the least it can off the charge. -/
def mildRounds : List PowerRands := List.replicate 27 ⟨0, 0⟩

theorem not_eclipseEmergency :
    ¬ ∀ rounds last reports, eclipseEnd + 7 ≤ rounds.length →
      powerRounds.run PowerRound.start rounds = some (last, reports) →
      EclipseEmergency reports := by
  intro always
  have silent : (powerRounds.run PowerRound.start mildRounds).any
      (fun reached => roundsOf true reached.2 = []) := by decide +kernel
  obtain ⟨⟨last, reports⟩, ran, none⟩ := (Option.any_eq_true _ _).mp silent
  obtain ⟨⟨_, _, _, same⟩, _⟩ := always mildRounds last reports (by decide) ran
  rw [of_decide_eq_true none] at same
  cases same

end Fdir
