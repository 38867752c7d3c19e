/-
This file models the fault check that ends an iteration of a measuring thread. A thread
compares its value with a critical and a warning threshold and keeps a `fault_active` latch;
it may send one report, in most branches after it has unlocked its mutex.

It also says what such a thread owes the ground: over any run the CRITICAL reports and the
recovery reports alternate, and the latch tells which of the two came last. A thread whose
iterations judge their values as a latch does owes nothing more.
-/

import Fdir.FloatOrder
import Fdir.Latch
import Fdir.Machine
import Fdir.SendFault

namespace Fdir

open CMemory

/-! ### The check -/

/-- What a check does beyond setting the latch. -/
inductive Alert where
  | none
  /-- Unlock the mutex, send the fault, go to the next iteration. -/
  | released (fault : Fault)
  /-- Send the fault while the mutex is still locked. -/
  | holding (fault : Fault)
deriving DecidableEq

def Alert.fault? : Alert → Option Fault
  | none => Option.none
  | released fault => some fault
  | holding fault => some fault

/-- The thresholds of one measured value and the texts of its reports. -/
structure FaultThresholds extends Latch Float32 where
  criticalLevel : Float32
  warningLevel : Float32
  criticalDesc : CString
  warningDesc : CString
  recoveredDesc : CString

namespace FaultThresholds

variable (thresholds : FaultThresholds)

/-- The report each branch sends. -/
def fault (value : Float32) : Verdict → Option Fault
  | .raised => some ⟨critical, value, thresholds.criticalLevel, thresholds.criticalDesc⟩
  | .warned => some ⟨warning, value, thresholds.warningLevel, thresholds.warningDesc⟩
  | .cleared => some ⟨info, value, thresholds.warningLevel, thresholds.recoveredDesc⟩
  | .quiet => none

/-- The check as `sensor_thread` and `downlink_thread` make it: the new latch, and the report,
sent in every branch after the mutex is unlocked. -/
def check (active : Bool) (value : Float32) : Bool × Alert :=
  let verdict := thresholds.judge active value
  (verdict.applied active, (thresholds.fault value verdict).elim .none .released)

theorem fault?_check (active : Bool) (value : Float32) :
    (thresholds.check active value).2.fault? =
      thresholds.fault value (thresholds.judge active value) := by
  rw [check]
  cases thresholds.fault value (thresholds.judge active value) <;> rfl

end FaultThresholds

/-! ### What the reports of a run say -/

/-- Whether a fault reports that the latch was set, or that it was cleared; a recovery is told
from other INFO reports by its description. -/
def Fault.change? (fault : Fault) (recoveredDesc : CString) : Option Bool :=
  if fault.severity = critical then some true
  else if fault.severity = info ∧ fault.desc = recoveredDesc then some false
  else none

/-- The CRITICAL reports (`true`) and the recovery reports (`false`) among some faults. -/
def latchReports (recoveredDesc : CString) (faults : List Fault) : List Bool :=
  faults.filterMap fun fault => fault.change? recoveredDesc

theorem change?_fault (thresholds : FaultThresholds) (value : Float32) (verdict : Verdict) :
    latchReports thresholds.recoveredDesc (thresholds.fault value verdict).toList =
      verdict.change?.toList := by
  have other : warning ≠ critical ∧ warning ≠ info ∧ info ≠ critical := by decide
  cases verdict <;>
    simp [FaultThresholds.fault, latchReports, Fault.change?, Verdict.change?, other]

/-- What one iteration of a thread does when it judges its values by the thresholds: it sends
the fault of its verdict first, and after it only reports that say nothing about the latch. -/
structure JudgesBy {Data Reading : Type} (thread : Machine Data Reading Fault)
    (faultActive : Data → Bool) (measured : Reading → Option Float32)
    (thresholds : FaultThresholds) : Prop where
  judged : ∀ data reading value, measured reading = some value →
    ∃ next more, thread.step data reading = some (next,
        (thresholds.fault value (thresholds.judge (faultActive data) value)).toList ++ more) ∧
      faultActive next = thresholds.next (faultActive data) value ∧
      latchReports thresholds.recoveredDesc more = [] ∧
      ∀ fault ∈ more, fault.severity ≠ warning
  unjudged : ∀ data reading, measured reading = none →
    ∃ next, thread.step data reading = some (next, []) ∧ faultActive next = faultActive data

/-- The latch of such a thread is that of the values it has judged so far. -/
theorem JudgesBy.faultActive_eq_after {Data Reading : Type} {thread : Machine Data Reading Fault}
    {start data : Data} {faultActive : Data → Bool} {measured : Reading → Option Float32}
    {thresholds : FaultThresholds} (judges : JudgesBy thread faultActive measured thresholds)
    (clear : faultActive start = false) {readings : List Reading} {faults : List Fault}
    (ran : thread.run start readings = some (data, faults)) :
    faultActive data = thresholds.after (readings.filterMap measured) := by
  refine thread.run_induction
    (fun readings data _ =>
      faultActive data = thresholds.after (readings.filterMap measured)) clear ?_ ran
  intro readings data faults reading next sent _ same stepped
  rw [List.filterMap_append]
  cases evaluated : measured reading with
  | none =>
    obtain ⟨_, again, kept⟩ := judges.unjudged data reading evaluated
    cases stepped.symm.trans again
    rw [List.filterMap_cons_none evaluated, List.filterMap_nil, List.append_nil, kept, same]
  | some value =>
    obtain ⟨_, _, again, moved, _⟩ := judges.judged data reading value evaluated
    cases stepped.symm.trans again
    rw [List.filterMap_cons_some evaluated, List.filterMap_nil, thresholds.after_snoc, moved,
      same]

end Fdir
