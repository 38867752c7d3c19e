/-
This file states when the downlink thread keeps its two promises: that the bus shows the signal
quality the comms process has, and that every thirtieth iteration sends a telemetry snapshot.

Both come last in an iteration, behind the `continue` of the safe-mode branch and of every
branch that reports. So the bus is stale after such an iteration, unless it happened to show the
new quality already, and an iteration that is due for a snapshot and reports instead skips it.
-/

import Fdir.Comms

namespace Fdir

open CMemory

/-! ### Whole iterations -/

/-- The data of `downlink_thread` and the telemetry bus. -/
structure DownlinkLoop where
  downlink : Downlink
  bus : TelemetryBus
deriving DecidableEq

def DownlinkLoop.start : DownlinkLoop := ⟨⟨commsInit, 0⟩, shmCreate⟩

/-- The bus after an iteration: only one that comes to its end writes to it. -/
def downlinkBus (loop : DownlinkLoop) : Option Float32 → TelemetryBus
  | none => loop.bus
  | some sig =>
    let (comms, alert) := downlinkCheck sig loop.downlink.comms
    match alert.fault? with
    | some _ => loop.bus
    | none => downlinkBusWrite sig comms loop.bus

/-- The iterations of `downlink_thread` with their writes to the bus; a report is emitted with
the count of its iteration. -/
def downlinkLoop : Machine DownlinkLoop (Option Float32) (Nat × Fault) where
  step loop reading :=
    let (downlink, faults) := downlinkIteration loop.downlink reading
    some (⟨downlink, downlinkBus loop reading⟩, faults.map fun fault => (downlink.elapsed, fault))

/-- Apart from the bus, the iterations are those of the thread alone. -/
theorem downlinkLoop_run {readings : List (Option Float32)} {loop : DownlinkLoop}
    {reports : List (Nat × Fault)}
    (ran : downlinkLoop.run .start readings = some (loop, reports)) :
    downlinkThread.run ⟨commsInit, 0⟩ readings = some (loop.downlink, reports.map Prod.snd) := by
  have same := downlinkLoop.run_map downlinkThread DownlinkLoop.downlink id Prod.snd
    (fun state reading next emitted stepped => by
      cases stepped
      rw [List.map_map]
      exact congrArg some (Prod.ext rfl (List.map_id _).symm)) ran
  rwa [List.map_id] at same

/-- The check of an iteration finds nothing to report: the latch is clear and the signal above
the warning level, or the latch is set and it is not. -/
def QuietCheck (faultActive : Bool) (sig : Float32) : Prop :=
  if faultActive then ¬ signalWarning < sig else ¬ sig ≤ signalWarning

instance (faultActive : Bool) (sig : Float32) : Decidable (QuietCheck faultActive sig) :=
  inferInstanceAs (Decidable (ite _ _ _))

/-- The check is quiet in just these cases. -/
theorem judge_eq_quiet_iff (faultActive : Bool) (sig : Float32) :
    downlinkThresholds.judge faultActive sig = .quiet ↔ QuietCheck faultActive sig := by
  have lower : signalCritical < signalWarning := by decide +kernel
  have critical : sig ≤ signalCritical → sig ≤ signalWarning := fun low =>
    FloatOrder.le_of_lt (FloatOrder.trans_le_lt low lower)
  unfold QuietCheck Latch.judge downlinkThresholds
  cases faultActive <;> by_cases low : sig ≤ signalCritical <;>
    by_cases weak : sig ≤ signalWarning <;> by_cases strong : signalWarning < sig <;>
    simp_all

theorem fault_eq_none_iff (faultActive : Bool) (sig : Float32) :
    downlinkThresholds.fault sig (downlinkThresholds.judge faultActive sig) = none ↔
      QuietCheck faultActive sig := by
  rw [← judge_eq_quiet_iff]
  cases downlinkThresholds.judge faultActive sig <;> simp [FaultThresholds.fault]

/-- What one iteration outside safe mode does. -/
theorem downlinkLoop_some (loop : DownlinkLoop) (sig : Float32) :
    ∃ next reports, downlinkLoop.step loop (some sig) = some (next, reports) ∧
      next.downlink.elapsed = loop.downlink.elapsed + 1 ∧
      next.downlink.comms.signalQuality = sig ∧
      (QuietCheck loop.downlink.comms.faultActive sig → next.bus.signalQuality = sig ∧
        reports = (downlinkSnapshot (loop.downlink.elapsed + 1) sig).toList.map
          fun fault => (loop.downlink.elapsed + 1, fault)) ∧
      (¬ QuietCheck loop.downlink.comms.faultActive sig → next.bus = loop.bus ∧
        ∃ verdict fault, downlinkThresholds.fault sig verdict = some fault ∧
          reports = [(loop.downlink.elapsed + 1, fault)]) := by
  refine ⟨⟨(downlinkIteration loop.downlink (some sig)).1, downlinkBus loop (some sig)⟩,
    (downlinkIteration loop.downlink (some sig)).2.map fun fault =>
      (loop.downlink.elapsed + 1, fault), rfl, rfl, rfl, fun quiet => ?_, fun loud => ?_⟩
  · have silent := (downlinkThresholds.fault?_check _ _).trans
      ((fault_eq_none_iff loop.downlink.comms.faultActive sig).mpr quiet)
    simp [downlinkBus, downlinkBusWrite, downlinkIteration, downlinkCheck, silent]
  · obtain ⟨fault, report⟩ := Option.ne_none_iff_exists'.mp
      (mt (fault_eq_none_iff loop.downlink.comms.faultActive sig).mp loud)
    have sent := (downlinkThresholds.fault?_check _ _).trans report
    refine ⟨?_, _, fault, report, ?_⟩ <;>
      simp [downlinkBus, downlinkIteration, downlinkCheck, sent]

/-! ### The signal quality on the bus -/

/-- The bus shows the signal quality of the comms process. -/
def ShowsQuality (loop : DownlinkLoop) (_ : List (Nat × Fault)) : Prop :=
  loop.bus.signalQuality = loop.downlink.comms.signalQuality

/-- The iteration comes to the write, or the bus already shows the quality it sets. -/
def KeepsQuality (loop : DownlinkLoop) (_ : List (Nat × Fault)) : Option Float32 → Prop
  | none => loop.bus.signalQuality = 0.0
  | some sig =>
    QuietCheck loop.downlink.comms.faultActive sig ∨ loop.bus.signalQuality = sig

theorem showsQuality_iff {loop next : DownlinkLoop} {reading : Option Float32}
    (reports : List (Nat × Fault)) {emitted : List (Nat × Fault)}
    (stepped : downlinkLoop.step loop reading = some (next, emitted)) :
    ShowsQuality next (reports ++ emitted) ↔ KeepsQuality loop reports reading := by
  unfold ShowsQuality
  cases reading with
  | none =>
    cases stepped
    rfl
  | some sig =>
    obtain ⟨_, _, again, _, quality, quiet, loud⟩ := downlinkLoop_some loop sig
    cases stepped.symm.trans again
    change next.bus.signalQuality = _ ↔
      QuietCheck loop.downlink.comms.faultActive sig ∨ loop.bus.signalQuality = sig
    rw [quality]
    by_cases silent : QuietCheck loop.downlink.comms.faultActive sig
    · exact iff_of_true (quiet silent).1 (Or.inl silent)
    · rw [(loud silent).1, or_iff_right silent]

/-- Whatever the iterations measure and whenever they find safe mode: the bus shows the signal
quality at the end of every one of them exactly when each comes to its write or has nothing new
to write. -/
theorem signalQuality_throughout_iff (readings : List (Option Float32)) :
    ∃ loop reports, downlinkLoop.run .start readings = some (loop, reports) ∧
      (downlinkLoop.Throughout ShowsQuality .start readings ↔
        downlinkLoop.BeforeEach KeepsQuality .start readings) := by
  obtain ⟨loop, reports, ran⟩ := downlinkLoop.exists_run (fun _ _ => rfl) .start readings
  exact ⟨loop, reports, ran, downlinkLoop.throughout_iff_beforeEach rfl
    (fun _ _ _ _ _ _ _ _ stepped => showsQuality_iff _ stepped) ran⟩

/-- The signal drops to five percent, and the bus shows the ninety it had before. -/
theorem not_signalQuality :
    ¬ ∀ readings, downlinkLoop.Throughout ShowsQuality .start readings := by
  intro claimed
  have shown := claimed [some (downlinkMeasure 0 0)] [some (downlinkMeasure 0 0)] [] rfl _ _ rfl
  have stale : ¬ (QuietCheck false (downlinkMeasure 0 0) ∨
      shmCreate.signalQuality = downlinkMeasure 0 0) := by
    decide +kernel
  exact stale ((showsQuality_iff [] rfl).mp shown)

/-! ### Snapshots -/

/-- The iterations that sent a periodic snapshot. -/
def snapshotRounds (reports : List (Nat × Fault)) : List Nat :=
  reports.filterMap fun report =>
    if report.2.desc = .literal "Periodic telemetry snapshot — all systems" then some report.1
    else none

/-- The multiples of thirty among the first iterations. -/
def dueRounds (iterations : Nat) : List Nat :=
  (List.range (iterations / 30)).map fun index => 30 * (index + 1)

theorem dueRounds_succ (iterations : Nat) :
    dueRounds (iterations + 1) = dueRounds iterations ++
      if (iterations + 1) % 30 = 0 then [iterations + 1] else [] := by
  unfold dueRounds
  split
  next due =>
    have more : (iterations + 1) / 30 = iterations / 30 + 1 := by omega
    rw [more, List.range_succ, List.map_append, List.map_singleton]
    congr 2
    omega
  next =>
    have same : (iterations + 1) / 30 = iterations / 30 := by omega
    rw [same, List.append_nil]

/-- At every iteration that is due for a snapshot, the check finds nothing to report. -/
def DueQuiet (signals : List Float32) : Prop :=
  ∀ before sig later, signals = before ++ sig :: later → (before.length + 1) % 30 = 0 →
    QuietCheck (downlinkThresholds.after before) sig

theorem dueQuiet_snoc (signals : List Float32) (sig : Float32) :
    DueQuiet (signals ++ [sig]) ↔ DueQuiet signals ∧
      ((signals.length + 1) % 30 = 0 → QuietCheck (downlinkThresholds.after signals) sig) := by
  constructor
  · intro quiet
    refine ⟨fun before other later split => ?_, quiet signals sig [] rfl⟩
    refine quiet before other (later ++ [sig]) ?_
    rw [split, List.append_assoc, List.cons_append]
  · rintro ⟨quiet, last⟩ before other later split
    rcases List.eq_nil_or_concat later with rfl | ⟨front, final, rfl⟩
    · obtain ⟨rfl, same⟩ := List.append_inj' split rfl
      cases same
      exact last
    · rw [List.concat_eq_append, ← List.cons_append, ← List.append_assoc] at split
      exact quiet before other front (List.append_inj' split rfl).1

theorem snapshotRounds_append (front back : List (Nat × Fault)) :
    snapshotRounds (front ++ back) = snapshotRounds front ++ snapshotRounds back :=
  List.filterMap_append

/-- A report of the check is not a snapshot. -/
theorem snapshotRounds_fault {sig : Float32} {verdict : Verdict} {fault : Fault} (round : Nat)
    (sent : downlinkThresholds.fault sig verdict = some fault) :
    snapshotRounds [(round, fault)] = [] := by
  have other : downlinkThresholds.criticalDesc ≠
        .literal "Periodic telemetry snapshot — all systems" ∧
      downlinkThresholds.warningDesc ≠ .literal "Periodic telemetry snapshot — all systems" ∧
      downlinkThresholds.recoveredDesc ≠
        .literal "Periodic telemetry snapshot — all systems" := by
    decide
  cases verdict <;> cases sent <;> simp [snapshotRounds, other]

theorem snapshotRounds_downlinkSnapshot (round : Nat) (sig : Float32) :
    snapshotRounds ((downlinkSnapshot round sig).toList.map fun fault => (round, fault)) =
      if round % 30 = 0 then [round] else [] := by
  unfold downlinkSnapshot
  split <;> simp [snapshotRounds]

/-- The snapshots of a run are at most those due, and all of them when the check is quiet. -/
theorem snapshotRounds_run {signals : List Float32} {loop : DownlinkLoop}
    {reports : List (Nat × Fault)}
    (ran : downlinkLoop.run .start (signals.map some) = some (loop, reports)) :
    loop.downlink.elapsed = signals.length ∧
      (∀ round ∈ snapshotRounds reports, round ≤ signals.length) ∧
      (snapshotRounds reports = dueRounds signals.length ↔ DueQuiet signals) := by
  induction signals using List.reverseRecOn generalizing loop reports with
  | nil =>
    cases ran
    exact ⟨rfl, nofun, iff_of_true rfl fun before _ _ split => by simp at split⟩
  | append_singleton signals sig inductionHypothesis =>
    rw [List.map_append] at ran
    obtain ⟨middle, first, emitted, front, stepped, rfl⟩ :=
      downlinkLoop.run_snoc_eq_some.mp ran
    obtain ⟨elapsed, bound, exact'⟩ := inductionHypothesis front
    have latch := downlinkThread_judgesBy.faultActive_eq_after rfl (downlinkLoop_run front)
    rw [List.filterMap_map, show id ∘ some = (some : Float32 → _) from rfl,
      List.filterMap_some] at latch
    obtain ⟨_, _, again, counted, _, quiet, loud⟩ := downlinkLoop_some middle sig
    cases stepped.symm.trans again
    rw [elapsed] at counted quiet loud
    rw [latch] at quiet loud
    rw [counted, List.length_append, List.length_singleton, snapshotRounds_append, dueRounds_succ,
      dueQuiet_snoc]
    by_cases silent : QuietCheck (downlinkThresholds.after signals) sig
    · rw [(quiet silent).2, snapshotRounds_downlinkSnapshot, List.append_left_inj, exact',
        and_iff_left fun _ => silent]
      refine ⟨rfl, fun round member => ?_, Iff.rfl⟩
      rcases List.mem_append.mp member with member | member
      · exact (bound round member).trans (Nat.le_succ _)
      · split at member
        · exact (List.mem_singleton.mp member).le
        · cases member
    · obtain ⟨_, fault, sent, rfl⟩ := (loud silent).2
      rw [snapshotRounds_fault _ sent, List.append_nil]
      refine ⟨rfl, fun round member => (bound round member).trans (Nat.le_succ _), ?_⟩
      by_cases due : (signals.length + 1) % 30 = 0
      · rw [if_pos due]
        refine iff_of_false (fun same => ?_) fun both => silent (both.2 due)
        have missing : signals.length + 1 ∈ snapshotRounds first := by
          rw [same]
          exact List.mem_append_right _ (List.mem_singleton_self _)
        exact absurd (bound _ missing) (Nat.not_succ_le_self _)
      · rw [if_neg due, List.append_nil, exact', and_iff_left fun due' => absurd due' due]

/-- For any number of iterations outside safe mode and any signals they measure: the snapshots
sent are one at each multiple of thirty, so that many in all, exactly when at each of these
iterations the check finds nothing to report. -/
theorem snapshotRounds_iff (signals : List Float32) :
    ∃ loop reports, downlinkLoop.run .start (signals.map some) = some (loop, reports) ∧
      ((snapshotRounds reports).length = signals.length / 30 ∧
          snapshotRounds reports = dueRounds signals.length ↔ DueQuiet signals) := by
  obtain ⟨loop, reports, ran⟩ :=
    downlinkLoop.exists_run (fun _ _ => rfl) .start (signals.map some)
  refine ⟨loop, reports, ran, ?_⟩
  rw [← (snapshotRounds_run ran).2.2]
  refine and_iff_right_of_imp fun same => ?_
  rw [same, dueRounds, List.length_map, List.length_range]

/-- Twenty-nine good signals, and a dropout when the snapshot is due. -/
def lateDropout : List Float32 :=
  List.replicate 29 (downlinkMeasure 1 0) ++ [downlinkMeasure 0 0]

/-- The report that the signal is lost takes the place of the snapshot. -/
theorem not_snapshotRounds :
    ¬ ∀ (signals : List Float32) (loop : DownlinkLoop) (reports : List (Nat × Fault)),
      downlinkLoop.run .start (signals.map some) = some (loop, reports) →
      (snapshotRounds reports).length = signals.length / 30 ∧
        snapshotRounds reports = dueRounds signals.length := by
  intro claimed
  obtain ⟨loop, reports, ran⟩ :=
    downlinkLoop.exists_run (fun _ _ => rfl) .start (lateDropout.map some)
  have quiet := (snapshotRounds_run ran).2.2.mp (claimed lateDropout loop reports ran).2
  have loud : ¬ QuietCheck (downlinkThresholds.after (List.replicate 29 (downlinkMeasure 1 0)))
      (downlinkMeasure 0 0) := by
    decide +kernel
  exact loud (quiet _ _ [] rfl rfl)

end Fdir
