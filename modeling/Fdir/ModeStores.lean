/-
This file states when the mode on the telemetry bus is the one `watchdog` decided.

Two processes write the field: `watchdog` stores its decision, and the power process's
`bus_writer_thread` copies its own flag there with the rest of its data. The semaphore makes
each write whole and does not make them agree. The field keeps the last decision exactly in
the runs in which every pass of the power process finds its flag equal to it.
-/

import Fdir.Supervisor

namespace Fdir

/-- The mode `watchdog` stored last. -/
def lastStored (events : List ObcEvent) : Option Bool :=
  (events.filterMap fun event => match event with
    | .stored mode => some mode
    | _ => none).getLast?

/-- The bus shows the mode `watchdog` stored last. -/
def ModeKept (obc : Obc) (events : List ObcEvent) : Prop :=
  ∀ mode, lastStored events = some mode → obc.bus.safeMode = mode

/-- A pass of the power process's bus writer finds the flag equal to the mode stored last. -/
def FreshPass (obc : Obc) (events : List ObcEvent) (action : ObcAction) : Prop :=
  ∀ power, action = .powerBusWriter power → ∀ child, obc.children .power = some child →
    ∀ mode, lastStored events = some mode → child.flags.gSafeMode = mode

theorem lastStored_append_of_silent (events : List ObcEvent) {emitted : List ObcEvent}
    (silent : ∀ mode, .stored mode ∉ emitted) :
    lastStored (events ++ emitted) = lastStored events := by
  have none : (emitted.filterMap fun event => match event with
      | .stored mode => some mode
      | _ => none) = [] := by
    refine List.filterMap_eq_nil_iff.mpr fun event member => ?_
    cases event with
    | stored mode => exact absurd member (silent mode)
    | _ => rfl
  rw [lastStored, List.filterMap_append, none, List.append_nil, lastStored]

theorem lastStored_snoc (events : List ObcEvent) (mode : Bool) :
    lastStored (events ++ [.stored mode]) = some mode := by
  rw [lastStored, List.filterMap_append]
  exact List.getLast?_concat

/-- Only a pass of the power process can take the bus from the mode stored last, and it does
exactly when its flag differs. -/
theorem modeKept_iff_freshPass {obc next : Obc} {events emitted : List ObcEvent}
    {action : ObcAction} (kept : ModeKept obc events)
    (stepped : obc.step action = some (next, emitted)) :
    ModeKept next (events ++ emitted) ↔ FreshPass obc events action := by
  -- Every other step stores the mode it emits or leaves both as they are.
  have silent : ∀ {next emitted}, (∀ mode, .stored mode ∉ emitted) →
      next.bus.safeMode = obc.bus.safeMode → ModeKept next (events ++ emitted) := by
    intro next emitted none same mode stored
    rw [lastStored_append_of_silent events none] at stored
    rw [same]
    exact kept mode stored
  have storing : ∀ {next mode}, next.bus.safeMode = mode →
      ModeKept next (events ++ [.stored mode]) := by
    intro next mode same other stored
    rw [lastStored_snoc] at stored
    cases stored
    exact same
  cases Obc.does_of_step stepped with
  | powerBusWriter power child found alive =>
    constructor
    · rintro after _ ⟨⟩ child' found' mode stored
      cases found.symm.trans found'
      exact after mode (by rwa [List.append_nil])
    · intro fresh mode stored
      rw [List.append_nil] at stored
      exact fresh power rfl child found mode stored
  | publish action other bus mode =>
    exact ⟨fun _ power same => absurd same (other power), fun _ => silent (by simp) mode⟩
  | signalled action other =>
    exact ⟨fun _ power same => absurd same (other power), fun _ => silent (by simp) rfl⟩
  | main free statement =>
    refine ⟨fun _ _ => nofun, fun _ => ?_⟩
    cases statement with
    | storeSafe | storeNormal => exact storing rfl
    | _ => exact silent (by simp) rfl
  | fork | forkFails | wait | reap | exit | handle =>
    exact ⟨fun _ _ => nofun, fun _ => silent (by simp) rfl⟩

/-- The bus shows the mode stored last throughout a run exactly when every pass of the power
process's bus writer finds its flag equal to that mode. -/
theorem modeKept_throughout_iff (actions : List ObcAction) (obc : Obc) (events : List ObcEvent)
    (ran : obcMachine.run .start actions = some (obc, events)) :
    obcMachine.Throughout ModeKept .start actions ↔
      obcMachine.BeforeEach FreshPass .start actions :=
  obcMachine.throughout_iff_beforeEach nofun
    (fun _ _ _ _ _ _ _ kept stepped => modeKept_iff_freshPass kept stepped) ran

/-- Whether an action is a pass of the power process's bus writer. -/
def ObcAction.isPowerPass : ObcAction → Bool
  | powerBusWriter _ => true
  | _ => false

instance (obc : Obc) (events : List ObcEvent) (action : ObcAction) :
    Decidable (FreshPass obc events action) :=
  decidable_of_iff
    (action.isPowerPass = true → ∀ child ∈ obc.children .power, ∀ mode ∈ lastStored events,
      child.flags.gSafeMode = mode)
    (by
      constructor
      · rintro fresh power rfl
        exact fresh rfl
      · intro fresh passes
        cases action with
        | powerBusWriter power => exact fresh power rfl
        | _ => cases passes)

/-- The subsystems are started and a charge of 5 is published; the second round of the loop
samples it, broadcasts safe mode and stores it, and no child has handled its signal yet. -/
def enteringSafeMode : List ObcAction :=
  [.fork 100, .main, .fork 101, .main, .fork 102, .main, .fork 103, .main, .main,
    .powerBusWriter ⟨0.0, 5.0, true, true⟩,
    .main, .main, .main, .main,
    .main, .main, .main, .main, .main, .main, .main, .main, .main, .main]

/-- The power process handles its signal before its next pass, which publishes telemetry that has
recovered; the next tick leaves safe mode, and again the signal is handled before a pass. -/
def recovering : List ObcAction :=
  enteringSafeMode ++
    [.handle .power .sigusr1, .powerBusWriter ⟨110.0, 60.0, false, false⟩, .main, .main, .main,
      .main, .main, .main, .main, .main, .main, .main, .main, .main, .main, .main, .main, .main,
      .handle .power .sigusr2, .powerBusWriter ⟨110.0, 60.0, false, false⟩]

theorem modeKept_throughout_iff_recovering :
    obcMachine.Throughout ModeKept .start recovering ∧
      ∃ obc events, obcMachine.run .start recovering = some (obc, events) ∧
        lastStored events = some modeNormal ∧ .stored modeSafe ∈ events :=
  ⟨(modeKept_throughout_iff recovering _ _ rfl).mpr (by decide +kernel), _, _, rfl, rfl,
    by decide +kernel⟩

/-- The power process's next pass comes before it handles its SIGUSR1. -/
theorem not_modeKept :
    ¬ ∀ (actions : List ObcAction) (obc : Obc) (events : List ObcEvent),
      obcMachine.run .start actions = some (obc, events) → ModeKept obc events := by
  intro claimed
  have kept := claimed (enteringSafeMode ++ [.powerBusWriter ⟨0.0, 5.0, true, true⟩]) _ _ rfl
    modeSafe (by decide)
  cases kept

end Fdir
