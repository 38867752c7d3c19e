/-
This file models the signal handlers of both kinds of process, the variables `g_pid_*` the
OBC keeps its children's pids in, and what a `kill` does to the children.

A signal delivered to a child stays pending until the child handles it; a second one of the
same kind meanwhile is merged into it. A child that has exited stays a zombie until it is
reaped, and only then may its pid belong to another process.
-/

import Mathlib.Logic.Function.Basic

namespace Fdir

/-! ### Handlers -/

/-- The signals the processes send each other. -/
inductive Signal where
  | sigusr1
  | sigusr2
  | sigterm
deriving DecidableEq

/-- The flags the handlers set in the process they run in. -/
structure SignalFlags where
  gShutdown : Bool
  gSafeMode : Bool
  gRestart : Bool
deriving DecidableEq

/-- The flags of a process that has just started. -/
def SignalFlags.clear : SignalFlags := ⟨false, false, false⟩

def handleSigint (flags : SignalFlags) : SignalFlags := { flags with gShutdown := true }
def handleSigusr1 (flags : SignalFlags) : SignalFlags := { flags with gSafeMode := true }
def handleSigusr2 (flags : SignalFlags) : SignalFlags := { flags with gSafeMode := false }
def handleSigusr2Parent (flags : SignalFlags) : SignalFlags := { flags with gRestart := true }

/-- The handlers `setup_child_signals` installs. -/
def childHandler : Signal → SignalFlags → SignalFlags
  | .sigusr1 => handleSigusr1
  | .sigusr2 => handleSigusr2
  | .sigterm => handleSigint

/-! ### Children -/

/-- The four processes the OBC starts. -/
inductive Subsystem where
  | power
  | thermal
  | comms
  | logger
deriving DecidableEq

/-- The subsystems in the order the broadcasts address them. -/
def broadcastOrder : List Subsystem := [.power, .thermal, .comms, .logger]

/-- The subsystems in the order `main` starts them. -/
def startOrder : List Subsystem := [.logger, .power, .thermal, .comms]

inductive ChildStatus where
  | alive
  | zombie
  | reaped
deriving DecidableEq

/-- A child of the OBC. -/
structure ChildProc where
  pid : Int
  status : ChildStatus
  flags : SignalFlags
  pending : Signal → Bool

/-- A child that has just been forked. -/
def ChildProc.forked (pid : Int) : ChildProc := ⟨pid, .alive, .clear, fun _ => false⟩

/-- The children forked so far. -/
abbrev Children := Subsystem → Option ChildProc

theorem Children.update_eq_some {children : Children} {who other : Subsystem}
    {child child' : ChildProc} :
    Function.update children who (some child) other = some child' ↔
      other = who ∧ child = child' ∨ other ≠ who ∧ children other = some child' := by
  by_cases same : other = who
  · subst same
    simp
  · simp [same]

/-- Whether a signal sent to `target` reaches the process `pid`; -1 reaches every process. -/
def reaches (target pid : Int) : Bool := target = pid || target = -1

/-- `kill`, as far as it concerns the children. -/
def kill (target : Int) (signal : Signal) (children : Children) : Children := fun who =>
  (children who).map fun child =>
    if child.status = .alive ∧ reaches target child.pid then
      { child with pending := Function.update child.pending signal true }
    else child

/-- A live child handles one of its pending signals. -/
def ChildProc.handle (child : ChildProc) (signal : Signal) : Option ChildProc :=
  if child.status = .alive ∧ child.pending signal then
    some { child with
      flags := childHandler signal child.flags
      pending := Function.update child.pending signal false }
  else none

/-! ### The pids the OBC keeps -/

/-- The variables `g_pid_power`, `g_pid_thermal`, `g_pid_comms` and `g_pid_logger`. -/
abbrev PidTable := Subsystem → Int

/-- The variable the chain of comparisons in `handle_sigchld` picks for a reaped pid. -/
def reapedVariable (gPid : PidTable) (pid : Int) : Option Subsystem :=
  broadcastOrder.find? fun who => pid = gPid who

/-- The variables after `handle_sigchld` has reaped one pid. -/
def clearReaped (gPid : PidTable) (pid : Int) : PidTable :=
  match reapedVariable gPid pid with
  | none => gPid
  | some who => Function.update gPid who (-1)

theorem reapedVariable_eq_some {gPid : PidTable} {pid : Int} {who : Subsystem}
    (picked : reapedVariable gPid pid = some who) : gPid who = pid := by
  have same := List.find?_some picked
  exact (of_decide_eq_true same).symm

theorem mem_broadcastOrder (who : Subsystem) : who ∈ broadcastOrder := by
  cases who <;> decide

/-- Some variable is picked if one holds the pid. -/
theorem reapedVariable_ne_none {gPid : PidTable} {pid : Int} {who : Subsystem}
    (holds : gPid who = pid) : reapedVariable gPid pid ≠ none := by
  intro none
  have other := List.find?_eq_none.mp none who (mem_broadcastOrder who)
  exact other (decide_eq_true holds.symm)

/-- Reaping sets the variable it picks to -1 and no other. -/
theorem clearReaped_apply (gPid : PidTable) (pid : Int) (who : Subsystem) :
    clearReaped gPid pid who = if reapedVariable gPid pid = some who then -1 else gPid who := by
  unfold clearReaped
  cases reapedVariable gPid pid with
  | none => rfl
  | some picked =>
    by_cases same : who = picked
    · simp [same]
    · simp [Function.update_of_ne same, Ne.symm same]

/-- A variable that does not hold the reaped pid is left alone. -/
theorem clearReaped_of_ne {gPid : PidTable} {pid : Int} {who : Subsystem}
    (other : gPid who ≠ pid) : clearReaped gPid pid who = gPid who := by
  rw [clearReaped_apply, if_neg fun picked => other (reapedVariable_eq_some picked)]

end Fdir
