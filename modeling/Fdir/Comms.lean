/-
This file models the data of the comms process, the iterations of its downlink thread and the
dispatch of ground commands.

In safe mode an iteration of the downlink thread suspends the link and skips the check, so the
latch keeps what it was. Otherwise the check is the common one, and only an iteration that has
nothing to report goes on to the periodic snapshot and to the telemetry bus.
-/

import Fdir.FaultLatch
import Fdir.Signals

namespace Fdir

open CMemory

/-- `CMD_MAX_LEN`. -/
def cmdMaxLen : Nat := 32

/-- `comms_data_t`. -/
structure CommsData where
  signalQuality : Float32
  uplinkActive : Bool
  downlinkActive : Bool
  faultActive : Bool
  lastCommand : CharArray cmdMaxLen
deriving DecidableEq

/-- The comms data `main` sets up. -/
def commsInit : CommsData where
  signalQuality := 90.0
  uplinkActive := true
  downlinkActive := true
  faultActive := false
  lastCommand := .zeros cmdMaxLen

/-! ### The downlink -/

/-- The signal quality `downlink_thread` measures, with the numbers its calls of `rand` return. -/
def downlinkMeasure (dropout value : Nat) : Float32 :=
  if dropout % 20 = 0 then (value % 20 + 5).toFloat32 else (value % 40 + 60).toFloat32

def downlinkThresholds : FaultThresholds where
  critical sig := decide (sig ≤ signalCritical)
  warning sig := decide (sig ≤ signalWarning)
  nominal sig := decide (signalWarning < sig)
  apart sig isCritical := decide_eq_false
    (FloatOrder.not_lt_of_le (of_decide_eq_true isCritical) (by decide))
  criticalLevel := signalCritical
  warningLevel := signalWarning
  criticalDesc := .literal "Ground link lost — signal below threshold"
  warningDesc := .literal "Signal quality degraded"
  recoveredDesc := .literal "Ground link restored"

/-- The branch of an iteration that finds `g_safe_mode` set. -/
def downlinkSuspend (comms : CommsData) : CommsData :=
  { comms with downlinkActive := false, signalQuality := 0.0 }

/-- The other branch, up to the check and with it. -/
def downlinkCheck (sig : Float32) (comms : CommsData) : CommsData × Alert :=
  let (faultActive, alert) := downlinkThresholds.check comms.faultActive sig
  ({ comms with signalQuality := sig, downlinkActive := true, faultActive }, alert)

/-- The periodic snapshot of an iteration that reported nothing. -/
def downlinkSnapshot (elapsed : Nat) (sig : Float32) : Option Fault :=
  if elapsed % 30 = 0 then
    some ⟨info, sig, 0.0, .literal "Periodic telemetry snapshot — all systems"⟩
  else none

/-- What an iteration that reported nothing writes to the bus last. -/
def downlinkBusWrite (sig : Float32) (comms : CommsData) (bus : TelemetryBus) : TelemetryBus :=
  { bus with signalQuality := sig, uplinkActive := comms.uplinkActive }

/-- The data and the local variable of `downlink_thread`. -/
structure Downlink where
  comms : CommsData
  elapsed : Nat
deriving DecidableEq

/-- One iteration of `downlink_thread`: `none` when it finds `g_safe_mode` set, otherwise the
signal quality it measures. -/
def downlinkIteration (downlink : Downlink) : Option Float32 → Downlink × List Fault
  | none => (⟨downlinkSuspend downlink.comms, downlink.elapsed + 1⟩, [])
  | some sig =>
    let (comms, alert) := downlinkCheck sig downlink.comms
    let faults := match alert.fault? with
      | some fault => [fault]
      | none => (downlinkSnapshot (downlink.elapsed + 1) sig).toList
    (⟨comms, downlink.elapsed + 1⟩, faults)

/-- The iterations of `downlink_thread`, whatever they measure and whenever they find
`g_safe_mode` set. -/
def downlinkThread : Machine Downlink (Option Float32) Fault where
  step downlink sig := some (downlinkIteration downlink sig)

theorem latchReports_downlinkSnapshot (elapsed : Nat) (sig : Float32) :
    latchReports downlinkThresholds.recoveredDesc (downlinkSnapshot elapsed sig).toList = [] ∧
      ∀ fault ∈ (downlinkSnapshot elapsed sig).toList, fault.severity ≠ warning := by
  have other : info ≠ critical ∧ info ≠ warning ∧
      CString.literal "Periodic telemetry snapshot — all systems" ≠
        downlinkThresholds.recoveredDesc := by decide
  unfold downlinkSnapshot
  split <;> simp [latchReports, Fault.change?, other]

theorem downlinkThread_judgesBy :
    JudgesBy downlinkThread (fun downlink => downlink.comms.faultActive) id
      downlinkThresholds where
  judged downlink reading sig evaluated := by
    obtain rfl : reading = some sig := evaluated
    have sent := downlinkThresholds.fault?_check downlink.comms.faultActive sig
    cases report : downlinkThresholds.fault sig
        (downlinkThresholds.judge downlink.comms.faultActive sig) with
    | some fault =>
      refine ⟨(downlinkIteration downlink (some sig)).1, [], ?_, rfl, rfl,
        fun _ member => by cases member⟩
      rw [report] at sent
      simp [downlinkThread, downlinkIteration, downlinkCheck, sent]
    | none =>
      refine ⟨(downlinkIteration downlink (some sig)).1,
        (downlinkSnapshot (downlink.elapsed + 1) sig).toList, ?_, rfl,
        latchReports_downlinkSnapshot _ _⟩
      rw [report] at sent
      simp [downlinkThread, downlinkIteration, downlinkCheck, sent]
  unjudged downlink reading evaluated := by
    obtain rfl : reading = none := evaluated
    exact ⟨_, rfl, rfl⟩

/-! ### Ground commands -/

def cmdStatus : CString := .literal "STATUS"
def cmdSafeMode : CString := .literal "SAFE_MODE"
def cmdSnapshot : CString := .literal "SNAPSHOT"
def cmdResetAdcs : CString := .literal "RESET_ADCS"

/-- What a ground command makes the comms process do. -/
inductive CommandEffect where
  /-- Print the telemetry bus, read under the semaphore. -/
  | printStatus
  /-- `kill(getppid(), signal)`. -/
  | killParent (signal : Signal)
  | sendFault (fault : Fault)
  /-- Print that the command is unknown. -/
  | printUnknown
deriving DecidableEq

/-- The branch `comms_handle_command` takes. -/
def commandEffect (cmd : CString) : CommandEffect :=
  if cmd = cmdStatus then .printStatus
  else if cmd = cmdSafeMode then .killParent .sigusr1
  else if cmd = cmdSnapshot then
    .sendFault ⟨info, 0.0, 0.0, .literal "Ground station requested snapshot"⟩
  else if cmd = cmdResetAdcs then .killParent .sigusr2
  else .printUnknown

/-- The copy of the command `comms_handle_command` keeps. -/
def storeCommand (cmd : CString) (comms : CommsData) : CommsData :=
  { comms with lastCommand := comms.lastCommand.strncpyButLast cmd }

/-- `comms_handle_command`. -/
def commsHandleCommand (cmd : CString) (comms : CommsData) : CommandEffect × CommsData :=
  (commandEffect cmd, storeCommand cmd comms)

end Fdir
