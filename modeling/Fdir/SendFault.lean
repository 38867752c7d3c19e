/-
This file models how a fault report is built and what priority it is sent at: the
`power_send_fault`, `thermal_send_fault` and `comms_send_fault` helpers, which are one
function with three subsystem names, and the settings of the message queue.

The priority is chosen from the severity the caller gave; the logger later looks at the
severity in the report, which was cut to eleven bytes. The two agree on which reports
are critical.
-/

import Fdir.Common
import Fdir.PriorityQueue

namespace Fdir

open CMemory

/-! ### The message queue -/

/-- `MQ_MAX_MESSAGES`. -/
def mqMaxMessages : Nat := 10

def mqPriorityCritical : Nat := 9
def mqPriorityWarning : Nat := 5
def mqPriorityInfo : Nat := 1

/-- The queue `msgq_create` makes. -/
abbrev MessageQueue := PriorityQueue FaultReport mqMaxMessages

/-- Severity strings. -/
def critical : CString := .literal "CRITICAL"
def warning : CString := .literal "WARNING"
def info : CString := .literal "INFO"

/-! ### Senders -/

/-- What `get_timestamp` prints; a date and time need at most 27 bytes. -/
structure Timestamp where
  text : CString
  fits : text.bytes.length < 32

/-- The arguments of a `*_send_fault` helper. -/
structure Fault where
  severity : CString
  value : Float32
  threshold : Float32
  desc : CString
deriving DecidableEq

/-- The report a helper sends for a subsystem at a given time. -/
def Fault.report (fault : Fault) (subsystem : CString) (now : Timestamp) : FaultReport where
  subsystem := (CharArray.zeros 16).strncpyButLast subsystem
  severity := (CharArray.zeros 12).strncpyButLast fault.severity
  value := fault.value.toBits.toBitVec
  threshold := fault.threshold.toBits.toBitVec
  description := (CharArray.zeros 64).strncpyButLast fault.desc
  timestamp := (CharArray.zeros 32).put now.text now.fits

/-- The priority a helper chooses from the severity it was given. -/
def Fault.priority (fault : Fault) : Nat :=
  if fault.severity = critical then mqPriorityCritical
  else if fault.severity = warning then mqPriorityWarning
  else mqPriorityInfo

def powerSendFault (fault : Fault) (now : Timestamp) : Nat × FaultReport :=
  (fault.priority, fault.report (.literal "POWER") now)

def thermalSendFault (fault : Fault) (now : Timestamp) : Nat × FaultReport :=
  (fault.priority, fault.report (.literal "THERMAL") now)

def commsSendFault (fault : Fault) (now : Timestamp) : Nat × FaultReport :=
  (fault.priority, fault.report (.literal "COMMS") now)

/-- The processes that send fault reports. -/
inductive Sender where
  | power
  | thermal
  | comms
deriving DecidableEq

def Sender.sendFault : Sender → Fault → Timestamp → Nat × FaultReport
  | .power => powerSendFault
  | .thermal => thermalSendFault
  | .comms => commsSendFault

/-! ### What every sent report satisfies -/

/-- The logger's test `strcmp(report.severity, "CRITICAL") == 0`. -/
def FaultReport.IsCritical (report : FaultReport) : Prop := report.severity.text = critical

instance (report : FaultReport) : Decidable report.IsCritical :=
  inferInstanceAs (Decidable (_ = _))

/-- Cutting a string to eleven bytes makes it `CRITICAL` only if it was. -/
theorem cut_eq_critical (severity : CString) :
    severity.cut 11 = critical ↔ severity = critical := by
  have eight : critical.bytes.length = 8 := by decide
  constructor
  · intro same
    have lengths : min 11 severity.bytes.length = 8 := by
      rw [← eight, ← same, CString.cut, List.length_take]
    have short : severity.bytes.length ≤ 11 := by omega
    have whole : severity.cut 11 = severity := by
      obtain ⟨bytes, noNul⟩ := severity
      simp only [CString.cut, CString.mk.injEq]
      exact List.take_of_length_le short
    rwa [whole] at same
  · rintro rfl
    decide

/-- A message as the helpers send them: its arrays are terminated, and its priority is the
critical one exactly when the logger will find its severity critical. -/
structure Sent (message : Nat × FaultReport) : Prop where
  terminated : message.2.Terminated
  priority_le : message.1 ≤ mqPriorityCritical
  critical_iff : message.1 = mqPriorityCritical ↔ message.2.IsCritical

theorem terminated_report (fault : Fault) (subsystem : CString) (now : Timestamp) :
    (fault.report subsystem now).Terminated where
  subsystem := (CharArray.strncpyButLast_zeros subsystem (by decide)).2
  severity := (CharArray.strncpyButLast_zeros fault.severity (by decide)).2
  description := (CharArray.strncpyButLast_zeros fault.desc (by decide)).2
  timestamp := CharArray.terminated_put _ now.text now.fits

theorem isCritical_report (fault : Fault) (subsystem : CString) (now : Timestamp) :
    (fault.report subsystem now).IsCritical ↔ fault.severity = critical := by
  rw [FaultReport.IsCritical, Fault.report,
    (CharArray.strncpyButLast_zeros fault.severity (by decide)).1, cut_eq_critical]

theorem priority_eq_critical (fault : Fault) :
    fault.priority = mqPriorityCritical ↔ fault.severity = critical := by
  unfold Fault.priority
  split
  next same => simp [same]
  next other => split <;> simp [other, mqPriorityCritical, mqPriorityWarning, mqPriorityInfo]

theorem priority_le (fault : Fault) : fault.priority ≤ mqPriorityCritical := by
  unfold Fault.priority
  split
  · exact Nat.le_refl _
  · split <;> decide

/-- Every helper sends such messages. -/
theorem sent_sendFault (sender : Sender) (fault : Fault) (now : Timestamp) :
    Sent (sender.sendFault fault now) := by
  cases sender <;> exact ⟨terminated_report _ _ _, priority_le fault,
    (priority_eq_critical fault).trans (isCritical_report _ _ _).symm⟩

end Fdir
