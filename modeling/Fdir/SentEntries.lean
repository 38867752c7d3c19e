/-
This file follows one fault report from its sender into the log.

The sender cuts its strings with `strncpy` to one byte less than the report's fields, and the
logger copies these with `strcpy` into an entry whose fields have the same sizes in another
order. Nothing is lost on the second way: what the log's bytes hold for the report is what the
first cut left of the sender's arguments.
-/

import Fdir.Logger

namespace Fdir

open CMemory FileProgram

/-- The subsystem name a helper puts in its reports. -/
def Sender.subsystem : Sender → CString
  | .power => .literal "POWER"
  | .thermal => .literal "THERMAL"
  | .comms => .literal "COMMS"

/-- What is left of a helper's arguments in the report's fields. -/
def Fault.sentContent (fault : Fault) (sender : Sender) (now : Timestamp) : ReportContent where
  subsystem := sender.subsystem
  severity := fault.severity.cut 11
  value := fault.value.toBits.toBitVec
  threshold := fault.threshold.toBits.toBitVec
  description := fault.desc.cut 63
  timestamp := now.text

theorem report_sendFault (sender : Sender) (fault : Fault) (now : Timestamp) :
    (sender.sendFault fault now).2 = fault.report sender.subsystem now := by
  cases sender <;> rfl

/-- The subsystem names fit their field. -/
theorem Sender.cut_subsystem (sender : Sender) : sender.subsystem.cut 15 = sender.subsystem := by
  cases sender <;> decide

theorem content_sendFault (sender : Sender) (fault : Fault) (now : Timestamp) :
    (sender.sendFault fault now).2.content = fault.sentContent sender now := by
  have subsystem := (CharArray.strncpyButLast_zeros sender.subsystem (show 0 < 16 by decide)).1
  have severity := (CharArray.strncpyButLast_zeros fault.severity (show 0 < 12 by decide)).1
  have description := (CharArray.strncpyButLast_zeros fault.desc (show 0 < 64 by decide)).1
  rw [report_sendFault]
  simp only [FaultReport.content, Fault.report, Fault.sentContent, subsystem, severity,
    description, CharArray.text_put, sender.cut_subsystem]

/-- The entry at an index of a log, as its bytes hold it. -/
def entryAt (bytes : List UInt8) (index : Nat) : FdrEntry :=
  .ofBytes (bytes.drop (headerSize + entrySize * index))

theorem length_entries (entries : List FdrEntry) :
    (entries.flatMap FdrEntry.toBytes).length = entrySize * entries.length := by
  induction entries with
  | nil => rfl
  | cons entry rest inductionHypothesis =>
    rw [List.flatMap_cons, List.length_append, entry.length_toBytes, inductionHypothesis,
      List.length_cons, Nat.mul_succ, Nat.add_comm]

/-- The last entry of a log is read back from its place. -/
theorem entryAt_snoc (header : FdrHeader) (entries : List FdrEntry) (entry : FdrEntry) :
    entryAt (logBytes header (entries ++ [entry])) entries.length = entry := by
  have place : (logBytes header entries).length = headerSize + entrySize * entries.length := by
    rw [logBytes, List.length_append, header.length_toBytes, length_entries]
  rw [entryAt, ← logBytes_snoc, ← place, List.drop_left]
  have read := entry.ofBytes_toBytes []
  rwa [List.append_nil] at read

/-- For every sender and all its arguments: the report's arrays are terminated; on any log
`fdr_write_entry` stays in bounds and writes, at the next index, an entry that reads back as what
the cuts left of the arguments; and the report's priority is the critical one exactly when the
logger finds it critical. -/
theorem sentFault_logged (sender : Sender) (fault : Fault) (now : Timestamp) :
    (sender.sendFault fault now).2.Terminated ∧
      (∀ stale header entries offset, ∃ file,
        (fdrWriteEntry stale (sender.sendFault fault now).2).run ⟨logBytes header entries, offset⟩ =
          some (0, file) ∧
        (entryAt file.bytes entries.length).content = fault.sentContent sender now) ∧
      ((sender.sendFault fault now).1 = mqPriorityCritical ↔
        (sender.sendFault fault now).2.IsCritical) := by
  have sent := sent_sendFault sender fault now
  refine ⟨sent.terminated, fun stale header entries offset => ?_, sent.critical_iff⟩
  obtain ⟨entry, built, _, carries⟩ :=
    newEntry_terminated header (sender.sendFault fault now).2 sent.terminated
  refine ⟨_, run_fdrWriteEntry stale header entries offset _ entry built, ?_⟩
  rw [entryAt_snoc, carries.content_eq, content_sendFault]

end Fdir
