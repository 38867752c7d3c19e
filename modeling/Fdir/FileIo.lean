/-
This file models `logger/file_io.c`: opening `fdr.log`, reading its header, and writing
one entry.

Each function is a program of system calls over the one open file description the
logger has. The local `header` of `fdr_write_entry` is not initialised before it is read
into, so whatever it held is a parameter. Building an entry copies the report's strings
with `strcpy`, which is undefined for an array without a terminator.
-/

import Fdir.Common
import Fdir.FileProgram

namespace Fdir

open CMemory

/-! ### `fdr_open` -/

/-- The header `fdr_open` builds for a new log. -/
def newHeader : Option FdrHeader := do
  let magic ← (CharArray.zeros 8).strcpyString (.literal "FDRLOG")
  let mission ← (CharArray.zeros 16).strcpyString (.literal missionName)
  return { magic, mission, version := 1, entryCount := 0, createdAt := .zeros 32,
           reserved := .zeros 52 }

/-- `fdr_open` after its `open` succeeded. -/
def fdrOpen : FileProgram Unit :=
  .lseek 0 .fromEnd fun size =>
    if size = 0 then
      match newHeader with
      | none => .undefined
      | some header => .lseek 0 .set fun _ => .write header.toBytes fun _ => .done ()
    else .done ()

/-! ### `fdr_read_header` -/

/-- `fdr_read_header`: the status returned and what it left in the caller's variable. -/
def fdrReadHeader (header : FdrHeader) : FileProgram (Int × FdrHeader) :=
  .lseek 0 .set fun _ =>
    .read headerSize fun
      | none => .done (-1, header)
      | some [] => .done (-1, header)
      | some (first :: rest) => .done (0, header.overlay (first :: rest))

/-! ### `fdr_write_entry` -/

/-- The entry `fdr_write_entry` builds from the header it read and the report. -/
def newEntry (header : FdrHeader) (report : FaultReport) : Option FdrEntry := do
  let subsystem ← (CharArray.zeros 16).strcpy report.subsystem
  let severity ← (CharArray.zeros 12).strcpy report.severity
  let description ← (CharArray.zeros 64).strcpy report.description
  let timestamp ← (CharArray.zeros 32).strcpy report.timestamp
  return { entryId := header.entryCount + 1, subsystem, severity, value := report.value,
           threshold := report.threshold, description, timestamp }

/-- `fdr_write_entry`; `stale` is what its uninitialised header variable holds. -/
def fdrWriteEntry (stale : FdrHeader) (report : FaultReport) : FileProgram Int :=
  (fdrReadHeader stale).bind fun (status, header) =>
    if status = -1 then .done (-1)
    else
      match newEntry header report with
      | none => .undefined
      | some entry =>
        .lseek 0 .fromEnd fun _ =>
        .write entry.toBytes fun _ =>
        .lseek entryCountOffset .set fun _ =>
        .write (storeWord (header.entryCount + 1)) fun _ => .done 0

/-! ### Records -/

/-- An entry carries a report: the same strings, value and threshold. -/
structure FdrEntry.Carries (entry : FdrEntry) (report : FaultReport) : Prop where
  subsystem : entry.subsystem.text = report.subsystem.text
  severity : entry.severity.text = report.severity.text
  value : entry.value = report.value
  threshold : entry.threshold = report.threshold
  description : entry.description.text = report.description.text
  timestamp : entry.timestamp.text = report.timestamp.text

/-- From a terminated report an entry is built that carries it under the next number. -/
theorem newEntry_terminated (header : FdrHeader) (report : FaultReport)
    (terminated : report.Terminated) :
    ∃ entry, newEntry header report = some entry ∧
      entry.entryId = header.entryCount + 1 ∧ entry.Carries report := by
  obtain ⟨subsystem, copied₁, same₁⟩ :=
    CharArray.strcpy_same_size (.zeros 16) report.subsystem terminated.subsystem
  obtain ⟨severity, copied₂, same₂⟩ :=
    CharArray.strcpy_same_size (.zeros 12) report.severity terminated.severity
  obtain ⟨description, copied₃, same₃⟩ :=
    CharArray.strcpy_same_size (.zeros 64) report.description terminated.description
  obtain ⟨timestamp, copied₄, same₄⟩ :=
    CharArray.strcpy_same_size (.zeros 32) report.timestamp terminated.timestamp
  refine ⟨{ entryId := header.entryCount + 1, subsystem, severity, value := report.value,
            threshold := report.threshold, description, timestamp }, ?_, rfl,
    ⟨same₁, same₂, rfl, rfl, same₃, same₄⟩⟩
  simp only [newEntry, copied₁, copied₂, copied₃, copied₄]
  rfl

/-- A log: a header and whole entries, nothing else. -/
def logBytes (header : FdrHeader) (entries : List FdrEntry) : List UInt8 :=
  header.toBytes ++ entries.flatMap FdrEntry.toBytes

theorem logBytes_snoc (header : FdrHeader) (entries : List FdrEntry) (entry : FdrEntry) :
    logBytes header entries ++ entry.toBytes = logBytes header (entries ++ [entry]) := by
  simp only [logBytes, List.append_assoc, List.flatMap_append, List.flatMap_cons,
    List.flatMap_nil, List.append_nil]

/-- The bytes of a log determine its header and its entries. -/
theorem logBytes_inj {header header' : FdrHeader} {entries entries' : List FdrEntry} :
    logBytes header entries = logBytes header' entries' ↔
      header = header' ∧ entries = entries' := by
  have flat : ∀ {first second : List FdrEntry},
      first.flatMap FdrEntry.toBytes = second.flatMap FdrEntry.toBytes → first = second := by
    intro first
    induction first with
    | nil =>
      intro second same
      cases second with
      | nil => rfl
      | cons entry rest =>
        have length := congrArg List.length same
        rw [List.flatMap_cons, List.length_append, entry.length_toBytes, entrySize,
          List.flatMap_nil, List.length_nil] at length
        omega
    | cons entry rest inductionHypothesis =>
      intro second same
      cases second with
      | nil =>
        have length := congrArg List.length same
        rw [List.flatMap_cons, List.length_append, entry.length_toBytes, entrySize,
          List.flatMap_nil, List.length_nil] at length
        omega
      | cons other others =>
        rw [List.flatMap_cons, List.flatMap_cons] at same
        obtain ⟨head, tail⟩ := List.append_inj same
          (by rw [entry.length_toBytes, other.length_toBytes])
        rw [FdrEntry.toBytes_injective head, inductionHypothesis tail]
  constructor
  · intro same
    obtain ⟨head, tail⟩ := List.append_inj same
      (by rw [header.length_toBytes, header'.length_toBytes])
    refine ⟨?_, flat tail⟩
    rw [← header.ofBytes_toBytes, head, header'.ofBytes_toBytes]
  · rintro ⟨rfl, rfl⟩
    rfl

/-- Storing a word at the count's offset changes the count and nothing else. -/
theorem overwrite_entryCount (header : FdrHeader) (entries : List FdrEntry)
    (count : BitVec 32) :
    FileProgram.OpenFile.overwrite (logBytes header entries) entryCountOffset
        (storeWord count) =
      logBytes { header with entryCount := count } entries := by
  have split : logBytes header entries = header.front ++ storeWord header.entryCount ++
      (header.back ++ entries.flatMap FdrEntry.toBytes) := by
    simp only [logBytes, FdrHeader.toBytes, List.append_assoc]
  rw [split, ← header.length_front,
    FileProgram.OpenFile.overwrite_middle _ (storeWord header.entryCount) _ (storeWord count) rfl]
  simp only [logBytes, FdrHeader.toBytes, FdrHeader.front, FdrHeader.back, List.append_assoc]

/-- `fdr_read_header` on a log delivers its header. -/
theorem run_fdrReadHeader (stale header : FdrHeader) (entries : List FdrEntry)
    (offset : Nat) :
    (fdrReadHeader stale).run ⟨logBytes header entries, offset⟩ =
      some ((0, header), ⟨logBytes header entries, headerSize⟩) := by
  have read : ((logBytes header entries).drop 0).take headerSize = header.toBytes :=
    List.take_left' header.length_toBytes
  obtain ⟨first, rest, shape⟩ : ∃ first rest, header.toBytes = first :: rest :=
    List.exists_cons_of_length_pos (by rw [header.length_toBytes, headerSize]; omega)
  simp only [fdrReadHeader, FileProgram.run_lseek_set, FileProgram.run_read, read]
  have size := header.length_toBytes
  rw [shape] at size
  simp only [shape, FileProgram.run_done, size, Nat.zero_add]
  rw [← shape, FdrHeader.overlay_toBytes]

/-- `fdr_write_entry` on a log appends one entry and counts it. -/
theorem run_fdrWriteEntry (stale header : FdrHeader) (entries : List FdrEntry) (offset : Nat)
    (report : FaultReport) (entry : FdrEntry) (built : newEntry header report = some entry) :
    (fdrWriteEntry stale report).run ⟨logBytes header entries, offset⟩ =
      some (0, ⟨logBytes { header with entryCount := header.entryCount + 1 }
        (entries ++ [entry]), entryCountOffset + 4⟩) := by
  rw [fdrWriteEntry, FileProgram.run_bind, run_fdrReadHeader]
  simp only [Option.bind_some]
  rw [if_neg (by decide)]
  simp only [built, FileProgram.run_lseek_fromEnd, FileProgram.run_write,
    FileProgram.run_lseek_set, FileProgram.run_done, FileProgram.OpenFile.overwrite_length,
    logBytes_snoc, overwrite_entryCount, length_storeWord]

/-- `fdr_open` on an empty file writes the new header. -/
theorem run_fdrOpen_empty (header : FdrHeader) (built : newHeader = some header) :
    fdrOpen.run ⟨[], 0⟩ = some ((), ⟨logBytes header [], headerSize⟩) := by
  have written := FileProgram.OpenFile.overwrite_length [] header.toBytes
  simp only [List.length_nil, List.nil_append] at written
  simp only [fdrOpen, FileProgram.run_lseek_fromEnd, List.length_nil]
  rw [if_pos (by decide)]
  simp only [built, FileProgram.run_lseek_set, FileProgram.run_write, FileProgram.run_done,
    written, header.length_toBytes, Nat.zero_add, logBytes, List.flatMap_nil, List.append_nil]

/-- `fdr_open` on a log leaves it alone. -/
theorem run_fdrOpen_existing (header : FdrHeader) (entries : List FdrEntry) :
    fdrOpen.run ⟨logBytes header entries, 0⟩ =
      some ((), ⟨logBytes header entries, (logBytes header entries).length⟩) := by
  have nonempty : ((logBytes header entries).length : Int) ≠ 0 := by
    rw [logBytes, List.length_append, header.length_toBytes, headerSize]
    omega
  simp only [fdrOpen, FileProgram.run_lseek_fromEnd]
  rw [if_neg nonempty, FileProgram.run_done]

end Fdir
