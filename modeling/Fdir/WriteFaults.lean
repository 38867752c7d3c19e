/-
This file states when `fdr_write_entry` reports truthfully what reached the file.

Each of its six system calls may fail, and the read and the two writes may also stop short.
Only the result of the read is looked at: once the header has been read, wholly or in part, the
function returns 0 whatever becomes of the entry and of the count. So its result is right, and
the count stays behind the entries, exactly when the header could not be read at all, or when
all that follows takes effect.
-/

import Fdir.FlightLog

namespace Fdir

open CMemory FileProgram

/-! ### Outcomes -/

/-- What the kernel does with the six system calls of `fdr_write_entry`. -/
structure WriteOutcomes where
  seekStart : Outcome
  readHeader : Outcome
  seekEnd : Outcome
  writeEntry : Outcome
  seekCount : Outcome
  writeCount : Outcome
deriving DecidableEq

namespace WriteOutcomes

variable (outcomes : WriteOutcomes) (file : OpenFile)

/-- The outcomes in the order of the calls. -/
def list : List Outcome :=
  [outcomes.seekStart, outcomes.readHeader, outcomes.seekEnd, outcomes.writeEntry,
    outcomes.seekCount, outcomes.writeCount]

/-- Where the header is read from. -/
def start : Nat := if outcomes.seekStart = .fail then file.offset else 0

/-- The bytes the read of the header delivers. -/
def delivered : List UInt8 :=
  (file.bytes.drop (outcomes.start file)).take (outcomes.readHeader.stored headerSize)

/-- Where the entry is written. -/
def entryOffset : Nat :=
  if outcomes.seekEnd = .fail then outcomes.start file + (outcomes.delivered file).length
  else file.bytes.length

/-- Where the count is written. -/
def countOffset : Nat :=
  if outcomes.seekCount = .fail then
    outcomes.entryOffset file + outcomes.writeEntry.stored entrySize
  else entryCountOffset

/-- The bytes after as much of an entry and of a count was written as the outcomes allow. -/
def written (entry : FdrEntry) (count : BitVec 32) : List UInt8 :=
  OpenFile.overwrite
    (OpenFile.overwrite file.bytes (outcomes.entryOffset file)
      (entry.toBytes.take (outcomes.writeEntry.stored entrySize)))
    (outcomes.countOffset file) ((storeWord count).take (outcomes.writeCount.stored 4))

end WriteOutcomes

/-! ### What the calls do -/

theorem lseek_start (file : OpenFile) (outcome : Outcome) :
    (file.lseek 0 .set outcome).2 =
      ⟨file.bytes, if outcome = .fail then file.offset else 0⟩ := by
  cases outcome <;> rfl

/-- The read of the header delivers what it is said to; none of it if the read fails. -/
theorem read_start (outcomes : WriteOutcomes) (file : OpenFile) :
    let result := OpenFile.read ⟨file.bytes, outcomes.start file⟩ headerSize outcomes.readHeader
    result.1.getD [] = outcomes.delivered file ∧
      result.2 = ⟨file.bytes, outcomes.start file + (outcomes.delivered file).length⟩ := by
  rw [WriteOutcomes.delivered]
  cases outcomes.readHeader with
  | full | short => exact ⟨rfl, rfl⟩
  | fail => exact ⟨rfl, by rw [Outcome.stored, List.take_zero]; rfl⟩

section

variable {outcomes : WriteOutcomes} {file : OpenFile} {stale : FdrHeader} {report : FaultReport}

/-- What `fdr_read_header` hands to the rest of a program. -/
theorem exec_fdrReadHeader {Result : Type} (next : Int × FdrHeader → FileProgram Result)
    (rest : List Outcome) :
    ((fdrReadHeader stale).bind next).exec (outcomes.seekStart :: outcomes.readHeader :: rest)
        file =
      (next (if outcomes.delivered file = [] then (-1, stale)
        else (0, stale.overlay (outcomes.delivered file)))).exec rest
        ⟨file.bytes, outcomes.start file + (outcomes.delivered file).length⟩ := by
  obtain ⟨data, moved⟩ := read_start outcomes file
  simp only [fdrReadHeader, FileProgram.bind, exec_lseek, lseek_start, exec_read]
  rw [show (if outcomes.seekStart = .fail then file.offset else 0) = outcomes.start file from rfl,
    moved, ← data]
  cases (OpenFile.read ⟨file.bytes, outcomes.start file⟩ headerSize outcomes.readHeader).1 with
  | none => rfl
  | some bytes => cases bytes <;> rfl

/-- Without a byte of the header nothing is written. -/
theorem exec_fdrWriteEntry_unread (nothing : outcomes.delivered file = []) :
    (fdrWriteEntry stale report).exec outcomes.list file =
      some (-1, ⟨file.bytes, outcomes.start file + (outcomes.delivered file).length⟩) := by
  rw [fdrWriteEntry, WriteOutcomes.list, exec_fdrReadHeader, if_pos nothing]
  rfl

/-- The end of the bytes delivered is inside the file. -/
theorem start_add_delivered_le (read : outcomes.delivered file ≠ []) :
    outcomes.start file + (outcomes.delivered file).length ≤ file.bytes.length := by
  have some : 0 < (outcomes.delivered file).length := List.length_pos_iff.mpr read
  rw [WriteOutcomes.delivered, List.length_take, List.length_drop] at some ⊢
  omega

theorem entryOffset_le (read : outcomes.delivered file ≠ []) :
    outcomes.entryOffset file ≤ file.bytes.length := by
  rw [WriteOutcomes.entryOffset]
  split
  · exact start_add_delivered_le read
  · exact Nat.le_refl _

theorem length_stored (entry : FdrEntry) (outcome : Outcome) :
    (entry.toBytes.take (outcome.stored entrySize)).length = outcome.stored entrySize := by
  rw [List.length_take, entry.length_toBytes, Nat.min_eq_left (outcome.stored_le _)]

/-- The count is written inside the file. -/
theorem countOffset_le (whole : headerSize ≤ file.bytes.length)
    (inside : outcomes.entryOffset file ≤ file.bytes.length) (entry : FdrEntry) :
    outcomes.countOffset file ≤ (OpenFile.overwrite file.bytes (outcomes.entryOffset file)
      (entry.toBytes.take (outcomes.writeEntry.stored entrySize))).length := by
  rw [OpenFile.length_overwrite inside, length_stored, WriteOutcomes.countOffset]
  rw [headerSize] at whole
  split
  · exact Nat.le_max_right _ _
  · exact (show 28 ≤ _ by omega : entryCountOffset ≤ _).trans (Nat.le_max_left _ _)

/-- With some of the header read the result is 0, and the rest goes as far as it may. -/
theorem exec_fdrWriteEntry_read (whole : headerSize ≤ file.bytes.length)
    (read : outcomes.delivered file ≠ []) {entry : FdrEntry}
    (built : newEntry (stale.overlay (outcomes.delivered file)) report = some entry) :
    (fdrWriteEntry stale report).exec outcomes.list file =
      some (0, ⟨outcomes.written file entry
        ((stale.overlay (outcomes.delivered file)).entryCount + 1),
        outcomes.countOffset file + outcomes.writeCount.stored 4⟩) := by
  have seekEnd : (OpenFile.lseek ⟨file.bytes, outcomes.start file +
      (outcomes.delivered file).length⟩ 0 .fromEnd outcomes.seekEnd).2 =
        ⟨file.bytes, outcomes.entryOffset file⟩ := by
    rw [WriteOutcomes.entryOffset]
    cases outcomes.seekEnd <;> simp [OpenFile.lseek]
  have inside := entryOffset_le read
  have writeEntry : (OpenFile.write ⟨file.bytes, outcomes.entryOffset file⟩ entry.toBytes
      outcomes.writeEntry).2 = _ := OpenFile.write_snd _ _ inside
  have seekCount : ∀ bytes, (OpenFile.lseek ⟨bytes, outcomes.entryOffset file +
      outcomes.writeEntry.stored entrySize⟩ entryCountOffset .set outcomes.seekCount).2 =
        ⟨bytes, outcomes.countOffset file⟩ := by
    intro bytes
    rw [WriteOutcomes.countOffset]
    cases outcomes.seekCount <;> simp [OpenFile.lseek]
  rw [fdrWriteEntry, WriteOutcomes.list, exec_fdrReadHeader, if_neg read]
  simp only [built]
  rw [if_neg (by decide)]
  simp only [exec_lseek, exec_write, exec_done, seekEnd]
  rw [writeEntry, entry.length_toBytes, seekCount,
    OpenFile.write_snd _ _ (countOffset_le whole inside entry)]
  rfl

end

/-! ### A truthful result -/

/-- How many complete entries the bytes of a log have room for after its header. -/
def completeEntries (bytes : List UInt8) : Nat := (bytes.length - headerSize) / entrySize

/-- A call on a log that began with `header` and went on with `body` gave `status` and left
`after`, and the two agree: 0 stands for a whole new entry and the incremented count, an entry
that was not written whole gives -1 and leaves the count, and the count has not overtaken the
entries. -/
structure Reported (header : FdrHeader) (body : List UInt8) (report : FaultReport)
    (outcomes : WriteOutcomes) (status : Int) (after : List UInt8) : Prop where
  stored : status = 0 → ∃ entry, newEntry header report = some entry ∧
    after = { header with entryCount := header.entryCount + 1 }.toBytes ++ body ++ entry.toBytes
  failed : outcomes.writeEntry.stored entrySize < entrySize →
    status = -1 ∧ (FdrHeader.ofBytes after).entryCount = header.entryCount
  ahead : header.entryCount.toInt ≤ completeEntries (header.toBytes ++ body) →
    (FdrHeader.ofBytes after).entryCount.toInt ≤ completeEntries after

/-- Everything after the read of the header takes effect: the count it read is the one in the
file, the entry is written whole and at the end, and so much of the count is written that what
is left of the old one is right. -/
structure WriteOutcomes.TakeEffect (outcomes : WriteOutcomes) (stale header : FdrHeader)
    (file : OpenFile) : Prop where
  count : (stale.overlay (outcomes.delivered file)).entryCount = header.entryCount
  atEnd : outcomes.seekEnd ≠ .fail ∨
    outcomes.start file + (outcomes.delivered file).length = file.bytes.length
  entry : outcomes.writeEntry.stored entrySize = entrySize
  seekCount : outcomes.seekCount ≠ .fail
  carried : (storeWord header.entryCount).drop (outcomes.writeCount.stored 4) =
    (storeWord (header.entryCount + 1)).drop (outcomes.writeCount.stored 4)

theorem storeWord_injective : Function.Injective storeWord := by
  intro first second same
  rw [← loadWord_storeWord first, same, loadWord_storeWord]

theorem entryCount_ofBytes (header : FdrHeader) (rest : List UInt8) :
    (FdrHeader.ofBytes (header.toBytes ++ rest)).entryCount = header.entryCount := by
  have read := loadWord_at header.entryCount header.front (header.back ++ rest) entryCountOffset
    header.length_front
  rwa [← List.append_assoc] at read

/-- The bytes up to the end of the count. -/
theorem take_count (header : FdrHeader) (rest : List UInt8) :
    (header.toBytes ++ rest).take 32 = header.front ++ storeWord header.entryCount := by
  have length : (header.front ++ storeWord header.entryCount).length = 32 := by
    rw [List.length_append, header.length_front, length_storeWord, entryCountOffset]
  rw [FdrHeader.toBytes, List.append_assoc, List.take_left' length]

section

variable {header stale : FdrHeader} {body : List UInt8} {offset : Nat}
  {outcomes : WriteOutcomes} {entry : FdrEntry}

/-- What is written when the entry goes whole to the end and the count to its place. -/
theorem written_eq (atEnd : outcomes.entryOffset ⟨header.toBytes ++ body, offset⟩ =
      (header.toBytes ++ body).length)
    (whole : outcomes.writeEntry.stored entrySize = entrySize)
    (seekCount : outcomes.seekCount ≠ .fail) (count : BitVec 32) :
    outcomes.written ⟨header.toBytes ++ body, offset⟩ entry count =
      header.front ++ ((storeWord count).take (outcomes.writeCount.stored 4) ++
        (storeWord header.entryCount).drop (outcomes.writeCount.stored 4)) ++
        (header.back ++ body ++ entry.toBytes) := by
  have middle : header.toBytes ++ body ++ entry.toBytes = header.front ++
      (storeWord header.entryCount).take (outcomes.writeCount.stored 4) ++
      ((storeWord header.entryCount).drop (outcomes.writeCount.stored 4) ++
        (header.back ++ body ++ entry.toBytes)) := by
    rw [List.append_assoc header.front, ← List.append_assoc (List.take _ _),
      List.take_append_drop]
    simp only [FdrHeader.toBytes, List.append_assoc]
  have all : entry.toBytes.take entrySize = entry.toBytes := by
    rw [← entry.length_toBytes, List.take_length]
  rw [WriteOutcomes.written, WriteOutcomes.countOffset, if_neg seekCount, atEnd, whole, all,
    OpenFile.overwrite_length, middle, ← header.length_front, OpenFile.overwrite_middle]
  · simp only [List.append_assoc]
  · rw [List.length_take, List.length_take, length_storeWord, length_storeWord]

theorem entryOffset_eq_iff {file : OpenFile} :
    outcomes.entryOffset file = file.bytes.length ↔ outcomes.seekEnd ≠ .fail ∨
      outcomes.start file + (outcomes.delivered file).length = file.bytes.length := by
  rw [WriteOutcomes.entryOffset]
  split
  next failed => simp [failed]
  next moved => simp [moved]

/-- If everything takes effect, a whole entry is added and counted. -/
theorem WriteOutcomes.TakeEffect.written_eq
    (effect : outcomes.TakeEffect stale header ⟨header.toBytes ++ body, offset⟩) :
    outcomes.written ⟨header.toBytes ++ body, offset⟩ entry (header.entryCount + 1) =
      { header with entryCount := header.entryCount + 1 }.toBytes ++ body ++ entry.toBytes := by
  rw [Fdir.written_eq (entryOffset_eq_iff.mpr effect.atEnd) effect.entry effect.seekCount,
    effect.carried, List.take_append_drop]
  simp only [FdrHeader.toBytes, FdrHeader.front, FdrHeader.back, List.append_assoc]

/-- If a whole entry is added and counted, it was written at the end and the count in its place. -/
theorem places_of_written {counted : FdrEntry} {count : BitVec 32}
    (read : outcomes.delivered ⟨header.toBytes ++ body, offset⟩ ≠ [])
    (whole : outcomes.writeEntry.stored entrySize = entrySize)
    (same : outcomes.written ⟨header.toBytes ++ body, offset⟩ entry count =
      { header with entryCount := header.entryCount + 1 }.toBytes ++ body ++ counted.toBytes) :
    outcomes.seekCount ≠ .fail ∧ outcomes.entryOffset ⟨header.toBytes ++ body, offset⟩ =
      (header.toBytes ++ body).length := by
  have inside : outcomes.entryOffset ⟨header.toBytes ++ body, offset⟩ ≤
      (header.toBytes ++ body).length := entryOffset_le read
  have size : (header.toBytes ++ body).length = headerSize + body.length := by
    rw [List.length_append, header.length_toBytes]
  have inside' := countOffset_le (by rw [size]; exact Nat.le_add_right _ _) inside entry
  have atMost := outcomes.writeCount.stored_le 4
  have sizes : entrySize = 136 ∧ headerSize = 116 ∧ entryCountOffset = 28 := ⟨rfl, rfl, rfl⟩
  have lengths : max (max (header.toBytes ++ body).length
        (outcomes.entryOffset ⟨header.toBytes ++ body, offset⟩ + entrySize))
      (outcomes.countOffset ⟨header.toBytes ++ body, offset⟩ + outcomes.writeCount.stored 4) =
      (header.toBytes ++ body).length + entrySize := by
    have equal := congrArg List.length same
    rw [WriteOutcomes.written, OpenFile.length_overwrite inside', OpenFile.length_overwrite inside,
      length_stored, whole, List.length_take, length_storeWord, Nat.min_eq_left atMost] at equal
    rw [equal]
    simp only [List.length_append, FdrHeader.length_toBytes, counted.length_toBytes]
  have seekCount : outcomes.seekCount ≠ .fail := by
    intro failed
    -- The count would then lie behind the entry, and its field would not have changed.
    have place : outcomes.countOffset ⟨header.toBytes ++ body, offset⟩ =
        outcomes.entryOffset ⟨header.toBytes ++ body, offset⟩ + entrySize := by
      rw [WriteOutcomes.countOffset, if_pos failed, whole]
    have fields := congrArg (List.take 32) same
    rw [WriteOutcomes.written, OpenFile.take_overwrite (by omega) inside',
      OpenFile.take_overwrite (by omega) inside, take_count, List.append_assoc, take_count]
      at fields
    have unchanged := storeWord_injective (List.append_cancel_left fields)
    bv_omega
  have place : outcomes.countOffset ⟨header.toBytes ++ body, offset⟩ = entryCountOffset :=
    if_neg seekCount
  exact ⟨seekCount, by omega⟩

/-- If a whole entry is added and counted, everything took effect. -/
theorem takeEffect_of_written {counted : FdrEntry}
    (read : outcomes.delivered ⟨header.toBytes ++ body, offset⟩ ≠ [])
    (whole : outcomes.writeEntry.stored entrySize = entrySize)
    (numbered : entry.entryId =
      (stale.overlay (outcomes.delivered ⟨header.toBytes ++ body, offset⟩)).entryCount + 1)
    (numbered' : counted.entryId = header.entryCount + 1)
    (same : outcomes.written ⟨header.toBytes ++ body, offset⟩ entry
        ((stale.overlay (outcomes.delivered ⟨header.toBytes ++ body, offset⟩)).entryCount + 1) =
      { header with entryCount := header.entryCount + 1 }.toBytes ++ body ++ counted.toBytes) :
    outcomes.TakeEffect stale header ⟨header.toBytes ++ body, offset⟩ := by
  obtain ⟨seekCount, atEnd⟩ := places_of_written read whole same
  have expected : { header with entryCount := header.entryCount + 1 }.toBytes ++ body ++
      counted.toBytes = header.front ++ storeWord (header.entryCount + 1) ++
        (header.back ++ body ++ counted.toBytes) := by
    simp only [FdrHeader.toBytes, List.append_assoc]
    rfl
  rw [Fdir.written_eq atEnd whole seekCount, expected] at same
  obtain ⟨fields, rest⟩ := List.append_inj same (by
    simp only [List.length_append, List.length_take, List.length_drop, length_storeWord]
    omega)
  have words := List.append_cancel_left fields
  have entries : entry = counted := FdrEntry.toBytes_injective (List.append_cancel_left rest)
  have count : (stale.overlay (outcomes.delivered ⟨header.toBytes ++ body, offset⟩)).entryCount =
      header.entryCount := by
    rw [entries, numbered'] at numbered
    exact (BitVec.add_left_inj 1).mp numbered.symm
  refine ⟨count, entryOffset_eq_iff.mp atEnd, whole, seekCount, ?_⟩
  rw [count] at words
  exact List.append_cancel_left (words.trans (List.take_append_drop _ _).symm)

/-- An incremented count is no further on than one, even if it wraps around. -/
theorem toInt_add_one_le (count : BitVec 32) : (count + 1).toInt ≤ count.toInt + 1 := by
  have one : (1 : BitVec 32).toInt = 1 := by decide
  have small : -2 ^ 31 ≤ count.toInt := count.le_toInt
  rw [BitVec.toInt_add, one, Int.bmod_eq_emod]
  split <;> omega

/-- An entry more is one complete entry more. -/
theorem completeEntries_append (header header' : FdrHeader) (body : List UInt8)
    (entry : FdrEntry) :
    completeEntries (header'.toBytes ++ body ++ entry.toBytes) =
      completeEntries (header.toBytes ++ body) + 1 := by
  have size : (header'.toBytes ++ body ++ entry.toBytes).length - headerSize =
      (header.toBytes ++ body).length - headerSize + entrySize := by
    simp only [List.length_append, FdrHeader.length_toBytes, entry.length_toBytes]
    omega
  rw [completeEntries, size, completeEntries, Nat.add_div_right _ (by decide)]

end

/-- For every log, every report, every place the descriptor may be at and every outcome of the
six calls: `fdr_write_entry` reports truthfully exactly when it could read nothing of the header,
or all that follows takes effect. -/
theorem fdrWriteEntry_reported_iff (header stale : FdrHeader) (body : List UInt8) (offset : Nat)
    (report : FaultReport) (outcomes : WriteOutcomes) (terminated : report.Terminated) :
    ∃ status file, (fdrWriteEntry stale report).exec outcomes.list
        ⟨header.toBytes ++ body, offset⟩ = some (status, file) ∧
      (Reported header body report outcomes status file.bytes ↔
        outcomes.delivered ⟨header.toBytes ++ body, offset⟩ = [] ∨
          outcomes.TakeEffect stale header ⟨header.toBytes ++ body, offset⟩) := by
  have whole : headerSize ≤ (header.toBytes ++ body).length := by
    rw [List.length_append, header.length_toBytes]
    exact Nat.le_add_right _ _
  by_cases read : outcomes.delivered ⟨header.toBytes ++ body, offset⟩ = []
  · refine ⟨_, _, exec_fdrWriteEntry_unread read, iff_of_true ?_ (.inl read)⟩
    have count := entryCount_ofBytes header body
    exact ⟨nofun, fun _ => ⟨rfl, count⟩, fun behind => by rw [count]; exact behind⟩
  · obtain ⟨entry, built, numbered, _⟩ := newEntry_terminated
      (stale.overlay (outcomes.delivered ⟨header.toBytes ++ body, offset⟩)) report terminated
    obtain ⟨counted, built', numbered', _⟩ := newEntry_terminated header report terminated
    refine ⟨_, _, exec_fdrWriteEntry_read whole read built, ?_⟩
    rw [or_iff_right read]
    constructor
    · intro reported
      obtain ⟨other, again, same⟩ := reported.stored rfl
      cases built'.symm.trans again
      have all : outcomes.writeEntry.stored entrySize = entrySize := by
        refine (outcomes.writeEntry.stored_le _).antisymm (not_lt.mp fun less => ?_)
        cases (reported.failed less).1
      exact takeEffect_of_written read all numbered numbered' same
    · intro effect
      have same : newEntry (stale.overlay (outcomes.delivered ⟨header.toBytes ++ body, offset⟩))
          report = newEntry header report := by
        unfold newEntry
        rw [effect.count]
      rw [same] at built
      have count : (FdrHeader.ofBytes
          ({ header with entryCount := header.entryCount + 1 }.toBytes ++ body ++
            entry.toBytes)).entryCount = header.entryCount + 1 := by
        rw [List.append_assoc, entryCount_ofBytes]
      rw [effect.count, effect.written_eq]
      refine ⟨fun _ => ⟨entry, built, rfl⟩, fun less => ?_, fun behind => ?_⟩
      · exact absurd effect.entry less.ne
      · rw [count, completeEntries_append header]
        have next := toInt_add_one_le header.entryCount
        omega

/-- The header of a log `fdr_open` has just made. -/
def freshHeader : FdrHeader := newHeader.getD (.ofBytes [])

/-- Every call succeeds in full. -/
def allFull : WriteOutcomes := ⟨.full, .full, .full, .full, .full, .full⟩

theorem fdrWriteEntry_reported_iff_allFull :
    ∃ status file, (fdrWriteEntry freshHeader (sampleReport "WARNING")).exec allFull.list
        ⟨freshHeader.toBytes ++ [], 0⟩ = some (status, file) ∧
      (Reported freshHeader [] (sampleReport "WARNING") allFull status file.bytes ↔
        allFull.delivered ⟨freshHeader.toBytes ++ [], 0⟩ = [] ∨
          allFull.TakeEffect freshHeader freshHeader
            ⟨freshHeader.toBytes ++ [], 0⟩) :=
  fdrWriteEntry_reported_iff freshHeader freshHeader [] 0 (sampleReport "WARNING") allFull
    (by decide)

/-- The disk is full: the entry's write fails, and the count's does not, since it overwrites. -/
theorem not_fdrWriteEntry_reported :
    ¬ ∀ (header stale : FdrHeader) (body : List UInt8) (offset : Nat) (report : FaultReport)
      (outcomes : WriteOutcomes) (status : Int) (file : OpenFile), report.Terminated →
      (fdrWriteEntry stale report).exec outcomes.list ⟨header.toBytes ++ body, offset⟩ =
        some (status, file) →
      Reported header body report outcomes status file.bytes := by
  intro claimed
  have reported := claimed freshHeader freshHeader [] 0 (sampleReport "WARNING")
    { allFull with writeEntry := .fail } 0 _ (by decide) rfl
  cases (reported.failed (by decide)).1

end Fdir
