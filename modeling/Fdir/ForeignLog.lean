/-
This file states what becomes of a file at the log's path that is not a log.

`fdr_open` looks only at whether the file is empty, `fdr_read_header` is content with a single
byte, and nobody compares the magic. So whatever the file holds, the first entry written is
appended to it, under a number computed from its bytes or from a variable that was never set,
and four of its bytes are overwritten with a count.
-/

import Fdir.FlightLog

namespace Fdir

open CMemory FileProgram

/-- The bytes begin with a complete header that carries the magic. -/
def Recognised (bytes : List UInt8) : Prop :=
  headerSize ≤ bytes.length ∧ (FdrHeader.ofBytes bytes).magic.text = .literal "FDRLOG"

instance (bytes : List UInt8) : Decidable (Recognised bytes) :=
  inferInstanceAs (Decidable (_ ∧ _))

/-- Whatever the logger's sessions do with the file, they write no entry and no byte of it. -/
def LeftAlone (content : List UInt8) : Prop :=
  ∀ calls world reports, (∀ report ∈ reportsOf calls, report.Terminated) →
    logMachine.run ⟨some content, none⟩ calls = some (world, reports) →
    reports = [] ∧ world.file = some content

/-- `fdr_write_entry` on any file with a byte in it. -/
theorem run_fdrWriteEntry_nonempty {stale : FdrHeader} {report : FaultReport}
    {content : List UInt8} (nonempty : content ≠ []) (offset : Nat) {entry : FdrEntry}
    (built : newEntry (stale.overlay (content.take headerSize)) report = some entry) :
    (fdrWriteEntry stale report).run ⟨content, offset⟩ =
      some (0, ⟨OpenFile.overwrite (content ++ entry.toBytes) entryCountOffset
        (storeWord ((stale.overlay (content.take headerSize)).entryCount + 1)),
        entryCountOffset + 4⟩) := by
  have header : (fdrReadHeader stale).run ⟨content, offset⟩ =
      some ((0, stale.overlay (content.take headerSize)),
        ⟨content, (content.take headerSize).length⟩) := by
    obtain ⟨first, rest, rfl⟩ := List.exists_cons_of_ne_nil nonempty
    simp only [fdrReadHeader, run_lseek_set, run_read, List.drop_zero, Nat.zero_add]
    rfl
  rw [fdrWriteEntry, run_bind, header]
  simp only [Option.bind_some]
  rw [if_neg (by decide)]
  simp only [built, run_lseek_fromEnd, run_write, run_lseek_set, run_done,
    OpenFile.overwrite_length, length_storeWord]

/-- `fdr_open` on any file with a byte in it. -/
theorem run_fdrOpen_nonempty {content : List UInt8} (nonempty : content ≠ []) :
    fdrOpen.run ⟨content, 0⟩ = some ((), ⟨content, content.length⟩) := by
  have positive : (content.length : Int) ≠ 0 := by
    have some := List.length_pos_iff.mpr nonempty
    omega
  rw [fdrOpen, run_lseek_fromEnd, if_neg positive, run_done]

/-- A terminated report makes such a file longer. -/
theorem step_fdrWriteEntry_nonempty {content : List UInt8} (nonempty : content ≠ [])
    (offset : Nat) (stale : FdrHeader) (report : FaultReport) (terminated : report.Terminated) :
    ∃ after offset', LogWorld.step ⟨some content, some offset⟩ (.fdrWriteEntry stale report) =
        some (⟨some after, some offset'⟩, [report]) ∧ content.length < after.length := by
  obtain ⟨entry, built, _⟩ := newEntry_terminated (stale.overlay (content.take headerSize))
    report terminated
  refine ⟨_, _, by simp only [LogWorld.step, run_fdrWriteEntry_nonempty nonempty _ built]; rfl, ?_⟩
  have inside : entryCountOffset ≤ (content ++ entry.toBytes).length := by
    rw [List.length_append, entry.length_toBytes, entrySize, entryCountOffset]
    omega
  rw [OpenFile.length_overwrite inside, List.length_append, entry.length_toBytes, entrySize]
  omega

/-- No file with a byte in it is left alone, log or not: the first `fdr_write_entry` after
`fdr_open` already returns 0 and changes it, whatever the report. -/
theorem foreign_not_leftAlone (content : List UInt8) (nonempty : content ≠ []) :
    ¬ LeftAlone content ∧
      ∀ stale report, report.Terminated → ∃ world,
        logMachine.run ⟨some content, none⟩ [.fdrOpen, .fdrWriteEntry stale report] =
          some (world, [report]) ∧
        world.file ≠ some content := by
  have written : ∀ stale report, report.Terminated → ∃ world,
      logMachine.run ⟨some content, none⟩ [.fdrOpen, .fdrWriteEntry stale report] =
          some (world, [report]) ∧
        world.file ≠ some content := by
    intro stale report terminated
    have opened : LogWorld.step ⟨some content, none⟩ .fdrOpen =
        some (⟨some content, some content.length⟩, []) := by
      simp only [LogWorld.step, Option.getD_some, run_fdrOpen_nonempty nonempty]
    obtain ⟨after, offset, stepped, longer⟩ :=
      step_fdrWriteEntry_nonempty nonempty content.length stale report terminated
    refine ⟨⟨some after, some offset⟩, ?_, fun same => ?_⟩
    · exact logMachine.run_cons_eq_some.mpr ⟨_, [], [report], opened,
        (logMachine.run_singleton _ _).trans stepped, rfl⟩
    · rw [Option.some.inj same] at longer
      exact longer.false
  refine ⟨fun alone => ?_, written⟩
  obtain ⟨world, ran, _⟩ := written (.ofBytes []) (sampleReport "WARNING") (by decide)
  cases (alone _ _ _ (by decide) ran).1

/-- Two bytes of an archive. -/
theorem foreign_not_leftAlone_archive :
    ¬ LeftAlone [80, 75] ∧
      ∀ stale report, report.Terminated → ∃ world,
        logMachine.run ⟨some [80, 75], none⟩ [.fdrOpen, .fdrWriteEntry stale report] =
          some (world, [report]) ∧
        world.file ≠ some [80, 75] :=
  foreign_not_leftAlone [80, 75] (by decide)

/-- The archive is not recognised, and not left alone. -/
theorem not_foreign_leftAlone :
    ¬ ∀ content, content ≠ [] → ¬ Recognised content → LeftAlone content := by
  intro claimed
  have alone := claimed [80, 75] (by decide) (by decide)
    [.fdrOpen, .fdrWriteEntry (.ofBytes []) (sampleReport "WARNING")] _ _ (by decide) rfl
  cases alone.1

end Fdir
