/-
This file proves what crashes of the logger do to its log.

`fdr_write_entry` makes six system calls, of which the fourth appends the entry and the sixth
overwrites the count. A crash between these two leaves an entry the header does not count. The
next session trusts the header: it gives the entry's number out again, and from then on the
count stays behind. Crashes anywhere else do no harm.
-/

import Fdir.FlightLog

namespace Fdir

open CMemory FileProgram

/-! ### Calls and crashes -/

/-- A call of the logger, or a crash inside `fdr_write_entry` after so many of its six system
calls. -/
inductive CrashCall where
  | call (fdrCall : FdrCall)
  | crash (stale : FdrHeader) (report : FaultReport) (made : Nat)
deriving DecidableEq

/-- A crash loses the descriptor and keeps the file. -/
def LogWorld.crashStep (world : LogWorld) : CrashCall → Option (LogWorld × List FaultReport)
  | .call fdrCall => world.step fdrCall
  | .crash stale report made =>
    match world.file, world.logFd with
    | some bytes, some offset =>
      some (⟨some ((fdrWriteEntry stale report).crash made ⟨bytes, offset⟩).bytes, none⟩, [])
    | _, _ => none

/-- The machine of the logger's calls and crashes. -/
def crashMachine : Machine LogWorld CrashCall FaultReport := ⟨LogWorld.crashStep⟩

/-- The report a call or a crashed call is given. -/
def CrashCall.report? : CrashCall → Option FaultReport
  | .call fdrCall => fdrCall.report?
  | .crash _ report _ => some report

/-- The call stores its entry and counts it. -/
def CrashCall.completes : CrashCall → Bool
  | .call (.fdrWriteEntry _ _) => true
  | .call _ => false
  | .crash _ _ made => 6 ≤ made

/-- The crash comes after the entry's write and before the count's. -/
def CrashCall.tears : CrashCall → Bool
  | .call _ => false
  | .crash _ _ made => 4 ≤ made && made ≤ 5

/-- The file is a log whose entries are numbered from one, and its header counts them. -/
def LogWorld.Numbered (world : LogWorld) : Prop :=
  ∃ header entries, world.file = some (logBytes header entries) ∧
    header.entryCount.toInt = entries.length ∧
    entries.map (fun entry => entry.entryId.toInt) =
      (List.range entries.length).map fun index : Nat => (index : Int) + 1

/-! ### One crash -/

/-- What a crash in `fdr_write_entry` leaves of a log. -/
theorem crash_fdrWriteEntry (stale header : FdrHeader) (entries : List FdrEntry) (offset : Nat)
    (report : FaultReport) (entry : FdrEntry) (built : newEntry header report = some entry)
    (made : Nat) :
    ((fdrWriteEntry stale report).crash made ⟨logBytes header entries, offset⟩).bytes =
      if made ≤ 3 then logBytes header entries
      else if made ≤ 5 then logBytes header (entries ++ [entry])
      else logBytes { header with entryCount := header.entryCount + 1 } (entries ++ [entry]) := by
  have read : ((logBytes header entries).drop 0).take headerSize = header.toBytes :=
    List.take_left' header.length_toBytes
  obtain ⟨first, rest, shape⟩ : ∃ first rest, header.toBytes = first :: rest :=
    List.exists_cons_of_length_pos (by rw [header.length_toBytes, headerSize]; omega)
  have whole : stale.overlay (first :: rest) = header := by
    rw [← shape, FdrHeader.overlay_toBytes]
  simp only [fdrWriteEntry, fdrReadHeader, FileProgram.bind]
  -- The calls made so far: the seek, the read, the seek to the end, the write of the entry, the
  -- seek to the count, the write of the count.
  rcases made with _ | _ | made
  · rfl
  · rfl
  · rw [crash_lseek_set, crash_read, read, shape]
    simp only [FileProgram.bind, whole]
    rw [if_neg (by decide)]
    simp only [built]
    rcases made with _ | _ | _ | _ | made
    · rfl
    · rfl
    · simp [OpenFile.overwrite_length, logBytes_snoc]
    · simp [OpenFile.overwrite_length, logBytes_snoc]
    · rw [if_neg (by omega), if_neg (by omega)]
      simp [OpenFile.overwrite_length, logBytes_snoc, overwrite_entryCount]

/-! ### Every crash of a run -/

/-- How many entries were stored and counted, and how many only stored. -/
def completed (actions : List CrashCall) : Nat := actions.countP CrashCall.completes
def torn (actions : List CrashCall) : Nat := actions.countP CrashCall.tears

/-- What a run leaves: the header counts the completed entries, the torn ones are there besides,
and as long as there are none the entries carry their own numbers. -/
def LogWorld.Counts (world : LogWorld) (actions : List CrashCall) : Prop :=
  ∃ header entries, world.file = some (logBytes header entries) ∧
    header.entryCount = BitVec.ofNat 32 (completed actions) ∧
    entries.length = completed actions + torn actions ∧
    (torn actions = 0 → entries.map FdrEntry.entryId =
      (List.range entries.length).map fun index => BitVec.ofNat 32 (index + 1))

theorem completed_snoc (actions : List CrashCall) (action : CrashCall) :
    completed (actions ++ [action]) = completed actions + if action.completes then 1 else 0 := by
  rw [completed, List.countP_append, List.countP_singleton, completed]

theorem torn_snoc (actions : List CrashCall) (action : CrashCall) :
    torn (actions ++ [action]) = torn actions + if action.tears then 1 else 0 := by
  rw [torn, List.countP_append, List.countP_singleton, torn]

namespace LogWorld.Counts

variable {world next : LogWorld} {actions : List CrashCall} {action : CrashCall}

/-- A call that leaves the bytes alone and stores nothing. -/
theorem quiet (counts : world.Counts actions) (file : next.file = world.file)
    (incomplete : action.completes = false) (whole : action.tears = false) :
    next.Counts (actions ++ [action]) := by
  rw [LogWorld.Counts, file, completed_snoc, torn_snoc, incomplete, whole]
  exact counts

/-- A call that stores an entry under the next number and counts it. -/
theorem complete {header : FdrHeader} {entries : List FdrEntry} {entry : FdrEntry}
    (file : next.file = some (logBytes { header with entryCount := header.entryCount + 1 }
      (entries ++ [entry])))
    (number : entry.entryId = header.entryCount + 1)
    (count : header.entryCount = BitVec.ofNat 32 (completed actions))
    (length : entries.length = completed actions + torn actions)
    (numbered : torn actions = 0 → entries.map FdrEntry.entryId =
      (List.range entries.length).map fun index => BitVec.ofNat 32 (index + 1))
    (completes : action.completes = true) (whole : action.tears = false) :
    next.Counts (actions ++ [action]) := by
  have more : header.entryCount + 1 = BitVec.ofNat 32 (completed actions + 1) := by
    rw [count]
    exact (BitVec.ofNat_add _ _).symm
  refine ⟨_, _, file, ?_, ?_, ?_⟩
  · rw [completed_snoc, completes, if_pos rfl]
    exact more
  · rw [completed_snoc, torn_snoc, completes, whole, List.length_append, List.length_singleton,
      length]
    exact Nat.add_right_comm _ _ _
  · rw [torn_snoc, whole]
    intro none
    rw [List.map_append, numbered none, List.length_append, List.length_singleton,
      List.range_succ, List.map_append, List.map_singleton, List.map_singleton, number, more,
      length, show torn actions = 0 from none, Nat.add_zero]

/-- A crash that stores an entry and does not count it. -/
theorem tear {header : FdrHeader} {entries : List FdrEntry} {entry : FdrEntry}
    (file : next.file = some (logBytes header (entries ++ [entry])))
    (count : header.entryCount = BitVec.ofNat 32 (completed actions))
    (length : entries.length = completed actions + torn actions)
    (incomplete : action.completes = false) (tears : action.tears = true) :
    next.Counts (actions ++ [action]) := by
  refine ⟨_, _, file, ?_, ?_, ?_⟩
  · rw [completed_snoc, incomplete]
    exact count
  · rw [completed_snoc, torn_snoc, incomplete, tears, List.length_append, List.length_singleton,
      length]
    rfl
  · rw [torn_snoc, tears]
    nofun

theorem step (counts : world.Counts actions) {emitted : List FaultReport}
    (terminated : ∀ report ∈ action.report?, report.Terminated)
    (stepped : world.crashStep action = some (next, emitted)) :
    next.Counts (actions ++ [action]) := by
  have ⟨header, entries, file, count, length, numbered⟩ := counts
  cases action with
  | call fdrCall =>
    cases fdrCall with
    | fdrOpen =>
      simp only [LogWorld.crashStep, LogWorld.step, file, Option.getD_some,
        run_fdrOpen_existing] at stepped
      split at stepped
      · cases stepped
      · cases stepped
        exact counts.quiet file.symm rfl rfl
    | fdrClose =>
      simp only [LogWorld.crashStep, LogWorld.step] at stepped
      split at stepped
      · cases stepped
      · cases stepped
        exact counts.quiet rfl rfl rfl
    | fdrWriteEntry stale report =>
      obtain ⟨entry, built, number, _⟩ :=
        newEntry_terminated header report (terminated report rfl)
      simp only [LogWorld.crashStep, LogWorld.step, file] at stepped
      split at stepped
      next bytes offset found opened =>
        cases found
        rw [run_fdrWriteEntry stale header entries offset report entry built] at stepped
        cases stepped
        exact complete rfl number count length numbered rfl rfl
      · cases stepped
  | crash stale report made =>
    obtain ⟨entry, built, number, _⟩ :=
      newEntry_terminated header report (terminated report rfl)
    simp only [LogWorld.crashStep, file] at stepped
    split at stepped
    next bytes offset found opened =>
      cases found
      cases stepped
      have left := crash_fdrWriteEntry stale header entries offset report entry built made
      split at left
      next early =>
        refine counts.quiet ?_ ?_ ?_
        · rw [left, file]
        · exact decide_eq_false (by omega)
        · rw [CrashCall.tears, decide_eq_false (by omega), Bool.false_and]
      next late =>
        split at left
        next between =>
          refine tear (by rw [left]) count length ?_ ?_
          · exact decide_eq_false (by omega)
          · rw [CrashCall.tears, decide_eq_true (by omega), decide_eq_true between, Bool.true_and]
        next done =>
          refine complete (by rw [left]) number count length numbered ?_ ?_
          · exact decide_eq_true (by omega)
          · rw [CrashCall.tears, decide_eq_false done, Bool.and_false]
    · cases stepped

end LogWorld.Counts

/-- The first call of a run opens an empty log. -/
theorem counts_first {file : Option (List UInt8)} (blank : file.getD [] = []) {next : LogWorld}
    {action : CrashCall} {emitted : List FaultReport}
    (stepped : LogWorld.crashStep ⟨file, none⟩ action = some (next, emitted)) :
    next.Counts [action] := by
  obtain ⟨header, built⟩ : ∃ header, newHeader = some header :=
    Option.isSome_iff_exists.mp (by decide)
  cases action with
  | crash => cases file <;> cases stepped
  | call fdrCall =>
    cases fdrCall with
    | fdrWriteEntry => cases file <;> cases stepped
    | fdrClose => cases stepped
    | fdrOpen =>
      obtain ⟨opened, again, holds⟩ := step_fdrOpen_blank blank built
      cases stepped.symm.trans again
      exact ⟨header.counting 0, [], holds.file, rfl, rfl, fun _ => rfl⟩

theorem counts_of_run {file : Option (List UInt8)} (blank : file.getD [] = [])
    {actions : List CrashCall} (begun : actions ≠ [])
    (terminated : ∀ action ∈ actions, ∀ report ∈ action.report?, report.Terminated)
    {world : LogWorld} {reports : List FaultReport}
    (ran : crashMachine.run ⟨file, none⟩ actions = some (world, reports)) :
    world.Counts actions := by
  have either := crashMachine.run_induction
    (fun actions world _ =>
      (∀ action ∈ actions, ∀ report ∈ action.report?, report.Terminated) →
        actions = [] ∧ world = ⟨file, none⟩ ∨ world.Counts actions)
    (fun _ => .inl ⟨rfl, rfl⟩) ?_ ran terminated
  · exact either.resolve_left fun empty => begun empty.1
  · intro actions world _ action next emitted _ held stepped terminated
    right
    rcases held fun other member => terminated other (List.mem_append_left _ member) with
      ⟨rfl, rfl⟩ | counts
    · exact counts_first blank stepped
    · exact counts.step (terminated action (List.mem_append_right _ List.mem_cons_self)) stepped

/-! ### When the log stays numbered -/

/-- A count read as a signed word is never more than it was. -/
theorem toInt_ofNat_le (count : Nat) : (BitVec.ofNat 32 count).toInt ≤ count := by
  rw [BitVec.toInt_ofNat', Int.bmod_eq_emod]
  split <;> omega

/-- The log is numbered exactly when no entry is torn and the count does not overflow. -/
theorem LogWorld.Counts.numbered_iff {world : LogWorld} {actions : List CrashCall}
    (counts : world.Counts actions) :
    world.Numbered ↔ torn actions = 0 ∧ completed actions < 2 ^ 31 := by
  obtain ⟨header, entries, file, count, length, numbered⟩ := counts
  constructor
  · rintro ⟨header', entries', file', count', _⟩
    obtain ⟨rfl, rfl⟩ := logBytes_inj.mp (Option.some.inj (file.symm.trans file'))
    rw [count, length] at count'
    have most := toInt_ofNat_le (completed actions)
    have small : (BitVec.ofNat 32 (completed actions)).toInt < 2 ^ 31 := BitVec.toInt_lt
    omega
  · rintro ⟨none, few⟩
    rw [none, Nat.add_zero] at length
    refine ⟨header, entries, file, ?_, ?_⟩
    · rw [count, toInt_ofNat_of_lt few, length]
    · have ids : entries.map (fun entry => entry.entryId.toInt) =
          (entries.map FdrEntry.entryId).map BitVec.toInt := by
        rw [List.map_map]
        rfl
      rw [ids, numbered none, List.map_map]
      refine List.map_congr_left fun index member => ?_
      have bound := List.mem_range.mp member
      exact toInt_ofNat_of_lt (by omega)

/-- Over any sessions and crashes of the logger from a missing or empty file: the entries are
numbered from one and the header counts them exactly when no crash came between the write of an
entry and the write of its count, and fewer than 2^31 entries were counted. -/
theorem numbered_iff_not_tears (file : Option (List UInt8)) (blank : file.getD [] = [])
    (actions : List CrashCall) (begun : actions ≠ [])
    (terminated : ∀ action ∈ actions, ∀ report ∈ action.report?, report.Terminated)
    (world : LogWorld) (reports : List FaultReport)
    (ran : crashMachine.run ⟨file, none⟩ actions = some (world, reports)) :
    world.Numbered ↔
      (∀ action ∈ actions, action.tears = false) ∧ completed actions < 2 ^ 31 := by
  rw [(counts_of_run blank begun terminated ran).numbered_iff, torn, List.countP_eq_zero]
  simp only [Bool.not_eq_true]

/-- A crash before the entry's write, and a session after it. -/
def crashingEarly : List CrashCall :=
  [.call .fdrOpen, .crash (.ofBytes []) (sampleReport "CRITICAL") 3, .call .fdrOpen,
    .call (.fdrWriteEntry (.ofBytes []) (sampleReport "WARNING"))]

theorem numbered_iff_not_tears_early :
    ∃ world reports, crashMachine.run ⟨none, none⟩ crashingEarly = some (world, reports) ∧
      (world.Numbered ↔
        (∀ action ∈ crashingEarly, action.tears = false) ∧ completed crashingEarly < 2 ^ 31) := by
  obtain ⟨⟨world, reports⟩, ran⟩ : ∃ outcome,
      crashMachine.run ⟨none, none⟩ crashingEarly = some outcome :=
    Option.isSome_iff_exists.mp (by decide +kernel)
  exact ⟨world, reports, ran, numbered_iff_not_tears none rfl crashingEarly (by decide) (by decide)
    world reports ran⟩

/-- A crash right after the entry's write, and a session after it. -/
def crashingBetween : List CrashCall :=
  [.call .fdrOpen, .crash (.ofBytes []) (sampleReport "CRITICAL") 4, .call .fdrOpen,
    .call (.fdrWriteEntry (.ofBytes []) (sampleReport "WARNING"))]

theorem not_numbered :
    ¬ ∀ (actions : List CrashCall) (world : LogWorld) (reports : List FaultReport),
      actions ≠ [] → (∀ action ∈ actions, ∀ report ∈ action.report?, report.Terminated) →
      crashMachine.run ⟨none, none⟩ actions = some (world, reports) → world.Numbered := by
  intro claimed
  obtain ⟨⟨world, reports⟩, ran⟩ : ∃ outcome,
      crashMachine.run ⟨none, none⟩ crashingBetween = some outcome :=
    Option.isSome_iff_exists.mp (by decide +kernel)
  have counts := counts_of_run rfl (by decide) (by decide) ran
  have none := (counts.numbered_iff.mp
    (claimed crashingBetween world reports (by decide) (by decide) ran)).1
  cases none

end Fdir
