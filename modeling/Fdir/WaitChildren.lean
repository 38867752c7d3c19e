/-
This file proves that `wait_children` leaves no child behind.

`wait_children` calls `wait` four times, and `handle_sigchld` reaps children as well, also while
a call of `wait` is blocked. A call returns only by reaping a child or when there is none left.
So the children not yet reaped are never more than the calls still to come, and each is reaped
once, whoever gets to it first.
-/

import Fdir.Supervisor

namespace Fdir

/-! ### The children not yet reaped -/

/-- The subsystems whose child is alive or a zombie. -/
def Obc.unreaped (obc : Obc) : List Subsystem :=
  broadcastOrder.filter fun who => (obc.children who).any fun child => child.status ≠ .reaped

theorem Obc.mem_unreaped {obc : Obc} {who : Subsystem} :
    who ∈ obc.unreaped ↔ ∃ child, obc.children who = some child ∧ child.status ≠ .reaped := by
  rw [Obc.unreaped, List.mem_filter, Option.any_eq_true, and_iff_right (mem_broadcastOrder who)]
  simp only [decide_eq_true_eq]

theorem Obc.length_unreaped_le (obc : Obc) : obc.unreaped.length ≤ 4 :=
  List.length_filter_le _ broadcastOrder

theorem Obc.nodup_unreaped (obc : Obc) : obc.unreaped.Nodup :=
  List.Nodup.filter _ (by decide)

/-- A step that leaves every child reaped or not as it was. -/
theorem Obc.unreaped_congr {obc next : Obc}
    (same : ∀ who, (next.children who).any (fun child => child.status ≠ .reaped) =
      (obc.children who).any fun child => child.status ≠ .reaped) :
    next.unreaped = obc.unreaped :=
  List.filter_congr fun who _ => same who

/-- Replacing a child by one that is as far from being reaped. -/
theorem Obc.unreaped_update {obc : Obc} {who : Subsystem} {child changed : ChildProc}
    (found : obc.children who = some child) (left : child.status ≠ .reaped)
    (still : changed.status ≠ .reaped) : (obc.setChild who changed).unreaped = obc.unreaped := by
  refine Obc.unreaped_congr fun other => ?_
  by_cases same : other = who
  · subst same
    simp [Obc.setChild, found, left, still]
  · simp [Obc.setChild, same]

/-- Reaping a child takes it off the list, and no other. -/
theorem Obc.unreaped_reap (obc : Obc) (who : Subsystem) (child : ChildProc) :
    (obc.setChild who { child with status := .reaped }).unreaped = obc.unreaped.erase who := by
  rw [obc.nodup_unreaped.erase_eq_filter, Obc.unreaped, Obc.unreaped, List.filter_filter]
  refine List.filter_congr fun other _ => ?_
  by_cases same : other = who
  · subst same
    simp [Obc.setChild]
  · simp [Obc.setChild, same]

/-- `wait` finds no child when all have been reaped. -/
theorem Obc.unreaped_eq_nil {obc : Obc} (none : obc.pidsTaken = []) : obc.unreaped = [] := by
  refine List.eq_nil_iff_forall_not_mem.mpr fun who member => ?_
  obtain ⟨child, found, left⟩ := Obc.mem_unreaped.mp member
  have taken : child.pid ∈ obc.pidsTaken := mem_pidsTaken.mpr ⟨who, child, found, left, rfl⟩
  rw [none] at taken
  cases taken

/-! ### Waiting -/

/-- Between the first call of `wait` and the return of `wait_children`: at most as many children
are unreaped as calls are to come, and those that were unreaped at first have been reaped once or
are so still. -/
structure Obc.Waiting (first obc : Obc) (events : List ObcEvent) : Prop where
  enough : (∃ calls, obc.pc = .waiting calls ∧ obc.unreaped.length ≤ calls) ∨
    obc.pc = .finished ∧ obc.unreaped = []
  once : ∀ who, events.count (.reaped who) + obc.unreaped.count who = first.unreaped.count who

namespace Obc.Waiting

variable {first obc next : Obc} {events : List ObcEvent}

/-- A step that reaps no child and makes no call of `wait` return. -/
theorem keep (waiting : first.Waiting obc events) (pc : next.pc = obc.pc)
    (unreaped : next.unreaped = obc.unreaped) : first.Waiting next (events ++ []) := by
  rw [List.append_nil]
  constructor
  · rw [pc, unreaped]
    exact waiting.enough
  · rw [unreaped]
    exact waiting.once

/-- A call of `wait` that fails has found no child, and the calls are over after the fourth. -/
theorem noChild (waiting : first.Waiting obc events) (none : obc.unreaped = [])
    (unreaped : next.unreaped = obc.unreaped)
    (pc : (∃ calls, next.pc = .waiting calls) ∨ next.pc = .finished) :
    first.Waiting next (events ++ []) := by
  rw [List.append_nil]
  constructor
  · rw [unreaped, none]
    refine pc.imp (fun later => ?_) fun finished => ⟨finished, rfl⟩
    obtain ⟨calls, atPc⟩ := later
    exact ⟨calls, atPc, Nat.zero_le _⟩
  · rw [unreaped]
    exact waiting.once

/-- A reaped child, whoever reaps it, is off the list for good. -/
theorem reap (waiting : first.Waiting obc events) {who : Subsystem}
    (member : who ∈ obc.unreaped) (unreaped : next.unreaped = obc.unreaped.erase who)
    (pc : ∀ calls, obc.pc = .waiting calls →
      next.pc = .waiting calls ∨ next.pc = .waiting (calls - 1)) :
    first.Waiting next (events ++ [.reaped who]) := by
  have fewer : next.unreaped.length + 1 = obc.unreaped.length := by
    rw [unreaped]
    exact List.length_erase_add_one member
  constructor
  · rcases waiting.enough with ⟨calls, atPc, enough⟩ | ⟨_, none⟩
    · left
      rcases pc calls atPc with same | less
      · exact ⟨calls, same, by omega⟩
      · exact ⟨calls - 1, less, by omega⟩
    · rw [none] at member
      cases member
  · intro other
    have before := waiting.once other
    have present : 0 < obc.unreaped.count who := List.count_pos_iff.mpr member
    rw [unreaped, List.count_append, List.count_singleton]
    by_cases same : other = who
    · subst same
      rw [List.count_erase_self, if_pos (beq_self_eq_true _)]
      omega
    · rw [List.count_erase_of_ne same, if_neg (by simpa using Ne.symm same)]
      omega

theorem place (waiting : first.Waiting obc events) {pc : ObcPc} (atPc : obc.pc = pc) :
    (∃ calls, pc = .waiting calls) ∨ pc = .finished := by
  subst atPc
  exact waiting.enough.imp (fun ⟨calls, here, _⟩ => ⟨calls, here⟩) And.left

/-- A statement of `main`. -/
theorem statement (waiting : first.Waiting obc events) {emitted : List ObcEvent}
    (statement : obc.Statement next emitted) : first.Waiting next (events ++ emitted) := by
  cases statement with
  | noChild calls atPc none =>
    exact waiting.noChild (Obc.unreaped_eq_nil none) rfl (.inl ⟨calls, rfl⟩)
  | waited atPc =>
    have none : obc.unreaped = [] := by
      rcases waiting.enough with ⟨calls, here, enough⟩ | ⟨here, _⟩
      · cases atPc.symm.trans here
        exact List.length_eq_zero_iff.mp (Nat.le_zero.mp enough)
      · cases atPc.symm.trans here
    exact waiting.noChild none rfl (.inr rfl)
  | started atPc | assign _ _ _ atPc | shutDown atPc | count atPc | tick atPc | sample atPc
  | enter _ atPc | noEnter _ atPc | broadcasted _ atPc | tested _ _ _ atPc | skipped _ _ _ atPc
  | kill _ _ _ atPc | storeSafe _ atPc | leave _ atPc | noLeave _ atPc | storeNormal atPc =>
    rcases waiting.place atPc with ⟨_, here⟩ | here <;> cases here

/-- A step of `main` or of another party. -/
theorem step (waiting : first.Waiting obc events) {action : ObcAction}
    {emitted : List ObcEvent} (stepped : obc.step action = some (next, emitted)) :
    first.Waiting next (events ++ emitted) := by
  cases Obc.does_of_step stepped with
  | main free statement => exact waiting.statement statement
  | fork _ _ _ atPc | forkFails _ _ atPc =>
    rcases waiting.place atPc with ⟨_, here⟩ | here <;> cases here
  | wait who child calls atPc found zombie =>
    have left : child.status ≠ .reaped := by rw [zombie]; decide
    refine waiting.reap (Obc.mem_unreaped.mpr ⟨child, found, left⟩)
      (obc.unreaped_reap who child) fun calls' same => ?_
    cases atPc.symm.trans same
    exact .inr rfl
  | reap who child found zombie =>
    have left : child.status ≠ .reaped := by rw [zombie]; decide
    exact waiting.reap (Obc.mem_unreaped.mpr ⟨child, found, left⟩)
      (obc.unreaped_reap who child) fun _ same => .inl same
  | exit who child found alive =>
    exact waiting.keep rfl (Obc.unreaped_update found (by rw [alive]; decide) nofun)
  | handle who signal child found alive =>
    have left : child.status ≠ .reaped := by rw [alive]; decide
    exact waiting.keep rfl (Obc.unreaped_update found left left)
  | powerBusWriter | publish | signalled => exact waiting.keep rfl rfl

theorem run {last : Obc} {actions : List ObcAction} (atPc : first.pc = .waiting 4)
    (ran : obcMachine.run first actions = some (last, events)) : first.Waiting last events := by
  refine obcMachine.run_invariant first.Waiting ⟨.inl ⟨4, atPc, first.length_unreaped_le⟩, ?_⟩
    (fun _ _ _ _ _ waiting stepped => waiting.step stepped) ran
  intro who
  rw [List.count_nil, Nat.zero_add]

end Obc.Waiting

/-! ### `wait_children` returns -/

/-- When `wait_children` returns, every child has been reaped: those that had not been when it
was called exactly once since, by it or by `handle_sigchld`, and no other. -/
theorem waitChildren_reaps (first last : Obc) (actions : List ObcAction)
    (events : List ObcEvent) (atPc : first.pc = .waiting 4)
    (ran : obcMachine.run first actions = some (last, events)) (returned : last.pc = .finished) :
    (∀ who child, last.children who = some child → child.status = .reaped) ∧
      ∀ who, events.count (.reaped who) = if who ∈ first.unreaped then 1 else 0 := by
  have waiting : first.Waiting last events := .run atPc ran
  have none : last.unreaped = [] := by
    rcases waiting.enough with ⟨calls, here, _⟩ | ⟨_, none⟩
    · cases here.symm.trans returned
    · exact none
  constructor
  · intro who child found
    by_contra left
    have member : who ∈ last.unreaped := Obc.mem_unreaped.mpr ⟨child, found, left⟩
    rw [none] at member
    cases member
  · intro who
    have once := waiting.once who
    rw [none, List.count_nil, Nat.add_zero] at once
    rw [once]
    exact first.nodup_unreaped.count

/-- `wait_children` is called with the power process alive and the logger a zombie. -/
def Obc.loggerExited : Obc :=
  let zombie := { ChildProc.forked 13 with status := .zombie }
  { (Obc.start.setChild .power (.forked 10)).setChild .logger zombie with
    pc := .waiting 4
    pendingChld := true }

/-- The handler reaps the logger and the first `wait` the power process; the other calls find no
child. -/
def reapedByBoth : List ObcAction :=
  [.sigchld, .reap .logger, .sigchldReturns, .exit .power, .wait .power, .sigchld,
    .sigchldReturns, .main, .main, .main, .main]

theorem waitChildren_reaps_byBoth :
    ∃ (last : Obc) (events : List ObcEvent),
      obcMachine.run Obc.loggerExited reapedByBoth = some (last, events) ∧
      (∀ who child, last.children who = some child → child.status = .reaped) ∧
      ∀ who, events.count (.reaped who) =
        if who ∈ Obc.loggerExited.unreaped then 1 else 0 := by
  have returned : (obcMachine.run Obc.loggerExited reapedByBoth).any
      (fun reached => reached.1.pc = .finished) := by decide +kernel
  obtain ⟨⟨last, events⟩, ran, atEnd⟩ := (Option.any_eq_true _ _).mp returned
  exact ⟨last, events, ran, waitChildren_reaps Obc.loggerExited last reapedByBoth events rfl ran
    (of_decide_eq_true atEnd)⟩

end Fdir
