/-
This file states whom the OBC's broadcasts can signal.

Two windows let a broadcast signal someone else. Between a `fork` and the assignment of its
pid, `handle_sigchld` compares with the old value and clears nothing, and the assignment then
stores the pid of a child that is gone. Between the test of a variable and its use as the
argument of `kill`, the handler may store -1 into it, and a signal to -1 goes to every
process. In the runs in which the handler does not come in these windows, every positive
variable names a child that is left, every target is positive, and so every signal goes to a
child that is left.
-/

import Fdir.ChildPids

namespace Fdir

/-! ### Stale pids -/

/-- The child of this subsystem is left and has this pid. -/
def Children.Owns (children : Children) (who : Subsystem) (pid : Int) : Prop :=
  ∃ child, children who = some child ∧ child.status ≠ .reaped ∧ child.pid = pid

/-- Every positive `g_pid_*` is the pid of a child that has not been reaped. -/
def Obc.NamesChildren (obc : Obc) : Prop :=
  ∀ who, 0 < obc.gPid who → ∃ owner, obc.children.Owns owner (obc.gPid who)

/-- The handler does not reap a child whose pid is about to be assigned. -/
def ReapsAssigned (obc : Obc) (action : ObcAction) : Prop :=
  ∀ who pid todo, obc.pc = .assigning who pid todo → action ≠ .reap who

theorem ObcPc.beforeWait_of_assignment {pc : ObcPc} {pending : Subsystem × Int}
    (assigning : pc.assignment? = some pending) : pc.BeforeWait := by
  cases pc with
  | assigning => trivial
  | _ => cases assigning

theorem Children.Owns.update {children : Children} {who other : Subsystem} {pid : Int}
    (owns : children.Owns other pid) (different : other ≠ who) (child : ChildProc) :
    Children.Owns (Function.update children who (some child)) other pid := by
  obtain ⟨child', found, left, same⟩ := owns
  exact ⟨child', (Function.update_of_ne different _ _).trans found, left, same⟩

/-- Before `wait_children` every positive variable is its own child's pid, and so is the pid
about to be assigned. -/
structure Obc.Accurate (obc : Obc) : Prop where
  named : obc.Named
  owns : obc.pc.BeforeWait → ∀ who, 0 < obc.gPid who →
    obc.children.Owns who (obc.gPid who)
  pending : ∀ who pid, obc.pc.assignment? = some (who, pid) → 0 < pid →
    obc.children.Owns who pid

namespace Obc.Accurate

theorem start : Obc.start.Accurate where
  named := Obc.named_start
  owns _ who positive := absurd (show (0 : Int) < -1 from positive) (by decide)
  pending _ _ none := by cases none

variable {obc next : Obc}

theorem reap (accurate : obc.Accurate) {who : Subsystem} {child : ChildProc}
    (found : obc.children who = some child) (left : child.status ≠ .reaped)
    (assigned : ∀ pid todo, obc.pc ≠ .assigning who pid todo) :
    Accurate { obc.setChild who { child with status := .reaped } with
      gPid := clearReaped obc.gPid child.pid } := by
  obtain ⟨named, owns, pending⟩ := accurate
  refine ⟨named.reap found left, fun before other positive => ?_, fun other pid waiting above => ?_⟩
  · change 0 < clearReaped obc.gPid child.pid other at positive
    change Children.Owns _ other (clearReaped obc.gPid child.pid other)
    rw [clearReaped_apply] at positive ⊢
    split at positive
    · exact absurd positive (by decide)
    next spared =>
      rw [if_neg spared]
      refine (owns before other positive).update ?_ _
      rintro rfl
      -- The reaped child's own variable holds its pid, and no other variable does.
      have free : other ∉ obc.pc.scheduled := by
        intro member
        rcases List.mem_append.mp member with member | member
        · cases pc : obc.pc with
          | assigning first pid todo =>
            rw [pc] at member
            cases List.mem_singleton.mp member
            exact assigned pid todo pc
          | _ =>
            rw [pc] at member
            cases member
        · rw [named.unforked other member] at found
          cases found
      have holds := named.assigned other child found left free
      cases picked : reapedVariable obc.gPid child.pid with
      | none => exact reapedVariable_ne_none holds picked
      | some first =>
        have same := reapedVariable_eq_some picked
        obtain ⟨child', found', left', equal⟩ := owns before first
          (by rw [same]; exact named.positive other child found)
        have own := named.distinct first child' other child found' found left' left
          (equal.trans same)
        rw [picked, own] at spared
        exact spared rfl
  · refine (pending other pid waiting above).update ?_ _
    rintro rfl
    cases pc : obc.pc with
    | assigning first target todo =>
      change obc.pc.assignment? = _ at waiting
      rw [pc] at waiting
      cases waiting
      exact assigned _ _ pc
    | _ =>
      change obc.pc.assignment? = _ at waiting
      rw [pc] at waiting
      cases waiting

theorem step (accurate : obc.Accurate) {action : ObcAction} (allowed : ReapsAssigned obc action)
    (stepped : obc.PidStep action next) : next.Accurate := by
  have named := accurate.named.step stepped
  cases stepped with
  | reap who child found left =>
    exact accurate.reap found left fun pid todo atPc => allowed who pid todo atPc rfl
  | fork who pid todo atPc positive fresh =>
    have fresh : obc.children who = none :=
      accurate.named.unforked who (by rw [atPc]; exact List.mem_cons_self)
    refine ⟨named, fun _ other above => ?_, ?_⟩
    · have owns := accurate.owns (by rw [atPc]; trivial) other above
      refine owns.update ?_ _
      rintro rfl
      obtain ⟨child, found, _⟩ := owns
      rw [fresh] at found
      cases found
    · rintro other target ⟨⟩ _
      exact ⟨.forked pid, Function.update_self .., nofun, rfl⟩
  | forkFails who todo atPc =>
    refine ⟨named, fun _ => accurate.owns (by rw [atPc]; trivial), ?_⟩
    rintro other target ⟨⟩ above
    exact absurd above (by decide)
  | assign who pid todo atPc =>
    refine ⟨named, fun _ other above => ?_, fun _ _ none => by cases none⟩
    change 0 < Function.update obc.gPid who pid other at above
    change Children.Owns _ other (Function.update obc.gPid who pid other)
    by_cases same : other = who
    · subst same
      rw [Function.update_self] at above ⊢
      exact accurate.pending other pid (by rw [atPc]; rfl) above
    · rw [Function.update_of_ne same] at above ⊢
      exact accurate.owns (by rw [atPc]; trivial) other above
  | same action next same =>
    have stays : ∀ {who pid}, next.pc.BeforeWait → obc.children.Owns who pid →
        next.children.Owns who pid := by
      rintro who pid before ⟨child, found, left, equal⟩
      obtain ⟨later, after, pids, status⟩ := (same.stays before).2 who child found
      exact ⟨later, after, status left, pids.trans equal⟩
    refine ⟨named, fun before who above => ?_, fun who pid waiting above => ?_⟩
    · rw [same.gPid] at above ⊢
      exact stays before (accurate.owns (same.stays before).1 who above)
    · refine stays (ObcPc.beforeWait_of_assignment waiting) ?_
      rw [same.assignment] at waiting
      exact accurate.pending who pid waiting above

end Obc.Accurate

theorem accurate_of_reapsAssigned {actions : List ObcAction} {obc : Obc} {events : List ObcEvent}
    (ran : obcMachine.run .start actions = some (obc, events))
    (guarded : obcMachine.Guarded ReapsAssigned .start actions) : obc.Accurate :=
  obcMachine.guarded_invariant (fun obc _ => obc.Accurate) .start
    (fun _ _ _ _ _ accurate allowed stepped =>
      accurate.step allowed (Obc.pidStep_of_step stepped)) guarded ran

/-! ### Signals to every process -/

/-- The handler does not clear the variable a broadcast has tested and is about to read. -/
def SparesTested (obc : Obc) (action : ObcAction) : Prop :=
  ∀ broadcast who rest, obc.pc = .killing broadcast who rest →
    ∀ other child, action = .reap other → obc.children other = some child →
      reapedVariable obc.gPid child.pid ≠ some who

/-- The variable a broadcast has tested is positive, and every target so far was. -/
structure Obc.Aims (obc : Obc) (events : List ObcEvent) : Prop where
  tested : ∀ broadcast who rest, obc.pc = .killing broadcast who rest → 0 < obc.gPid who
  past : ∀ target signal, .killed target signal ∈ events → 0 < target

theorem aims_of_sparesTested {actions : List ObcAction} {obc : Obc} {events : List ObcEvent}
    (ran : obcMachine.run .start actions = some (obc, events))
    (guarded : obcMachine.Guarded SparesTested .start actions) : obc.Aims events := by
  refine obcMachine.guarded_invariant Obc.Aims ⟨fun _ _ _ other => (by cases other), nofun⟩ ?_
    guarded ran
  intro obc events action next emitted ⟨tested, past⟩ allowed stepped
  have old : ∀ {other : List ObcEvent}, (∀ target signal, .killed target signal ∉ other) →
      ∀ target signal, .killed target signal ∈ events ++ other → 0 < target := by
    intro other silent target signal member
    rcases List.mem_append.mp member with member | member
    · exact past target signal member
    · exact absurd member (silent target signal)
  cases Obc.does_of_step stepped with
  | main free statement =>
    cases statement with
    | tested broadcast who rest atPc positive =>
      refine ⟨?_, old (by simp)⟩
      rintro _ _ _ ⟨⟩
      exact positive
    | kill broadcast who rest atPc =>
      refine ⟨nofun, fun target signal member => ?_⟩
      rcases List.mem_append.mp member with member | member
      · exact past target signal member
      · cases List.mem_singleton.mp member
        exact tested broadcast who rest atPc
    | broadcasted broadcast => cases broadcast <;> exact ⟨nofun, old (by simp)⟩
    | _ => exact ⟨nofun, old (by simp)⟩
  | reap who child found zombie =>
    refine ⟨fun broadcast tested' rest atPc => ?_, old (by simp)⟩
    change 0 < clearReaped obc.gPid child.pid tested'
    rw [clearReaped_apply, if_neg (allowed broadcast tested' rest atPc who child rfl found)]
    exact tested broadcast tested' rest atPc
  | fork | forkFails => exact ⟨nofun, old (by simp)⟩
  | wait => exact ⟨nofun, old (by simp)⟩
  | exit | handle | powerBusWriter | publish | signalled => exact ⟨tested, old (by simp)⟩

/-! ### Runs that come in neither window -/

/-- The child a round of the handler's loop reaps. -/
def ObcAction.reaped? : ObcAction → Option Subsystem
  | reap who => some who
  | _ => none

/-- The variable a broadcast has tested. -/
def ObcPc.tested? : ObcPc → Option Subsystem
  | killing _ who _ => some who
  | _ => none

theorem ObcAction.reaped?_eq_some {action : ObcAction} {who : Subsystem} :
    action.reaped? = some who ↔ action = .reap who := by
  cases action <;> simp [ObcAction.reaped?]

instance (obc : Obc) (action : ObcAction) : Decidable (ReapsAssigned obc action) :=
  decidable_of_iff
    (∀ who ∈ action.reaped?, ∀ pending ∈ obc.pc.assignment?, pending.1 ≠ who)
    (by
      constructor
      · intro apart who pid todo atPc reaps
        exact apart who (ObcAction.reaped?_eq_some.mpr reaps) (who, pid) (by rw [atPc]; rfl) rfl
      · rintro allowed who reaps ⟨first, pid⟩ pending rfl
        cases atPc : obc.pc with
        | assigning other target todo =>
          rw [atPc] at pending
          cases pending
          exact allowed _ _ _ atPc (ObcAction.reaped?_eq_some.mp reaps)
        | _ =>
          rw [atPc] at pending
          cases pending)

instance (obc : Obc) (action : ObcAction) : Decidable (SparesTested obc action) :=
  decidable_of_iff
    (∀ who ∈ obc.pc.tested?, ∀ other ∈ action.reaped?, ∀ child ∈ obc.children other,
      reapedVariable obc.gPid child.pid ≠ some who)
    (by
      constructor
      · intro spares broadcast who rest atPc other child reaps found
        exact spares who (by rw [atPc]; rfl) other (ObcAction.reaped?_eq_some.mpr reaps) child found
      · rintro allowed who tested other reaps child found
        cases atPc : obc.pc with
        | killing broadcast first rest =>
          rw [atPc] at tested
          cases tested
          exact allowed broadcast _ rest atPc other child (ObcAction.reaped?_eq_some.mp reaps) found
        | _ =>
          rw [atPc] at tested
          cases tested)

/-- The four subsystems are started, and SIGINT makes the OBC shut them down. -/
def shuttingDown : List ObcAction :=
  [.fork 100, .main, .fork 101, .main, .fork 102, .main, .fork 103, .main, .main, .sigint,
    .main, .main]

/-- The logger exits and is reaped while the broadcast is about to signal the power process. -/
def loggerReaped : List ObcAction :=
  shuttingDown ++ [.exit .logger, .sigchld, .reap .logger, .sigchldReturns]

/-! ### The targets -/

/-- In the runs in which the handler never clears a variable between its test and its use, no
signal goes to a target that is zero or negative. -/
theorem killed_positive_of_sparesTested (actions : List ObcAction) (obc : Obc)
    (events : List ObcEvent) (ran : obcMachine.run .start actions = some (obc, events))
    (guarded : obcMachine.Guarded SparesTested .start actions) (target : Int) (signal : Signal)
    (killed : .killed target signal ∈ events) : 0 < target :=
  (aims_of_sparesTested ran guarded).past target signal killed

theorem killed_positive_of_sparesTested_power :
    ∃ obc events, obcMachine.run .start (loggerReaped ++ [.main]) = some (obc, events) ∧
      .killed 101 .sigterm ∈ events ∧ obc.gPid .logger = -1 ∧ 0 < (101 : Int) :=
  ⟨_, _, rfl, by decide, rfl, killed_positive_of_sparesTested (loggerReaped ++ [.main]) _ _ rfl
    (by decide +kernel) 101 .sigterm (by decide)⟩

/-- The power process exits between the test of its pid and the `kill`. -/
theorem not_killed_positive :
    ¬ ∀ (actions : List ObcAction) (obc : Obc) (events : List ObcEvent),
      obcMachine.run .start actions = some (obc, events) →
      ∀ target signal, .killed target signal ∈ events → 0 < target := by
  intro claimed
  have positive := claimed
    (shuttingDown ++ [.exit .power, .sigchld, .reap .power, .sigchldReturns, .main]) _ _ rfl
    (-1) .sigterm (by decide)
  exact absurd positive (by decide)

/-! ### The names -/

/-- In the runs in which the handler reaps no child between its `fork` and the assignment of
its pid, every positive `g_pid_*` names a child that has not been reaped, in every state
before `wait_children`. If it never clears a variable between its test and its use either, then
every signal goes to a child that has not been reaped. -/
theorem namesChildren_of_reapsAssigned (actions : List ObcAction) (obc : Obc)
    (events : List ObcEvent) (ran : obcMachine.run .start actions = some (obc, events))
    (guarded : obcMachine.Guarded ReapsAssigned .start actions) :
    (obc.pc.BeforeWait → obc.NamesChildren) ∧
      (obcMachine.Guarded SparesTested .start actions →
        ∀ action next emitted target signal, obc.step action = some (next, emitted) →
          .killed target signal ∈ emitted → ∃ owner, obc.children.Owns owner target) := by
  have accurate := accurate_of_reapsAssigned ran guarded
  refine ⟨fun before who positive => ⟨who, accurate.owns before who positive⟩, ?_⟩
  intro spared action next emitted target signal stepped killed
  have aims := aims_of_sparesTested ran spared
  cases Obc.does_of_step stepped with
  | main free statement =>
    cases statement with
    | kill broadcast who rest atPc =>
      cases List.mem_singleton.mp killed
      exact ⟨who, accurate.owns (by rw [atPc]; trivial) who (aims.tested broadcast who rest atPc)⟩
    | _ => simp at killed
  | _ => simp at killed

/-- The logger has been reaped, the other variables name their children, and the signal about to
be sent goes to the power process. -/
theorem namesChildren_of_reapsAssigned_loggerReaped :
    ∃ obc events, obcMachine.run .start loggerReaped = some (obc, events) ∧
      obc.NamesChildren ∧ obc.gPid .power = 101 ∧ ∃ owner, obc.children.Owns owner 101 := by
  obtain ⟨names, owns⟩ :=
    namesChildren_of_reapsAssigned loggerReaped _ _ rfl (by decide +kernel)
  exact ⟨_, _, rfl, names trivial, rfl,
    owns (by decide +kernel) .main _ _ 101 .sigterm rfl (List.mem_singleton_self _)⟩

/-- The logger's `execlp` fails, and the child is reaped before `main` assigns its pid. -/
def reapedBeforeAssigned : List ObcAction :=
  [.fork 100, .exit .logger, .sigchld, .reap .logger, .sigchldReturns, .main]

theorem not_namesChildren :
    ¬ ∀ (actions : List ObcAction) (obc : Obc) (events : List ObcEvent),
      obcMachine.run .start actions = some (obc, events) → obc.pc.BeforeWait →
      obc.NamesChildren := by
  intro claimed
  obtain ⟨owner, child, found, left, _⟩ :=
    claimed reapedBeforeAssigned _ _ rfl trivial .logger (by decide)
  cases owner with
  | logger =>
    cases found
    exact left rfl
  | _ => cases found

end Fdir
