/-
This file states what the ground command SAFE_MODE achieves. The comms process signals the
OBC, whose handler sets the OBC's own flag; `watchdog` decides from its samples of the bus and
never looks at that flag. So by the end of a tick that follows, the subsystems have been
signalled exactly when they would have been without the command: the telemetry of some tick
called for safe mode, or a broadcast was under way already.
-/

import Fdir.SafeMode
import Fdir.SignalTargets

namespace Fdir

/-! ### The children that stay alive -/

/-- The children alive after were alive before, under the same pids. -/
def Children.Outlive (before after : Children) : Prop :=
  ∀ who child, after who = some child → child.status = .alive →
    ∃ earlier, before who = some earlier ∧ earlier.status = .alive ∧ earlier.pid = child.pid

theorem Children.outlive_rfl (children : Children) : Children.Outlive children children :=
  fun _ child found alive => ⟨child, found, alive, rfl⟩

theorem Children.outlive_kill (target : Int) (signal : Signal) (children : Children) :
    Children.Outlive children (kill target signal children) := by
  intro who child found alive
  obtain ⟨earlier, same, rfl⟩ := Option.map_eq_some_iff.mp found
  refine ⟨earlier, same, ?_⟩
  split at alive <;> exact ⟨alive, by split <;> rfl⟩

theorem Children.outlive_update {children : Children} {who : Subsystem}
    {earlier child : ChildProc} (found : children who = some earlier)
    (status : child.status = .alive → earlier.status = .alive) (pid : earlier.pid = child.pid) :
    Children.Outlive children (Function.update children who (some child)) := by
  intro other child' found' alive
  rcases Children.update_eq_some.mp found' with ⟨rfl, rfl⟩ | ⟨_, found'⟩
  · exact ⟨earlier, found, status alive, pid⟩
  · exact ⟨child', found', alive, rfl⟩

theorem Obc.outlive_of_step {obc next : Obc} {action : ObcAction} {emitted : List ObcEvent}
    (started : obc.pc.todo = []) (stepped : obc.step action = some (next, emitted)) :
    obc.children.Outlive next.children := by
  have same := Children.outlive_rfl obc.children
  cases Obc.does_of_step stepped with
  | main free statement =>
    cases statement with
    | kill => exact Children.outlive_kill _ _ _
    | _ => exact same
  | fork who pid todo atPc =>
    rw [atPc] at started
    cases started
  | wait who child calls atPc found => exact Children.outlive_update found nofun rfl
  | reap who child found => exact Children.outlive_update found nofun rfl
  | exit who child found => exact Children.outlive_update found nofun rfl
  | handle who signal child found => exact Children.outlive_update found id rfl
  | forkFails | powerBusWriter | publish | signalled => exact same

/-- `main` starts the subsystems in order. -/
theorem Obc.todo_suffix {actions : List ObcAction} {obc : Obc} {events : List ObcEvent}
    (ran : obcMachine.run .start actions = some (obc, events)) : obc.pc.todo <:+ startOrder := by
  refine obcMachine.reachable_invariant (fun obc => obc.pc.todo <:+ startOrder)
    List.suffix_rfl (fun obc action next emitted suffix stepped => ?_) ⟨actions, events, ran⟩
  cases Obc.pidStep_of_step stepped with
  | fork who pid todo atPc | forkFails who todo atPc =>
    rw [atPc] at suffix
    exact (List.suffix_cons who todo).trans suffix
  | assign who pid todo atPc =>
    rw [atPc] at suffix
    exact suffix
  | reap => exact suffix
  | same action next same =>
    rw [same.todo]
    exact suffix

/-- The comms process is the last one started. -/
theorem Obc.todo_eq_nil_of_comms {actions : List ObcAction} {obc : Obc} {events : List ObcEvent}
    (ran : obcMachine.run .start actions = some (obc, events)) {child : ChildProc}
    (found : obc.children .comms = some child) : obc.pc.todo = [] := by
  rcases List.eq_nil_or_concat obc.pc.todo with none | ⟨front, last, todo⟩
  · exact none
  · have suffix := Obc.todo_suffix ran
    have unforked := (Obc.named_of_run ran).unforked
    rw [todo, List.concat_eq_append] at suffix unforked
    have comms : last = .comms := by
      obtain ⟨done, order⟩ := suffix
      have last := congrArg List.getLast? order
      rw [← List.append_assoc, List.getLast?_concat] at last
      exact Option.some.inj last
    rw [comms] at unforked
    have absent := unforked .comms (List.mem_append_right _ List.mem_cons_self)
    rw [found] at absent
    cases absent

/-! ### Signals sent and signals due -/

/-- Some SIGUSR1 among the events reached this pid. -/
def Signalled (events : List ObcEvent) (pid : Int) : Prop :=
  ∃ target, .killed target .sigusr1 ∈ events ∧ reaches target pid = true

/-- The broadcast of safe mode under way is still to signal this pid. -/
def ObcPc.StillSignals (pc : ObcPc) (gPid : PidTable) (pid : Int) : Prop :=
  match pc with
  | testing (.safeMode _) rest => ∃ who ∈ rest, gPid who = pid
  | killing (.safeMode _) who rest =>
    reaches (gPid who) pid = true ∨ ∃ other ∈ rest, gPid other = pid
  | _ => False

/-- While safe mode is broadcast the handler does not clear the variable that has been tested and
is about to be read. -/
def SparesEntering (obc : Obc) (action : ObcAction) : Prop :=
  ∀ sample who rest, obc.pc = .killing (.safeMode sample) who rest → SparesTested obc action

theorem signalled_append {front back : List ObcEvent} {pid : Int} :
    Signalled (front ++ back) pid ↔ Signalled front pid ∨ Signalled back pid := by
  simp only [Signalled, List.mem_append, or_and_right, exists_or]

theorem not_signalled {events : List ObcEvent} (silent : ∀ target, .killed target .sigusr1 ∉ events)
    (pid : Int) : ¬ Signalled events pid :=
  fun ⟨target, killed, _⟩ => silent target killed

theorem sparesEntering_of_ne {obc : Obc} {action : ObcAction} (other : ∀ who, action ≠ .reap who) :
    SparesEntering obc action :=
  fun _ _ _ _ _ _ _ _ who _ same => absurd same (other who)

theorem ObcPc.stillSignals_killing_iff {gPid : PidTable} {pid : Int} {sample : Sample}
    {who : Subsystem} {rest : List Subsystem} (positive : 0 < gPid who) :
    (ObcPc.killing (.safeMode sample) who rest).StillSignals gPid pid ↔
      (ObcPc.testing (.safeMode sample) (who :: rest)).StillSignals gPid pid := by
  have only : reaches (gPid who) pid = true ↔ gPid who = pid := by
    rw [reaches, Bool.or_eq_true, decide_eq_true_eq, decide_eq_true_eq]
    exact or_iff_left (by omega)
  simp only [ObcPc.StillSignals, only, List.exists_mem_cons_iff]

/-- When the handler reaps another child, this pid stays due, and it becomes due exactly when the
variable about to be read is cleared. -/
theorem ObcPc.stillSignals_clearReaped {obc : Obc} {reaped : Subsystem} {child : ChildProc}
    (found : obc.children reaped = some child) {pid : Int} (positive : 0 < pid)
    (other : child.pid ≠ pid) :
    obc.pc.StillSignals (clearReaped obc.gPid child.pid) pid ↔
      obc.pc.StillSignals obc.gPid pid ∨ ¬ SparesEntering obc (.reap reaped) := by
  have named : ∀ who, clearReaped obc.gPid child.pid who = pid ↔ obc.gPid who = pid := by
    intro who
    rw [clearReaped_apply]
    split
    next picked =>
      have held := reapedVariable_eq_some picked
      exact ⟨fun same => by omega, fun same => absurd (held.symm.trans same) other⟩
    next => exact Iff.rfl
  have elsewhere : (∀ sample who rest, obc.pc ≠ .killing (.safeMode sample) who rest) →
      SparesEntering obc (.reap reaped) :=
    fun apart sample who rest atPc => absurd atPc (apart sample who rest)
  cases atPc : obc.pc with
  | testing broadcast rest =>
    rw [or_iff_left (not_not.mpr (elsewhere (by simp [atPc])))]
    cases broadcast with
    | safeMode sample => simp only [ObcPc.StillSignals, named]
    | safeModeExit | shutdown => exact Iff.rfl
  | killing broadcast who rest =>
    cases broadcast with
    | safeMode sample =>
      have spares : SparesEntering obc (.reap reaped) ↔
          reapedVariable obc.gPid child.pid ≠ some who := by
        constructor
        · intro spares
          exact spares sample who rest atPc _ who rest atPc reaped child rfl found
        · rintro spared _ _ _ _ broadcast tested' rest' atPc' _ child' ⟨⟩ found'
          cases atPc.symm.trans atPc'
          cases found.symm.trans found'
          exact spared
      rw [spares, not_not, ObcPc.StillSignals, ObcPc.StillSignals]
      simp only [named, reaches, Bool.or_eq_true, decide_eq_true_eq]
      rw [clearReaped_apply]
      by_cases picked : reapedVariable obc.gPid child.pid = some who
      · simp [picked]
      · simp [picked]
    | safeModeExit | shutdown =>
      rw [or_iff_left (not_not.mpr (elsewhere (by simp [atPc])))]
      exact Iff.rfl
  | _ =>
    rw [or_iff_left (not_not.mpr (elsewhere (by simp [atPc])))]
    exact Iff.rfl

/-- A broadcast of safe mode has begun. -/
def Entered (events : List ObcEvent) : Prop := ∃ sample, .began (.safeMode sample) ∈ events

theorem entered_append {front back : List ObcEvent} :
    Entered (front ++ back) ↔ Entered front ∨ Entered back := by
  simp only [Entered, List.mem_append, exists_or]

/-- A statement of `main` signals what was due, and a broadcast that begins makes every live child
due. -/
theorem Obc.Statement.signals {obc next : Obc} {emitted : List ObcEvent} (named : obc.Named)
    (statement : obc.Statement next emitted) {who : Subsystem} {child : ChildProc}
    (found : obc.children who = some child) (alive : child.status = .alive) :
    Signalled emitted child.pid ∨ next.pc.StillSignals next.gPid child.pid ↔
      obc.pc.StillSignals obc.gPid child.pid ∨ Entered emitted := by
  have positive := named.positive who child found
  cases statement with
  | enter sample atPc =>
    have holds := named.gPid_eq (by rw [atPc]; rfl) found alive
    refine iff_of_true (.inr ⟨who, mem_broadcastOrder who, holds⟩) (.inr ⟨sample, ?_⟩)
    exact List.mem_cons_self
  | tested broadcast first rest atPc above =>
    rw [atPc]
    cases broadcast with
    | safeMode sample =>
      rw [or_iff_right (not_signalled (by simp) _), or_iff_left (by simp [Entered])]
      exact ObcPc.stillSignals_killing_iff above
    | safeModeExit | shutdown => simp [ObcPc.StillSignals, Signalled, Entered]
  | skipped broadcast first rest atPc absent =>
    rw [atPc]
    cases broadcast with
    | safeMode sample =>
      have apart : obc.gPid first ≠ child.pid := by omega
      simp [ObcPc.StillSignals, Signalled, Entered, apart]
    | safeModeExit | shutdown => simp [ObcPc.StillSignals, Signalled, Entered]
  | kill broadcast first rest atPc =>
    rw [atPc]
    cases broadcast <;>
      simp [ObcPc.StillSignals, Signalled, Entered, Broadcast.signal]
  | broadcasted broadcast atPc =>
    rw [atPc]
    cases broadcast <;> simp [ObcPc.StillSignals, Signalled, Entered, Broadcast.after]
  | started atPc | assign _ _ _ atPc | shutDown atPc | count atPc | tick atPc | sample atPc
  | noEnter _ atPc | storeSafe _ atPc | leave _ atPc | noLeave _ atPc | storeNormal atPc
  | noChild _ atPc | waited atPc =>
    rw [atPc]
    simp [ObcPc.StillSignals, Signalled, Entered]

theorem Obc.reap_of_step {obc next : Obc} {who : Subsystem} {emitted : List ObcEvent}
    (stepped : obc.step (.reap who) = some (next, emitted)) :
    ∃ child, obc.children who = some child ∧ child.status = .zombie ∧ next.pc = obc.pc ∧
      next.gPid = clearReaped obc.gPid child.pid ∧ emitted = [.reaped who] := by
  rw [Obc.step] at stepped
  split at stepped
  · cases stepped
  next child zombie =>
    split at stepped
    · cases stepped
      exact ⟨child, (Obc.of_zombie zombie).1, (Obc.of_zombie zombie).2, rfl, rfl, rfl⟩
    · cases stepped

/-- A step signals what was due. A broadcast that begins makes every live child due, and so does
the handler when it clears the variable about to be read. -/
theorem Obc.signals_of_step {obc next : Obc} {action : ObcAction} {emitted : List ObcEvent}
    (named : obc.Named) (stepped : obc.step action = some (next, emitted)) {who : Subsystem}
    {child : ChildProc} (found : obc.children who = some child) (alive : child.status = .alive) :
    Signalled emitted child.pid ∨ next.pc.StillSignals next.gPid child.pid ↔
      obc.pc.StillSignals obc.gPid child.pid ∨ ¬ SparesEntering obc action ∨
        Entered emitted := by
  by_cases reaps : ∃ reaped, action = .reap reaped
  · obtain ⟨reaped, rfl⟩ := reaps
    obtain ⟨gone, found', zombie, pc, gPid, rfl⟩ := Obc.reap_of_step stepped
    have other : gone.pid ≠ child.pid := by
      intro same
      have equal := named.distinct reaped gone who child found' found (by rw [zombie]; decide)
        (by rw [alive]; decide) same
      rw [equal, found] at found'
      cases found'
      rw [alive] at zombie
      cases zombie
    have quiet : ¬ Entered [.reaped reaped] := by simp [Entered]
    rw [pc, gPid, or_iff_right (not_signalled (by simp) _), or_iff_left quiet]
    exact ObcPc.stillSignals_clearReaped found' (named.positive who child found) other
  have spares : SparesEntering obc action :=
    sparesEntering_of_ne fun reaped same => reaps ⟨reaped, same⟩
  rw [or_iff_right (not_not.mpr spares)]
  have silent : ¬ Signalled [] child.pid := not_signalled (fun _ => List.not_mem_nil) _
  have quiet : ¬ Entered [] := by simp [Entered]
  cases Obc.does_of_step stepped with
  | main free statement => exact statement.signals named found alive
  | reap reaped => exact absurd ⟨reaped, rfl⟩ reaps
  | fork _ _ _ atPc | forkFails _ _ atPc | wait _ _ _ atPc =>
    rw [atPc]
    simp [ObcPc.StillSignals, Signalled, Entered]
  | exit | handle | powerBusWriter | publish | signalled =>
    exact (or_iff_right silent).trans (or_iff_left quiet).symm

/-- Since a state in which all subsystems have been started, the pid of a live child has been
signalled or is still due exactly when it was due then, or a broadcast has begun since, or the
handler has cleared a variable about to be read. -/
structure Obc.SignalsSince (start : Obc) (actions : List ObcAction) (obc : Obc)
    (events : List ObcEvent) : Prop where
  named : obc.Named
  started : obc.pc.todo = []
  signals : ∀ who child, obc.children who = some child → child.status = .alive →
    (Signalled events child.pid ∨ obc.pc.StillSignals obc.gPid child.pid ↔
      start.pc.StillSignals start.gPid child.pid ∨
        ¬ obcMachine.Guarded SparesEntering start actions ∨ Entered events)

theorem Obc.signalsSince_of_run {start : Obc} (named : start.Named) (started : start.pc.todo = [])
    {actions : List ObcAction} {obc : Obc} {events : List ObcEvent}
    (ran : obcMachine.run start actions = some (obc, events)) :
    start.SignalsSince actions obc events := by
  refine obcMachine.run_induction start.SignalsSince ⟨named, started, fun who child _ _ => ?_⟩ ?_
    ran
  · rw [or_iff_right (not_signalled (fun _ => List.not_mem_nil) _)]
    exact (or_iff_left (by simp [Machine.Guarded, Entered])).symm
  · rintro actions obc events action next emitted front ⟨named, started, held⟩ stepped
    refine ⟨named.step (Obc.pidStep_of_step stepped), ?_, fun who child found alive => ?_⟩
    · cases Obc.pidStep_of_step stepped with
      | fork who pid todo atPc | forkFails who todo atPc =>
        rw [atPc] at started
        cases started
      | assign who pid todo atPc =>
        rw [atPc] at started
        exact started
      | reap => exact started
      | same action next same => rw [same.todo, started]
    obtain ⟨earlier, before, status, pid⟩ :=
      Obc.outlive_of_step started stepped who child found alive
    have due := held who earlier before status
    have turn := Obc.signals_of_step named stepped before status
    rw [← pid, signalled_append, or_assoc, turn, ← or_assoc, due, entered_append,
      obcMachine.guarded_snoc front, not_and_or]
    simp only [or_assoc, or_left_comm]

/-! ### The samples that enter safe mode -/

/-- The test of `watchdog` for entering safe mode. -/
def Sample.enters (sample : Sample) : Bool := !sample.safe && sample.isCritical

theorem Sample.enters_iff (sample : Sample) :
    sample.enters = true ↔ sample.safe = modeNormal ∧
      (sample.batt ≤ batteryCritical ∨ tempCritical ≤ sample.temp) := by
  rw [Sample.enters, Bool.and_eq_true, Bool.not_eq_true', Sample.isCritical_iff]

/-- `main` is about to enter safe mode. -/
def ObcPc.Enters (pc : ObcPc) : Prop := ∃ sample, pc = .enterTest sample ∧ sample.enters = true

theorem samples_append (front back : List ObcEvent) :
    samples (front ++ back) = samples front ++ samples back :=
  List.filterMap_append

theorem ObcPc.enters_enterTest (sample : Sample) :
    (ObcPc.enterTest sample).Enters ↔ sample.enters = true :=
  ⟨fun ⟨_, same, enters⟩ => ObcPc.enterTest.inj same ▸ enters, fun enters => ⟨sample, rfl, enters⟩⟩

/-- A broadcast of safe mode begins exactly when the sample held calls for it. -/
theorem Obc.enters_of_step {obc next : Obc} {action : ObcAction} {emitted : List ObcEvent}
    (stepped : obc.step action = some (next, emitted)) :
    Entered emitted ∨ next.pc.Enters ↔
      obc.pc.Enters ∨ ∃ sample ∈ samples emitted, sample.enters = true := by
  cases Obc.does_of_step stepped with
  | main free statement =>
    cases statement with
    | sample atPc =>
      rw [atPc, ObcPc.enters_enterTest]
      simp [Entered, ObcPc.Enters, samples, ObcEvent.sampled?]
    | enter sample atPc normal isCritical =>
      rw [atPc, ObcPc.enters_enterTest]
      simp [Entered, Sample.enters, normal, isCritical]
    | noEnter sample atPc other =>
      have refused : sample.enters = false := by
        rw [Sample.enters]
        rcases other with safe | quiet
        · rw [safe]
          rfl
        · rw [quiet, Bool.and_false]
      rw [atPc, ObcPc.enters_enterTest, refused]
      simp [Entered, ObcPc.Enters, samples]
    | broadcasted broadcast atPc =>
      rw [atPc]
      cases broadcast <;>
        simp [Entered, ObcPc.Enters, samples, Broadcast.after]
    | started atPc | assign _ _ _ atPc | shutDown atPc | count atPc | tick atPc
    | tested _ _ _ atPc | skipped _ _ _ atPc | kill _ _ _ atPc | storeSafe _ atPc | leave _ atPc
    | noLeave _ atPc | storeNormal atPc | noChild _ atPc | waited atPc =>
      rw [atPc]
      simp [Entered, ObcPc.Enters, samples, ObcEvent.sampled?]
  | fork _ _ _ atPc | forkFails _ _ atPc | wait _ _ _ atPc =>
    rw [atPc]
    simp [Entered, ObcPc.Enters, samples, ObcEvent.sampled?]
  | reap | exit | handle | powerBusWriter | publish | signalled =>
    simp [Entered, samples, ObcEvent.sampled?, Obc.setChild]

/-- In a run a broadcast of safe mode begins, or is about to, exactly when the sample held at the
beginning or one taken since calls for it. -/
theorem enters_of_run {start obc : Obc} {actions : List ObcAction} {events : List ObcEvent}
    (ran : obcMachine.run start actions = some (obc, events)) :
    Entered events ∨ obc.pc.Enters ↔
      start.pc.Enters ∨ ∃ sample ∈ samples events, sample.enters = true := by
  refine obcMachine.run_invariant (fun obc events => Entered events ∨ obc.pc.Enters ↔
    start.pc.Enters ∨ ∃ sample ∈ samples events, sample.enters = true) ?_ ?_ ran
  · simp [Entered, samples]
  · intro obc events action next emitted held stepped
    have turn := Obc.enters_of_step stepped
    rw [entered_append, or_assoc, turn, ← or_assoc, held, or_assoc, samples_append]
    simp only [List.mem_append, or_and_right, exists_or]

/-! ### The command -/

/-- The live children have all been signalled, from the handling of SAFE_MODE by the comms process
to the end of a tick that begins after the OBC has handled the signal it sends, exactly when
`watchdog` takes a sample that calls for safe mode or holds one when the command comes, or a
broadcast of safe mode under way when the command comes is still to signal each of them, or the
handler clears a variable such a broadcast is about to read, and all processes are signalled. -/
theorem safeModeCommand_iff (before wait idle tick : List ObcAction) (start obc last : Obc)
    (seen sent events : List ObcEvent)
    (reached : obcMachine.run .start before = some (start, seen))
    (commanded : obcMachine.run start (.command cmdSafeMode :: wait ++ .sigusr1 :: idle) =
      some (obc, sent))
    (atTick : obc.pc = .sample)
    (ticked : obcMachine.run obc (.main :: tick) = some (last, events))
    (ended : last.pc = .loop) (once : (samples events).length = 1) :
    (∀ who child, last.children who = some child → child.status = .alive →
        Signalled (sent ++ events) child.pid) ↔
      (∃ sample : Sample, (start.pc = .enterTest sample ∨ sample ∈ samples sent ∨
          sample = obc.bus.sample) ∧ sample.safe = modeNormal ∧
          (sample.batt ≤ batteryCritical ∨ tempCritical ≤ sample.temp)) ∨
        ¬ obcMachine.Guarded SparesEntering start
          (.command cmdSafeMode :: wait ++ .sigusr1 :: idle ++ .main :: tick) ∨
        ∀ who child, last.children who = some child → child.status = .alive →
          start.pc.StillSignals start.gPid child.pid := by
  have ran : obcMachine.run start
      (.command cmdSafeMode :: wait ++ .sigusr1 :: idle ++ .main :: tick) =
        some (last, sent ++ events) :=
    obcMachine.run_append_eq_some.mpr ⟨obc, sent, events, commanded, ticked, rfl⟩
  have started : start.pc.todo = [] := by
    obtain ⟨middle, first, later, stepped, _⟩ := obcMachine.run_cons_eq_some.mp commanded
    change (start.live .comms).map _ = _ at stepped
    obtain ⟨child, live, _⟩ := Option.map_eq_some_iff.mp stepped
    exact Obc.todo_eq_nil_of_comms reached (Obc.of_live live).1
  have taken : samples events = [obc.bus.sample] := by
    obtain ⟨middle, first, later, stepped, _, rfl⟩ := obcMachine.run_cons_eq_some.mp ticked
    change obc.step .main = _ at stepped
    simp only [Obc.step, Obc.next, atTick] at stepped
    split at stepped
    · cases stepped
    · cases stepped
      rw [samples_append] at once ⊢
      have silent : samples later = [] := by
        simpa [samples, ObcEvent.sampled?] using once
      rw [silent]
      rfl
  have signals := (Obc.signalsSince_of_run (Obc.named_of_run reached) started ran).signals
  have entered : Entered (sent ++ events) ↔ ∃ sample : Sample,
      (start.pc = .enterTest sample ∨ sample ∈ samples sent ∨ sample = obc.bus.sample) ∧
        sample.safe = modeNormal ∧
        (sample.batt ≤ batteryCritical ∨ tempCritical ≤ sample.temp) := by
    have enters := enters_of_run ran
    rw [or_iff_left (by simp [ObcPc.Enters, ended])] at enters
    rw [enters, samples_append, taken]
    simp only [ObcPc.Enters, ← Sample.enters_iff, List.mem_append, List.mem_singleton,
      or_and_right, exists_or]
  have due : ∀ who child, last.children who = some child → child.status = .alive →
      (Signalled (sent ++ events) child.pid ↔
        start.pc.StillSignals start.gPid child.pid ∨
          ¬ obcMachine.Guarded SparesEntering start
            (.command cmdSafeMode :: wait ++ .sigusr1 :: idle ++ .main :: tick) ∨
          Entered (sent ++ events)) := by
    intro who child found alive
    rw [← signals who child found alive, ended]
    exact (or_iff_left id).symm
  rw [← entered]
  constructor
  · intro all
    by_cases other : ¬ obcMachine.Guarded SparesEntering start
        (.command cmdSafeMode :: wait ++ .sigusr1 :: idle ++ .main :: tick) ∨
        Entered (sent ++ events)
    · exact other.elim (fun cleared => .inr (.inl cleared)) .inl
    · refine .inr (.inr fun who child found alive => ?_)
      exact ((due who child found alive).mp (all who child found alive)).resolve_right other
  · rintro (begun | cleared | still) who child found alive
    · exact (due who child found alive).mpr (.inr (.inr begun))
    · exact (due who child found alive).mpr (.inr (.inl cleared))
    · exact (due who child found alive).mpr (.inl (still who child found alive))

/-- The subsystems are started, a charge of 5 is published, and `watchdog` has sampled it. -/
def sampledCritical : List ObcAction :=
  [.fork 100, .main, .fork 101, .main, .fork 102, .main, .fork 103, .main, .main,
    .powerBusWriter ⟨0.0, 5.0, true, true⟩, .main, .main, .main]

/-- The OBC handles the signal of a command, broadcasts safe mode on the sample it holds, and comes
to its next tick. -/
def enteringCommanded : List ObcAction :=
  .command cmdSafeMode :: [] ++ .sigusr1 ::
    [.main, .main, .main, .main, .main, .main, .main, .main, .main, .main, .main, .main, .main,
      .main]

/-- The command comes while a tick holds a sample that calls for safe mode: the tick after it finds
safe mode on, and all subsystems have been signalled. -/
theorem safeModeCommand_iff_entering :
    ∃ start obc last seen sent events,
      obcMachine.run .start sampledCritical = some (start, seen) ∧
      obcMachine.run start enteringCommanded = some (obc, sent) ∧
      obcMachine.run obc [.main, .main, .main] = some (last, events) ∧
      last.bus.safeMode = modeSafe ∧ (∃ child, last.live .logger = some child) ∧
      ∀ who child, last.children who = some child → child.status = .alive →
        Signalled (sent ++ events) child.pid :=
  ⟨_, _, _, _, _, _, rfl, rfl, rfl, rfl, ⟨_, rfl⟩,
    (safeModeCommand_iff sampledCritical [] (enteringCommanded.drop 2) [.main, .main] _ _ _ _ _ _
      rfl rfl rfl rfl rfl rfl).mpr
        (.inl ⟨⟨5.0, 30.0, 0.0, false⟩, .inl rfl, rfl, .inl (by decide)⟩)⟩

/-- No subsystem is told, although normal mode was on, the command was handled by both processes
and a whole tick followed. -/
theorem not_safeModeCommand :
    ¬ ∀ (before wait rest : List ObcAction) (obc handled last : Obc)
        (seen first events : List ObcEvent),
      obcMachine.run .start before = some (obc, seen) → obc.bus.safeMode = modeNormal →
      obcMachine.run obc (.command cmdSafeMode :: wait ++ [.sigusr1]) = some (handled, first) →
      obcMachine.run handled rest = some (last, events) → last.pc = .loop → samples events ≠ [] →
      ∀ who child, last.children who = some child → child.status = .alive →
        Signalled (first ++ events) child.pid := by
  intro claimed
  obtain ⟨target, killed, _⟩ := claimed
    [.fork 100, .main, .fork 101, .main, .fork 102, .main, .fork 103, .main, .main] []
    [.main, .main, .main, .main, .main] _ _ _ _ _ _ rfl rfl rfl rfl rfl (by decide) .power _ rfl
    rfl
  simp at killed

end Fdir
