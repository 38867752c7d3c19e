/-
This file proves how the mission ends.

Only SIGINT makes the OBC shut down: until then no child is told to stop, and after it nothing is
broadcast but SIGTERM. It comes to every child that is alive, whatever the handler has reaped
meanwhile, so in `wait_children` the OBC waits only for children that know. Once the flag is set,
`main` has a bounded number of statements left, and only a bus semaphore that is not free or a
child that has not exited keeps it from the next.
-/

import Fdir.ChildPids

namespace Fdir

/-! ### The order to stop -/

/-- The subsystems the shutdown has still to deal with, once it has begun. -/
def ObcPc.toStop? : ObcPc → Option (List Subsystem)
  | testing .shutdown rest => some rest
  | killing .shutdown who rest => some (who :: rest)
  | waiting _ | finished => some []
  | _ => none

/-- The child's loops end, or will once it handles its signals. -/
def ChildProc.Stopping (child : ChildProc) : Prop :=
  child.pending .sigterm = true ∨ child.flags.gShutdown = true

instance (child : ChildProc) : Decidable child.Stopping := inferInstanceAs (Decidable (_ ∨ _))

/-- What the OBC does once it shuts down. -/
def ObcEvent.ends : ObcEvent → Bool
  | killed _ signal => signal = .sigterm
  | reaped _ => true
  | _ => false

/-- What the OBC does before. -/
def ObcEvent.precedes : ObcEvent → Bool
  | began broadcast => broadcast ≠ .shutdown
  | killed _ signal => signal ≠ .sigterm
  | _ => true

def ObcAction.isSigint : ObcAction → Bool
  | sigint => true
  | _ => false

/-- Where a run is with the shutdown. -/
structure Obc.Stops (actions : List ObcAction) (obc : Obc) (events : List ObcEvent) : Prop where
  interrupted : obc.flags.gShutdown = true → .sigint ∈ actions
  before : obc.pc.toStop? = none → (∀ event ∈ events, event.precedes = true) ∧
    ∀ who child, obc.children who = some child → ¬ child.Stopping
  begun : ∀ rest, obc.pc.toStop? = some rest → .sigint ∈ actions ∧
    (∃ front back, events = front ++ .began .shutdown :: back ∧
      (∀ event ∈ front, event.precedes = true) ∧ ∀ event ∈ back, event.ends = true) ∧
    ∀ who child, obc.children who = some child → child.status = .alive → who ∉ rest →
      child.Stopping

/-- Another signal, pending or handled, has nothing to do with stopping. -/
theorem ChildProc.stopping_update_iff (child : ChildProc) {signal : Signal}
    (other : signal ≠ .sigterm) (value : Bool) {flags : SignalFlags}
    (same : flags.gShutdown = child.flags.gShutdown) :
    ChildProc.Stopping
        { child with flags := flags, pending := Function.update child.pending signal value } ↔
      child.Stopping := by
  simp only [Stopping, Function.update_of_ne other.symm, same]

/-- What a `kill` has to do with stopping. -/
theorem stopping_of_kill {target : Int} {signal : Signal} {children : Children} {who : Subsystem}
    {child : ChildProc} (isFound : kill target signal children who = some child) :
    ∃ earlier, children who = some earlier ∧ child.status = earlier.status ∧
      (earlier.Stopping → child.Stopping) ∧
      (signal ≠ .sigterm → (child.Stopping ↔ earlier.Stopping)) ∧
      (signal = .sigterm → earlier.status = .alive → reaches target earlier.pid = true →
        child.Stopping) := by
  obtain ⟨earlier, found, rfl⟩ := Option.map_eq_some_iff.mp isFound
  refine ⟨earlier, found, ?_⟩
  split
  next reached =>
    by_cases isTerm : signal = .sigterm
    · have stopping : ChildProc.Stopping
          { earlier with pending := Function.update earlier.pending signal true } := by
        simp only [ChildProc.Stopping, isTerm, Function.update_self, true_or]
      exact ⟨rfl, fun _ => stopping, fun other => absurd isTerm other, fun _ _ _ => stopping⟩
    · have same := earlier.stopping_update_iff isTerm true rfl
      exact ⟨rfl, same.mpr, fun _ => same, fun isTerm' => absurd isTerm' isTerm⟩
  next missed =>
    exact ⟨rfl, id, fun _ => Iff.rfl, fun _ alive reached => absurd ⟨alive, reached⟩ missed⟩

/-! ### What one step keeps -/

/-- Only SIGINT sets the flag, and nothing clears it. -/
theorem Obc.gShutdown_of_step {obc next : Obc} {action : ObcAction} {emitted : List ObcEvent}
    (stepped : obc.step action = some (next, emitted)) :
    next.flags.gShutdown = (obc.flags.gShutdown || action.isSigint) := by
  have same : next.flags.gShutdown = obc.flags.gShutdown → action.isSigint = false →
      next.flags.gShutdown = (obc.flags.gShutdown || action.isSigint) := by
    intro same other
    rw [same, other, Bool.or_false]
  cases action with
  | sigint =>
    cases stepped
    exact (Bool.or_true _).symm
  | main =>
    simp only [Obc.step] at stepped
    split at stepped
    · cases stepped
    · cases Obc.statement_of_next stepped <;> exact same rfl rfl
  | powerBusWriter | thermalBusWriter | downlinkBusWriter | exit =>
    simp only [Obc.step, Option.map_eq_some_iff] at stepped
    obtain ⟨child, live, ⟨⟩⟩ := stepped
    exact same rfl rfl
  | command cmd =>
    simp only [Obc.step, Option.map_eq_some_iff] at stepped
    obtain ⟨child, live, stepped⟩ := stepped
    split at stepped <;> cases stepped <;> exact same rfl rfl
  | sigusr1 | sigusr2 | sigchld | sigchldReturns | handle =>
    simp only [Obc.step] at stepped
    split at stepped <;> cases stepped
    exact same rfl rfl
  | fork | forkFails | wait =>
    simp only [Obc.step] at stepped
    split at stepped
    · split at stepped <;> cases stepped
      exact same rfl rfl
    · cases stepped
  | reap =>
    simp only [Obc.step] at stepped
    split at stepped
    · cases stepped
    · split at stepped <;> cases stepped
      exact same rfl rfl

namespace Obc.Stops

variable {actions : List ObcAction} {action : ObcAction} {obc next : Obc}
  {events emitted : List ObcEvent}

theorem start : Stops [] Obc.start [] where
  interrupted flag := by cases flag
  before _ := ⟨by simp, fun _ _ found => by cases found⟩
  begun _ stops := by cases stops

/-- A child that is there after a step was there before, stopping or not, unless it is new. -/
def Inherits (obc next : Obc) : Prop :=
  ∀ who child, next.children who = some child →
    (∃ earlier, obc.children who = some earlier ∧
      (child.status = .alive → earlier.status = .alive) ∧ (child.Stopping ↔ earlier.Stopping)) ∨
      ¬ child.Stopping ∧ obc.pc.toStop? = none

theorem inherits_rfl (same : next.children = obc.children) : Inherits obc next := by
  intro who child found
  rw [same] at found
  exact .inl ⟨child, found, id, Iff.rfl⟩

theorem inherits_setChild {who : Subsystem} {earlier child : ChildProc}
    (found : obc.children who = some earlier)
    (children : next.children = Function.update obc.children who (some child))
    (alive : child.status = .alive → earlier.status = .alive)
    (same : child.Stopping ↔ earlier.Stopping) : Inherits obc next := by
  intro other child' found'
  rw [children] at found'
  rcases Children.update_eq_some.mp found' with ⟨rfl, rfl⟩ | ⟨_, found'⟩
  · exact .inl ⟨earlier, found, alive, same⟩
  · exact .inl ⟨child', found', id, Iff.rfl⟩

/-- A step that is neither the first nor the last the shutdown does for a subsystem. -/
theorem keep (stops : Stops actions obc events)
    (flag : next.flags.gShutdown = (obc.flags.gShutdown || action.isSigint))
    (pc : next.pc.toStop? = obc.pc.toStop?) (inherits : Inherits obc next)
    (precedes : obc.pc.toStop? = none → ∀ event ∈ emitted, event.precedes = true)
    (ends : ∀ rest, obc.pc.toStop? = some rest → ∀ event ∈ emitted, event.ends = true) :
    Stops (actions ++ [action]) next (events ++ emitted) := by
  refine ⟨fun set => ?_, fun none => ?_, fun rest some => ?_⟩
  · rw [flag, Bool.or_eq_true] at set
    rcases set with set | isSigint
    · exact List.mem_append_left _ (stops.interrupted set)
    · cases action with
      | sigint => exact List.mem_append_right _ List.mem_cons_self
      | _ => cases isSigint
  · rw [pc] at none
    obtain ⟨early, unaware⟩ := stops.before none
    refine ⟨fun event member => ?_, fun who child found => ?_⟩
    · exact (List.mem_append.mp member).elim (early event) (precedes none event)
    · rcases inherits who child found with ⟨earlier, found, _, same⟩ | ⟨fresh, _⟩
      · exact fun stopping => unaware who earlier found (same.mp stopping)
      · exact fresh
  · rw [pc] at some
    obtain ⟨sigint, ⟨front, back, split, early, late⟩, told⟩ := stops.begun rest some
    refine ⟨List.mem_append_left _ sigint, ⟨front, back ++ emitted, ?_, early, ?_⟩, ?_⟩
    · rw [split, List.append_assoc, List.cons_append]
    · exact fun event member => (List.mem_append.mp member).elim (late event) (ends rest some event)
    · intro who child found alive dealt
      rcases inherits who child found with ⟨earlier, found, before, same⟩ | ⟨_, none⟩
      · exact same.mpr (told who earlier found (before alive) dealt)
      · rw [some] at none
        cases none

/-- The shutdown begins. -/
theorem shutDown (stops : Stops actions obc events) (atPc : obc.pc = .loop)
    (set : obc.flags.gShutdown = true) (pc : next.pc = .testing .shutdown broadcastOrder) :
    Stops (actions ++ [.main]) next (events ++ [.began .shutdown]) := by
  have sigint := List.mem_append_left [.main] (stops.interrupted set)
  refine ⟨fun _ => sigint, fun none => ?_, fun rest some => ?_⟩
  · rw [pc] at none
    cases none
  · rw [pc] at some
    cases some
    have early := (stops.before (by rw [atPc]; rfl)).1
    exact ⟨sigint, ⟨events, [], rfl, early, by simp⟩,
      fun who _ _ _ dealt => absurd (mem_broadcastOrder who) dealt⟩

/-- The shutdown is done with a subsystem. -/
theorem dealt (stops : Stops actions obc events) {who : Subsystem} {rest : List Subsystem}
    (before : obc.pc.toStop? = some (who :: rest)) (pc : next.pc = .testing .shutdown rest)
    (children : ∀ other child, next.children other = some child → child.status = .alive →
      ∃ earlier, obc.children other = some earlier ∧ earlier.status = .alive ∧
        (earlier.Stopping → child.Stopping))
    (told : ∀ child, next.children who = some child → child.status = .alive → child.Stopping)
    (ends : ∀ event ∈ emitted, event.ends = true) :
    Stops (actions ++ [.main]) next (events ++ emitted) := by
  obtain ⟨sigint, ⟨front, back, split, early, late⟩, known⟩ := stops.begun _ before
  refine ⟨fun _ => List.mem_append_left _ sigint, fun none => ?_, fun left some => ?_⟩
  · rw [pc] at none
    cases none
  · rw [pc] at some
    cases some
    refine ⟨List.mem_append_left _ sigint, ⟨front, back ++ emitted, ?_, early, ?_⟩, ?_⟩
    · rw [split, List.append_assoc, List.cons_append]
    · exact fun event member => (List.mem_append.mp member).elim (late event) (ends event)
    · intro other child found alive dealt
      by_cases same : other = who
      · subst same
        exact told child found alive
      · obtain ⟨earlier, found, alive, stays⟩ := children other child found alive
        refine stays (known other earlier found alive fun member => ?_)
        exact (List.mem_cons.mp member).elim same dealt

theorem statement (stops : Stops actions obc events) (named : obc.Named)
    (statement : obc.Statement next emitted) :
    Stops (actions ++ [.main]) next (events ++ emitted) := by
  have flag : obc.flags.gShutdown = (obc.flags.gShutdown || ObcAction.main.isSigint) :=
    (Bool.or_false _).symm
  cases statement with
  | shutDown atPc set => exact stops.shutDown atPc set rfl
  | skipped broadcast who rest atPc absent =>
    cases broadcast with
    | shutdown =>
      refine stops.dealt (by rw [atPc]; rfl) rfl
        (fun _ child found alive => ⟨child, found, alive, id⟩) (fun child found alive => ?_)
        (by simp)
      exact absurd (named.gPid_pos (by rw [atPc]; rfl) found alive) absent
    | safeMode | safeModeExit =>
      exact stops.keep flag (congrArg ObcPc.toStop? atPc).symm (inherits_rfl rfl) (by simp)
        (by simp)
  | kill broadcast who rest atPc =>
    have other : broadcast ≠ .shutdown → broadcast.signal ≠ .sigterm ∧ obc.pc.toStop? = none := by
      intro other
      rw [atPc]
      cases broadcast with
      | shutdown => exact absurd rfl other
      | safeMode | safeModeExit => exact ⟨by simp [Broadcast.signal], rfl⟩
    by_cases isShutdown : broadcast = .shutdown
    · subst isShutdown
      refine stops.dealt (by rw [atPc]; rfl) rfl (fun target child isFound alive => ?_)
        (fun child isFound alive => ?_) (by simp [ObcEvent.ends, Broadcast.signal])
      · obtain ⟨earlier, found, status, stays, _⟩ := stopping_of_kill isFound
        exact ⟨earlier, found, status ▸ alive, stays⟩
      · obtain ⟨earlier, found, status, _, _, stops⟩ := stopping_of_kill isFound
        rw [status] at alive
        -- The variable of a live child holds its pid, so the signal reaches it.
        exact stops rfl alive (named.reaches_gPid (by rw [atPc]; rfl) found alive)
    · obtain ⟨signal, none⟩ := other isShutdown
      refine stops.keep flag (Eq.trans ?_ none.symm) (fun target child isFound => .inl ?_)
        (by simp [ObcEvent.precedes, signal]) (by simp [none])
      · cases broadcast <;> first | exact absurd rfl isShutdown | rfl
      · obtain ⟨earlier, found, status, _, same, _⟩ := stopping_of_kill isFound
        exact ⟨earlier, found, fun alive => status ▸ alive, same signal⟩
  | tested broadcast who rest atPc | broadcasted broadcast atPc =>
    refine stops.keep flag (Eq.trans ?_ (congrArg ObcPc.toStop? atPc).symm) (inherits_rfl rfl)
      (by simp) (by simp)
    cases broadcast <;> rfl
  | enter sample atPc | leave sample atPc | sample atPc | storeSafe sample atPc
  | storeNormal atPc =>
    refine stops.keep flag (congrArg ObcPc.toStop? atPc).symm (inherits_rfl rfl)
      (by simp [ObcEvent.precedes]) (fun rest some => ?_)
    rw [atPc] at some
    cases some
  | started atPc | assign who pid todo atPc | count atPc | tick atPc | noEnter sample atPc
  | noLeave sample atPc | noChild calls atPc | waited atPc =>
    exact stops.keep flag (congrArg ObcPc.toStop? atPc).symm (inherits_rfl rfl) (by simp) (by simp)

theorem step (stops : Stops actions obc events) (named : obc.Named)
    (stepped : obc.step action = some (next, emitted)) :
    Stops (actions ++ [action]) next (events ++ emitted) := by
  have flag := Obc.gShutdown_of_step stepped
  cases Obc.does_of_step stepped with
  | main free statement => exact stops.statement named statement
  | fork who pid todo atPc =>
    have none : obc.pc.toStop? = none := by rw [atPc]; rfl
    refine stops.keep flag none.symm (fun other child found => ?_) (by simp) (by simp)
    rcases Children.update_eq_some.mp found with ⟨rfl, rfl⟩ | ⟨_, found⟩
    · exact .inr ⟨by simp [ChildProc.Stopping, ChildProc.forked, SignalFlags.clear], none⟩
    · exact .inl ⟨child, found, id, Iff.rfl⟩
  | forkFails who todo atPc =>
    exact stops.keep flag (congrArg ObcPc.toStop? atPc).symm (inherits_rfl rfl) (by simp) (by simp)
  | wait who child calls atPc found zombie =>
    exact stops.keep flag (congrArg ObcPc.toStop? atPc).symm
      (inherits_setChild found rfl (fun alive => by cases alive) Iff.rfl)
      (by simp [ObcEvent.precedes]) (by simp [ObcEvent.ends])
  | reap who child found zombie =>
    exact stops.keep flag rfl (inherits_setChild found rfl (fun alive => by cases alive) Iff.rfl)
      (by simp [ObcEvent.precedes]) (by simp [ObcEvent.ends])
  | exit who child found alive =>
    exact stops.keep flag rfl (inherits_setChild found rfl (fun alive => by cases alive) Iff.rfl)
      (by simp) (by simp)
  | handle who signal child found alive pending =>
    refine stops.keep flag rfl (inherits_setChild found rfl id ?_) (by simp) (by simp)
    cases signal with
    | sigterm => exact ⟨fun _ => .inl pending, fun _ => .inr rfl⟩
    | sigusr1 => exact child.stopping_update_iff (by decide) false rfl
    | sigusr2 => exact child.stopping_update_iff (by decide) false rfl
  | powerBusWriter | publish | signalled =>
    exact stops.keep flag rfl (inherits_rfl rfl) (by simp) (by simp)

end Obc.Stops

theorem stops_of_run {actions : List ObcAction} {obc : Obc} {events : List ObcEvent}
    (ran : obcMachine.run .start actions = some (obc, events)) : Obc.Stops actions obc events :=
  obcMachine.run_induction Obc.Stops .start (fun _ _ _ _ _ _ ran stops stepped =>
    stops.step (Obc.named_of_run ran) stepped) ran

/-- However the OBC, its handlers and its children interleave: without SIGINT no child is told to
stop; the shutdown comes once, nothing but SIGTERMs is sent after it and none before; and when
`main` waits for its children, or has done so, every child that is alive has the signal or has
handled it. -/
theorem shutdown_ordered (actions : List ObcAction) (obc : Obc) (events : List ObcEvent)
    (ran : obcMachine.run .start actions = some (obc, events)) :
    (∀ who child, obc.children who = some child → child.Stopping → .sigint ∈ actions) ∧
      (∀ event ∈ events, event.precedes = false → ∃ front back,
        events = front ++ .began .shutdown :: back ∧
          (∀ event ∈ front, event.precedes = true) ∧ ∀ event ∈ back, event.ends = true) ∧
      (obc.pc.toStop? = some [] → ∀ who child, obc.children who = some child →
        child.status = .alive → child.Stopping) := by
  have stops := stops_of_run ran
  refine ⟨fun who child found stopping => ?_, fun event member late => ?_, fun all who child found
    alive => (stops.begun [] all).2.2 who child found alive List.not_mem_nil⟩
  · cases place : obc.pc.toStop? with
    | none => exact absurd stopping ((stops.before place).2 who child found)
    | some rest => exact (stops.begun rest place).1
  · cases place : obc.pc.toStop? with
    | none => exact absurd ((stops.before place).1 event member) (by rw [late]; decide)
    | some rest => exact (stops.begun rest place).2.1

/-- The subsystems are started and SIGINT comes. -/
def interrupted : List ObcAction :=
  [.fork 100, .main, .fork 101, .main, .fork 102, .main, .fork 103, .main, .main, .sigint]

/-- `main` comes to `wait_children`. -/
def stopping : List ObcAction := List.replicate 10 .main

theorem shutdown_ordered_stopping :
    ∃ obc events, obcMachine.run .start (interrupted ++ stopping) = some (obc, events) ∧
      obc.pc = .waiting 4 ∧
      (∀ event ∈ events, event.precedes = false → ∃ front back,
        events = front ++ .began .shutdown :: back ∧
          (∀ event ∈ front, event.precedes = true) ∧ ∀ event ∈ back, event.ends = true) ∧
      ∀ who child, obc.children who = some child → child.status = .alive → child.Stopping := by
  have ordered := shutdown_ordered (interrupted ++ stopping) _ _ rfl
  exact ⟨_, _, rfl, rfl, ordered.2.1, ordered.2.2 rfl⟩

/-! ### Coming to the end -/

/-- The most statements `main` has left once the flag is set. -/
def ObcPc.left : ObcPc → Nat
  | finished => 0
  | waiting calls => calls + 1
  | testing .shutdown rest => 2 * rest.length + 6
  | killing .shutdown _ rest => 2 * rest.length + 7
  | loop => 15
  | storeNormal => 16
  | testing .safeModeExit rest => 2 * rest.length + 17
  | killing .safeModeExit _ rest => 2 * rest.length + 18
  | exitTest _ => 26
  | storeSafe _ => 27
  | testing (.safeMode _) rest => 2 * rest.length + 28
  | killing (.safeMode _) _ rest => 2 * rest.length + 29
  | enterTest _ => 37
  | sample => 38
  | starting todo => 2 * todo.length + 16
  | assigning _ _ todo => 2 * todo.length + 17

/-- A statement of `main`, its `fork`s and its `wait`s among them. -/
def ObcAction.ofMain : ObcAction → Bool
  | main | fork _ | forkFails | wait _ => true
  | _ => false

/-- The number of statements of `main` in a run. -/
def statements (actions : List ObcAction) : Nat := actions.countP ObcAction.ofMain

/-- A statement of `main` brings the end nearer, unless it begins another pass of the loop. -/
theorem Obc.left_of_statement {obc next : Obc} {emitted : List ObcEvent}
    (statement : obc.Statement next emitted) :
    next.pc.left < obc.pc.left ∨ obc.flags.gShutdown = false ∧ next.pc.left ≤ 38 := by
  have places : broadcastOrder.length = 4 := rfl
  cases statement with
  | count atPc running => exact .inr ⟨running, by simp [ObcPc.left]⟩
  | tick atPc running => exact .inr ⟨running, le_rfl⟩
  | enter sample atPc | leave sample atPc | shutDown atPc =>
    rw [atPc]
    simp [ObcPc.left, places]
  | broadcasted broadcast atPc | tested broadcast who rest atPc
  | skipped broadcast who rest atPc | kill broadcast who rest atPc =>
    rw [atPc]
    left
    cases broadcast <;> simp only [ObcPc.left, Broadcast.after, List.length_nil,
      List.length_cons] <;> omega
  | started atPc | assign who pid todo atPc | sample atPc | noEnter sample atPc
  | storeSafe sample atPc | noLeave sample atPc | storeNormal atPc | noChild calls atPc
  | waited atPc =>
    rw [atPc]
    simp [ObcPc.left]

theorem Obc.pc_of_step {obc next : Obc} {action : ObcAction} {emitted : List ObcEvent}
    (other : action.ofMain = false) (stepped : obc.step action = some (next, emitted)) :
    next.pc = obc.pc := by
  cases Obc.does_of_step stepped with
  | main | fork | forkFails | wait => cases other
  | reap | exit | handle | powerBusWriter | publish | signalled => rfl

theorem Obc.left_of_step {obc next : Obc} {action : ObcAction} {emitted : List ObcEvent}
    (stepped : obc.step action = some (next, emitted)) :
    next.pc.left + statements [action] ≤ obc.pc.left ∨
      obc.flags.gShutdown = false ∧ next.pc.left ≤ 38 := by
  cases mine : action.ofMain with
  | false =>
    rw [Obc.pc_of_step mine stepped, statements, List.countP_singleton, mine]
    exact .inl le_rfl
  | true =>
    rw [statements, List.countP_singleton, if_pos mine]
    cases action with
    | main =>
      simp only [Obc.step] at stepped
      split at stepped
      · cases stepped
      · exact Obc.left_of_statement (Obc.statement_of_next stepped)
    | fork pid | forkFails =>
      simp only [Obc.step] at stepped
      split at stepped
      next atPc =>
        split at stepped <;> cases stepped
        simp only [atPc, ObcPc.left, List.length_cons]
        omega
      · cases stepped
    | wait who =>
      simp only [Obc.step] at stepped
      split at stepped
      next atPc zombie =>
        split at stepped <;> cases stepped
        simp only [atPc, ObcPc.left, le_refl, true_or]
      · cases stepped
    | _ => cases mine

theorem left_le_of_run {actions : List ObcAction} {obc : Obc} {events : List ObcEvent}
    (ran : obcMachine.run .start actions = some (obc, events)) : obc.pc.left ≤ 38 := by
  refine obcMachine.run_invariant (fun obc _ => obc.pc.left ≤ 38) (by decide) ?_ ran
  intro obc _ action next _ most stepped
  rcases Obc.left_of_step stepped with nearer | ⟨_, most⟩
  · exact (Nat.le_of_add_right_le nearer).trans most
  · exact most

/-- A step the OBC takes by itself, in `main` or in `handle_sigchld`. -/
def ObcAction.ofObc : ObcAction → Bool
  | main | fork _ | forkFails | wait _ | reap _ | sigchldReturns => true
  | _ => false

/-- `main` is at one of the three calls of `sem_wait` in `watchdog`. -/
def ObcPc.atSemWait : ObcPc → Bool
  | sample | storeSafe _ | storeNormal => true
  | _ => false

/-- The OBC can take a step by itself. It passes a `sem_wait` only if the bus semaphore is free,
which the steps of this model leave to the schedule. -/
def Obc.CanTake (obc : Obc) (semFree : Bool) (action : ObcAction) : Prop :=
  action.ofObc = true ∧ (obc.step action).isSome ∧
    (action = .main → obc.pc.atSemWait = true → semFree = true)

/-- Outside the handler `main` can go on, unless it forks or waits. -/
theorem Obc.next_isSome {obc : Obc} (forks : ∀ who todo, obc.pc ≠ .starting (who :: todo))
    (waits : ∀ calls, obc.pc = .waiting (calls + 1) → obc.pidsTaken = [])
    (unfinished : obc.pc ≠ .finished) : obc.next.isSome := by
  unfold Obc.next
  split
  next => rfl
  next who todo atPc => exact absurd atPc (forks who todo)
  next => rfl
  next => split <;> rfl
  next => rfl
  next => split <;> rfl
  next => rfl
  next => rfl
  next => rfl
  next => split <;> rfl
  next => rfl
  next => rfl
  next => split <;> rfl
  next => rfl
  next => rfl
  next calls atPc =>
    rw [if_pos (waits calls atPc)]
    rfl
  next atPc => exact absurd atPc unfinished

/-- The OBC can go on, or `main` waits for a child that is alive. -/
theorem Obc.exists_step (obc : Obc) (unfinished : obc.pc ≠ .finished) :
    (∃ action, action.ofObc = true ∧ (obc.step action).isSome) ∨
      (∃ calls, obc.pc = .waiting (calls + 1)) ∧
        ∃ who child, obc.children who = some child ∧ child.status = .alive := by
  by_cases handling : obc.inSigchld = true
  · left
    by_cases zombies : ∃ who, (obc.zombie who).isSome
    · obtain ⟨who, isZombie⟩ := zombies
      obtain ⟨child, zombie⟩ := Option.isSome_iff_exists.mp isZombie
      exact ⟨.reap who, rfl, by simp [Obc.step, zombie, handling]⟩
    · have none : ∀ who ∈ broadcastOrder, obc.zombie who = none := by
        intro who _
        by_contra some
        exact zombies ⟨who, Option.isSome_iff_ne_none.mpr some⟩
      exact ⟨.sigchldReturns, rfl, by simp only [Obc.step, if_pos (And.intro handling none)]; rfl⟩
  by_cases forks : ∃ who todo, obc.pc = .starting (who :: todo)
  · obtain ⟨who, todo, atPc⟩ := forks
    exact .inl ⟨.forkFails, rfl, by simp [Obc.step, atPc, handling]⟩
  have forks : ∀ who todo, obc.pc ≠ .starting (who :: todo) := fun who todo atPc =>
    forks ⟨who, todo, atPc⟩
  have main : (∀ calls, obc.pc = .waiting (calls + 1) → obc.pidsTaken = []) →
      ∃ action, action.ofObc = true ∧ (obc.step action).isSome := by
    intro waits
    refine ⟨.main, rfl, ?_⟩
    simp only [Obc.step, if_neg handling]
    exact Obc.next_isSome forks waits unfinished
  by_cases waits : ∃ calls, obc.pc = .waiting (calls + 1)
  · by_cases taken : obc.pidsTaken = []
    · exact .inl (main fun _ _ => taken)
    · obtain ⟨calls, atPc⟩ := waits
      obtain ⟨pid, member⟩ := List.exists_mem_of_ne_nil _ taken
      obtain ⟨who, child, found, left, _⟩ := mem_pidsTaken.mp member
      cases status : child.status with
      | alive => exact .inr ⟨⟨calls, atPc⟩, who, child, found, status⟩
      | reaped => exact absurd status left
      | zombie =>
        have zombie : obc.zombie who = some child := by
          rw [Obc.zombie, found, Option.filter_some, status]
          rfl
        exact .inl ⟨.wait who, rfl, by simp [Obc.step, atPc, zombie, handling]⟩
  · exact .inl (main fun calls atPc => absurd ⟨calls, atPc⟩ waits)

/-- However the rest of the system behaves once SIGINT has been handled: `main` makes at most 38
statements more, and until it has finished either the OBC can go on by itself, or `main` is at a
`sem_wait` and the semaphore is not free, or it is in `wait_children` and waits for a child that is
alive, and every such child has SIGTERM or has handled it. -/
theorem shutdown_completes (earlier later : List ObcAction) (obc last : Obc)
    (events laterEvents : List ObcEvent) (semFree : Bool)
    (ran : obcMachine.run .start earlier = some (obc, events))
    (set : obc.flags.gShutdown = true)
    (goesOn : obcMachine.run obc later = some (last, laterEvents)) :
    statements later ≤ 38 ∧
      (last.pc = .finished ∨ (∃ action, last.CanTake semFree action) ∨
        (last.pc.atSemWait = true ∧ semFree = false) ∨
        (∃ calls, last.pc = .waiting (calls + 1)) ∧
          (∃ who child, last.children who = some child ∧ child.status = .alive) ∧
          ∀ who child, last.children who = some child → child.status = .alive →
            child.Stopping) := by
  have kept : last.flags.gShutdown = true ∧ last.pc.left + statements later ≤ obc.pc.left := by
    refine obcMachine.run_induction (fun later last _ =>
      last.flags.gShutdown = true ∧ last.pc.left + statements later ≤ obc.pc.left) ⟨set, le_rfl⟩ ?_
      goesOn
    rintro later state _ action next emitted - ⟨set, spent⟩ stepped
    have count : statements (later ++ [action]) = statements later + statements [action] :=
      List.countP_append
    refine ⟨by rw [Obc.gShutdown_of_step stepped, set, Bool.true_or], ?_⟩
    rcases Obc.left_of_step stepped with nearer | ⟨running, _⟩
    · omega
    · exact absurd (set.symm.trans running) (by decide)
  have whole := obcMachine.run_append_eq_some.mpr ⟨obc, _, _, ran, goesOn, rfl⟩
  refine ⟨(Nat.le_of_add_left_le kept.2).trans (left_le_of_run ran), ?_⟩
  by_cases finished : last.pc = .finished
  · exact .inl finished
  rcases last.exists_step finished with ⟨action, own, can⟩ | ⟨waiting, alive⟩
  · right
    by_cases blocked : last.pc.atSemWait = true ∧ semFree = false
    · exact .inr (.inl blocked)
    · refine .inl ⟨action, own, can, fun _ atWait => ?_⟩
      exact Bool.eq_true_of_not_eq_false fun taken => blocked ⟨atWait, taken⟩
  · refine .inr (.inr (.inr ⟨waiting, alive, ?_⟩))
    obtain ⟨calls, atPc⟩ := waiting
    intro who child found alive
    exact ((stops_of_run whole).begun [] (by rw [atPc]; rfl)).2.2 who child found alive
      List.not_mem_nil

/-- SIGINT comes when `main` is at the first `sem_wait` of a tick. -/
def interruptedInTick : List ObcAction :=
  [.fork 100, .main, .fork 101, .main, .fork 102, .main, .fork 103, .main, .main, .main, .main,
    .sigint]

/-- The tick is completed, the loop is left, and `main` waits for its children, with the semaphore
taken once more. -/
theorem shutdown_completes_interruptedInTick :
    ∃ obc last events laterEvents,
      obcMachine.run .start interruptedInTick = some (obc, events) ∧
      obcMachine.run obc (List.replicate 13 .main) = some (last, laterEvents) ∧
      obc.pc.atSemWait = true ∧ last.pc = .waiting 4 ∧
      statements (List.replicate 13 .main) ≤ 38 ∧
      (last.pc = .finished ∨ (∃ action, last.CanTake false action) ∨
        (last.pc.atSemWait = true ∧ false = false) ∨
        (∃ calls, last.pc = .waiting (calls + 1)) ∧
          (∃ who child, last.children who = some child ∧ child.status = .alive) ∧
          ∀ who child, last.children who = some child → child.status = .alive →
            child.Stopping) :=
  ⟨_, _, _, _, rfl, rfl, rfl, rfl,
    shutdown_completes interruptedInTick (List.replicate 13 .main) _ _ _ _ false rfl rfl rfl⟩

end Fdir
