/-
This file adds to the library of threads that share locks what follows from an order on the locks.

A thread ascends if it acquires only locks above those it holds, releases first what it acquired
last, comes to an effect with the locks that guard it, and is through after a bounded number of
operations. If all threads ascend, an owner always has operations to do, and a chain of waiting
threads climbs the order until it ends in a thread that can go on. So the threads come through
their rounds as long as the queue is emptied, or if all they send fits in it. Otherwise a thread
that waits for space waits for ever, and with it everything that is guarded by a lock it owns.
-/

import Fdir.LockedThreads
import Mathlib.Algebra.BigOperators.Group.Finset.Piecewise
import Mathlib.Algebra.Order.BigOperators.Group.Finset

namespace LockedThreads

variable {Thread Lock Message Effect Input Data : Type}
  (program : Program Thread Lock Message Effect Input Data)

/-! ### The order -/

/-- How high each lock is, and which locks each effect is done under. -/
structure Discipline (Lock Effect : Type) where
  rank : Lock → Nat
  highest : Nat
  rank_le : ∀ lock, rank lock ≤ highest
  guards : Effect → List Lock

variable (discipline : Discipline Lock Effect)

/-- A thread that holds some locks, the one acquired last first, acquires only higher ones,
releases them in the opposite order, is guarded in each effect, and is through after at most so
many operations. -/
inductive Ascends : Nat → List Lock → List (Op Lock Message Effect) → Prop
  | done {count : Nat} : Ascends count [] []
  | acquire {count : Nat} {held : List Lock} {lock : Lock} {rest : List (Op Lock Message Effect)}
      (above : ∀ mine ∈ held, discipline.rank mine < discipline.rank lock)
      (after : Ascends count (lock :: held) rest) :
      Ascends (count + 1) held (.acquire lock :: rest)
  | release {count : Nat} {held : List Lock} {lock : Lock} {rest : List (Op Lock Message Effect)}
      (once : lock ∉ held) (after : Ascends count held rest) :
      Ascends (count + 1) (lock :: held) (.release lock :: rest)
  | send {count : Nat} {held : List Lock} {message : Message}
      {rest : List (Op Lock Message Effect)} (after : Ascends count held rest) :
      Ascends (count + 1) held (.send message :: rest)
  | perform {count : Nat} {held : List Lock} {effect : Effect}
      {rest : List (Op Lock Message Effect)}
      (guarded : ∀ lock ∈ discipline.guards effect, lock ∈ held)
      (after : ∀ input data, Ascends count held ((program.apply effect input data).2 ++ rest)) :
      Ascends (count + 1) held (.perform effect :: rest)

variable {program discipline}

namespace Ascends

variable {count : Nat} {held : List Lock} {todo : List (Op Lock Message Effect)}

theorem mono (ascends : Ascends program discipline count held todo) {more : Nat}
    (le : count ≤ more) : Ascends program discipline more held todo := by
  induction ascends generalizing more with
  | done => exact .done
  | acquire above _ inductionHypothesis =>
    obtain ⟨more, rfl⟩ := Nat.exists_eq_add_one_of_ne_zero (show more ≠ 0 by omega)
    exact .acquire above (inductionHypothesis (by omega))
  | release once _ inductionHypothesis =>
    obtain ⟨more, rfl⟩ := Nat.exists_eq_add_one_of_ne_zero (show more ≠ 0 by omega)
    exact .release once (inductionHypothesis (by omega))
  | send _ inductionHypothesis =>
    obtain ⟨more, rfl⟩ := Nat.exists_eq_add_one_of_ne_zero (show more ≠ 0 by omega)
    exact .send (inductionHypothesis (by omega))
  | perform guarded _ inductionHypothesis =>
    obtain ⟨more, rfl⟩ := Nat.exists_eq_add_one_of_ne_zero (show more ≠ 0 by omega)
    exact .perform guarded fun input data => inductionHypothesis input data (by omega)

/-- Only a thread that holds no lock is through. -/
theorem held_eq_nil (ascends : Ascends program discipline count held []) : held = [] := by
  cases ascends
  rfl

theorem of_acquire {lock : Lock} {rest : List (Op Lock Message Effect)}
    (ascends : Ascends program discipline count held (.acquire lock :: rest)) :
    (∀ mine ∈ held, discipline.rank mine < discipline.rank lock) ∧
      Ascends program discipline (count - 1) (lock :: held) rest := by
  cases ascends with
  | acquire above after => exact ⟨above, after⟩

theorem of_release {lock : Lock} {rest : List (Op Lock Message Effect)}
    (ascends : Ascends program discipline count held (.release lock :: rest)) :
    ∃ others, held = lock :: others ∧ lock ∉ others ∧
      Ascends program discipline (count - 1) others rest := by
  cases ascends with
  | release once after => exact ⟨_, rfl, once, after⟩

theorem of_send {message : Message} {rest : List (Op Lock Message Effect)}
    (ascends : Ascends program discipline count held (.send message :: rest)) :
    Ascends program discipline (count - 1) held rest := by
  cases ascends with
  | send after => exact after

theorem of_perform {effect : Effect} {rest : List (Op Lock Message Effect)}
    (ascends : Ascends program discipline count held (.perform effect :: rest)) :
    (∀ lock ∈ discipline.guards effect, lock ∈ held) ∧
      ∀ input data, Ascends program discipline (count - 1) held
        ((program.apply effect input data).2 ++ rest) := by
  cases ascends with
  | perform guarded after => exact ⟨guarded, after⟩

/-- A critical section that only performs an effect with no consequences. -/
theorem inSection {lock : Lock} {effect : Effect} {rest : List (Op Lock Message Effect)}
    (above : ∀ mine ∈ held, discipline.rank mine < discipline.rank lock)
    (guarded : ∀ other ∈ discipline.guards effect, other ∈ lock :: held)
    (quiet : ∀ input data, (program.apply effect input data).2 = [])
    (after : Ascends program discipline count held rest) :
    Ascends program discipline (count + 3) held
      (.acquire lock :: .perform effect :: .release lock :: rest) := by
  have fresh : lock ∉ held := fun member => Nat.lt_irrefl _ (above lock member)
  refine .acquire above (.perform guarded fun input data => ?_)
  rw [quiet]
  exact .release fresh after

end Ascends

/-! ### The invariant -/

variable (program discipline)

/-- Every thread ascends with so many operations left, never more than some bound, from the locks
it owns. -/
structure Ordered (bound : Nat) (state : State Thread Lock Message Effect Data)
    (left : Thread → Nat) : Prop where
  ascends : ∀ thread, ∃ held,
    Ascends program discipline (left thread) held (state.todo thread) ∧
      ∀ lock, state.owner lock = some thread ↔ lock ∈ held
  left_le : ∀ thread, left thread ≤ bound
  queued_le : state.queued ≤ program.capacity

/-- The operations left after an action. -/
def spent [DecidableEq Thread] (bound : Nat) (state : State Thread Lock Message Effect Data)
    (left : Thread → Nat) : Action Thread Input → Thread → Nat
  | .receive => left
  | .run thread _ =>
    Function.update left thread (if state.todo thread = [] then bound else left thread - 1)

variable {program discipline}

namespace Ordered

variable {bound : Nat} {state next : State Thread Lock Message Effect Data} {left : Thread → Nat}

theorem start (data : Data) : Ordered program discipline bound (State.start data) fun _ => 0 where
  ascends _ := ⟨[], .done, fun lock => by simp [State.start]⟩
  left_le _ := Nat.zero_le _
  queued_le := Nat.zero_le _

/-- The owner of a lock has something to do. -/
theorem owner_busy (ordered : Ordered program discipline bound state left) {lock : Lock}
    {thread : Thread} (owned : state.owner lock = some thread) : state.todo thread ≠ [] := by
  obtain ⟨held, ascends, owns⟩ := ordered.ascends thread
  intro idle
  rw [idle] at ascends
  have member := (owns lock).mp owned
  rw [ascends.held_eq_nil] at member
  exact List.not_mem_nil member

/-- A thread that is in a round has operations left. -/
theorem left_pos (ordered : Ordered program discipline bound state left) {thread : Thread}
    (busy : state.todo thread ≠ []) : 0 < left thread := by
  obtain ⟨held, ascends, _⟩ := ordered.ascends thread
  refine Nat.pos_of_ne_zero fun none => ?_
  rw [none] at ascends
  generalize state.todo thread = todo at ascends busy
  cases ascends
  exact busy rfl

/-- Only the owner of a lock comes to release it. -/
theorem owner_of_release (ordered : Ordered program discipline bound state left) {thread : Thread}
    {lock : Lock} {rest : List (Op Lock Message Effect)}
    (atRelease : state.todo thread = .release lock :: rest) : state.owner lock = some thread := by
  obtain ⟨held, ascends, owns⟩ := ordered.ascends thread
  rw [atRelease] at ascends
  obtain ⟨others, rfl, _⟩ := ascends.of_release
  exact (owns lock).mpr List.mem_cons_self

/-- A thread at an effect owns the locks that guard it. -/
theorem owner_of_perform (ordered : Ordered program discipline bound state left) {thread : Thread}
    {effect : Effect} {rest : List (Op Lock Message Effect)}
    (atEffect : state.todo thread = .perform effect :: rest) {lock : Lock}
    (guards : lock ∈ discipline.guards effect) : state.owner lock = some thread := by
  obtain ⟨held, ascends, owns⟩ := ordered.ascends thread
  rw [atEffect] at ascends
  exact (owns lock).mpr (ascends.of_perform.1 lock guards)

/-- The invariant after one thread has moved on. -/
theorem move [DecidableEq Thread] (ordered : Ordered program discipline bound state left)
    {thread : Thread} {todo : List (Op Lock Message Effect)} {held : List Lock} {count : Nat}
    (moved : next.todo = Function.update state.todo thread todo)
    (ascends : Ascends program discipline count held todo) (count_le : count ≤ bound)
    (owns : ∀ lock, next.owner lock = some thread ↔ lock ∈ held)
    (othersOwn : ∀ other ≠ thread, ∀ lock,
      next.owner lock = some other ↔ state.owner lock = some other)
    (queued_le : next.queued ≤ program.capacity) :
    Ordered program discipline bound next (Function.update left thread count) := by
  refine ⟨fun other => ?_, fun other => ?_, queued_le⟩
  · rw [moved]
    by_cases same : other = thread
    · subst same
      exact ⟨held, by simpa only [Function.update_self] using ascends, owns⟩
    · obtain ⟨held, ascends, owns⟩ := ordered.ascends other
      refine ⟨held, by simpa only [Function.update_of_ne same] using ascends, fun lock => ?_⟩
      rw [othersOwn other same lock, owns lock]
  · by_cases same : other = thread
    · subst same
      rwa [Function.update_self]
    · rw [Function.update_of_ne same]
      exact ordered.left_le other

theorem step [DecidableEq Thread] [DecidableEq Lock]
    (ordered : Ordered program discipline bound state left)
    (rounds : ∀ thread, Ascends program discipline bound [] (program.round thread))
    {action : Action Thread Input} {emitted : List (Thread × Message)}
    (stepped : program.machine.step state action = some (next, emitted)) :
    Ordered program discipline bound next (spent bound state left action) := by
  have fewer : ∀ thread, left thread - 1 ≤ bound :=
    fun thread => (Nat.sub_le _ _).trans (ordered.left_le thread)
  cases does_of_step stepped with
  | receives some =>
    exact ⟨ordered.ascends, ordered.left_le, (Nat.sub_le _ _).trans ordered.queued_le⟩
  | @begins thread input idle =>
    obtain ⟨held, ascends, owns⟩ := ordered.ascends thread
    rw [idle] at ascends
    obtain rfl := ascends.held_eq_nil
    simp only [spent, if_pos idle]
    exact ordered.move rfl (rounds thread) le_rfl owns (fun _ _ _ => Iff.rfl) ordered.queued_le
  | @acquires thread input lock rest atAcquire free =>
    obtain ⟨held, ascends, owns⟩ := ordered.ascends thread
    rw [atAcquire] at ascends
    simp only [spent, atAcquire, List.cons_ne_nil, if_false]
    refine ordered.move rfl ascends.of_acquire.2 (fewer thread) (fun other => ?_)
      (fun other different which => ?_) ordered.queued_le
    · by_cases same : other = lock
      · subst same
        simp
      · simpa [Function.update_of_ne same, same] using owns other
    · by_cases same : which = lock
      · subst same
        simp [free, different.symm]
      · simp [Function.update_of_ne same]
  | @releases thread input lock rest atRelease =>
    have mine := ordered.owner_of_release atRelease
    obtain ⟨held, ascends, owns⟩ := ordered.ascends thread
    rw [atRelease] at ascends
    obtain ⟨others, rfl, once, after⟩ := ascends.of_release
    simp only [spent, atRelease, List.cons_ne_nil, if_false]
    refine ordered.move rfl after (fewer thread) (fun other => ?_)
      (fun other different which => ?_) ordered.queued_le
    · by_cases same : other = lock
      · subst same
        simp [once]
      · simpa [Function.update_of_ne same, same] using owns other
    · by_cases same : which = lock
      · subst same
        simp [mine, different.symm]
      · simp [Function.update_of_ne same]
  | @sends thread input message rest atSend room =>
    obtain ⟨held, ascends, owns⟩ := ordered.ascends thread
    rw [atSend] at ascends
    simp only [spent, atSend, List.cons_ne_nil, if_false]
    exact ordered.move rfl ascends.of_send (fewer thread) owns (fun _ _ _ => Iff.rfl) room
  | @performs thread input effect rest atEffect =>
    obtain ⟨held, ascends, owns⟩ := ordered.ascends thread
    rw [atEffect] at ascends
    simp only [spent, atEffect, List.cons_ne_nil, if_false]
    exact ordered.move rfl (ascends.of_perform.2 input state.data) (fewer thread) owns
      (fun _ _ _ => Iff.rfl) ordered.queued_le

end Ordered

/-- In every run the threads have spent their operations as the actions say. -/
theorem exists_ordered_of_run [DecidableEq Thread] [DecidableEq Lock] {bound : Nat}
    (rounds : ∀ thread, Ascends program discipline bound [] (program.round thread)) {data : Data}
    {actions : List (Action Thread Input)} {state : State Thread Lock Message Effect Data}
    {events : List (Thread × Message)}
    (ran : program.machine.run (.start data) actions = some (state, events)) :
    ∃ left, Ordered program discipline bound state left :=
  program.machine.run_invariant
    (fun state _ => ∃ left, Ordered program discipline bound state left) ⟨_, .start data⟩
    (fun _ _ _ _ _ ⟨_, ordered⟩ stepped => ⟨_, ordered.step rounds stepped⟩) ran

/-! ### Going on -/

/-- A thread that is in a round can do its next operation, whatever it is given. -/
def Able [DecidableEq Thread] [DecidableEq Lock]
    (program : Program Thread Lock Message Effect Input Data)
    (state : State Thread Lock Message Effect Data) (thread : Thread) : Prop :=
  state.todo thread ≠ [] ∧ ∀ input, (program.machine.step state (.run thread input)).isSome

/-- No thread is at a send that the queue has no space for. -/
def HasRoom (program : Program Thread Lock Message Effect Input Data)
    (state : State Thread Lock Message Effect Data) : Prop :=
  ∀ thread message rest, state.todo thread = .send message :: rest →
    state.queued < program.capacity

/-- The action begins no round. -/
def InRound (state : State Thread Lock Message Effect Data) : Action Thread Input → Prop
  | .receive => True
  | .run thread _ => state.todo thread ≠ []

/-- How many operations some actions are. -/
def operations (actions : List (Action Thread Input)) : Nat :=
  actions.countP fun
    | .receive => false
    | .run _ _ => true

section Going

variable [DecidableEq Thread] [DecidableEq Lock] {bound : Nat}
  {state : State Thread Lock Message Effect Data} {left : Thread → Nat}

/-- With room in the queue, a thread that is in a round goes on or waits for an owner. -/
theorem able_or_waits (room : HasRoom program state) {thread : Thread}
    (busy : state.todo thread ≠ []) :
    Able program state thread ∨ ∃ lock rest holder,
      state.todo thread = .acquire lock :: rest ∧ state.owner lock = some holder := by
  have able : (∀ input, (program.machine.step state (.run thread input)).isSome) →
      Able program state thread := fun steps => ⟨busy, steps⟩
  cases todo : state.todo thread with
  | nil => exact absurd todo busy
  | cons op rest =>
    cases op with
    | acquire lock =>
      cases owned : state.owner lock with
      | none => exact .inl (able fun input => by simp [Program.machine, todo, owned])
      | some holder => exact .inr ⟨lock, rest, holder, rfl, owned⟩
    | release lock => exact .inl (able fun input => by simp [Program.machine, todo])
    | send message =>
      have space := room thread message rest todo
      exact .inl (able fun input => by simp [Program.machine, todo, space])
    | perform effect => exact .inl (able fun input => by simp [Program.machine, todo])

/-- With room in the queue, a chain of waiting threads ends in one that can go on. If live threads
wait only for live ones, it is live as the first one is. -/
theorem Ordered.exists_live_able (ordered : Ordered program discipline bound state left)
    (room : HasRoom program state) (Live : Thread → Prop)
    (closed : ∀ thread lock rest holder, Live thread → state.todo thread = .acquire lock :: rest →
      state.owner lock = some holder → Live holder)
    {thread : Thread} (live : Live thread) (busy : state.todo thread ≠ []) :
    ∃ other, Live other ∧ Able program state other := by
  -- The locks that are waited for climb along the chain.
  have climb : ∀ height thread, Live thread → state.todo thread ≠ [] →
      (∀ lock rest, state.todo thread = .acquire lock :: rest →
        discipline.highest < discipline.rank lock + height) →
      ∃ other, Live other ∧ Able program state other := by
    intro height
    induction height with
    | zero =>
      intro thread live busy above
      rcases able_or_waits room busy with able | ⟨lock, rest, holder, atAcquire, _⟩
      · exact ⟨thread, live, able⟩
      · have low := discipline.rank_le lock
        have high := above lock rest atAcquire
        omega
    | succ height inductionHypothesis =>
      intro thread live busy above
      rcases able_or_waits room busy with able | ⟨lock, rest, holder, atAcquire, owned⟩
      · exact ⟨thread, live, able⟩
      refine inductionHypothesis holder (closed thread lock rest holder live atAcquire owned)
        (ordered.owner_busy owned) fun later rest' atLater => ?_
      obtain ⟨held, ascends, owns⟩ := ordered.ascends holder
      rw [atLater] at ascends
      have climbs := ascends.of_acquire.1 lock ((owns lock).mp owned)
      have high := above lock rest atAcquire
      omega
  exact climb (discipline.highest + 1) thread live busy fun lock _ _ => by omega

theorem Ordered.exists_able (ordered : Ordered program discipline bound state left)
    (room : HasRoom program state) {thread : Thread} (busy : state.todo thread ≠ []) :
    ∃ other, Able program state other := by
  obtain ⟨other, _, able⟩ := ordered.exists_live_able room (fun _ => True)
    (fun _ _ _ _ _ _ _ => trivial) trivial busy
  exact ⟨other, able⟩

omit [DecidableEq Lock] in
/-- An operation in a round leaves fewer of them. -/
theorem Ordered.sum_spent_lt [Fintype Thread]
    (ordered : Ordered program discipline bound state left) {thread : Thread}
    (busy : state.todo thread ≠ []) (input : Input) :
    ∑ other, spent bound state left (.run thread input) other < ∑ other, left other := by
  have positive := ordered.left_pos busy
  refine Finset.sum_lt_sum (fun other _ => ?_) ⟨thread, Finset.mem_univ thread, ?_⟩
  · simp only [spent, if_neg busy]
    by_cases same : other = thread
    · subst same
      rw [Function.update_self]
      exact Nat.sub_le _ _
    · rw [Function.update_of_ne same]
  · simp only [spent, if_neg busy, Function.update_self]
    exact Nat.sub_lt positive Nat.one_pos

/-- Threads that begin no round come to an end: what they have done and what they have left is
no more than what they had left before. -/
theorem Ordered.operations_le [Fintype Thread]
    (rounds : ∀ thread, Ascends program discipline bound [] (program.round thread))
    (ordered : Ordered program discipline bound state left) {actions : List (Action Thread Input)}
    (inRound : program.machine.Guarded InRound state actions)
    {last : State Thread Lock Message Effect Data} {events : List (Thread × Message)}
    (ran : program.machine.run state actions = some (last, events)) :
    ∃ after, Ordered program discipline bound last after ∧
      operations actions + ∑ thread, after thread ≤ ∑ thread, left thread := by
  refine program.machine.guarded_induction
    (fun actions last _ => ∃ after, Ordered program discipline bound last after ∧
      operations actions + ∑ thread, after thread ≤ ∑ thread, left thread)
    ⟨left, ordered, by simp [operations]⟩ ?_ inRound ran
  rintro actions middle _ action next emitted ⟨before, ordered, fewer⟩ allowed stepped
  refine ⟨_, ordered.step rounds stepped, ?_⟩
  have count : operations (actions ++ [action]) = operations actions + operations [action] :=
    List.countP_append
  rw [count]
  cases action with
  | receive => exact fewer
  | run thread input =>
    have less := ordered.sum_spent_lt allowed input
    have one : operations [Action.run thread input] = 1 := rfl
    omega

omit [DecidableEq Thread] [DecidableEq Lock] in
/-- When all threads are through no lock has an owner. -/
theorem Ordered.owner_eq_none (ordered : Ordered program discipline bound state left)
    (through : ∀ thread, state.todo thread = []) (lock : Lock) : state.owner lock = none := by
  cases owned : state.owner lock with
  | none => rfl
  | some holder => exact absurd (through holder) (ordered.owner_busy owned)

/-- Threads that begin no round do at most `bound` operations each. -/
theorem Ordered.operations_le_card [Fintype Thread]
    (rounds : ∀ thread, Ascends program discipline bound [] (program.round thread))
    (ordered : Ordered program discipline bound state left) {actions : List (Action Thread Input)}
    (inRound : program.machine.Guarded InRound state actions)
    {last : State Thread Lock Message Effect Data} {events : List (Thread × Message)}
    (ran : program.machine.run state actions = some (last, events)) :
    operations actions ≤ Fintype.card Thread * bound ∧
      ∃ after, Ordered program discipline bound last after := by
  obtain ⟨after, kept, fewer⟩ := ordered.operations_le rounds inRound ran
  have each := Finset.sum_le_card_nsmul Finset.univ left bound fun thread _ =>
    ordered.left_le thread
  have most : ∑ thread, left thread ≤ Fintype.card Thread * bound := by simpa using each
  exact ⟨by omega, after, kept⟩

/-- As long as the queue is emptied the threads come through their rounds: however they are
scheduled from a state they have come to, they do at most `bound` operations each before a new
round begins, and at every moment all are through, with no lock owned, or one can go on, after a
message is received if the queue is full. -/
theorem comes_through [Fintype Thread]
    (rounds : ∀ thread, Ascends program discipline bound [] (program.round thread))
    (roomy : 0 < program.capacity) {data : Data} {earlier later : List (Action Thread Input)}
    {last : State Thread Lock Message Effect Data} {events laterEvents : List (Thread × Message)}
    (ran : program.machine.run (.start data) earlier = some (state, events))
    (inRound : program.machine.Guarded InRound state later)
    (goesOn : program.machine.run state later = some (last, laterEvents)) :
    operations later ≤ Fintype.card Thread * bound ∧
      ((∀ thread, last.todo thread = []) ∧ (∀ lock, last.owner lock = none) ∨
        (∃ thread, Able program last thread) ∨
        ∃ next, program.machine.step last .receive = some (next, []) ∧
          ∃ thread, Able program next thread) := by
  obtain ⟨left, ordered⟩ := exists_ordered_of_run rounds ran
  obtain ⟨few, after, kept⟩ := ordered.operations_le_card rounds inRound goesOn
  refine ⟨few, ?_⟩
  by_cases through : ∀ thread, last.todo thread = []
  · exact .inl ⟨through, kept.owner_eq_none through⟩
  · obtain ⟨thread, busy⟩ := not_forall.mp through
    refine .inr ?_
    by_cases room : last.queued < program.capacity
    · exact .inl (kept.exists_able (fun _ _ _ _ => room) busy)
    · have some' : 0 < last.queued := by omega
      have stepped : program.machine.step last .receive =
          some ({ last with queued := last.queued - 1 }, []) := by
        simp only [Program.machine, if_pos some']
      refine .inr ⟨_, stepped, (kept.step rounds stepped).exists_able (fun _ _ _ _ => ?_) busy⟩
      have full := kept.queued_le
      change last.queued - 1 < program.capacity
      omega

end Going

/-! ### Winding down -/

section WindingDown

variable (program)

/-- The operations send at most so many messages, whatever their effects find. -/
inductive SendsAtMost : Nat → List (Op Lock Message Effect) → Prop
  | done {count : Nat} : SendsAtMost count []
  | acquire {count : Nat} {lock : Lock} {rest : List (Op Lock Message Effect)}
      (after : SendsAtMost count rest) : SendsAtMost count (.acquire lock :: rest)
  | release {count : Nat} {lock : Lock} {rest : List (Op Lock Message Effect)}
      (after : SendsAtMost count rest) : SendsAtMost count (.release lock :: rest)
  | send {count : Nat} {message : Message} {rest : List (Op Lock Message Effect)}
      (after : SendsAtMost count rest) : SendsAtMost (count + 1) (.send message :: rest)
  | perform {count : Nat} {effect : Effect} {rest : List (Op Lock Message Effect)}
      (after : ∀ input data, SendsAtMost count ((program.apply effect input data).2 ++ rest)) :
      SendsAtMost count (.perform effect :: rest)

variable {program}

namespace SendsAtMost

variable {count : Nat} {todo : List (Op Lock Message Effect)}

theorem mono (sends : SendsAtMost program count todo) {more : Nat} (le : count ≤ more) :
    SendsAtMost program more todo := by
  induction sends generalizing more with
  | done => exact .done
  | acquire _ inductionHypothesis => exact .acquire (inductionHypothesis le)
  | release _ inductionHypothesis => exact .release (inductionHypothesis le)
  | send _ inductionHypothesis =>
    obtain ⟨more, rfl⟩ := Nat.exists_eq_add_one_of_ne_zero (show more ≠ 0 by omega)
    exact .send (inductionHypothesis (by omega))
  | perform _ inductionHypothesis =>
    exact .perform fun input data => inductionHypothesis input data le

/-- What is left after an operation that is no effect. -/
theorem of_pass {op : Op Lock Message Effect} {rest : List (Op Lock Message Effect)}
    (sends : SendsAtMost program count (op :: rest)) (noEffect : ∀ effect, op ≠ .perform effect) :
    SendsAtMost program count rest := by
  cases sends with
  | acquire after | release after => exact after
  | send after => exact after.mono (Nat.le_succ _)
  | perform => exact absurd rfl (noEffect _)

theorem of_send {message : Message} {rest : List (Op Lock Message Effect)}
    (sends : SendsAtMost program count (.send message :: rest)) :
    0 < count ∧ SendsAtMost program (count - 1) rest := by
  cases sends with
  | send after => exact ⟨Nat.succ_pos _, after⟩

theorem of_perform {effect : Effect} {rest : List (Op Lock Message Effect)}
    (sends : SendsAtMost program count (.perform effect :: rest)) (input : Input) (data : Data) :
    SendsAtMost program count ((program.apply effect input data).2 ++ rest) := by
  cases sends with
  | perform after => exact after input data

end SendsAtMost

/-- What is queued and what the threads have yet to send in their rounds fits in the queue. -/
def Fits [Fintype Thread] (program : Program Thread Lock Message Effect Input Data)
    (state : State Thread Lock Message Effect Data) : Prop :=
  ∃ sends : Thread → Nat, (∀ thread, SendsAtMost program (sends thread) (state.todo thread)) ∧
    state.queued + ∑ thread, sends thread ≤ program.capacity

theorem Fits.hasRoom [Fintype Thread] {state : State Thread Lock Message Effect Data}
    (fits : Fits program state) : HasRoom program state := by
  intro thread message rest atSend
  obtain ⟨sends, bounded, fits⟩ := fits
  have positive := (atSend ▸ bounded thread).of_send.1
  have one : sends thread ≤ ∑ other, sends other :=
    Finset.single_le_sum (fun _ _ => Nat.zero_le _) (Finset.mem_univ thread)
  omega

variable [DecidableEq Thread] [DecidableEq Lock]

/-- The threads have no more to send than their rounds. -/
theorem sendsAtMost_of_run {limit : Thread → Nat}
    (few : ∀ thread, SendsAtMost program (limit thread) (program.round thread)) {data : Data}
    {actions : List (Action Thread Input)} {state : State Thread Lock Message Effect Data}
    {events : List (Thread × Message)}
    (ran : program.machine.run (.start data) actions = some (state, events)) (thread : Thread) :
    SendsAtMost program (limit thread) (state.todo thread) := by
  exact todo_invariant (fun thread todo => SendsAtMost program (limit thread) todo)
    (fun _ => .done) few (fun _ _ _ noEffect sends => sends.of_pass noEffect)
    (fun _ _ _ input data sends => sends.of_perform input data) ran thread

/-- An action that begins no round leaves no more to send than fits. -/
theorem Fits.step [Fintype Thread] {state next : State Thread Lock Message Effect Data}
    (fits : Fits program state) {action : Action Thread Input} (inRound : InRound state action)
    {emitted : List (Thread × Message)}
    (stepped : program.machine.step state action = some (next, emitted)) : Fits program next := by
  obtain ⟨sends, bounded, fits⟩ := fits
  -- The operations of one thread change, and what it has to send is still bounded.
  have moved : ∀ {thread : Thread} {todo : List (Op Lock Message Effect)} {count : Nat},
      SendsAtMost program count todo → ∀ other,
      SendsAtMost program (Function.update sends thread count other)
        (Function.update state.todo thread todo other) := by
    intro thread todo count less other
    by_cases same : other = thread
    · subst same
      rwa [Function.update_self, Function.update_self]
    · rw [Function.update_of_ne same, Function.update_of_ne same]
      exact bounded other
  have kept : ∀ {thread : Thread} {todo : List (Op Lock Message Effect)},
      SendsAtMost program (sends thread) todo → ∀ other,
      SendsAtMost program (sends other) (Function.update state.todo thread todo other) := by
    intro thread todo same other
    have all := @moved thread todo _ same other
    rwa [Function.update_eq_self] at all
  cases does_of_step stepped with
  | receives => exact ⟨sends, bounded, (Nat.add_le_add_right (Nat.sub_le _ _) _).trans fits⟩
  | begins idle => exact absurd idle inRound
  | @acquires thread _ _ _ atOp | @releases thread _ _ _ atOp =>
    exact ⟨sends, kept ((atOp ▸ bounded thread).of_pass (by simp)), fits⟩
  | @performs thread input _ _ atEffect =>
    exact ⟨sends, kept ((atEffect ▸ bounded thread).of_perform input state.data), fits⟩
  | @sends thread _ _ _ atSend =>
    obtain ⟨positive, after⟩ := (atSend ▸ bounded thread).of_send
    refine ⟨_, moved after, ?_⟩
    have split := Finset.sum_update_of_mem (Finset.mem_univ thread) sends (sends thread - 1)
    have whole := Finset.sum_update_of_mem (Finset.mem_univ thread) sends (sends thread)
    rw [Function.update_eq_self] at whole
    change state.queued + 1 + ∑ other, Function.update sends thread _ other ≤ program.capacity
    omega

/-- Even when the queue is never emptied again the threads come through the rounds they are in, if
what is queued and what the threads send in one round each fits in the queue. -/
theorem winds_down [Fintype Thread] {bound : Nat} {limit : Thread → Nat}
    (rounds : ∀ thread, Ascends program discipline bound [] (program.round thread))
    (few : ∀ thread, SendsAtMost program (limit thread) (program.round thread)) {data : Data}
    {earlier later : List (Action Thread Input)}
    {state last : State Thread Lock Message Effect Data}
    {events laterEvents : List (Thread × Message)}
    (ran : program.machine.run (.start data) earlier = some (state, events))
    (room : state.queued + ∑ thread, limit thread ≤ program.capacity)
    (inRound : program.machine.Guarded InRound state later)
    (goesOn : program.machine.run state later = some (last, laterEvents)) :
    operations later ≤ Fintype.card Thread * bound ∧
      ((∀ thread, last.todo thread = []) ∧ (∀ lock, last.owner lock = none) ∨
        ∃ thread, Able program last thread) := by
  obtain ⟨left, ordered⟩ := exists_ordered_of_run rounds ran
  obtain ⟨fewer, after, kept⟩ := ordered.operations_le_card rounds inRound goesOn
  have fits : Fits program last :=
    program.machine.guarded_invariant (fun state _ => Fits program state)
      ⟨limit, sendsAtMost_of_run few ran, room⟩
      (fun _ _ _ _ _ fits inRound stepped => fits.step inRound stepped) inRound goesOn
  refine ⟨fewer, ?_⟩
  by_cases through : ∀ thread, last.todo thread = []
  · exact .inl ⟨through, kept.owner_eq_none through⟩
  · obtain ⟨thread, busy⟩ := not_forall.mp through
    exact .inr (kept.exists_able fits.hasRoom busy)

end WindingDown

/-! ### Waiting for ever -/

namespace WaitsForSpace

variable [DecidableEq Thread] [DecidableEq Lock] {bound : Nat}
  {state next : State Thread Lock Message Effect Data} {left : Thread → Nat}

/-- A thread that waits does nothing. -/
theorem refused {thread : Thread} (waits : WaitsForSpace program state thread) (input : Input) :
    program.machine.step state (.run thread input) = none := by
  cases waits with
  | space atSend full =>
    simp only [Program.machine, atSend, if_neg (Nat.not_lt_of_le full)]
  | lock atAcquire owned _ => simp [Program.machine, atAcquire, owned]

/-- The locks of a thread that waits stay its own. -/
theorem owner_kept {thread : Thread} (waits : WaitsForSpace program state thread)
    (ordered : Ordered program discipline bound state left) {lock : Lock}
    (owned : state.owner lock = some thread) {action : Action Thread Input}
    {emitted : List (Thread × Message)}
    (stepped : program.machine.step state action = some (next, emitted)) :
    next.owner lock = some thread := by
  cases does_of_step stepped with
  | @acquires _ _ taken _ _ free =>
    have different : lock ≠ taken := by
      rintro rfl
      rw [owned] at free
      cases free
    exact (Function.update_of_ne different _ _).trans owned
  | @releases _ _ given _ atRelease =>
    have different : lock ≠ given := by
      rintro rfl
      have mine := ordered.owner_of_release atRelease
      rw [owned] at mine
      cases mine
      rw [waits.refused] at stepped
      cases stepped
    exact (Function.update_of_ne different _ _).trans owned
  | _ => exact owned

/-- Only a receive ends the waiting. -/
theorem step {thread : Thread} (waits : WaitsForSpace program state thread)
    (ordered : Ordered program discipline bound state left) {action : Action Thread Input}
    (noReceive : action ≠ .receive) {emitted : List (Thread × Message)}
    (stepped : program.machine.step state action = some (next, emitted)) :
    WaitsForSpace program next thread ∧ next.todo thread = state.todo thread := by
  have todo_eq : ∀ who, WaitsForSpace program state who → next.todo who = state.todo who := by
    intro who waiting
    cases action with
    | receive => exact absurd rfl noReceive
    | run other input =>
      have different : who ≠ other := by
        rintro rfl
        rw [waiting.refused] at stepped
        cases stepped
      exact todo_of_step different stepped
  refine ⟨?_, todo_eq thread waits⟩
  induction waits with
  | space atSend full =>
    refine .space ((todo_eq _ (.space atSend full)).trans atSend) (full.trans ?_)
    cases does_of_step stepped with
    | receives => exact absurd rfl noReceive
    | sends => exact Nat.le_succ _
    | _ => exact le_rfl
  | lock atAcquire owned waits inductionHypothesis =>
    exact .lock ((todo_eq _ (.lock atAcquire owned waits)).trans atAcquire)
      (waits.owner_kept ordered owned stepped) inductionHypothesis

end WaitsForSpace

/-- Once the owner of a lock waits for space and no message is received any more, it never moves,
and what only effects under that lock change stays as it is. -/
theorem waits_for_ever [DecidableEq Thread] [DecidableEq Lock] {bound : Nat}
    (rounds : ∀ thread, Ascends program discipline bound [] (program.round thread)) {data : Data}
    {earlier later : List (Action Thread Input)}
    {state last : State Thread Lock Message Effect Data}
    {events laterEvents : List (Thread × Message)}
    (ran : program.machine.run (.start data) earlier = some (state, events))
    (noReceive : .receive ∉ later)
    (goesOn : program.machine.run state later = some (last, laterEvents)) {thread : Thread}
    (waits : WaitsForSpace program state thread) {lock : Lock}
    (owned : state.owner lock = some thread) {Part : Type} (part : Data → Part)
    (guarded : ∀ effect, lock ∉ discipline.guards effect → ∀ input data,
      part (program.apply effect input data).1 = part data) :
    WaitsForSpace program last thread ∧ last.todo thread = state.todo thread ∧
      last.owner lock = some thread ∧ part last.data = part state.data := by
  have kept : (∃ left, Ordered program discipline bound last left) ∧
      WaitsForSpace program last thread ∧ last.todo thread = state.todo thread ∧
        last.owner lock = some thread ∧ part last.data = part state.data := by
    refine program.machine.run_induction
      (fun later last _ => .receive ∉ later →
        (∃ left, Ordered program discipline bound last left) ∧
          WaitsForSpace program last thread ∧ last.todo thread = state.todo thread ∧
            last.owner lock = some thread ∧ part last.data = part state.data)
      (fun _ => ⟨exists_ordered_of_run rounds ran, waits, rfl, owned, rfl⟩) ?_ goesOn noReceive
    intro later middle _ action next emitted _ held stepped noReceive
    rw [List.mem_append, List.mem_singleton, not_or] at noReceive
    obtain ⟨⟨left, ordered⟩, waits, todo, owned, same⟩ := held noReceive.1
    obtain ⟨waitsNext, todoNext⟩ := waits.step ordered (Ne.symm noReceive.2) stepped
    refine ⟨⟨_, ordered.step rounds stepped⟩, waitsNext, todoNext.trans todo,
      waits.owner_kept ordered owned stepped, ?_⟩
    cases does_of_step stepped with
    | @performs other input effect rest atEffect =>
      have free : lock ∉ discipline.guards effect := by
        intro guards
        have mine := ordered.owner_of_perform atEffect guards
        rw [owned] at mine
        cases mine
        rw [waits.refused] at stepped
        cases stepped
      exact (guarded effect free input middle.data).trans same
    | _ => exact same
  exact kept.2

end LockedThreads
