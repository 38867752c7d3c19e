/-
This file is a small library about threads that share locks and a bounded queue.

Each thread does one operation after another: it acquires a lock, which waits while the lock
has an owner, releases one, sends a message, which waits while the queue is full, or performs
an effect on the shared data, which may say what it does next. When nothing is left to do it
starts its next round.

The rule at the end says when no owner of a lock can be waiting for space in the queue: every
thread sends with all its locks released, apart from some exempt sends that find room.
-/

import Fdir.Machine
import Mathlib.Logic.Function.Basic

namespace LockedThreads

/-! ### Threads -/

/-- One operation of a thread. -/
inductive Op (Lock Message Effect : Type) where
  | acquire (lock : Lock)
  | release (lock : Lock)
  | send (message : Message)
  | perform (effect : Effect)
deriving DecidableEq

/-- What the threads do. -/
structure Program (Thread Lock Message Effect Input Data : Type) where
  /-- How many messages fit in the queue. -/
  capacity : Nat
  /-- What a thread does in one round. -/
  round : Thread → List (Op Lock Message Effect)
  /-- The data an effect leaves, and what the thread does next because of it. -/
  apply : Effect → Input → Data → Data × List (Op Lock Message Effect)

/-- The shared data, the queue, the locks, and what each thread has still to do. -/
structure State (Thread Lock Message Effect Data : Type) where
  data : Data
  queued : Nat
  owner : Lock → Option Thread
  todo : Thread → List (Op Lock Message Effect)

/-- The threads before their first round. -/
def State.start {Thread Lock Message Effect Data : Type} (data : Data) :
    State Thread Lock Message Effect Data :=
  ⟨data, 0, fun _ => none, fun _ => []⟩

inductive Action (Thread Input : Type) where
  /-- A thread does its next operation; only an effect uses the input. -/
  | run (thread : Thread) (input : Input)
  /-- A message is taken from the queue. -/
  | receive

variable {Thread Lock Message Effect Input Data : Type}

/-- The threads and the receiver; the events are the messages sent. -/
def Program.machine [DecidableEq Thread] [DecidableEq Lock]
    (program : Program Thread Lock Message Effect Input Data) :
    Machine (State Thread Lock Message Effect Data) (Action Thread Input) (Thread × Message) where
  step state
    | .receive =>
      if 0 < state.queued then some ({ state with queued := state.queued - 1 }, []) else none
    | .run thread input =>
      match state.todo thread with
      | [] =>
        some ({ state with todo := Function.update state.todo thread (program.round thread) }, [])
      | .acquire lock :: rest =>
        if state.owner lock = none then
          some ({ state with
            owner := Function.update state.owner lock (some thread)
            todo := Function.update state.todo thread rest }, [])
        else none
      | .release lock :: rest =>
        some ({ state with
          owner := Function.update state.owner lock none
          todo := Function.update state.todo thread rest }, [])
      | .send message :: rest =>
        if state.queued < program.capacity then
          some ({ state with
            queued := state.queued + 1
            todo := Function.update state.todo thread rest }, [(thread, message)])
        else none
      | .perform effect :: rest =>
        let (data, next) := program.apply effect input state.data
        some ({ state with data, todo := Function.update state.todo thread (next ++ rest) }, [])

/-! ### Waiting -/

variable (program : Program Thread Lock Message Effect Input Data)

/-- The thread waits for space in the queue, or for a lock whose owner waits for it. -/
inductive WaitsForSpace (state : State Thread Lock Message Effect Data) : Thread → Prop
  | space {thread : Thread} {message : Message} {rest : List (Op Lock Message Effect)}
      (atSend : state.todo thread = .send message :: rest)
      (full : program.capacity ≤ state.queued) : WaitsForSpace state thread
  | lock {thread holder : Thread} {lock : Lock} {rest : List (Op Lock Message Effect)}
      (atAcquire : state.todo thread = .acquire lock :: rest)
      (owned : state.owner lock = some holder) (waits : WaitsForSpace state holder) :
      WaitsForSpace state thread

variable (Exempt : Thread → Message → Prop)

mutual

/-- A thread that holds some locks, the one acquired last first, releases them in the
operations it has to do, and sends only when it holds none. An exempt send under a lock comes
directly after an effect. -/
inductive Closes (thread : Thread) : List Lock → List (Op Lock Message Effect) → Prop
  | done : Closes thread [] []
  | acquire {held : List Lock} {lock : Lock} {rest : List (Op Lock Message Effect)}
      (fresh : lock ∉ held) (after : Closes thread (lock :: held) rest) :
      Closes thread held (.acquire lock :: rest)
  | release {held : List Lock} {lock : Lock} {rest : List (Op Lock Message Effect)}
      (once : lock ∉ held) (after : Closes thread held rest) :
      Closes thread (lock :: held) (.release lock :: rest)
  | send {message : Message} {rest : List (Op Lock Message Effect)}
      (notExempt : ¬ Exempt thread message) (after : Closes thread [] rest) :
      Closes thread [] (.send message :: rest)
  | perform {held : List Lock} {effect : Effect} {rest : List (Op Lock Message Effect)}
      (after : ∀ input data, Ready thread held ((program.apply effect input data).2 ++ rest)) :
      Closes thread held (.perform effect :: rest)

/-- What a thread may come to by an effect. -/
inductive Ready (thread : Thread) : List Lock → List (Op Lock Message Effect) → Prop
  | closes {held : List Lock} {todo : List (Op Lock Message Effect)}
      (closes : Closes thread held todo) : Ready thread held todo
  | exempt {held : List Lock} {message : Message} {rest : List (Op Lock Message Effect)}
      (exempt : Exempt thread message) (after : Closes thread held rest) :
      Ready thread held (.send message :: rest)

end

/-- The step does not bring a thread to an exempt send while the queue is full, nor fill the
queue while another thread is at one. -/
def LeavesRoom (state : State Thread Lock Message Effect Data) : Action Thread Input → Prop
  | .receive => True
  | .run thread input =>
    match state.todo thread with
    | .send _ :: _ =>
      ∀ other message rest, other ≠ thread → state.todo other = .send message :: rest →
        Exempt other message → state.queued + 1 < program.capacity
    | .perform effect :: behind =>
      ∀ message rest,
        (program.apply effect input state.data).2 ++ behind = .send message :: rest →
          Exempt thread message → state.queued < program.capacity
    | _ => True

/-! ### The invariant -/

/-- Every thread owns exactly the locks its operations release, and an exempt send has room. -/
structure Orderly (state : State Thread Lock Message Effect Data) : Prop where
  ready : ∀ thread, ∃ held, Ready program Exempt thread held (state.todo thread) ∧
    ∀ lock, state.owner lock = some thread ↔ lock ∈ held
  room : ∀ thread message rest, state.todo thread = .send message :: rest →
    Exempt thread message → state.queued < program.capacity

variable {program Exempt}

/-- A step leaves room when the queue has space for two. -/
theorem leavesRoom_of_spare {state : State Thread Lock Message Effect Data}
    {action : Action Thread Input} (spare : state.queued + 1 < program.capacity) :
    LeavesRoom program Exempt state action := by
  cases action with
  | receive => trivial
  | run thread input =>
    simp only [LeavesRoom]
    split
    · exact fun _ _ _ _ _ _ => spare
    · exact fun _ _ _ _ => Nat.lt_of_succ_lt spare
    · trivial

theorem Closes.not_exempt {thread : Thread} {held : List Lock} {message : Message}
    {rest : List (Op Lock Message Effect)}
    (closes : Closes program Exempt thread held (.send message :: rest)) :
    ¬ Exempt thread message := by
  cases closes with
  | send notExempt after => exact notExempt

/-- A critical section that only performs an effect with no consequences. -/
theorem Closes.section {thread : Thread} {held : List Lock} {lock : Lock} {effect : Effect}
    {rest : List (Op Lock Message Effect)} (fresh : lock ∉ held)
    (quiet : ∀ input data, (program.apply effect input data).2 = [])
    (after : Closes program Exempt thread held rest) :
    Closes program Exempt thread held
      (.acquire lock :: .perform effect :: .release lock :: rest) := by
  refine .acquire fresh (.perform fun input data => ?_)
  rw [quiet]
  exact .closes (.release fresh after)

namespace Orderly

variable {state next : State Thread Lock Message Effect Data}

theorem start (data : Data) : Orderly program Exempt (State.start data) where
  ready _ := ⟨[], .closes .done, fun lock => by simp [State.start]⟩
  room _ _ _ atSend := by cases atSend

/-- The invariant after one thread has moved on. -/
theorem move [DecidableEq Thread] (orderly : Orderly program Exempt state) {thread : Thread}
    {todo : List (Op Lock Message Effect)} {held : List Lock}
    (moved : next.todo = Function.update state.todo thread todo)
    (ready : Ready program Exempt thread held todo)
    (owns : ∀ lock, next.owner lock = some thread ↔ lock ∈ held)
    (othersOwn : ∀ other ≠ thread, ∀ lock,
      next.owner lock = some other ↔ state.owner lock = some other)
    (room : ∀ message rest, todo = .send message :: rest → Exempt thread message →
      next.queued < program.capacity)
    (othersRoom : ∀ other ≠ thread, ∀ message rest, state.todo other = .send message :: rest →
      Exempt other message → next.queued < program.capacity) :
    Orderly program Exempt next := by
  constructor
  · intro other
    by_cases same : other = thread
    · subst same
      exact ⟨held, by rwa [moved, Function.update_self], owns⟩
    · obtain ⟨held, ready, owns⟩ := orderly.ready other
      refine ⟨held, by rwa [moved, Function.update_of_ne same], fun lock => ?_⟩
      rw [othersOwn other same lock, owns lock]
  · intro other message rest atSend exempt
    rw [moved] at atSend
    by_cases same : other = thread
    · subst same
      rw [Function.update_self] at atSend
      exact room message rest atSend exempt
    · rw [Function.update_of_ne same] at atSend
      exact othersRoom other same message rest atSend exempt

section Steps

variable [DecidableEq Thread] {thread : Thread} {input : Input}
  {events : List (Thread × Message)}

/-- A step that changes neither the owners nor the queue's length. -/
theorem keep (orderly : Orderly program Exempt state) {todo : List (Op Lock Message Effect)}
    {held : List Lock} (moved : next.todo = Function.update state.todo thread todo)
    (ready : Ready program Exempt thread held todo)
    (owns : ∀ lock, state.owner lock = some thread ↔ lock ∈ held)
    (sameOwner : next.owner = state.owner) (sameQueued : next.queued = state.queued)
    (room : ∀ message rest, todo = .send message :: rest → Exempt thread message →
      state.queued < program.capacity) : Orderly program Exempt next := by
  refine orderly.move moved ready ?_ ?_ ?_ ?_
  · rwa [sameOwner]
  · intro other _ lock
    rw [sameOwner]
  · rwa [sameQueued]
  · intro other _ message rest atSend exempt
    rw [sameQueued]
    exact orderly.room other message rest atSend exempt

theorem acquire [DecidableEq Lock] (orderly : Orderly program Exempt state) {lock : Lock}
    {rest : List (Op Lock Message Effect)} (atAcquire : state.todo thread = .acquire lock :: rest)
    (free : state.owner lock = none) :
    Orderly program Exempt { state with
      owner := Function.update state.owner lock (some thread)
      todo := Function.update state.todo thread rest } := by
  obtain ⟨held, ready, owns⟩ := orderly.ready thread
  rw [atAcquire] at ready
  cases ready with | closes closes =>
  cases closes with | acquire fresh after =>
  refine orderly.move rfl (.closes after) ?_ ?_ ?_ ?_
  · intro other
    by_cases same : other = lock
    · subst same
      simp
    · simpa [Function.update_of_ne same, same] using owns other
  · intro other different mine
    by_cases same : mine = lock
    · subst same
      simp [free, different.symm]
    · simp [Function.update_of_ne same]
  · rintro message rest rfl exempt
    exact absurd exempt after.not_exempt
  · exact fun other _ => orderly.room other

theorem release [DecidableEq Lock] (orderly : Orderly program Exempt state) {lock : Lock}
    {rest : List (Op Lock Message Effect)}
    (atRelease : state.todo thread = .release lock :: rest) :
    Orderly program Exempt { state with
      owner := Function.update state.owner lock none
      todo := Function.update state.todo thread rest } := by
  obtain ⟨held, ready, owns⟩ := orderly.ready thread
  rw [atRelease] at ready
  cases ready with | closes closes =>
  cases closes with | @release held _ _ once after =>
  have mine := (owns lock).mpr List.mem_cons_self
  refine orderly.move rfl (.closes after) ?_ ?_ ?_ ?_
  · intro other
    by_cases same : other = lock
    · subst same
      simp [once]
    · simpa [Function.update_of_ne same, same] using owns other
  · intro other different other'
    by_cases same : other' = lock
    · subst same
      simp [mine, different.symm]
    · simp [Function.update_of_ne same]
  · rintro message rest rfl exempt
    exact absurd exempt after.not_exempt
  · exact fun other _ => orderly.room other

theorem send (orderly : Orderly program Exempt state) {message : Message}
    {rest : List (Op Lock Message Effect)} (atSend : state.todo thread = .send message :: rest)
    (leaves : LeavesRoom program Exempt state (.run thread input)) :
    Orderly program Exempt { state with
      queued := state.queued + 1
      todo := Function.update state.todo thread rest } := by
  obtain ⟨held, ready, owns⟩ := orderly.ready thread
  simp only [LeavesRoom, atSend] at leaves
  have after : Closes program Exempt thread held rest := by
    rw [atSend] at ready
    cases ready with
    | exempt _ after => exact after
    | closes closes =>
      cases closes with
      | send _ after => exact after
  refine orderly.move rfl (.closes after) owns ?_ ?_ ?_
  · exact fun _ _ _ => Iff.rfl
  · rintro message rest rfl exempt
    exact absurd exempt after.not_exempt
  · exact fun other different message rest => leaves other message rest different

theorem step [DecidableEq Lock]
    (balanced : ∀ thread, Closes program Exempt thread [] (program.round thread))
    (orderly : Orderly program Exempt state) {action : Action Thread Input}
    (leaves : LeavesRoom program Exempt state action)
    (stepped : program.machine.step state action = some (next, events)) :
    Orderly program Exempt next := by
  cases action with
  | receive =>
    simp only [Program.machine] at stepped
    split at stepped
    · cases stepped
      refine ⟨orderly.ready, fun thread message rest atSend exempt => ?_⟩
      have room := orderly.room thread message rest atSend exempt
      exact Nat.lt_of_le_of_lt (Nat.sub_le _ _) room
    · cases stepped
  | run thread input =>
    obtain ⟨held, ready, owns⟩ := orderly.ready thread
    simp only [Program.machine] at stepped
    split at stepped
    next idle =>
      cases stepped
      rw [idle] at ready
      cases ready with | closes closes =>
      cases closes with | done =>
      refine orderly.keep rfl (.closes (balanced thread)) owns rfl rfl ?_
      intro message rest atSend exempt
      exact absurd exempt (atSend ▸ balanced thread).not_exempt
    next lock rest atAcquire =>
      split at stepped
      next free =>
        cases stepped
        exact orderly.acquire atAcquire free
      · cases stepped
    next lock rest atRelease =>
      cases stepped
      exact orderly.release atRelease
    next message rest atSend =>
      split at stepped
      · cases stepped
        exact orderly.send atSend leaves
      · cases stepped
    next effect rest atEffect =>
      cases stepped
      simp only [LeavesRoom, atEffect] at leaves
      rw [atEffect] at ready
      cases ready with | closes closes =>
      cases closes with | perform after =>
      exact orderly.keep rfl (after input state.data) owns rfl rfl leaves

end Steps

/-- The owner of a lock does not wait for space. -/
theorem not_waits (orderly : Orderly program Exempt state) {lock : Lock} {thread : Thread}
    (owned : state.owner lock = some thread) : ¬ WaitsForSpace program state thread := by
  intro waits
  induction waits generalizing lock with
  | @space thread message rest atSend full =>
    obtain ⟨held, ready, owns⟩ := orderly.ready thread
    rw [atSend] at ready
    cases ready with
    | exempt exempt _ =>
      have room := orderly.room thread message rest atSend exempt
      exact absurd full (Nat.not_le_of_lt room)
    | closes closes =>
      cases closes with
      | send _ _ => exact absurd ((owns lock).mp owned) List.not_mem_nil
  | lock _ holds _ inductionHypothesis => exact inductionHypothesis holds

end Orderly

/-- In a run whose exempt sends find room, the owner of a lock never waits for space. -/
theorem not_waits_of_leavesRoom [DecidableEq Thread] [DecidableEq Lock]
    (balanced : ∀ thread, Closes program Exempt thread [] (program.round thread)) {data : Data}
    {actions : List (Action Thread Input)}
    (leaves : program.machine.Guarded (LeavesRoom program Exempt) (.start data) actions)
    {state : State Thread Lock Message Effect Data} {events : List (Thread × Message)}
    (ran : program.machine.run (.start data) actions = some (state, events)) {lock : Lock}
    {thread : Thread} (owned : state.owner lock = some thread) :
    ¬ WaitsForSpace program state thread := by
  have orderly : Orderly program Exempt state :=
    program.machine.guarded_invariant (fun state _ => Orderly program Exempt state)
      (Orderly.start data) (fun _ _ _ _ _ orderly leaves stepped =>
        orderly.step balanced leaves stepped) leaves ran
  exact orderly.not_waits owned

/-! ### What a step can do -/

variable (program)

/-- What an action does, with the states and messages it goes between. -/
inductive Does [DecidableEq Thread] [DecidableEq Lock]
    (state : State Thread Lock Message Effect Data) : Action Thread Input →
      State Thread Lock Message Effect Data → List (Thread × Message) → Prop
  | begins {thread : Thread} {input : Input} (idle : state.todo thread = []) :
      Does state (.run thread input)
        { state with todo := Function.update state.todo thread (program.round thread) } []
  | acquires {thread : Thread} {input : Input} {lock : Lock} {rest : List (Op Lock Message Effect)}
      (atAcquire : state.todo thread = .acquire lock :: rest) (free : state.owner lock = none) :
      Does state (.run thread input)
        { state with
          owner := Function.update state.owner lock (some thread)
          todo := Function.update state.todo thread rest } []
  | releases {thread : Thread} {input : Input} {lock : Lock} {rest : List (Op Lock Message Effect)}
      (atRelease : state.todo thread = .release lock :: rest) :
      Does state (.run thread input)
        { state with
          owner := Function.update state.owner lock none
          todo := Function.update state.todo thread rest } []
  | sends {thread : Thread} {input : Input} {message : Message}
      {rest : List (Op Lock Message Effect)} (atSend : state.todo thread = .send message :: rest)
      (room : state.queued < program.capacity) :
      Does state (.run thread input)
        { state with
          queued := state.queued + 1
          todo := Function.update state.todo thread rest } [(thread, message)]
  | performs {thread : Thread} {input : Input} {effect : Effect}
      {rest : List (Op Lock Message Effect)}
      (atEffect : state.todo thread = .perform effect :: rest) :
      Does state (.run thread input)
        { state with
          data := (program.apply effect input state.data).1
          todo := Function.update state.todo thread
            ((program.apply effect input state.data).2 ++ rest) } []
  | receives (some : 0 < state.queued) :
      Does state .receive { state with queued := state.queued - 1 } []

variable {program}

theorem does_of_step [DecidableEq Thread] [DecidableEq Lock]
    {state next : State Thread Lock Message Effect Data} {action : Action Thread Input}
    {emitted : List (Thread × Message)}
    (stepped : program.machine.step state action = some (next, emitted)) :
    Does program state action next emitted := by
  cases action with
  | receive =>
    simp only [Program.machine] at stepped
    split at stepped
    next some =>
      cases stepped
      exact .receives some
    · cases stepped
  | run thread input =>
    simp only [Program.machine] at stepped
    split at stepped
    next idle =>
      cases stepped
      exact .begins idle
    next lock rest atAcquire =>
      split at stepped
      next free =>
        cases stepped
        exact .acquires atAcquire free
      · cases stepped
    next lock rest atRelease =>
      cases stepped
      exact .releases atRelease
    next message rest atSend =>
      split at stepped
      next room =>
        cases stepped
        exact .sends atSend room
      · cases stepped
    next effect rest atEffect =>
      cases stepped
      exact .performs atEffect

/-- A step of one thread leaves what the others have to do alone. -/
theorem todo_of_step [DecidableEq Thread] [DecidableEq Lock]
    {state next : State Thread Lock Message Effect Data} {thread other : Thread} {input : Input}
    {emitted : List (Thread × Message)} (different : other ≠ thread)
    (stepped : program.machine.step state (.run thread input) = some (next, emitted)) :
    next.todo other = state.todo other := by
  cases does_of_step stepped <;> exact Function.update_of_ne different _ _

/-- A step can be taken with other data as well, if its effect does the same to them. -/
theorem step_mapData [DecidableEq Thread] [DecidableEq Lock]
    {state next : State Thread Lock Message Effect Data} {action : Action Thread Input}
    {emitted : List (Thread × Message)} (view : Data → Data)
    (same : ∀ thread input effect rest, action = .run thread input →
      state.todo thread = .perform effect :: rest →
        program.apply effect input (view state.data) =
          (view (program.apply effect input state.data).1,
            (program.apply effect input state.data).2))
    (stepped : program.machine.step state action = some (next, emitted)) :
    program.machine.step { state with data := view state.data } action =
      some ({ next with data := view next.data }, emitted) := by
  cases does_of_step stepped with
  | receives some => simp only [Program.machine, if_pos some]
  | begins idle => simp only [Program.machine, idle]
  | acquires atAcquire free => simp only [Program.machine, atAcquire, if_pos free]
  | releases atRelease => simp only [Program.machine, atRelease]
  | sends atSend room => simp only [Program.machine, atSend, if_pos room]
  | performs atEffect =>
    simp only [Program.machine, atEffect, same _ _ _ _ rfl atEffect]

/-! ### What the threads have to do and to send -/

/-- What a thread has to do is always of some kind, if its rounds are and every operation leaves it
so. -/
theorem todo_invariant [DecidableEq Thread] [DecidableEq Lock]
    (Allowed : Thread → List (Op Lock Message Effect) → Prop)
    (idle : ∀ thread, Allowed thread []) (begins : ∀ thread, Allowed thread (program.round thread))
    (passes : ∀ thread op rest, (∀ effect, op ≠ .perform effect) → Allowed thread (op :: rest) →
      Allowed thread rest)
    (performs : ∀ thread effect rest input data, Allowed thread (.perform effect :: rest) →
      Allowed thread ((program.apply effect input data).2 ++ rest)) {data : Data}
    {actions : List (Action Thread Input)} {state : State Thread Lock Message Effect Data}
    {events : List (Thread × Message)}
    (ran : program.machine.run (.start data) actions = some (state, events)) (thread : Thread) :
    Allowed thread (state.todo thread) := by
  refine program.machine.run_invariant (fun state _ => ∀ thread, Allowed thread (state.todo thread))
    idle ?_ ran thread
  intro state _ action next _ allowed stepped other
  have move : ∀ {thread todo}, Allowed thread todo →
      Allowed other (Function.update state.todo thread todo other) := by
    intro thread todo good
    by_cases same : other = thread
    · subst same
      rwa [Function.update_self]
    · rw [Function.update_of_ne same]
      exact allowed other
  cases does_of_step stepped with
  | receives => exact allowed other
  | @begins thread => exact move (begins thread)
  | @acquires thread _ _ _ atOp | @releases thread _ _ _ atOp | @sends thread _ _ _ atOp =>
    exact move (passes thread _ _ (by simp) (atOp ▸ allowed thread))
  | @performs thread _ _ _ atOp =>
    exact move (performs thread _ _ _ _ (atOp ▸ allowed thread))

/-- If threads only come to acquire locks of their own, they only own such. -/
theorem owner_invariant [DecidableEq Thread] [DecidableEq Lock] {data : Data}
    (Uses : Thread → Lock → Prop)
    (uses : ∀ actions state events,
      program.machine.run (.start data) actions = some (state, events) → ∀ thread lock rest,
        state.todo thread = .acquire lock :: rest → Uses thread lock)
    {actions : List (Action Thread Input)} {state : State Thread Lock Message Effect Data}
    {events : List (Thread × Message)}
    (ran : program.machine.run (.start data) actions = some (state, events)) {thread : Thread}
    {lock : Lock} (owned : state.owner lock = some thread) : Uses thread lock := by
  refine program.machine.run_induction
    (fun _ state _ => ∀ thread lock, state.owner lock = some thread → Uses thread lock)
    (fun _ _ owned => by cases owned) ?_ ran thread lock owned
  intro actions state events action next emitted ran held stepped who which owned
  cases does_of_step stepped with
  | @acquires thread _ lock rest atAcquire =>
    change Function.update state.owner lock (some thread) which = some who at owned
    by_cases same : which = lock
    · subst same
      rw [Function.update_self] at owned
      cases owned
      exact uses actions state events ran who which rest atAcquire
    · rw [Function.update_of_ne same] at owned
      exact held who which owned
  | @releases thread _ lock =>
    change Function.update state.owner lock none which = some who at owned
    by_cases same : which = lock
    · subst same
      rw [Function.update_self] at owned
      cases owned
    · rw [Function.update_of_ne same] at owned
      exact held who which owned
  | _ => exact held who which owned

/-- The messages some operations send. -/
def toSend (todo : List (Op Lock Message Effect)) : List Message :=
  todo.filterMap fun
    | .send message => some message
    | .acquire _ | .release _ | .perform _ => none

/-- The messages a thread has sent. -/
def sentBy [DecidableEq Thread] (thread : Thread) (events : List (Thread × Message)) :
    List Message :=
  (events.filter fun event => event.1 = thread).map Prod.snd

/-- The messages a thread has sent and those it is about to send. -/
def announced [DecidableEq Thread] (thread : Thread)
    (state : State Thread Lock Message Effect Data) (events : List (Thread × Message)) :
    List Message :=
  sentBy thread events ++ toSend (state.todo thread)

theorem toSend_append (front back : List (Op Lock Message Effect)) :
    toSend (front ++ back) = toSend front ++ toSend back :=
  List.filterMap_append

theorem sentBy_append [DecidableEq Thread] (thread : Thread)
    (front back : List (Thread × Message)) :
    sentBy thread (front ++ back) = sentBy thread front ++ sentBy thread back := by
  simp only [sentBy, List.filter_append, List.map_append]

/-- What a thread announces changes only by its effects: sending moves a message on. -/
theorem announced_step [DecidableEq Thread] [DecidableEq Lock]
    (quiet : ∀ thread, toSend (program.round thread) = [])
    {state next : State Thread Lock Message Effect Data} {action : Action Thread Input}
    {events emitted : List (Thread × Message)}
    (stepped : program.machine.step state action = some (next, emitted)) :
    (next.data = state.data ∧
        ∀ who, announced who next (events ++ emitted) = announced who state events) ∨
      ∃ thread input effect rest, action = .run thread input ∧
        state.todo thread = .perform effect :: rest ∧
        next.data = (program.apply effect input state.data).1 ∧
        (∀ who ≠ thread, announced who next (events ++ emitted) = announced who state events) ∧
        announced thread next (events ++ emitted) =
          sentBy thread events ++ toSend (program.apply effect input state.data).2 ++
            toSend rest := by
  -- An operation that leaves the messages of its thread, sent and to be sent, as they were.
  have move : ∀ {thread : Thread} {todo : List (Op Lock Message Effect)}
      {moved : State Thread Lock Message Effect Data} {sent : List (Thread × Message)},
      moved.todo = Function.update state.todo thread todo → (∀ event ∈ sent, event.1 = thread) →
      sent.map Prod.snd ++ toSend todo = toSend (state.todo thread) → ∀ who,
      announced who moved (events ++ sent) = announced who state events := by
    intro thread todo moved sent movedTodo own same who
    rw [announced, announced, movedTodo, sentBy_append, List.append_assoc]
    congr 1
    by_cases mine : who = thread
    · subst mine
      have all : sent.filter (fun event => event.1 = who) = sent :=
        List.filter_eq_self.mpr fun event member => decide_eq_true (own event member)
      rw [Function.update_self, sentBy, all, same]
    · have none : sent.filter (fun event => event.1 = who) = [] :=
        List.filter_eq_nil_iff.mpr fun event member => by
          simp [own event member, Ne.symm mine]
      rw [Function.update_of_ne mine, sentBy, none]
      rfl
  cases does_of_step stepped with
  | receives => exact .inl ⟨rfl, fun who => by simp [announced]⟩
  | @begins thread _ idle =>
    refine .inl ⟨rfl, move rfl (by simp) ?_⟩
    rw [idle, quiet]
    rfl
  | acquires atOp | releases atOp | sends atOp =>
    refine .inl ⟨rfl, move rfl (by simp) ?_⟩
    rw [atOp]
    rfl
  | @performs thread input effect rest atEffect =>
    refine .inr ⟨thread, input, effect, rest, rfl, atEffect, rfl, fun who other => ?_, ?_⟩
    · simp [announced, Function.update_of_ne other]
    · simp only [announced, Function.update_self, toSend_append, List.append_nil,
        List.append_assoc]

end LockedThreads
