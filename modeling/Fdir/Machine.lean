/-
This file is a small library of labelled transition systems.

A machine is a step function that may refuse an action; an accepted action takes
the machine to its next state and emits a list of events. A run performs a list
of actions and collects the events in order, so a property of runs can speak of
the state reached and of everything that was emitted on the way. The rules at
the end of the file carry a property from one step to every run, with or without
a guard that the steps of the run are assumed to meet.
-/

import Mathlib.Data.List.Induction

/-- A step function that refuses an action by answering `none`. -/
structure Machine (State Action Event : Type) where
  step : State → Action → Option (State × List Event)

namespace Machine

variable {State Action Event : Type} (machine : Machine State Action Event)

/-! ### Runs -/

/-- The state after a list of actions and the events they emit, unless one is refused. -/
def run : State → List Action → Option (State × List Event)
  | state, [] => some (state, [])
  | state, action :: rest =>
    match machine.step state action with
    | none => none
    | some (middle, first) =>
      match run middle rest with
      | none => none
      | some (last, later) => some (last, first ++ later)

@[simp] theorem run_nil (state : State) : machine.run state [] = some (state, []) := rfl

theorem run_cons_eq_some {state last : State} {action : Action} {rest : List Action}
    {events : List Event} :
    machine.run state (action :: rest) = some (last, events) ↔
      ∃ middle first later, machine.step state action = some (middle, first) ∧
        machine.run middle rest = some (last, later) ∧ events = first ++ later := by
  constructor
  · intro ran
    rw [run] at ran
    split at ran
    · cases ran
    next middle first stepped =>
      split at ran
      · cases ran
      next target later tail =>
        cases ran
        exact ⟨middle, first, later, stepped, tail, rfl⟩
  · rintro ⟨middle, first, later, stepped, tail, rfl⟩
    simp only [run, stepped, tail]

theorem run_append_eq_some {state last : State} {front back : List Action}
    {events : List Event} :
    machine.run state (front ++ back) = some (last, events) ↔
      ∃ middle first later, machine.run state front = some (middle, first) ∧
        machine.run middle back = some (last, later) ∧ events = first ++ later := by
  induction front generalizing state events with
  | nil => simp
  | cons action rest inductionHypothesis =>
    rw [List.cons_append, run_cons_eq_some]
    constructor
    · rintro ⟨middle, first, later, stepped, tail, rfl⟩
      obtain ⟨turn, second, third, front, back, rfl⟩ := inductionHypothesis.mp tail
      exact ⟨turn, first ++ second, third,
        machine.run_cons_eq_some.mpr ⟨middle, first, second, stepped, front, rfl⟩, back,
        (List.append_assoc _ _ _).symm⟩
    · rintro ⟨turn, second, third, front, back, rfl⟩
      obtain ⟨middle, first, later, stepped, tail, rfl⟩ := machine.run_cons_eq_some.mp front
      exact ⟨middle, first, later ++ third, stepped,
        inductionHypothesis.mpr ⟨turn, later, third, tail, back, rfl⟩, List.append_assoc _ _ _⟩

theorem run_singleton (state : State) (action : Action) :
    machine.run state [action] = machine.step state action := by
  simp only [run]
  split
  next refused => exact refused.symm
  next middle first stepped => rw [stepped, List.append_nil]

theorem run_snoc_eq_some {state last : State} {front : List Action} {action : Action}
    {events : List Event} :
    machine.run state (front ++ [action]) = some (last, events) ↔
      ∃ middle first later, machine.run state front = some (middle, first) ∧
        machine.step middle action = some (last, later) ∧ events = first ++ later := by
  simp only [run_append_eq_some, run_singleton]

/-- A machine that refuses nothing performs every list of actions. -/
theorem exists_run (total : ∀ state action, (machine.step state action).isSome) (start : State)
    (actions : List Action) : ∃ last events, machine.run start actions = some (last, events) := by
  induction actions generalizing start with
  | nil => exact ⟨start, [], rfl⟩
  | cons action rest inductionHypothesis =>
    obtain ⟨⟨middle, first⟩, stepped⟩ := Option.isSome_iff_exists.mp (total start action)
    obtain ⟨last, later, tail⟩ := inductionHypothesis middle
    exact ⟨last, first ++ later,
      machine.run_cons_eq_some.mpr ⟨middle, first, later, stepped, tail, rfl⟩⟩

/-- A state some run from `start` ends in. -/
def Reachable (start state : State) : Prop :=
  ∃ actions events, machine.run start actions = some (state, events)

/-! ### From one step to every run -/

/-- A property of the actions performed, the state reached and the events emitted holds of
every run if it holds of the empty run and survives one more step. -/
theorem run_induction {start : State} (Property : List Action → State → List Event → Prop)
    (initial : Property [] start [])
    (preserved : ∀ actions state events action next emitted,
      machine.run start actions = some (state, events) → Property actions state events →
      machine.step state action = some (next, emitted) →
      Property (actions ++ [action]) next (events ++ emitted))
    {actions : List Action} {state : State} {events : List Event}
    (ran : machine.run start actions = some (state, events)) :
    Property actions state events := by
  induction actions using List.reverseRecOn generalizing state events with
  | nil =>
    cases ran
    exact initial
  | append_singleton front action inductionHypothesis =>
    obtain ⟨middle, first, later, head, stepped, rfl⟩ := machine.run_snoc_eq_some.mp ran
    exact preserved front middle first action state later head (inductionHypothesis head) stepped

/-- An invariant of the state and the events so far. -/
theorem run_invariant {start : State} (Invariant : State → List Event → Prop)
    (initial : Invariant start [])
    (preserved : ∀ state events action next emitted, Invariant state events →
      machine.step state action = some (next, emitted) → Invariant next (events ++ emitted))
    {actions : List Action} {state : State} {events : List Event}
    (ran : machine.run start actions = some (state, events)) : Invariant state events :=
  machine.run_induction (fun _ => Invariant) initial
    (fun _ state events action next emitted _ held stepped =>
      preserved state events action next emitted held stepped) ran

/-- An invariant of the state alone. -/
theorem reachable_invariant {start : State} (Invariant : State → Prop)
    (initial : Invariant start)
    (preserved : ∀ state action next emitted, Invariant state →
      machine.step state action = some (next, emitted) → Invariant next)
    {state : State} (reached : machine.Reachable start state) : Invariant state := by
  obtain ⟨actions, events, ran⟩ := reached
  exact machine.run_invariant (fun state _ => Invariant state) initial
    (fun state _ action next emitted held stepped =>
      preserved state action next emitted held stepped) ran

/-- If every step of a machine is a step of another, seen through a function each for the
states, the actions and the events, then every run of it is a run of the other. -/
theorem run_map {Abstract Request Report : Type} (abstract : Machine Abstract Request Report)
    (view : State → Abstract) (request : Action → Request) (report : Event → Report)
    (refines : ∀ state action next emitted, machine.step state action = some (next, emitted) →
      abstract.step (view state) (request action) = some (view next, emitted.map report))
    {start state : State} {actions : List Action} {events : List Event}
    (ran : machine.run start actions = some (state, events)) :
    abstract.run (view start) (actions.map request) = some (view state, events.map report) := by
  refine machine.run_induction
    (fun actions state events => abstract.run (view start) (actions.map request) =
      some (view state, events.map report)) rfl ?_ ran
  intro actions state events action next emitted _ same stepped
  rw [List.map_append, List.map_append]
  exact abstract.run_snoc_eq_some.mpr
    ⟨view state, _, _, same, refines state action next emitted stepped, rfl⟩

/-- If every step of a machine is a step of a part of it or leaves the part alone, then what a run
does to the part is a run of the part. -/
theorem run_part {Part Request Report : Type} (part : Machine Part Request Report)
    (view : State → Part) (report? : Event → Option Report)
    (steps : ∀ state action next emitted, machine.step state action = some (next, emitted) →
      view next = view state ∧ emitted.filterMap report? = [] ∨
        ∃ request, part.step (view state) request = some (view next, emitted.filterMap report?))
    {start state : State} {actions : List Action} {events : List Event}
    (ran : machine.run start actions = some (state, events)) :
    ∃ requests, part.run (view start) requests = some (view state, events.filterMap report?) := by
  refine machine.run_invariant (fun state events => ∃ requests,
    part.run (view start) requests = some (view state, events.filterMap report?)) ⟨[], rfl⟩ ?_ ran
  rintro state events action next emitted ⟨requests, went⟩ stepped
  rw [List.filterMap_append]
  rcases steps state action next emitted stepped with ⟨same, silent⟩ | ⟨request, moved⟩
  · exact ⟨requests, by rw [same, silent, List.append_nil, went]⟩
  · exact ⟨requests ++ [request], part.run_snoc_eq_some.mpr ⟨_, _, _, went, moved, rfl⟩⟩

/-- If every event a step emits is accounted for by the events before it, then so is every event
of a run. -/
theorem run_explained {start : State} (Invariant : State → List Event → Prop)
    (Explains : List Event → Event → Prop) (initial : Invariant start [])
    (preserved : ∀ state events action next emitted, Invariant state events →
      machine.step state action = some (next, emitted) → Invariant next (events ++ emitted) ∧
        ∀ front event back, emitted = front ++ event :: back → Explains (events ++ front) event)
    {actions : List Action} {state : State} {events : List Event}
    (ran : machine.run start actions = some (state, events)) :
    Invariant state events ∧
      ∀ front event back, events = front ++ event :: back → Explains front event := by
  refine machine.run_invariant (fun state events => Invariant state events ∧
    ∀ front event back, events = front ++ event :: back → Explains front event)
    ⟨initial, fun front event back none => ?_⟩ ?_ ran
  · exact absurd none.symm (List.append_ne_nil_of_right_ne_nil _ (List.cons_ne_nil _ _))
  rintro state events action next emitted ⟨held, explained⟩ stepped
  obtain ⟨held, more⟩ := preserved state events action next emitted held stepped
  refine ⟨held, fun front event back split => ?_⟩
  rcases List.append_eq_append_iff.mp split with ⟨rest, rfl, within⟩ | ⟨rest, rfl, within⟩
  · exact more rest event back within
  · cases rest with
    | nil =>
      have own := more [] event back within.symm
      rwa [List.append_nil, List.append_nil] at own
    | cons first rest =>
      cases within
      exact explained front event rest rfl

/-! ### Guarded runs -/

/-- Every step of the run is taken from a state in which the guard allows its action. -/
def Guarded (guard : State → Action → Prop) : State → List Action → Prop
  | _, [] => True
  | state, action :: rest =>
    guard state action ∧
      ∀ next emitted, machine.step state action = some (next, emitted) →
        Guarded guard next rest

/-- Whether a concrete run meets a decidable guard can be computed. -/
instance decidableGuarded (guard : State → Action → Prop)
    [decides : ∀ state action, Decidable (guard state action)] :
    ∀ (state : State) (actions : List Action), Decidable (machine.Guarded guard state actions)
  | _, [] => .isTrue trivial
  | state, action :: rest =>
    match stepped : machine.step state action with
    | none => decidable_of_iff (guard state action) (by simp [Guarded, stepped])
    | some (next, _) =>
      have := decidableGuarded guard next rest
      decidable_of_iff (guard state action ∧ machine.Guarded guard next rest)
        (by simp [Guarded, stepped])

theorem guarded_append {guard : State → Action → Prop} {state : State}
    {front back : List Action} :
    machine.Guarded guard state (front ++ back) ↔
      machine.Guarded guard state front ∧
        ∀ middle events, machine.run state front = some (middle, events) →
          machine.Guarded guard middle back := by
  induction front generalizing state with
  | nil => simp [Guarded]
  | cons action rest inductionHypothesis =>
    simp only [List.cons_append, Guarded, inductionHypothesis, run_cons_eq_some]
    constructor
    · rintro ⟨allowed, tail⟩
      refine ⟨⟨allowed, fun next emitted stepped => (tail next emitted stepped).1⟩, ?_⟩
      rintro middle events ⟨turn, first, later, stepped, ran, rfl⟩
      exact (tail turn first stepped).2 middle later ran
    · rintro ⟨⟨allowed, tail⟩, rest⟩
      exact ⟨allowed, fun next emitted stepped => ⟨tail next emitted stepped,
        fun middle later ran => rest middle _ ⟨next, emitted, later, stepped, ran, rfl⟩⟩⟩

theorem guarded_singleton {guard : State → Action → Prop} {state : State} {action : Action} :
    machine.Guarded guard state [action] ↔ guard state action := by
  simp [Guarded]

theorem guarded_snoc {guard : State → Action → Prop} {state middle : State}
    {front : List Action} {action : Action} {events : List Event}
    (ran : machine.run state front = some (middle, events)) :
    machine.Guarded guard state (front ++ [action]) ↔
      machine.Guarded guard state front ∧ guard middle action := by
  rw [guarded_append]
  refine and_congr_right fun _ => ⟨fun allowed => ?_, fun allowed other later again => ?_⟩
  · exact machine.guarded_singleton.mp (allowed middle events ran)
  · cases ran.symm.trans again
    exact machine.guarded_singleton.mpr allowed

/-- A run that meets a guard meets every weaker one. -/
theorem guarded_mono {guard weaker : State → Action → Prop}
    (implies : ∀ state action, guard state action → weaker state action) {state : State}
    {actions : List Action} (guarded : machine.Guarded guard state actions) :
    machine.Guarded weaker state actions := by
  induction actions generalizing state with
  | nil => trivial
  | cons action rest inductionHypothesis =>
    exact ⟨implies state action guarded.1,
      fun next emitted stepped => inductionHypothesis (guarded.2 next emitted stepped)⟩

/-- A property of the runs whose steps all meet the guard. -/
theorem guarded_induction {start : State} {guard : State → Action → Prop}
    (Property : List Action → State → List Event → Prop) (initial : Property [] start [])
    (preserved : ∀ actions state events action next emitted, Property actions state events →
      guard state action → machine.step state action = some (next, emitted) →
      Property (actions ++ [action]) next (events ++ emitted))
    {actions : List Action} (guarded : machine.Guarded guard start actions)
    {state : State} {events : List Event}
    (ran : machine.run start actions = some (state, events)) : Property actions state events := by
  refine machine.run_induction
    (fun actions state events =>
      machine.Guarded guard start actions → Property actions state events)
    (fun _ => initial) ?_ ran guarded
  intro actions state events action next emitted ran held stepped guarded
  obtain ⟨front, allowed⟩ := (machine.guarded_snoc ran).mp guarded
  exact preserved actions state events action next emitted (held front) allowed stepped

/-- An invariant of the runs whose steps all meet the guard. -/
theorem guarded_invariant {start : State} {guard : State → Action → Prop}
    (Invariant : State → List Event → Prop) (initial : Invariant start [])
    (preserved : ∀ state events action next emitted, Invariant state events →
      guard state action → machine.step state action = some (next, emitted) →
      Invariant next (events ++ emitted))
    {actions : List Action} (guarded : machine.Guarded guard start actions)
    {state : State} {events : List Event}
    (ran : machine.run start actions = some (state, events)) : Invariant state events :=
  machine.guarded_induction (fun _ => Invariant) initial
    (fun _ state events action next emitted held allowed stepped =>
      preserved state events action next emitted held allowed stepped) guarded ran

/-! ### Properties of every state of one run -/

/-- A property of the state and the events so far, after every initial part of a run. -/
def Throughout (Property : State → List Event → Prop) (start : State) (actions : List Action) :
    Prop :=
  ∀ front back, actions = front ++ back → ∀ state events,
    machine.run start front = some (state, events) → Property state events

/-- A condition on the state and the events so far, before every action of a run. -/
def BeforeEach (Condition : State → List Event → Action → Prop) (start : State)
    (actions : List Action) : Prop :=
  ∀ front action back, actions = front ++ action :: back → ∀ state events,
    machine.run start front = some (state, events) → Condition state events action

theorem beforeEach_cons {Condition : State → List Event → Action → Prop} {start : State}
    {action : Action} {rest : List Action} :
    machine.BeforeEach Condition start (action :: rest) ↔
      Condition start [] action ∧ ∀ next emitted, machine.step start action = some (next, emitted) →
        machine.BeforeEach (fun state events => Condition state (emitted ++ events)) next rest := by
  constructor
  · intro met
    refine ⟨met [] action rest rfl start [] rfl, ?_⟩
    rintro next emitted stepped front last back rfl state events ran
    exact met (action :: front) last back rfl state (emitted ++ events)
      (machine.run_cons_eq_some.mpr ⟨next, emitted, events, stepped, ran, rfl⟩)
  · rintro ⟨first, later⟩ (_ | ⟨_, front⟩) last back split state events ran
    · cases split
      cases ran
      exact first
    · cases split
      obtain ⟨next, emitted, after, stepped, tail, rfl⟩ := machine.run_cons_eq_some.mp ran
      exact later next emitted stepped front last back rfl state after tail

/-- Whether a concrete run meets a decidable condition before each action can be computed. -/
instance decidableBeforeEach :
    ∀ (Condition : State → List Event → Action → Prop)
      [_decides : ∀ state events action, Decidable (Condition state events action)]
      (state : State) (actions : List Action),
      Decidable (machine.BeforeEach Condition state actions)
  | _, _, _, [] => .isTrue fun _ _ _ none => absurd none.symm
      (List.append_ne_nil_of_right_ne_nil _ (List.cons_ne_nil _ _))
  | Condition, _, state, action :: rest =>
    match stepped : machine.step state action with
    | none => decidable_of_iff (Condition state [] action) (by simp [beforeEach_cons, stepped])
    | some (next, emitted) =>
      have := decidableBeforeEach
        (fun state events => Condition state (emitted ++ events)) next rest
      decidable_of_iff
        (Condition state [] action ∧
          machine.BeforeEach (fun state events => Condition state (emitted ++ events)) next rest)
        (by simp [beforeEach_cons, stepped])

/-- If a condition says exactly which steps keep a property, then a run has the property
throughout exactly when all its steps meet the condition. -/
theorem throughout_iff_beforeEach {start last : State} {actions : List Action}
    {collected : List Event} {Property : State → List Event → Prop}
    {Condition : State → List Event → Action → Prop} (initial : Property start [])
    (exact : ∀ front state events action next emitted,
      machine.run start front = some (state, events) → Property state events →
      machine.step state action = some (next, emitted) →
      (Property next (events ++ emitted) ↔ Condition state events action))
    (ran : machine.run start actions = some (last, collected)) :
    machine.Throughout Property start actions ↔ machine.BeforeEach Condition start actions := by
  constructor
  · rintro held front action back rfl state events head
    obtain ⟨_, _, _, again, tail, _⟩ := machine.run_append_eq_some.mp ran
    cases head.symm.trans again
    obtain ⟨next, emitted, _, stepped, _, _⟩ := machine.run_cons_eq_some.mp tail
    refine (exact front state events action next emitted head ?_ stepped).mp ?_
    · exact held front (action :: back) rfl state events head
    · refine held (front ++ [action]) back (by rw [List.append_assoc]; rfl) next _ ?_
      exact machine.run_snoc_eq_some.mpr ⟨state, events, emitted, head, stepped, rfl⟩
  · intro met front
    induction front using List.reverseRecOn with
    | nil =>
      intro back _ state events head
      cases head
      exact initial
    | append_singleton front action inductionHypothesis =>
      intro back whole state events head
      obtain ⟨middle, earlier, emitted, before, stepped, rfl⟩ :=
        machine.run_snoc_eq_some.mp head
      rw [List.append_assoc] at whole
      exact (exact front middle earlier action state emitted before
        (inductionHypothesis (action :: back) whole middle earlier before) stepped).mpr
        (met front action back whole middle earlier before)

end Machine
