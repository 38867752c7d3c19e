/-
This file adds to the library of threads that share locks a finer level, at which an effect is
made of single accesses to a store.

Between any two accesses of one thread the others may make theirs. Two threads that touch the same
cell in an effect have a lock in common, under which both effects are done; a cell that is shared
without a lock is touched by one access of an effect only, the one the effect commits with.

The result is that the finer threads refine the coarser ones, whose effects take place in one go:
every run of single accesses sends the messages of a run of whole effects, in the same order, with
the locks and the queue as they are there. Every cell has the value that run gives it, unless a
thread is just in an effect that touches it.

The converse holds too: every run of whole effects is one of single accesses, in which no thread is
interrupted.
-/

import Fdir.LockOrder

namespace LockedThreads

/-! ### Stores and accesses -/

/-- What the cells hold. -/
abbrev Store {Cell : Type} (Value : Cell → Type) : Type := (cell : Cell) → Value cell

variable {Thread Lock Message Effect Input Data Cell : Type} {Value : Cell → Type}

/-- The two stores agree on some cells. -/
def Agree (cells : Cell → Prop) (first second : Store Value) : Prop :=
  ∀ cell, cells cell → first cell = second cell

theorem Agree.trans {cells : Cell → Prop} {first second third : Store Value}
    (left : Agree cells first second) (right : Agree cells second third) :
    Agree cells first third :=
  fun cell touched => (left cell touched).trans (right cell touched)

/-- The access changes only some cells, and what it makes of them depends on them alone. -/
structure Within (cells : Cell → Prop) (access : Store Value → Store Value) : Prop where
  frame : ∀ store cell, ¬ cells cell → access store cell = store cell
  reads : ∀ first second, Agree cells first second → Agree cells (access first) (access second)

/-- The store after some accesses. -/
def accessAll (accesses : List (Store Value → Store Value)) (store : Store Value) : Store Value :=
  accesses.foldl (fun store access => access store) store

theorem accessAll_append (front back : List (Store Value → Store Value)) (store : Store Value) :
    accessAll (front ++ back) store = accessAll back (accessAll front store) :=
  List.foldl_append

/-- An assignment to one cell. -/
def assign [DecidableEq Cell] (cell : Cell) (value : Store Value → Value cell)
    (store : Store Value) : Store Value :=
  Function.update store cell (value store)

theorem within_assign [DecidableEq Cell] {cells : Cell → Prop} {cell : Cell}
    {value : Store Value → Value cell} (inside : cells cell)
    (reads : ∀ first second, Agree cells first second → value first = value second) :
    Within cells (assign cell value) where
  frame store other outside :=
    Function.update_of_ne (fun same => outside (by rwa [same])) _ _
  reads first second agree other touched := by
    by_cases same : other = cell
    · subst same
      simp only [assign, Function.update_self]
      exact reads first second agree
    · simp only [assign, Function.update_of_ne same]
      exact agree other touched

theorem Within.all {cells : Cell → Prop} {accesses : List (Store Value → Store Value)}
    (within : ∀ access ∈ accesses, Within cells access) : Within cells (accessAll accesses) := by
  induction accesses using List.reverseRecOn with
  | nil => exact ⟨fun _ _ _ => rfl, fun _ _ agree => agree⟩
  | append_singleton front last inductionHypothesis =>
    have before := inductionHypothesis fun access member =>
      within access (List.mem_append_left _ member)
    have final := within last (List.mem_append_right _ List.mem_cons_self)
    constructor
    · intro store cell outside
      rw [accessAll_append]
      exact (final.frame _ cell outside).trans (before.frame store cell outside)
    · intro first second agree
      rw [accessAll_append, accessAll_append]
      exact final.reads _ _ (before.reads first second agree)

/-! ### Effects made of accesses -/

/-- How the effects of a program are made of accesses to a store that shows its data. -/
structure Accesses (program : Program Thread Lock Message Effect Input Data)
    (discipline : Discipline Lock Effect) (Value : Cell → Type) where
  view : Store Value → Data
  touches : Thread → Effect → Cell → Prop
  /-- The cells shared without a lock. -/
  shared : Cell → Prop
  early : Thread → Effect → Input → List (Store Value → Store Value)
  /-- The one access that may touch what is shared without a lock. -/
  commit : Thread → Effect → Input → Store Value → Store Value
  late : Thread → Effect → Input → List (Store Value → Store Value)
  /-- What the thread does next. -/
  next : Thread → Effect → Input → Store Value → List (Op Lock Message Effect)
  unshared : ∀ thread effect cell, touches thread effect cell → ¬ shared cell
  early_within : ∀ thread effect input, ∀ access ∈ early thread effect input,
    Within (touches thread effect) access
  commit_within : ∀ thread effect input,
    Within (fun cell => touches thread effect cell ∨ shared cell) (commit thread effect input)
  late_within : ∀ thread effect input, ∀ access ∈ late thread effect input,
    Within (touches thread effect) access
  next_reads : ∀ thread effect input first second, Agree (touches thread effect) first second →
    next thread effect input first = next thread effect input second
  guarded : ∀ first second, first ≠ second → ∀ effect other cell, touches first effect cell →
    touches second other cell → ∃ lock ∈ discipline.guards effect, lock ∈ discipline.guards other
  /-- All accesses together are the effect. -/
  view_all : ∀ thread effect input store,
    view (accessAll (early thread effect input ++ commit thread effect input ::
        late thread effect input) store) = (program.apply effect input (view store)).1
  next_all : ∀ thread effect input store,
    next thread effect input (accessAll (early thread effect input ++ commit thread effect input ::
        late thread effect input) store) = (program.apply effect input (view store)).2

/-- An effect a thread is in, and the accesses it has still to make. -/
structure Stage (Effect Input : Type) {Cell : Type} (Value : Cell → Type) where
  effect : Effect
  input : Input
  left : List (Store Value → Store Value)

/-- The threads at the level of single accesses; in an effect, `todo` is what comes after it. -/
structure FineState (Thread Lock Message Effect Input : Type) {Cell : Type}
    (Value : Cell → Type) where
  store : Store Value
  queued : Nat
  owner : Lock → Option Thread
  todo : Thread → List (Op Lock Message Effect)
  stage : Thread → Option (Stage Effect Input Value)

/-- The threads before their first round. -/
def FineState.start (store : Store Value) :
    FineState Thread Lock Message Effect Input Value :=
  ⟨store, 0, fun _ => none, fun _ => [], fun _ => none⟩

variable {program : Program Thread Lock Message Effect Input Data}
  {discipline : Discipline Lock Effect} (fine : Accesses program discipline Value)

/-- The accesses of an effect, in order. -/
def Accesses.all (thread : Thread) (effect : Effect) (input : Input) :
    List (Store Value → Store Value) :=
  fine.early thread effect input ++ fine.commit thread effect input ::
    fine.late thread effect input

/-- The threads and the receiver, one access at a time; the events are the messages sent. -/
def Accesses.machine [DecidableEq Thread] [DecidableEq Lock] :
    Machine (FineState Thread Lock Message Effect Input Value) (Action Thread Input)
      (Thread × Message) where
  step state
    | .receive =>
      if 0 < state.queued then some ({ state with queued := state.queued - 1 }, []) else none
    | .run thread input =>
      match state.stage thread with
      | some ⟨effect, given, access :: left⟩ =>
        some ({ state with
          store := access state.store
          stage := Function.update state.stage thread (some ⟨effect, given, left⟩) }, [])
      | some ⟨effect, given, []⟩ =>
        some ({ state with
          todo := Function.update state.todo thread
            (fine.next thread effect given state.store ++ state.todo thread)
          stage := Function.update state.stage thread none }, [])
      | none =>
        match state.todo thread with
        | [] =>
          some ({ state with
            todo := Function.update state.todo thread (program.round thread) }, [])
        | .acquire lock :: rest =>
          if state.owner lock = none then
            some ({ state with
              owner := Function.update state.owner lock (some thread)
              todo := Function.update state.todo thread rest }, [])
          else none
        | .release lock :: rest =>
          some ({ state with
            owner := Function.update state.owner lock none
            todo := Function.update state.todo thread rest }, [])
        | .send message :: rest =>
          if state.queued < program.capacity then
            some ({ state with
              queued := state.queued + 1
              todo := Function.update state.todo thread rest }, [(thread, message)])
          else none
        | .perform effect :: rest =>
          some ({ state with
            todo := Function.update state.todo thread rest
            stage := Function.update state.stage thread
              (some ⟨effect, input, fine.all thread effect input⟩) }, [])

/-- A step of a thread sends nothing, or one message, which takes a free place in the queue. -/
theorem Accesses.sent_of_run [DecidableEq Thread] [DecidableEq Lock]
    {state next : FineState Thread Lock Message Effect Input Value} {thread : Thread}
    {input : Input} {emitted : List (Thread × Message)}
    (stepped : fine.machine.step state (.run thread input) = some (next, emitted)) :
    emitted = [] ∧ next.queued = state.queued ∨
      ∃ message, emitted = [(thread, message)] ∧ next.queued = state.queued + 1 ∧
        state.queued < program.capacity := by
  simp only [Accesses.machine] at stepped
  split at stepped
  · cases stepped
    exact .inl ⟨rfl, rfl⟩
  · cases stepped
    exact .inl ⟨rfl, rfl⟩
  split at stepped
  · cases stepped
    exact .inl ⟨rfl, rfl⟩
  · split at stepped
    · cases stepped
      exact .inl ⟨rfl, rfl⟩
    · cases stepped
  · cases stepped
    exact .inl ⟨rfl, rfl⟩
  · split at stepped
    next room =>
      cases stepped
      exact .inr ⟨_, rfl, rfl, room⟩
    · cases stepped
  · cases stepped
    exact .inl ⟨rfl, rfl⟩

/-! ### Where a thread stands -/

/-- Where a thread is in its effect, with the store whole effects lead to: before its commit the
cells it touches are as the accesses made so far leave them; after it, the accesses still to come
will leave them as they are in that store. -/
inductive Accesses.Stands
    (state : FineState Thread Lock Message Effect Input Value)
    (coarse : State Thread Lock Message Effect Data) (ideal : Store Value) (thread : Thread) :
    Option (Stage Effect Input Value) → Prop
  | outside (same : coarse.todo thread = state.todo thread) : Stands state coarse ideal thread none
  | pending (effect : Effect) (input : Input) (made left : List (Store Value → Store Value))
      (owns : ∀ lock ∈ discipline.guards effect, state.owner lock = some thread)
      (split : fine.early thread effect input = made ++ left)
      (agree : Agree (fine.touches thread effect) state.store (accessAll made ideal))
      (todo : coarse.todo thread = .perform effect :: state.todo thread) :
      Stands state coarse ideal thread
        (some ⟨effect, input, left ++ fine.commit thread effect input ::
          fine.late thread effect input⟩)
  | finishing (effect : Effect) (input : Input) (done left : List (Store Value → Store Value))
      (owns : ∀ lock ∈ discipline.guards effect, state.owner lock = some thread)
      (split : fine.late thread effect input = done ++ left)
      (agree : Agree (fine.touches thread effect) (accessAll left state.store) ideal)
      (todo : coarse.todo thread =
        fine.next thread effect input (accessAll left state.store) ++ state.todo thread) :
      Stands state coarse ideal thread (some ⟨effect, input, left⟩)

/-- The finer state is the coarser one, but for the cells of the effects that threads are in. -/
structure Accesses.Keeps (state : FineState Thread Lock Message Effect Input Value)
    (coarse : State Thread Lock Message Effect Data) (ideal : Store Value) : Prop where
  data : coarse.data = fine.view ideal
  queued : coarse.queued = state.queued
  owner : coarse.owner = state.owner
  stands : ∀ thread, fine.Stands state coarse ideal thread (state.stage thread)
  others : ∀ cell, (∀ thread stage, state.stage thread = some stage →
      ¬ fine.touches thread stage.effect cell) → state.store cell = ideal cell

variable {fine}

namespace Accesses

variable {state next : FineState Thread Lock Message Effect Input Value}
  {coarse after : State Thread Lock Message Effect Data} {ideal ideal' : Store Value}
  {thread other : Thread}

theorem Stands.owns {stage : Stage Effect Input Value}
    (stands : fine.Stands state coarse ideal thread (some stage)) :
    ∀ lock ∈ discipline.guards stage.effect, state.owner lock = some thread := by
  cases stands with
  | pending _ _ _ _ owns => exact owns
  | finishing _ _ _ _ owns => exact owns

/-- A thread stands where it stood if nothing of its own has changed. -/
theorem Stands.frame {stage : Option (Stage Effect Input Value)}
    (stands : fine.Stands state coarse ideal thread stage)
    (fineTodo : next.todo thread = state.todo thread)
    (coarseTodo : after.todo thread = coarse.todo thread)
    (owner : ∀ lock, state.owner lock = some thread → next.owner lock = some thread)
    (store : ∀ effect, (∃ input left, stage = some ⟨effect, input, left⟩) →
      Agree (fine.touches thread effect) next.store state.store)
    (whole : ∀ effect, (∃ input left, stage = some ⟨effect, input, left⟩) →
      Agree (fine.touches thread effect) ideal' ideal) :
    fine.Stands next after ideal' thread stage := by
  cases stands with
  | outside same => exact .outside (by rw [coarseTodo, fineTodo, same])
  | pending effect input made left owns split agree todo =>
    have within : Within (fine.touches thread effect) (accessAll made) :=
      .all fun access member => fine.early_within thread effect input access
        (by rw [split]; exact List.mem_append_left _ member)
    refine .pending _ _ made left (fun lock guards => owner lock (owns lock guards)) split ?_
      (by rw [coarseTodo, fineTodo, todo])
    refine (store effect ⟨_, _, rfl⟩).trans (agree.trans (within.reads _ _ fun cell touched => ?_))
    exact (whole effect ⟨_, _, rfl⟩ cell touched).symm
  | finishing effect input done left owns split agree todo =>
    have within : Within (fine.touches thread effect) (accessAll left) :=
      .all fun access member => fine.late_within thread effect input access
        (by rw [split]; exact List.mem_append_right _ member)
    have same := within.reads _ _ (store effect ⟨_, _, rfl⟩)
    refine .finishing _ _ done left (fun lock guards => owner lock (owns lock guards)) split ?_ ?_
    · refine same.trans (agree.trans fun cell touched => ?_)
      exact (whole effect ⟨_, _, rfl⟩ cell touched).symm
    · rw [coarseTodo, fineTodo, todo, fine.next_reads thread effect input _ _ same]

namespace Keeps

/-- Effects done under the locks of two threads touch no cell in common. -/
theorem apart (different : thread ≠ other) {effect rival : Effect}
    (mine : ∀ lock ∈ discipline.guards effect, state.owner lock = some thread)
    (others : ∀ lock ∈ discipline.guards rival, state.owner lock = some other) {cell : Cell}
    (touched : fine.touches thread effect cell) : ¬ fine.touches other rival cell := by
  intro both
  obtain ⟨lock, inMine, inOthers⟩ := fine.guarded _ _ different _ _ cell touched both
  have owned := mine lock inMine
  rw [others lock inOthers] at owned
  exact different (Option.some.inj owned).symm

theorem start (store : Store Value) :
    fine.Keeps (.start store) (.start (fine.view store)) store where
  data := rfl
  queued := rfl
  owner := rfl
  stands _ := .outside rfl
  others _ _ := rfl

/-- A cell that is shared without a lock is never behind. -/
theorem shared (keeps : fine.Keeps state coarse ideal) {cell : Cell}
    (shared : fine.shared cell) : state.store cell = ideal cell :=
  keeps.others cell fun thread stage _ touched =>
    fine.unshared thread stage.effect cell touched shared

/-- A step of one thread outside its effects, which both levels make. -/
theorem outside [DecidableEq Thread] (keeps : fine.Keeps state coarse ideal)
    (free : state.stage thread = none) {todo : List (Op Lock Message Effect)}
    (fineTodo : next.todo = Function.update state.todo thread todo)
    (coarseTodo : after.todo = Function.update coarse.todo thread todo)
    (stage : next.stage = state.stage) (store : next.store = state.store)
    (data : after.data = coarse.data) (queued : after.queued = next.queued)
    (owner : after.owner = next.owner)
    (othersOwn : ∀ other ≠ thread, ∀ lock, state.owner lock = some other →
      next.owner lock = some other) : fine.Keeps next after ideal := by
  refine ⟨data.trans keeps.data, queued, owner, fun who => ?_, fun cell untouched => ?_⟩
  · rw [stage]
    by_cases same : who = thread
    · subst same
      rw [free]
      exact .outside (by rw [fineTodo, coarseTodo, Function.update_self, Function.update_self])
    · refine (keeps.stands who).frame ?_ ?_ (othersOwn who same) (fun _ _ => ?_) fun _ _ _ _ => rfl
      · rw [fineTodo, Function.update_of_ne same]
      · rw [coarseTodo, Function.update_of_ne same]
      · rw [store]
        exact fun _ _ => rfl
  · rw [store]
    rw [stage] at untouched
    exact keeps.others cell untouched

/-- Outside its effects a thread has the same to do at both levels. -/
theorem todo_eq (keeps : fine.Keeps state coarse ideal) (free : state.stage thread = none) :
    coarse.todo thread = state.todo thread := by
  have stands := keeps.stands thread
  rw [free] at stands
  cases stands with
  | outside same => exact same

/-- A thread comes to an effect; at the coarser level nothing happens yet. -/
theorem enter [DecidableEq Thread] (keeps : fine.Keeps state coarse ideal)
    (free : state.stage thread = none) {effect : Effect} {rest : List (Op Lock Message Effect)}
    (atEffect : state.todo thread = .perform effect :: rest)
    (owns : ∀ lock ∈ discipline.guards effect, state.owner lock = some thread) (input : Input) :
    fine.Keeps { state with
      todo := Function.update state.todo thread rest
      stage := Function.update state.stage thread
        (some ⟨effect, input, fine.all thread effect input⟩) } coarse ideal := by
  refine ⟨keeps.data, keeps.queued, keeps.owner, fun who => ?_, fun cell untouched => ?_⟩
  · by_cases mine : who = thread
    · subst mine
      simp only [Function.update_self]
      refine .pending _ _ [] _ owns rfl (fun cell touched => ?_) ?_
      · -- No other thread is in an effect on this cell, for all its locks are here.
        refine keeps.others cell fun rival stage inEffect => ?_
        have different : who ≠ rival := by
          rintro rfl
          rw [free] at inEffect
          cases inEffect
        refine apart different owns ?_ touched
        have stands := keeps.stands rival
        rw [inEffect] at stands
        exact stands.owns
      · simp only [Function.update_self]
        rw [keeps.todo_eq free, atEffect]
    · simp only [Function.update_of_ne mine]
      refine (keeps.stands who).frame ?_ rfl (fun _ owned => owned) (fun _ _ _ _ => rfl)
        fun _ _ _ _ => rfl
      simp only [Function.update_of_ne mine]
  · refine keeps.others cell fun who stage inEffect => untouched who stage ?_
    have mine : who ≠ thread := by
      rintro rfl
      rw [free] at inEffect
      cases inEffect
    simpa only [Function.update_of_ne mine] using inEffect

/-- An access of one thread in its effect. -/
theorem access [DecidableEq Thread] (keeps : fine.Keeps state coarse ideal) {effect : Effect}
    {input : Input} {before left : List (Store Value → Store Value)}
    (inEffect : state.stage thread = some ⟨effect, input, before⟩)
    (store : ∀ cell, ¬ (fine.touches thread effect cell ∨ fine.shared cell) →
      next.store cell = state.store cell)
    (whole : ∀ cell, ¬ (fine.touches thread effect cell ∨ fine.shared cell) →
      ideal' cell = ideal cell)
    (shared : ∀ cell, fine.shared cell → next.store cell = ideal' cell)
    (stage : next.stage = Function.update state.stage thread (some ⟨effect, input, left⟩))
    (todo : next.todo = state.todo) (owner : next.owner = state.owner)
    (coarseTodo : ∀ other ≠ thread, after.todo other = coarse.todo other)
    (data : after.data = fine.view ideal') (queued : after.queued = next.queued)
    (coarseOwner : after.owner = next.owner)
    (mine : fine.Stands next after ideal' thread (some ⟨effect, input, left⟩)) :
    fine.Keeps next after ideal' := by
  have owns : ∀ lock ∈ discipline.guards effect, state.owner lock = some thread := by
    have stands := keeps.stands thread
    rw [inEffect] at stands
    exact stands.owns
  refine ⟨data, queued, coarseOwner, fun who => ?_, fun cell untouched => ?_⟩
  · rw [stage]
    by_cases same : who = thread
    · subst same
      rwa [Function.update_self]
    · rw [Function.update_of_ne same]
      -- What another thread touches in its effect is out of reach here.
      have outside : ∀ rival, (∃ input left, state.stage who = some ⟨rival, input, left⟩) →
          ∀ cell, fine.touches who rival cell →
            ¬ (fine.touches thread effect cell ∨ fine.shared cell) := by
        rintro rival ⟨input, left, inEffect'⟩ cell touched
        have stands := keeps.stands who
        rw [inEffect'] at stands
        rintro (both | shared)
        · exact apart (Ne.symm same) owns stands.owns both touched
        · exact fine.unshared who rival cell touched shared
      refine (keeps.stands who).frame (by rw [todo]) (coarseTodo who same)
        (fun lock owned => by rwa [owner]) (fun rival inEffect' cell touched => ?_)
        fun rival inEffect' cell touched => ?_
      · exact store cell (outside rival inEffect' cell touched)
      · exact whole cell (outside rival inEffect' cell touched)
  · by_cases isShared : fine.shared cell
    · exact shared cell isShared
    have free : ¬ fine.touches thread effect cell :=
      untouched thread ⟨effect, input, left⟩ (by rw [stage, Function.update_self])
    have neither : ¬ (fine.touches thread effect cell ∨ fine.shared cell) :=
      not_or.mpr ⟨free, isShared⟩
    rw [store cell neither, whole cell neither]
    refine keeps.others cell fun who stage' inEffect' => ?_
    by_cases same : who = thread
    · subst same
      cases inEffect.symm.trans inEffect'
      exact free
    · exact untouched who stage' (by rw [stage, Function.update_of_ne same, inEffect'])

/-- A thread has made all accesses of its effect, and goes on with what comes next. -/
theorem leave [DecidableEq Thread] (keeps : fine.Keeps state coarse ideal) {effect : Effect}
    {input : Input} (inEffect : state.stage thread = some ⟨effect, input, []⟩) :
    fine.Keeps { state with
      todo := Function.update state.todo thread
        (fine.next thread effect input state.store ++ state.todo thread)
      stage := Function.update state.stage thread none } coarse ideal := by
  obtain ⟨agree, same⟩ : Agree (fine.touches thread effect) state.store ideal ∧
      coarse.todo thread =
        fine.next thread effect input state.store ++ state.todo thread := by
    have stands := keeps.stands thread
    rw [inEffect] at stands
    generalize left : ([] : List (Store Value → Store Value)) = none at stands
    cases stands with
    | pending =>
      exact absurd left.symm (List.append_ne_nil_of_right_ne_nil _ (List.cons_ne_nil _ _))
    | finishing _ _ _ _ owns split agree todo =>
      subst left
      exact ⟨agree, todo⟩
  refine ⟨keeps.data, keeps.queued, keeps.owner, fun who => ?_, fun cell untouched => ?_⟩
  · by_cases mine : who = thread
    · subst mine
      simp only [Function.update_self]
      exact .outside (by simp only [Function.update_self]; exact same)
    · simp only [Function.update_of_ne mine]
      refine (keeps.stands who).frame ?_ rfl (fun _ owned => owned) (fun _ _ _ _ => rfl)
        fun _ _ _ _ => rfl
      simp only [Function.update_of_ne mine]
  · by_cases touched : fine.touches thread effect cell
    · exact agree cell touched
    refine keeps.others cell fun who stage inEffect' => ?_
    by_cases mine : who = thread
    · subst mine
      cases inEffect.symm.trans inEffect'
      exact touched
    · exact untouched who stage (by simpa only [Function.update_of_ne mine] using inEffect')

end Keeps

variable (fine) in
/-- The next access of a thread is an early one, the commit, or a late one. -/
inductive NextAccess (state : FineState Thread Lock Message Effect Input Value)
    (coarse : State Thread Lock Message Effect Data) (ideal : Store Value) (thread : Thread)
    (effect : Effect) (input : Input) : (Store Value → Store Value) →
      List (Store Value → Store Value) → Prop
  | early {made rest : List (Store Value → Store Value)} {access : Store Value → Store Value}
      (split : fine.early thread effect input = made ++ access :: rest)
      (agree : Agree (fine.touches thread effect) state.store (accessAll made ideal))
      (todo : coarse.todo thread = .perform effect :: state.todo thread) :
      NextAccess state coarse ideal thread effect input access
        (rest ++ fine.commit thread effect input :: fine.late thread effect input)
  | commit (agree : Agree (fine.touches thread effect) state.store
        (accessAll (fine.early thread effect input) ideal))
      (todo : coarse.todo thread = .perform effect :: state.todo thread) :
      NextAccess state coarse ideal thread effect input (fine.commit thread effect input)
        (fine.late thread effect input)
  | late {done left : List (Store Value → Store Value)} {access : Store Value → Store Value}
      (split : fine.late thread effect input = done ++ access :: left)
      (agree : Agree (fine.touches thread effect) (accessAll left (access state.store)) ideal)
      (todo : coarse.todo thread =
        fine.next thread effect input (accessAll left (access state.store)) ++
          state.todo thread) :
      NextAccess state coarse ideal thread effect input access left

theorem Stands.nextAccess {effect : Effect} {input : Input} {access : Store Value → Store Value}
    {left : List (Store Value → Store Value)}
    (stands : fine.Stands state coarse ideal thread (some ⟨effect, input, access :: left⟩)) :
    NextAccess fine state coarse ideal thread effect input access left := by
  generalize whole : access :: left = accesses at stands
  cases stands with
  | pending _ _ made rest owns split agree todo =>
    cases rest with
    | nil =>
      obtain ⟨rfl, rfl⟩ := List.cons.inj whole
      rw [List.append_nil] at split
      exact .commit (by rwa [split]) todo
    | cons first rest =>
      obtain ⟨rfl, rfl⟩ := List.cons.inj whole
      exact .early split agree todo
  | finishing _ _ _ _ owns split agree todo =>
    subst whole
    exact .late split agree todo

/-- An early or a late access, which is nothing at the coarser level. -/
theorem Keeps.quiet [DecidableEq Thread] (keeps : fine.Keeps state coarse ideal) {effect : Effect}
    {input : Input} {access : Store Value → Store Value}
    {before left : List (Store Value → Store Value)}
    (inEffect : state.stage thread = some ⟨effect, input, before⟩)
    (within : Within (fine.touches thread effect) access)
    (mine : fine.Stands { state with
      store := access state.store
      stage := Function.update state.stage thread (some ⟨effect, input, left⟩) } coarse ideal
        thread (some ⟨effect, input, left⟩)) :
    fine.Keeps { state with
      store := access state.store
      stage := Function.update state.stage thread (some ⟨effect, input, left⟩) } coarse ideal := by
  refine keeps.access inEffect (fun cell free => ?_) (fun _ _ => rfl) (fun cell shared => ?_) rfl
    rfl rfl (fun _ _ => rfl) keeps.data keeps.queued keeps.owner mine
  · exact within.frame _ cell fun touched => free (.inl touched)
  · refine (within.frame _ cell fun touched => ?_).trans (keeps.shared shared)
    exact fine.unshared thread effect cell touched shared

/-- The commit, which is the whole effect at the coarser level. -/
theorem Keeps.committed [DecidableEq Thread] [DecidableEq Lock]
    (keeps : fine.Keeps state coarse ideal) {effect : Effect} {input : Input}
    {before : List (Store Value → Store Value)}
    (inEffect : state.stage thread = some ⟨effect, input, before⟩)
    (agree : Agree (fine.touches thread effect) state.store
      (accessAll (fine.early thread effect input) ideal))
    (todo : coarse.todo thread = .perform effect :: state.todo thread) :
    ∃ after ideal', program.machine.step coarse (.run thread input) = some (after, []) ∧
      fine.Keeps { state with
        store := fine.commit thread effect input state.store
        stage := Function.update state.stage thread
          (some ⟨effect, input, fine.late thread effect input⟩) } after ideal' := by
  have owns : ∀ lock ∈ discipline.guards effect, state.owner lock = some thread := by
    have stands := keeps.stands thread
    rw [inEffect] at stands
    exact stands.owns
  have first : Within (fine.touches thread effect) (accessAll (fine.early thread effect input)) :=
    .all (fine.early_within thread effect input)
  have middle := fine.commit_within thread effect input
  have last : Within (fine.touches thread effect) (accessAll (fine.late thread effect input)) :=
    .all (fine.late_within thread effect input)
  have data := fine.view_all thread effect input ideal
  have next := fine.next_all thread effect input ideal
  rw [accessAll_append] at data next
  change fine.view (accessAll _ (fine.commit thread effect input _)) = _ at data
  change fine.next thread effect input (accessAll _ (fine.commit thread effect input _)) = _ at next
  -- What is shared without a lock is up to date, for the early accesses leave it alone.
  have whole : Agree (fun cell => fine.touches thread effect cell ∨ fine.shared cell) state.store
      (accessAll (fine.early thread effect input) ideal) := by
    rintro cell (touched | shared)
    · exact agree cell touched
    · rw [keeps.shared shared,
        first.frame _ cell fun touched => fine.unshared thread effect cell touched shared]
  have made := middle.reads _ _ whole
  have ended := last.reads _ _ fun cell touched => made cell (.inl touched)
  have stepped : program.machine.step coarse (.run thread input) = some ({ coarse with
      data := (program.apply effect input coarse.data).1
      todo := Function.update coarse.todo thread
        ((program.apply effect input coarse.data).2 ++ state.todo thread) }, []) := by
    simp only [Program.machine, todo]
  refine ⟨_, _, stepped, keeps.access inEffect (middle.frame _) (fun cell free => ?_)
    (fun cell shared => ?_) rfl rfl rfl (fun other different => ?_) ?_ keeps.queued keeps.owner
    (.finishing _ _ [] _ owns rfl ended ?_)⟩
  · rw [last.frame _ cell fun touched => free (.inl touched), middle.frame _ cell free,
      first.frame _ cell fun touched => free (.inl touched)]
  · rw [last.frame _ cell fun touched => fine.unshared thread effect cell touched shared]
    exact made cell (.inr shared)
  · exact Function.update_of_ne different _ _
  · rw [data, keeps.data]
  · simp only [Function.update_self]
    rw [fine.next_reads thread effect input _ _ ended, next, keeps.data]

/-- Every step of the finer threads is a step of the coarser ones or none. -/
theorem Keeps.step [DecidableEq Thread] [DecidableEq Lock] {bound : Nat} {left : Thread → Nat}
    (keeps : fine.Keeps state coarse ideal)
    (ordered : Ordered program discipline bound coarse left) {action : Action Thread Input}
    {emitted : List (Thread × Message)}
    (stepped : fine.machine.step state action = some (next, emitted)) :
    ∃ actions after ideal', program.machine.run coarse actions = some (after, emitted) ∧
      fine.Keeps next after ideal' := by
  -- A step that both levels make.
  have both : ∀ {after : State Thread Lock Message Effect Data} {ideal'},
      program.machine.step coarse action = some (after, emitted) → fine.Keeps next after ideal' →
      ∃ actions after ideal', program.machine.run coarse actions = some (after, emitted) ∧
        fine.Keeps next after ideal' := fun stepped keeps =>
    ⟨[action], _, _, (program.machine.run_singleton _ _).trans stepped, keeps⟩
  cases action with
  | receive =>
    simp only [machine] at stepped
    split at stepped
    next some' =>
      cases stepped
      have taken : program.machine.step coarse .receive =
          some ({ coarse with queued := coarse.queued - 1 }, []) := by
        simp only [Program.machine, keeps.queued, if_pos some']
      refine both taken ⟨keeps.data, ?_, keeps.owner, fun thread => ?_, keeps.others⟩
      · exact congrArg (· - 1) keeps.queued
      exact (keeps.stands thread).frame rfl rfl (fun _ owned => owned) (fun _ _ _ _ => rfl)
        fun _ _ _ _ => rfl
    · cases stepped
  | run thread input =>
    simp only [machine] at stepped
    split at stepped
    next effect given access rest inEffect =>
      cases stepped
      have stands := keeps.stands thread
      rw [inEffect] at stands
      have owns := stands.owns
      cases stands.nextAccess with
      | @early made rest _ split agree todo =>
        have within := fine.early_within thread effect given access
          (by rw [split]; exact List.mem_append_right _ List.mem_cons_self)
        refine ⟨[], coarse, ideal, rfl, keeps.quiet inEffect within (.pending _ _
          (made ++ [access]) rest owns (by rw [split, List.append_assoc]; rfl) ?_ todo)⟩
        rw [accessAll_append]
        exact within.reads _ _ agree
      | commit agree todo =>
        obtain ⟨after, ideal', stepped, keeps⟩ := keeps.committed inEffect agree todo
        exact ⟨[.run thread given], after, ideal',
          (program.machine.run_singleton _ _).trans stepped, keeps⟩
      | @late done _ _ split agree todo =>
        have within := fine.late_within thread effect given access
          (by rw [split]; exact List.mem_append_right _ List.mem_cons_self)
        exact ⟨[], coarse, ideal, rfl, keeps.quiet inEffect within (.finishing _ _
          (done ++ [access]) rest owns (by rw [split, List.append_assoc]; rfl) agree todo)⟩
    next effect given inEffect =>
      cases stepped
      exact ⟨[], coarse, ideal, rfl, keeps.leave inEffect⟩
    next free =>
      have same := keeps.todo_eq free
      split at stepped
      next idle =>
        cases stepped
        have begun : program.machine.step coarse (.run thread input) = some ({ coarse with
            todo := Function.update coarse.todo thread (program.round thread) }, []) := by
          simp only [Program.machine, same, idle]
        exact both begun (keeps.outside free rfl rfl rfl rfl rfl keeps.queued keeps.owner
          fun _ _ _ owned => owned)
      next lock rest atAcquire =>
        split at stepped
        next unowned =>
          cases stepped
          have taken : program.machine.step coarse (.run thread input) = some ({ coarse with
              owner := Function.update coarse.owner lock (some thread)
              todo := Function.update coarse.todo thread rest }, []) := by
            simp only [Program.machine, same, atAcquire, keeps.owner, if_pos unowned]
          refine both taken (keeps.outside free rfl rfl rfl rfl rfl keeps.queued
            (by rw [keeps.owner]) fun other different mine owned => ?_)
          have distinct : mine ≠ lock := by
            rintro rfl
            rw [unowned] at owned
            cases owned
          exact (Function.update_of_ne distinct _ _).trans owned
        · cases stepped
      next lock rest atRelease =>
        cases stepped
        have mine := ordered.owner_of_release (same.trans atRelease)
        rw [keeps.owner] at mine
        have given : program.machine.step coarse (.run thread input) = some ({ coarse with
            owner := Function.update coarse.owner lock none
            todo := Function.update coarse.todo thread rest }, []) := by
          simp only [Program.machine, same, atRelease]
        refine both given (keeps.outside free rfl rfl rfl rfl rfl keeps.queued
          (by rw [keeps.owner]) fun other different which owned => ?_)
        have distinct : which ≠ lock := by
          rintro rfl
          rw [mine] at owned
          exact different (Option.some.inj owned).symm
        exact (Function.update_of_ne distinct _ _).trans owned
      next message rest atSend =>
        split at stepped
        next room =>
          cases stepped
          have sent : program.machine.step coarse (.run thread input) = some ({ coarse with
              queued := coarse.queued + 1
              todo := Function.update coarse.todo thread rest }, [(thread, message)]) := by
            simp only [Program.machine, same, atSend, keeps.queued, if_pos room]
          exact both sent (keeps.outside free rfl rfl rfl rfl rfl (congrArg (· + 1) keeps.queued)
            keeps.owner fun _ _ _ owned => owned)
        · cases stepped
      next effect rest atEffect =>
        cases stepped
        refine ⟨[], coarse, ideal, rfl, keeps.enter free atEffect (fun lock guards => ?_) input⟩
        rw [← keeps.owner]
        exact ordered.owner_of_perform (same.trans atEffect) guards

end Accesses

/-- Every run of single accesses is a run of whole effects: with the same messages in the same
order, and in a state that differs only in the effects the threads are just in. -/
theorem keeps_of_run [DecidableEq Thread] [DecidableEq Lock] {bound : Nat}
    (rounds : ∀ thread, Ascends program discipline bound [] (program.round thread))
    {store : Store Value} {actions : List (Action Thread Input)}
    {state : FineState Thread Lock Message Effect Input Value} {events : List (Thread × Message)}
    (ran : fine.machine.run (.start store) actions = some (state, events)) :
    ∃ whole coarse ideal, program.machine.run (.start (fine.view store)) whole =
        some (coarse, events) ∧ fine.Keeps state coarse ideal := by
  refine fine.machine.run_invariant
    (fun state events => ∃ whole coarse ideal,
      program.machine.run (.start (fine.view store)) whole = some (coarse, events) ∧
        fine.Keeps state coarse ideal) ⟨[], _, store, rfl, .start store⟩ ?_ ran
  rintro state events action next emitted ⟨whole, coarse, ideal, ran, keeps⟩ stepped
  obtain ⟨_, ordered⟩ := exists_ordered_of_run rounds ran
  obtain ⟨more, after, ideal', goesOn, keeps⟩ := keeps.step ordered stepped
  exact ⟨whole ++ more, after, ideal',
    program.machine.run_append_eq_some.mpr ⟨coarse, _, _, ran, goesOn, rfl⟩, keeps⟩

/-- A thread that is not interrupted makes all the accesses it has left. -/
theorem Accesses.run_left [DecidableEq Thread] [DecidableEq Lock] {thread : Thread}
    {effect : Effect} {given : Input} (input : Input) (left : List (Store Value → Store Value))
    (state : FineState Thread Lock Message Effect Input Value)
    (inEffect : state.stage thread = some ⟨effect, given, left⟩) :
    fine.machine.run state (List.replicate left.length (.run thread input)) =
      some ({ state with
        store := accessAll left state.store
        stage := Function.update state.stage thread (some ⟨effect, given, []⟩) }, []) := by
  induction left generalizing state with
  | nil =>
    have same := Function.update_eq_self thread state.stage
    rw [inEffect] at same
    rw [same]
    rfl
  | cons access rest inductionHypothesis =>
    refine fine.machine.run_cons_eq_some.mpr ⟨{ state with
      store := access state.store
      stage := Function.update state.stage thread (some ⟨effect, given, rest⟩) }, [], [], ?_, ?_,
      rfl⟩
    · simp only [Accesses.machine, inEffect]
    · rw [inductionHypothesis _ (Function.update_self ..), Function.update_idem]
      rfl

/-- A thread that is not interrupted makes the whole effect it has come to. -/
theorem Accesses.run_effect [DecidableEq Thread] [DecidableEq Lock] {thread : Thread}
    {effect : Effect} {rest : List (Op Lock Message Effect)} (input : Input)
    (state : FineState Thread Lock Message Effect Input Value)
    (outside : state.stage thread = none) (atEffect : state.todo thread = .perform effect :: rest) :
    ∃ count, fine.machine.run state (List.replicate count (.run thread input)) =
      some ({ state with
        store := accessAll (fine.all thread effect input) state.store
        todo := Function.update state.todo thread
          (fine.next thread effect input (accessAll (fine.all thread effect input) state.store) ++
            rest) }, []) := by
  have none := Function.update_eq_self thread state.stage
  rw [outside] at none
  refine ⟨(fine.all thread effect input).length + 1 + 1, ?_⟩
  rw [List.replicate_succ, List.replicate_succ']
  refine fine.machine.run_cons_eq_some.mpr ⟨{ state with
    todo := Function.update state.todo thread rest
    stage := Function.update state.stage thread
      (some ⟨effect, input, fine.all thread effect input⟩) }, [], [], ?_, ?_, rfl⟩
  · simp only [Accesses.machine, outside, atEffect]
  refine fine.machine.run_snoc_eq_some.mpr ⟨_, [], [],
    fine.run_left input _ _ (Function.update_self ..), ?_, rfl⟩
  simp only [Accesses.machine, Function.update_self, Function.update_idem, none]

/-- Every run of whole effects is a run of single accesses, in which no thread is interrupted in an
effect: the same actions, each repeated as often as it takes. -/
theorem exists_run_of_whole [DecidableEq Thread] [DecidableEq Lock] {store : Store Value}
    {whole : List (Action Thread Input)} {coarse : State Thread Lock Message Effect Data}
    {events : List (Thread × Message)}
    (ran : program.machine.run (.start (fine.view store)) whole = some (coarse, events)) :
    ∃ actions ideal, fine.machine.run (.start store) actions =
        some (⟨ideal, coarse.queued, coarse.owner, coarse.todo, fun _ => none⟩, events) ∧
      fine.view ideal = coarse.data ∧ ∀ action ∈ actions, action ∈ whole := by
  refine program.machine.run_induction (fun whole coarse events => ∃ actions ideal,
    fine.machine.run (.start store) actions =
        some (⟨ideal, coarse.queued, coarse.owner, coarse.todo, fun _ => none⟩, events) ∧
      fine.view ideal = coarse.data ∧ ∀ action ∈ actions, action ∈ whole)
    ⟨[], store, rfl, rfl, nofun⟩ ?_ ran
  rintro whole coarse events action next emitted - ⟨actions, ideal, ran, data, among⟩ stepped
  have goesOn : ∀ {more ideal'}, fine.machine.run
        ⟨ideal, coarse.queued, coarse.owner, coarse.todo, fun _ => none⟩ more =
          some (⟨ideal', next.queued, next.owner, next.todo, fun _ => none⟩, emitted) →
      fine.view ideal' = next.data → (∀ other ∈ more, other = action) →
      ∃ actions ideal, fine.machine.run (.start store) actions =
          some (⟨ideal, next.queued, next.owner, next.todo, fun _ => none⟩, events ++ emitted) ∧
        fine.view ideal = next.data ∧ ∀ other ∈ actions, other ∈ whole ++ [action] := by
    intro more ideal' runs shows same
    refine ⟨actions ++ more, ideal',
      fine.machine.run_append_eq_some.mpr ⟨_, _, _, ran, runs, rfl⟩, shows, ?_⟩
    intro other member
    rcases List.mem_append.mp member with member | member
    · exact List.mem_append_left _ (among other member)
    · rw [same other member]
      exact List.mem_append_right _ List.mem_cons_self
  -- Everything but an effect is one step at both levels.
  have once : fine.machine.step ⟨ideal, coarse.queued, coarse.owner, coarse.todo, fun _ => none⟩
        action = some (⟨ideal, next.queued, next.owner, next.todo, fun _ => none⟩, emitted) →
      next.data = coarse.data →
      ∃ actions ideal, fine.machine.run (.start store) actions =
          some (⟨ideal, next.queued, next.owner, next.todo, fun _ => none⟩, events ++ emitted) ∧
        fine.view ideal = next.data ∧ ∀ other ∈ actions, other ∈ whole ++ [action] :=
    fun stepped same => goesOn ((fine.machine.run_singleton _ _).trans stepped)
      (data.trans same.symm) fun _ => List.mem_singleton.mp
  cases does_of_step stepped with
  | begins idle =>
    refine once ?_ rfl
    simp only [Accesses.machine, idle]
  | acquires atAcquire free =>
    refine once ?_ rfl
    simp only [Accesses.machine, atAcquire, if_pos free]
  | releases atRelease =>
    refine once ?_ rfl
    simp only [Accesses.machine, atRelease]
  | sends atSend room =>
    refine once ?_ rfl
    simp only [Accesses.machine, atSend, if_pos room]
  | receives some =>
    refine once ?_ rfl
    simp only [Accesses.machine, if_pos some]
  | @performs thread input effect rest atEffect =>
    obtain ⟨count, runs⟩ := fine.run_effect input
      ⟨ideal, coarse.queued, coarse.owner, coarse.todo, fun _ => none⟩ rfl atEffect
    have view := fine.view_all thread effect input ideal
    have next := fine.next_all thread effect input ideal
    rw [data] at view next
    refine goesOn (runs.trans ?_) view fun _ member => (List.mem_replicate.mp member).2
    rw [← next]
    rfl

/-- While a lock is free, a part of the data that no effect touches without it is what whole
effects make it. -/
theorem Accesses.Keeps.part_eq {state : FineState Thread Lock Message Effect Input Value}
    {coarse : State Thread Lock Message Effect Data} {ideal : Store Value}
    (keeps : fine.Keeps state coarse ideal) {lock : Lock} (free : state.owner lock = none)
    (cells : Cell → Prop) {Part : Type} (part : Data → Part)
    (shows : ∀ first second, Agree cells first second →
      part (fine.view first) = part (fine.view second))
    (guarded : ∀ thread effect cell, cells cell → fine.touches thread effect cell →
      lock ∈ discipline.guards effect) : part (fine.view state.store) = part coarse.data := by
  rw [keeps.data]
  refine shows _ _ fun cell inside => keeps.others cell fun thread stage inEffect touched => ?_
  have stands := keeps.stands thread
  rw [inEffect] at stands
  have owned := stands.owns lock (guarded thread stage.effect cell inside touched)
  rw [free] at owned
  cases owned

end LockedThreads
