/-
This file shows how the processes come to an end.

A thread that finds `g_shutdown` set at the head of its loop ends, and a `main` function that has
joined its threads returns. So once every process is told to stop, little work is left, and the
threads never keep each other from doing it: all is over or somebody can go on. Of the failing calls
and the signals modelled one alone can stop them. A comms process that cannot start its second
thread exits at once, and if its first is printing the status then, the bus semaphore is never
posted again.
-/

import Fdir.Processes

namespace Fdir

open CMemory LockedThreads

/-! ### A semaphore nobody will post -/

/-- The uplink's effects are not on the bus. -/
theorem not_onBus_of_uplink {effect : MissionEffect} (mine : effect.thread = .uplink) :
    ¬ effect.OnBus := by
  cases effect with
  | readCommand | setUplinkActive | storeCommand => simp [MissionEffect.OnBus, MissionEffect.guards]
  | _ => cases mine

/-- The comms process has failed while its uplink had the semaphore. -/
structure Processes.Stranded (state : Processes) : Prop where
  failed : (state.process .comms).exited = some .failure
  owns : state.threads.owner .gSem = some .uplink

namespace Processes

variable {state next : Processes} {who other : Sender} {thread : MissionThread}

theorem exited_setProcess {process : Process} {status : ExitStatus}
    (alive : (state.process who).exited = none)
    (exited : (state.process other).exited = some status) :
    ((state.setProcess who process).process other).exited = some status := by
  rwa [process_setProcess_of_ne]
  rintro rfl
  rw [alive] at exited
  cases exited

/-- A process that has exited stays so. -/
theorem exited_of_step {status : ExitStatus} {action : ProcessesAction}
    {events : List (MissionThread × Fault)}
    (exited : (state.process other).exited = some status)
    (stepped : processes.step state action = some (next, events)) :
    (next.process other).exited = some status := by
  cases does_of_step stepped with
  | returns alive | fails alive | handles alive | dies alive =>
    exact exited_setProcess alive exited
  | executes alive => exact exited_setProcess alive exited
  | ends | runs | interrupted | receives => exact exited

/-- A thread that runs in a process that has exited is one the process could not join. -/
theorem Sound.failed (sound : state.Sound) (running : state.stage thread = .running)
    (gone : state.hosts thread = false) : ∃ who done, thread.sender = some who ∧
      (state.process who).exited = some .failure ∧ state.Came who done ∧
        .create thread ∈ done := by
  unfold hosts at gone
  split at gone
  · cases gone
  next who mine =>
    obtain ⟨done, came⟩ := sound.came who
    have created : .create thread ∈ done :=
      (came.created thread mine).mp (by rw [running]; decide)
    refine ⟨who, done, mine, ?_, came, created⟩
    cases status : (state.process who).exited with
    | none => rw [status] at gone; cases gone
    | some status' =>
      cases status' with
      | failure => rfl
      | success =>
        have joined := came.joined thread ((came.place.after (came.success status)).2 thread mine)
        rw [running] at joined
        cases joined
      | killed =>
        rw [came.killed status] at created
        cases created

end Processes

section Stranding

variable {earlier later : List ProcessesAction} {state last : Processes}
  {events laterEvents : List (MissionThread × Fault)}

/-- The invariant of the locks holds of the processes. -/
theorem exists_ordered_of_processes (ran : processes.run .start earlier = some (state, events)) :
    ∃ left, Ordered mission missionOrder iterationBound state.threads left := by
  obtain ⟨requests, went⟩ := processes_refine earlier state events ran
  obtain ⟨left, ordered⟩ := exists_ordered_of_run ascends_missionRound went
  exact ⟨left, ordered.ascends, ordered.left_le, ordered.queued_le⟩

/-- The owner of a lock runs. -/
theorem running_of_owner (ran : processes.run .start earlier = some (state, events))
    {lock : SharedLock} {thread : MissionThread} (owned : state.threads.owner lock = some thread) :
    state.stage thread = .running := by
  obtain ⟨left, ordered⟩ := exists_ordered_of_processes ran
  by_contra stays
  exact ordered.owner_busy owned ((Processes.sound_of_run ran).idle thread stays)

/-- A thread that is gone with its process has the semaphore only if it is the uplink. -/
theorem stranded_of_owner (ran : processes.run .start earlier = some (state, events))
    {thread : MissionThread} (owned : state.threads.owner .gSem = some thread)
    (gone : state.hosts thread = false) : thread = .uplink ∧ state.Stranded := by
  obtain ⟨requests, went⟩ := processes_refine earlier state events ran
  obtain ⟨who, done, mine, failed, came, created⟩ :=
    (Processes.sound_of_run ran).failed (running_of_owner ran owned) gone
  have uses : .gSem ∈ thread.locks := mem_locks_of_run went owned
  obtain rfl := came.place.failing (came.failure failed) thread created uses
  cases mine
  exact ⟨rfl, failed, owned⟩

/-- What is stranded stays so, and the bus as it is. -/
theorem Processes.Stranded.step (stranded : state.Stranded)
    (ran : processes.run .start earlier = some (state, events)) {action : ProcessesAction}
    {next : Processes} {emitted : List (MissionThread × Fault)}
    (stepped : processes.step state action = some (next, emitted)) :
    next.Stranded ∧ next.threads.data.bus = state.threads.data.bus := by
  obtain ⟨left, ordered⟩ := exists_ordered_of_processes ran
  have failed := exited_of_step stranded.failed stepped
  have owns := stranded.owns
  cases does_of_step stepped with
  | returns | fails | handles | dies | ends | interrupted => exact ⟨⟨failed, owns⟩, rfl⟩
  | @executes who statement rest =>
    refine ⟨⟨failed, owns⟩, ?_⟩
    change (if statement = .initData then who.initData state.threads.data
      else state.threads.data).bus = state.threads.data.bus
    split
    · cases who <;> rfl
    · rfl
  | receives inner =>
    cases LockedThreads.does_of_step inner
    exact ⟨⟨failed, owns⟩, rfl⟩
  | @runs thread input threads _ running hosted goesOn inner =>
    have different : thread ≠ .uplink := by
      rintro rfl
      have gone : (state.process .comms).exited.isNone = true := hosted
      rw [stranded.failed] at gone
      cases gone
    cases LockedThreads.does_of_step inner with
    | begins | sends => exact ⟨⟨failed, owns⟩, rfl⟩
    | @acquires _ _ lock _ _ free =>
      refine ⟨⟨failed, ?_⟩, rfl⟩
      refine (Function.update_of_ne ?_ _ _).trans owns
      rintro rfl
      rw [owns] at free
      cases free
    | @releases _ _ lock _ atRelease =>
      refine ⟨⟨failed, ?_⟩, rfl⟩
      refine (Function.update_of_ne ?_ _ _).trans owns
      rintro rfl
      have mine := ordered.owner_of_release atRelease
      rw [owns] at mine
      exact different (Option.some.inj mine).symm
    | @performs _ _ effect _ atEffect =>
      refine ⟨⟨failed, owns⟩, bus_missionEffect (fun onBus => ?_) _ _⟩
      have mine := ordered.owner_of_perform atEffect onBus
      rw [owns] at mine
      exact different (Option.some.inj mine).symm

/-- The failing calls of the three `main` functions, SIGUSR1, SIGUSR2 and SIGTERM to their processes
and SIGINT to the OBC end a process while one of its threads has the bus semaphore in one case only:
the comms process cannot start its second thread, and the thread is the uplink. Then, in every
continuation, the semaphore is never posted, the bus keeps its contents, and no thread comes to it
any more: no bus writer, and not the watchdog with a sample. -/
theorem processes_strand (earlier later : List ProcessesAction) (state last : Processes)
    (events laterEvents : List (MissionThread × Fault)) (thread : MissionThread)
    (ran : processes.run .start earlier = some (state, events))
    (owned : state.threads.owner .gSem = some thread) (gone : state.hosts thread = false)
    (goesOn : processes.run state later = some (last, laterEvents)) :
    thread = .uplink ∧ (state.process .comms).exited = some .failure ∧
      last.threads.owner .gSem = some .uplink ∧
      last.threads.data.bus = state.threads.data.bus ∧
      ∀ other effect rest, last.threads.todo other = .perform effect :: rest →
        ¬ effect.OnBus := by
  obtain ⟨isUplink, stranded⟩ := stranded_of_owner ran owned gone
  have kept : last.Stranded ∧ last.threads.data.bus = state.threads.data.bus := by
    refine processes.run_induction (fun _ last _ =>
      last.Stranded ∧ last.threads.data.bus = state.threads.data.bus) ⟨stranded, rfl⟩ ?_ goesOn
    rintro actions middle _ action next emitted went ⟨held, same⟩ stepped
    have whole := processes.run_append_eq_some.mpr ⟨state, _, _, ran, went, rfl⟩
    obtain ⟨held, again⟩ := held.step whole stepped
    exact ⟨held, again.trans same⟩
  have whole := processes.run_append_eq_some.mpr ⟨state, _, _, ran, goesOn, rfl⟩
  obtain ⟨left, ordered⟩ := exists_ordered_of_processes whole
  obtain ⟨requests, went⟩ := processes_refine _ last _ whole
  refine ⟨isUplink, stranded.failed, kept.1.owns, kept.2, ?_⟩
  intro other effect rest atEffect onBus
  have mine := ordered.owner_of_perform atEffect onBus
  rw [kept.1.owns] at mine
  cases mine
  have own := comes_of_run went .uplink
  change Comes .uplink (last.threads.todo .uplink) at own
  rw [atEffect] at own
  exact not_onBus_of_uplink own.1 onBus

end Stranding

def statusRequested : MissionInput := ⟨fun _ => 0, false, .data cmdStatus.bytes (by decide)⟩

/-- The uplink is printing the status when the downlink cannot be started. -/
def strandedUplink : List ProcessesAction :=
  List.replicate 7 (.main .comms) ++ List.replicate 6 (.thread .uplink statusRequested) ++
    [.fails .comms]

/-- The watchdog comes to the semaphore. -/
theorem processes_strand_strandedUplink :
    ∃ state last events laterEvents,
      processes.run .start strandedUplink = some (state, events) ∧
      processes.run state [.thread .watchdog sevens] = some (last, laterEvents) ∧
      last.threads.owner .gSem = some .uplink ∧
      last.threads.data.bus = state.threads.data.bus ∧
      ∀ other effect rest, last.threads.todo other = .perform effect :: rest →
        ¬ effect.OnBus := by
  have reached : (processes.run .start strandedUplink).any (fun reached =>
      reached.1.threads.owner .gSem = some .uplink && !reached.1.hosts .uplink &&
        (processes.run reached.1 [.thread .watchdog sevens]).isSome) = true := by
    decide +kernel
  obtain ⟨⟨state, events⟩, ran, stranded⟩ := (Option.any_eq_true _ _).mp reached
  simp only [Bool.and_eq_true, decide_eq_true_eq, Bool.not_eq_true'] at stranded
  obtain ⟨⟨last, laterEvents⟩, goesOn⟩ := Option.isSome_iff_exists.mp stranded.2
  exact ⟨state, last, events, laterEvents, ran, goesOn,
    (processes_strand strandedUplink [.thread .watchdog sevens] state last events laterEvents
      .uplink ran stranded.1.1 stranded.1.2 goesOn).2.2⟩

/-! ### Coming to the end -/

/-- Every process that has not exited, and the OBC, has been told to stop. -/
structure Processes.Told (state : Processes) : Prop where
  obc : state.obc.gShutdown = true
  process : ∀ who, (state.process who).exited = none →
    (state.process who).flags.gShutdown = true

/-- A statement of a `main` function, or what a thread does. -/
def ProcessesAction.isWork : ProcessesAction → Bool
  | main _ | fails _ | thread _ _ => true
  | signal _ _ | interrupt | receive => false

/-- How much work some actions are. -/
def work (actions : List ProcessesAction) : Nat := actions.countP ProcessesAction.isWork

namespace Processes

variable (state : Processes)

/-- Some `main` function or some thread can go on. -/
def CanWork : Prop :=
  (∃ who, (processes.step state (.main who)).isSome) ∨
    ∃ thread, ∀ input, (processes.step state (.thread thread input)).isSome

/-- All processes have exited, the OBC has left its loop, and the semaphore is free. -/
structure Over : Prop where
  exited : ∀ who, (state.process who).exited.isSome
  watchdog : state.stage .watchdog = .ended
  free : state.threads.owner .gSem = none

/-- The most statements a `main` function has left. -/
def mainLeft (who : Sender) : Nat :=
  if (state.process who).exited = none then (state.process who).todo.length + 1 else 0

/-- One if the thread has yet to end. -/
def endLeft (thread : MissionThread) : Nat := if state.stage thread = .ended then 0 else 1

end Processes

instance : Fintype Sender where
  elems := {.power, .thermal, .comms}
  complete who := by cases who <;> decide

/-- The most work that is left, when each thread has so many operations left. -/
def Processes.left (state : Processes) (operations : MissionThread → Nat) : Nat :=
  ∑ thread, operations thread + ∑ thread, state.endLeft thread + ∑ who, state.mainLeft who

namespace Processes

variable {state next : Processes}

/-- What one process has left less, the processes together have. -/
theorem sum_mainLeft_lt (who : Sender) (less : next.mainLeft who < state.mainLeft who)
    (others : ∀ other ≠ who, next.process other = state.process other) :
    ∑ other, next.mainLeft other < ∑ other, state.mainLeft other := by
  refine Finset.sum_lt_sum (fun other _ => ?_) ⟨who, Finset.mem_univ who, less⟩
  by_cases same : other = who
  · rw [same]
    exact less.le
  · rw [mainLeft, others other same, mainLeft]

theorem left_exit_lt (operations : MissionThread → Nat) {who : Sender} {status : ExitStatus}
    (alive : (state.process who).exited = none) :
    (state.exit who status).left operations < state.left operations := by
  refine Nat.add_lt_add_left (sum_mainLeft_lt who ?_ fun other different =>
    process_setProcess_of_ne different _) _
  rw [mainLeft, process_setProcess_self, if_neg (by simp), mainLeft, if_pos alive]
  exact Nat.succ_pos _

/-- Creating a thread does not undo the end of one. -/
theorem Sound.endLeft_execute (sound : state.Sound) {who : Sender} {statement : MainStatement}
    {rest : List MainStatement} (atStatement : (state.process who).todo = statement :: rest)
    (thread : MissionThread) :
    (state.execute who statement rest).endLeft thread = state.endLeft thread := by
  obtain ⟨done, came⟩ := sound.came who
  rw [endLeft, stage_execute, endLeft]
  split
  next creates =>
    rw [came.absent_of_create (by rw [atStatement, creates]; rfl)]
    rfl
  next => rfl

theorem Sound.left_execute_lt (sound : state.Sound) (operations : MissionThread → Nat)
    {who : Sender} {statement : MainStatement} {rest : List MainStatement}
    (alive : (state.process who).exited = none)
    (atStatement : (state.process who).todo = statement :: rest) :
    (state.execute who statement rest).left operations < state.left operations := by
  have ends : ∑ thread, (state.execute who statement rest).endLeft thread =
      ∑ thread, state.endLeft thread :=
    Finset.sum_congr rfl fun thread _ => sound.endLeft_execute atStatement thread
  rw [left, ends]
  refine Nat.add_lt_add_left (sum_mainLeft_lt who ?_ fun other different =>
    process_execute_of_ne different _ _) _
  rw [mainLeft, process_execute_self, if_pos alive, mainLeft, if_pos alive, atStatement]
  exact Nat.lt_succ_self _

theorem left_ends_lt (operations : MissionThread → Nat) {thread : MissionThread}
    (running : state.stage thread = .running) :
    left { state with stage := Function.update state.stage thread .ended } operations <
      state.left operations := by
  have less : ∑ other, endLeft { state with
        stage := Function.update state.stage thread .ended } other <
      ∑ other, state.endLeft other := by
    refine Finset.sum_lt_sum (fun other _ => ?_) ⟨thread, Finset.mem_univ thread, ?_⟩
    · by_cases same : other = thread
      · simp [endLeft, same]
      · simp [endLeft, Function.update_of_ne same]
    · simp [endLeft, running]
  exact Nat.add_lt_add_right (Nat.add_lt_add_left less _) _

/-- A signal that is handled leaves no less to do. -/
theorem left_handles (operations : MissionThread → Nat) (who : Sender) (flags : SignalFlags) :
    (state.setProcess who { state.process who with flags }).left operations =
      state.left operations := by
  refine congrArg (∑ thread, operations thread + ∑ thread, state.endLeft thread + ·)
    (Finset.sum_congr rfl fun other _ => ?_)
  by_cases same : other = who
  · rw [same, mainLeft, process_setProcess_self, mainLeft]
  · rw [mainLeft, process_setProcess_of_ne same, mainLeft]

theorem hosts_eq {thread : MissionThread} {who : Sender} (mine : thread.sender = some who) :
    state.hosts thread = (state.process who).exited.isNone := by
  rw [hosts, mine]

theorem Told.flags (told : state.Told) {thread : MissionThread}
    (hosted : state.hosts thread = true) : (state.flags thread).gShutdown = true := by
  unfold hosts at hosted
  unfold Processes.flags
  cases mine : thread.sender with
  | none => exact told.obc
  | some who =>
    rw [mine] at hosted
    exact told.process who (Option.isNone_iff_eq_none.mp hosted)

theorem gShutdown_childHandler (signal : Signal) {flags : SignalFlags}
    (told : flags.gShutdown = true) : (childHandler signal flags).gShutdown = true := by
  cases signal with
  | sigterm => rfl
  | sigusr1 | sigusr2 => exact told

/-- What is told is not taken back. -/
theorem Told.step (told : state.Told) {action : ProcessesAction}
    {events : List (MissionThread × Fault)}
    (stepped : processes.step state action = some (next, events)) : next.Told := by
  -- One process changes, and if it goes on it has been told to stop.
  have changed : ∀ who process,
      (process.exited = none → process.flags.gShutdown = true) →
        ∀ other, ((state.setProcess who process).process other).exited = none →
          ((state.setProcess who process).process other).flags.gShutdown = true := by
    intro who process kept other
    by_cases same : other = who
    · rw [same, process_setProcess_self]
      exact kept
    · rw [process_setProcess_of_ne same]
      exact told.process other
  cases does_of_step stepped with
  | returns | fails | dies =>
    refine ⟨told.obc, changed _ _ ?_⟩
    rintro ⟨⟩
  | @handles who signal alive =>
    exact ⟨told.obc, changed _ _ fun _ => gShutdown_childHandler signal (told.process who alive)⟩
  | @executes who statement rest alive =>
    exact ⟨told.obc, changed _ _ (told.process who)⟩
  | ends | runs | receives => exact ⟨told.obc, told.process⟩
  | interrupted => exact ⟨rfl, told.process⟩

/-- Once all are told to stop, work brings the end nearer and nothing moves it away. -/
theorem left_of_step (sound : state.Sound) (told : state.Told)
    {operations : MissionThread → Nat}
    (ordered : Ordered mission missionOrder iterationBound state.threads operations)
    {action : ProcessesAction} {events : List (MissionThread × Fault)}
    (stepped : processes.step state action = some (next, events)) :
    ∃ after, Ordered mission missionOrder iterationBound next.threads after ∧
      work [action] + next.left after ≤ state.left operations := by
  cases does_of_step stepped with
  | returns alive | fails alive =>
    exact ⟨operations, ordered, (Nat.add_comm _ _).trans_le (left_exit_lt operations alive)⟩
  | dies alive =>
    exact ⟨operations, ordered, (Nat.zero_add _).trans_le (left_exit_lt operations alive).le⟩
  | executes alive atStatement =>
    refine ⟨operations, ⟨ordered.ascends, ordered.left_le, ordered.queued_le⟩, ?_⟩
    exact (Nat.add_comm _ _).trans_le (sound.left_execute_lt operations alive atStatement)
  | ends running =>
    exact ⟨operations, ordered, (Nat.add_comm _ _).trans_le (left_ends_lt operations running)⟩
  | @runs thread input threads _ running hosted goesOn inner =>
    have busy : state.threads.todo thread ≠ [] := fun idle => by
      have untold := goesOn idle
      rw [told.flags hosted] at untold
      cases untold
    refine ⟨_, ordered.step ascends_missionRound inner, (Nat.add_comm _ _).trans_le ?_⟩
    exact Nat.add_lt_add_right (Nat.add_lt_add_right (ordered.sum_spent_lt busy _) _) _
  | handles alive =>
    exact ⟨operations, ordered, (Nat.zero_add _).trans_le (left_handles operations _ _).le⟩
  | interrupted => exact ⟨operations, ordered, (Nat.zero_add _).le⟩
  | receives inner =>
    exact ⟨operations, ordered.step ascends_missionRound inner, (Nat.zero_add _).le⟩

/-- What the threads have yet to send still fits in the queue, as none begins an iteration. -/
theorem Told.fits (told : state.Told) (fits : Fits mission state.threads)
    {action : ProcessesAction} {events : List (MissionThread × Fault)}
    (stepped : processes.step state action = some (next, events)) : Fits mission next.threads := by
  cases does_of_step stepped with
  | returns | fails | handles | dies | executes | ends | interrupted => exact fits
  | receives inner =>
    have inRound : InRound state.threads (.receive : MissionAction) := trivial
    exact fits.step inRound inner
  | runs running hosted goesOn inner =>
    refine fits.step (fun idle => ?_) inner
    have untold := goesOn idle
    rw [told.flags hosted] at untold
    cases untold

end Processes

section Ending

variable {earlier later : List ProcessesAction} {state last : Processes}
  {events laterEvents : List (MissionThread × Fault)}

/-- All that is known of a run after everybody has been told to stop. -/
theorem winding_of_run (ran : processes.run .start earlier = some (state, events))
    (told : state.Told) (goesOn : processes.run state later = some (last, laterEvents)) :
    last.Told ∧ (Fits mission state.threads → Fits mission last.threads) ∧ work later ≤ 141 := by
  obtain ⟨left, ordered⟩ := exists_ordered_of_processes ran
  have kept : last.Told ∧ (Fits mission state.threads → Fits mission last.threads) ∧
      ∃ after, Ordered mission missionOrder iterationBound last.threads after ∧
        work later + last.left after ≤ state.left left := by
    refine processes.run_induction (fun later last _ =>
      last.Told ∧ (Fits mission state.threads → Fits mission last.threads) ∧
        ∃ after, Ordered mission missionOrder iterationBound last.threads after ∧
          work later + last.left after ≤ state.left left)
      ⟨told, id, left, ordered, (Nat.zero_add _).le⟩ ?_ goesOn
    rintro actions middle _ action next emitted went ⟨told, fits, before, ordered, less⟩ stepped
    have whole := processes.run_append_eq_some.mpr ⟨state, _, _, ran, went, rfl⟩
    obtain ⟨after, kept, spent⟩ :=
      Processes.left_of_step (Processes.sound_of_run whole) told ordered stepped
    refine ⟨told.step stepped, fun room => told.fits (fits room) stepped, after, kept, ?_⟩
    have count : work (actions ++ [action]) = work actions + work [action] := List.countP_append
    omega
  obtain ⟨told, fits, after, _, less⟩ := kept
  refine ⟨told, fits, ?_⟩
  have threads : ∑ thread, left thread ≤ 81 := by
    have each := Finset.sum_le_card_nsmul Finset.univ left iterationBound fun thread _ =>
      ordered.left_le thread
    exact each
  have ends : ∑ thread, state.endLeft thread ≤ 9 := by
    have each := Finset.sum_le_card_nsmul Finset.univ state.endLeft 1 fun thread _ => by
      rw [Processes.endLeft]
      split <;> decide
    exact each
  have mains : ∑ who, state.mainLeft who ≤ 51 := by
    have each := Finset.sum_le_card_nsmul Finset.univ state.mainLeft 17 fun who _ => by
      obtain ⟨done, came⟩ := (Processes.sound_of_run ran).came who
      have size : who.main.length = 16 := by cases who <;> rfl
      have whole := congrArg List.length came.split
      rw [List.length_append, size] at whole
      rw [Processes.mainLeft]
      split <;> omega
    exact each
  have whole : state.left left = ∑ thread, left thread + ∑ thread, state.endLeft thread +
    ∑ who, state.mainLeft who := rfl
  omega

/-- While there is room in the queue somebody can go on until all is over, unless the comms process
has failed. -/
theorem over_or_canWork (ran : processes.run .start earlier = some (state, events))
    (told : state.Told) (started : (state.process .comms).exited ≠ some .failure)
    (room : HasRoom mission state.threads) : state.Over ∨ state.CanWork := by
  have sound := Processes.sound_of_run ran
  obtain ⟨requests, went⟩ := processes_refine earlier state events ran
  obtain ⟨left, ordered⟩ := exists_ordered_of_processes ran
  -- The threads that can still do something.
  let Live thread := state.stage thread = .running ∧ state.hosts thread = true
  have owner_live : ∀ {lock holder}, state.threads.owner lock = some holder →
      (lock ≠ .gSem → state.hosts holder = true) → Live holder := by
    intro lock holder owned own
    refine ⟨running_of_owner ran owned, ?_⟩
    by_cases isSem : lock = .gSem
    · subst isSem
      by_contra gone
      exact started (stranded_of_owner ran owned (Bool.eq_false_iff.mpr gone)).2.failed
    · exact own isSem
  have closed : ∀ thread lock rest holder, Live thread →
      state.threads.todo thread = .acquire lock :: rest →
        state.threads.owner lock = some holder → Live holder := by
    intro thread lock rest holder live atAcquire owned
    refine owner_live owned fun notSem => ?_
    have keeps : KeepsToItself thread (state.threads.todo thread) :=
      keepsToItself_of_run went thread
    rw [atAcquire] at keeps
    obtain ⟨who, same, mutex⟩ := sender_of_mem_locks (keeps.2 lock List.mem_cons_self) notSem
    obtain ⟨other, its, mutex'⟩ := sender_of_mem_locks (mem_locks_of_run went owned) notSem
    obtain rfl := Sender.mutex_injective (mutex.symm.trans mutex')
    rw [Processes.hosts_eq its, ← Processes.hosts_eq same]
    exact live.2
  by_cases busy : ∃ thread, Live thread ∧ state.threads.todo thread ≠ []
  · obtain ⟨thread, live, busy⟩ := busy
    obtain ⟨other, ⟨running, hosted⟩, todo, steps⟩ :=
      ordered.exists_live_able room Live closed live busy
    refine .inr (.inr ⟨other, fun input => ?_⟩)
    have able := steps { input with gSafeMode := (state.flags other).gSafeMode }
    simpa [processes, Processes.step, running, hosted, todo] using able
  by_cases idle : ∃ thread, Live thread
  · obtain ⟨thread, running, hosted⟩ := idle
    refine .inr (.inr ⟨thread, fun input => ?_⟩)
    have todo : state.threads.todo thread = [] := by
      by_contra other
      exact busy ⟨thread, ⟨running, hosted⟩, other⟩
    simp [processes, Processes.step, running, hosted, todo, told.flags hosted]
  by_cases alive : ∃ who, (state.process who).exited = none
  · obtain ⟨who, alive⟩ := alive
    obtain ⟨done, came⟩ := sound.came who
    refine .inr (.inl ⟨who, ?_⟩)
    have hosted : ∀ {thread : MissionThread}, thread.sender = some who →
        state.hosts thread = true := by
      intro thread mine
      rw [Processes.hosts_eq mine, alive]
      rfl
    cases atStatement : (state.process who).todo with
    | nil => simp [processes, Processes.step, alive, atStatement]
    | cons statement rest =>
      have ready : state.ready who statement = true := by
        cases statement with
        | initData =>
          refine decide_eq_true ?_
          cases owned : state.threads.owner who.mutex with
          | none => rfl
          | some holder =>
            refine absurd ⟨holder, owner_live owned fun notSem => ?_⟩ idle
            obtain ⟨other, its, mutex⟩ := sender_of_mem_locks (mem_locks_of_run went owned) notSem
            exact hosted (Sender.mutex_injective mutex ▸ its)
        | awaitShutdown => exact told.process who alive
        | join thread =>
          refine decide_eq_true ?_
          have created := came.place.joins thread (by rw [atStatement]; rfl)
          have mine := came.place.own thread (.inl created)
          have exists' := (came.created thread mine).mpr created
          cases stage : state.stage thread with
          | absent => exact absurd stage exists'
          | ended => rfl
          | running => exact absurd ⟨thread, stage, hosted mine⟩ idle
        | _ => rfl
      simp [processes, Processes.step, alive, atStatement, ready]
  refine .inl ⟨fun who => ?_, ?_, ?_⟩
  · exact Option.isSome_iff_ne_none.mpr fun none => alive ⟨who, none⟩
  · cases stage : state.stage .watchdog with
    | absent => exact absurd stage sound.watchdog
    | ended => rfl
    | running => exact absurd ⟨.watchdog, stage, rfl⟩ idle
  · cases owned : state.threads.owner .gSem with
    | none => rfl
    | some holder => exact absurd ⟨holder, owner_live owned fun other => absurd rfl other⟩ idle

/-- Once the processes and the OBC have been told to stop, at most 141 pieces of work are done,
whatever fails, whenever SIGUSR1, SIGUSR2 or SIGTERM comes to a process and SIGINT to the OBC, and
however all are scheduled. And at every moment all processes have exited, the OBC has left its loop
and the semaphore is free, or some `main` function or thread can go on; only when the queue had no
room for five reports may that take a receive. The one exception is a comms process that cannot
start its second thread. -/
theorem processes_exit (earlier later : List ProcessesAction) (state last : Processes)
    (events laterEvents : List (MissionThread × Fault))
    (ran : processes.run .start earlier = some (state, events)) (told : state.Told)
    (goesOn : processes.run state later = some (last, laterEvents)) :
    work later ≤ 141 ∧ ((last.process .comms).exited ≠ some .failure →
      last.Over ∨ last.CanWork ∨ mqMaxMessages < state.threads.queued + 5 ∧
        ∃ next, processes.step last .receive = some (next, []) ∧ (next.Over ∨ next.CanWork)) := by
  obtain ⟨toldYet, fits, few⟩ := winding_of_run ran told goesOn
  refine ⟨few, fun started => ?_⟩
  have whole := processes.run_append_eq_some.mpr ⟨state, _, _, ran, goesOn, rfl⟩
  obtain ⟨_, ordered⟩ := exists_ordered_of_processes whole
  have able : HasRoom mission last.threads → last.Over ∨ last.CanWork :=
    over_or_canWork whole toldYet started
  by_cases room : state.threads.queued + 5 ≤ mqMaxMessages
  · obtain ⟨requests, went⟩ := processes_refine earlier state events ran
    have few : ∀ thread, MissionSends thread.reports (state.view.todo thread) :=
      sendsAtMost_of_run sends_missionRound went
    have fitsNow : Fits mission state.threads := ⟨MissionThread.reports, few, room⟩
    exact (able (fits fitsNow).hasRoom).imp_right .inl
  by_cases space : last.threads.queued < mqMaxMessages
  · exact (able fun _ _ _ _ => space).imp_right .inl
  · have some' : 0 < last.threads.queued := Nat.lt_of_lt_of_le (by decide) (Nat.le_of_not_lt space)
    have full := ordered.queued_le
    have stepped : processes.step last .receive =
        some ({ last with threads.queued := last.threads.queued - 1 }, []) := by
      simp [processes, Processes.step, Program.machine, some']
    refine .inr (.inr ⟨by omega, _, stepped, ?_⟩)
    have after := processes.run_snoc_eq_some.mpr ⟨last, _, _, whole, stepped, rfl⟩
    refine over_or_canWork after (toldYet.step stepped) started fun _ _ _ _ => ?_
    change last.threads.queued - 1 < mqMaxMessages
    have capacity : mission.capacity = mqMaxMessages := rfl
    omega

end Ending

/-- SIGTERM comes to the comms process when it has started its threads, and to the other two before
they have installed their handlers. -/
def allTold : List ProcessesAction :=
  List.replicate 8 (.main .comms) ++
    [.signal .power .sigterm, .signal .thermal .sigterm, .signal .comms .sigterm, .interrupt]

/-- The threads end, and the comms process joins its own and returns. -/
def commsEnds : List ProcessesAction :=
  [.uplink, .downlink, .watchdog].map (.thread · sevens) ++ List.replicate 9 (.main .comms)

theorem processes_exit_commsEnds :
    ∃ state last events laterEvents,
      processes.run .start allTold = some (state, events) ∧
      processes.run state commsEnds = some (last, laterEvents) ∧
      (last.process .comms).exited = some .success ∧
      (last.Over ∨ last.CanWork ∨ mqMaxMessages < state.threads.queued + 5 ∧
        ∃ next, processes.step last .receive = some (next, []) ∧
          (next.Over ∨ next.CanWork)) := by
  refine ⟨_, _, _, _, rfl, rfl, rfl, (processes_exit allTold commsEnds _ _ _ _ rfl
    ⟨rfl, fun who alive => ?_⟩ rfl).2 (by decide)⟩
  cases who with
  | comms => rfl
  | power | thermal => cases alive

end Fdir
