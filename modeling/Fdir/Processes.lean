/-
This file models the `main` functions of the power, the thermal and the comms process, with the
signals SIGUSR1, SIGUSR2 and SIGTERM that reach a process at any time, around the threads they
start. Of the OBC there is `watchdog` and the flag SIGINT sets; it is taken not to exit, and no
process is sent a signal it has no handler for.

A `main` function opens what its threads use, starts them, waits for `g_shutdown`, joins them and
closes everything again. A call that fails ends the process at once, and so does a signal before
the handlers are installed. The threads run as in `mission`, but only between their creation and
their end: so every run of the processes is a run of `mission`, and what a thread uses is there
while it runs.
-/

import Fdir.FlightRecorder
import Fdir.MissionLocks

namespace Fdir

open CMemory LockedThreads

/-! ### The main functions -/

/-- The objects `init_ipc` makes, as a process opens them. -/
inductive IpcObject where
  | shm
  | sem
  | mq
  | fifo
deriving DecidableEq

inductive MainStatement where
  | setupChildSignals
  /-- `shm_attach`, `sem_open_existing`, `msgq_open_existing` or `fifo_open_read`. -/
  | openObject (object : IpcObject)
  /-- The stores to the process's data under its mutex. -/
  | initData
  /-- `pthread_create`. -/
  | create (thread : MissionThread)
  /-- The loop that sleeps until `g_shutdown` is set. -/
  | awaitShutdown
  /-- `pthread_join`. -/
  | join (thread : MissionThread)
  /-- `shm_detach`, `sem_close_handle`, `msgq_close` or `fifo_close`. -/
  | close (object : IpcObject)
  /-- `pthread_mutex_destroy`. -/
  | destroyMutex
deriving DecidableEq

/-- The `main` function of a process that opens some objects and starts some threads. -/
def subsystemMain (objects : List IpcObject) (threads : List MissionThread) :
    List MainStatement :=
  .setupChildSignals :: objects.map .openObject ++ .initData :: threads.map .create ++
    .awaitShutdown :: threads.map .join ++ objects.map .close ++ [.destroyMutex]

/-- `main` in power.c. -/
def powerMain : List MainStatement :=
  subsystemMain [.shm, .sem, .mq] [.solar, .battery, .powerBusWriter]

/-- `main` in thermal.c. -/
def thermalMain : List MainStatement :=
  subsystemMain [.shm, .sem, .mq] [.sensor, .heater, .thermalBusWriter]

/-- `main` in comms.c. -/
def commsMain : List MainStatement :=
  subsystemMain [.shm, .sem, .mq, .fifo] [.uplink, .downlink]

def Sender.main : Sender → List MainStatement
  | power => powerMain
  | thermal => thermalMain
  | comms => commsMain

/-- What a process has of the system. -/
structure Resources where
  /-- The handlers of `setup_child_signals` are installed. -/
  handlers : Bool
  opened : List IpcObject
  /-- The mutex has not been destroyed. -/
  mutex : Bool
deriving DecidableEq

namespace MainStatement

def onResources (resources : Resources) : MainStatement → Resources
  | setupChildSignals => { resources with handlers := true }
  | openObject object => { resources with opened := object :: resources.opened }
  | close object => { resources with opened := resources.opened.erase object }
  | destroyMutex => { resources with mutex := false }
  | initData | create _ | awaitShutdown | join _ => resources

/-- The statements after whose failure `main` calls `exit(EXIT_FAILURE)`. -/
def mayFail : MainStatement → Bool
  | openObject _ | create _ => true
  | _ => false

end MainStatement

/-- The stores of a process's `main` to its data. -/
def Sender.initData (data : MissionData) : Sender → MissionData
  | power => { data with power := powerInit }
  | thermal => { data with thermal := thermalInit }
  | comms => { data with downlink.comms := commsInit }

/-! ### The processes -/

inductive ExitStatus where
  | success
  | failure
  /-- By a signal that had no handler yet. -/
  | killed
deriving DecidableEq

structure Process where
  todo : List MainStatement
  exited : Option ExitStatus
  flags : SignalFlags
  resources : Resources

inductive ThreadStage where
  | absent
  | running
  | ended
deriving DecidableEq

/-- The threads, how far each has come, the processes, and the flags of the OBC. -/
structure Processes where
  threads : MissionState
  stage : MissionThread → ThreadStage
  process : Sender → Process
  obc : SignalFlags

/-- The data before the processes initialise theirs: static variables are zero. -/
def staticData : MissionData where
  power := ⟨0.0, 0.0, false, false⟩
  solarElapsed := 0
  thermal := ⟨0.0, 0.0, 0.0, 0.0, false, false⟩
  sensorElapsed := 0
  downlink := ⟨⟨0.0, false, false, false, .zeros cmdMaxLen⟩, 0⟩
  bus := shmCreate

/-- The processes have just been started; `watchdog` is called by the OBC itself. -/
def Processes.start : Processes where
  threads := .start staticData
  stage thread := if thread = .watchdog then .running else .absent
  process who := ⟨who.main, none, .clear, ⟨false, [], true⟩⟩
  obc := .clear

inductive ProcessesAction where
  /-- A `main` function's next statement succeeds, or it returns. -/
  | main (who : Sender)
  /-- A `main` function's next statement fails. -/
  | fails (who : Sender)
  /-- A thread tests `g_shutdown`, or does its next operation. -/
  | thread (thread : MissionThread) (input : MissionInput)
  | signal (who : Sender) (signal : Signal)
  /-- The OBC handles SIGINT. -/
  | interrupt
  /-- The logger receives a message. -/
  | receive

namespace Processes

variable (state : Processes)

/-- The process a thread belongs to has not exited; the OBC does not. -/
def hosts (thread : MissionThread) : Bool :=
  match thread.sender with
  | none => true
  | some who => (state.process who).exited.isNone

/-- The flags a thread sees. -/
def flags (thread : MissionThread) : SignalFlags :=
  match thread.sender with
  | none => state.obc
  | some who => (state.process who).flags

/-- The statement does not have to wait. -/
def ready (who : Sender) : MainStatement → Bool
  | .initData => state.threads.owner who.mutex = none
  | .awaitShutdown => (state.process who).flags.gShutdown
  | .join thread => state.stage thread = .ended
  | _ => true

def setProcess (who : Sender) (process : Process) : Processes :=
  { state with process := Function.update state.process who process }

/-- A process exits, and its threads with it. -/
def exit (who : Sender) (status : ExitStatus) : Processes :=
  state.setProcess who { state.process who with exited := some status }

/-- A statement of a `main` function succeeds. -/
def execute (who : Sender) (statement : MainStatement) (rest : List MainStatement) : Processes :=
  { state.setProcess who { state.process who with
      todo := rest
      resources := statement.onResources (state.process who).resources } with
    threads.data := if statement = .initData then who.initData state.threads.data
      else state.threads.data
    stage := match statement with
      | .create thread => Function.update state.stage thread .running
      | _ => state.stage }

/-- A process that has its handlers handles a signal, any other is killed by it. -/
def deliver (who : Sender) (signal : Signal) : Processes :=
  if (state.process who).resources.handlers then
    state.setProcess who { state.process who with
      flags := childHandler signal (state.process who).flags }
  else state.exit who .killed

def step : ProcessesAction → Option (Processes × List (MissionThread × Fault))
  | .main who =>
    if (state.process who).exited = none then
      match (state.process who).todo with
      | [] => some (state.exit who .success, [])
      | statement :: rest =>
        if state.ready who statement then some (state.execute who statement rest, []) else none
    else none
  | .fails who =>
    if (state.process who).exited = none then
      match (state.process who).todo with
      | [] => none
      | statement :: _ => if statement.mayFail then some (state.exit who .failure, []) else none
    else none
  | .thread thread input =>
    if state.stage thread = .running ∧ state.hosts thread then
      if state.threads.todo thread = [] ∧ (state.flags thread).gShutdown then
        some ({ state with stage := Function.update state.stage thread .ended }, [])
      else
        (mission.machine.step state.threads
          (.run thread { input with gSafeMode := (state.flags thread).gSafeMode })).map
            fun (threads, events) => ({ state with threads }, events)
    else none
  | .signal who signal =>
    if (state.process who).exited = none then some (state.deliver who signal, []) else none
  | .interrupt => some ({ state with obc := handleSigint state.obc }, [])
  | .receive =>
    (mission.machine.step state.threads .receive).map
      fun (threads, events) => ({ state with threads }, events)

end Processes

/-- The processes with their threads; the events are the reports sent. -/
def processes : Machine Processes ProcessesAction (MissionThread × Fault) := ⟨Processes.step⟩

/-- What each action does. -/
inductive Processes.Does (state : Processes) :
    ProcessesAction → Processes → List (MissionThread × Fault) → Prop
  | returns {who : Sender} (alive : (state.process who).exited = none)
      (through : (state.process who).todo = []) :
      Does state (.main who) (state.exit who .success) []
  | executes {who : Sender} {statement : MainStatement} {rest : List MainStatement}
      (alive : (state.process who).exited = none)
      (atStatement : (state.process who).todo = statement :: rest)
      (ready : state.ready who statement = true) :
      Does state (.main who) (state.execute who statement rest) []
  | fails {who : Sender} {statement : MainStatement} {rest : List MainStatement}
      (alive : (state.process who).exited = none)
      (atStatement : (state.process who).todo = statement :: rest)
      (mayFail : statement.mayFail = true) :
      Does state (.fails who) (state.exit who .failure) []
  | ends {thread : MissionThread} {input : MissionInput} (running : state.stage thread = .running)
      (hosted : state.hosts thread = true) (idle : state.threads.todo thread = [])
      (told : (state.flags thread).gShutdown = true) :
      Does state (.thread thread input)
        { state with stage := Function.update state.stage thread .ended } []
  | runs {thread : MissionThread} {input : MissionInput} {threads : MissionState}
      {events : List (MissionThread × Fault)} (running : state.stage thread = .running)
      (hosted : state.hosts thread = true)
      (goesOn : state.threads.todo thread = [] → (state.flags thread).gShutdown = false)
      (stepped : mission.machine.step state.threads
        (.run thread { input with gSafeMode := (state.flags thread).gSafeMode }) =
          some (threads, events)) :
      Does state (.thread thread input) { state with threads } events
  | handles {who : Sender} {signal : Signal} (alive : (state.process who).exited = none)
      (installed : (state.process who).resources.handlers = true) :
      Does state (.signal who signal) (state.setProcess who { state.process who with
        flags := childHandler signal (state.process who).flags }) []
  | dies {who : Sender} {signal : Signal} (alive : (state.process who).exited = none)
      (early : (state.process who).resources.handlers = false) :
      Does state (.signal who signal) (state.exit who .killed) []
  | interrupted : Does state .interrupt { state with obc := handleSigint state.obc } []
  | receives {threads : MissionState} {events : List (MissionThread × Fault)}
      (stepped : mission.machine.step state.threads .receive = some (threads, events)) :
      Does state .receive { state with threads } events

theorem Processes.does_of_step {state next : Processes} {action : ProcessesAction}
    {events : List (MissionThread × Fault)}
    (stepped : processes.step state action = some (next, events)) :
    state.Does action next events := by
  cases action with
  | main who =>
    simp only [processes, Processes.step] at stepped
    split at stepped
    next alive =>
      split at stepped
      next through =>
        cases stepped
        exact .returns alive through
      next statement rest atStatement =>
        split at stepped
        next ready =>
          cases stepped
          exact .executes alive atStatement ready
        · cases stepped
    · cases stepped
  | fails who =>
    simp only [processes, Processes.step] at stepped
    split at stepped
    next alive =>
      split at stepped
      · cases stepped
      next statement rest atStatement =>
        split at stepped
        next mayFail =>
          cases stepped
          exact .fails alive atStatement mayFail
        · cases stepped
    · cases stepped
  | thread thread input =>
    simp only [processes, Processes.step] at stepped
    split at stepped
    next live =>
      split at stepped
      next finished =>
        cases stepped
        exact .ends live.1 live.2 finished.1 finished.2
      next goesOn =>
        obtain ⟨⟨threads, more⟩, inner, same⟩ := Option.map_eq_some_iff.mp stepped
        cases same
        refine .runs live.1 live.2 (fun idle => ?_) inner
        exact Bool.eq_false_iff.mpr fun told => goesOn ⟨idle, told⟩
    · cases stepped
  | signal who signal =>
    simp only [processes, Processes.step] at stepped
    split at stepped
    next alive =>
      cases stepped
      rw [Processes.deliver]
      split
      next installed => exact .handles alive installed
      next early => exact .dies alive (Bool.eq_false_iff.mpr early)
    · cases stepped
  | interrupt =>
    cases stepped
    exact .interrupted
  | receive =>
    obtain ⟨⟨threads, more⟩, inner, same⟩ := Option.map_eq_some_iff.mp stepped
    cases same
    exact .receives inner

/-! ### Whose locks they are -/

/-- The locks a thread acquires. -/
def MissionThread.locks : MissionThread → List SharedLock
  | solar | battery => [.gPowerMutex]
  | powerBusWriter => [.gSem, .gPowerMutex]
  | sensor | heater => [.gThermalMutex]
  | thermalBusWriter => [.gSem, .gThermalMutex]
  | uplink | downlink => [.gCommsMutex, .gSem]
  | watchdog => [.gSem]

theorem acquires_guardedBy {lock other : SharedLock} {effect : MissionEffect}
    (member : .acquire other ∈ guardedBy lock effect) : other = lock := by
  simpa [guardedBy] using member

theorem acquires_sendAlert (mutex : SharedLock) (alert : Alert) (lock : SharedLock) :
    .acquire lock ∉ sendAlert mutex alert := by
  cases alert <;> simp [sendAlert]

theorem acquires_sendDownlink {elapsed : Nat} {sig : Float32} {alert : Alert} {lock : SharedLock}
    (member : .acquire lock ∈ sendDownlink elapsed sig alert) : lock = .gSem := by
  cases alert with
  | released fault => exact absurd member (acquires_sendAlert .gCommsMutex (.released fault) lock)
  | holding fault => exact absurd member (acquires_sendAlert .gCommsMutex (.holding fault) lock)
  | none =>
    simp only [sendDownlink, List.mem_cons, List.mem_append, List.mem_map, reduceCtorEq,
      and_false, exists_false, false_or] at member
    exact acquires_guardedBy member

theorem acquires_handleRead {read : FifoRead cmdMaxLen} {lock : SharedLock}
    (member : .acquire lock ∈ handleRead read) : lock ∈ MissionThread.uplink.locks := by
  simp only [handleRead] at member
  split at member
  · rcases List.mem_append.mp member with active | handled
    · rw [acquires_guardedBy active]
      decide
    rcases List.mem_append.mp handled with command | stored
    · cases kind : commandEffect (fifoReadCommand read).2.text <;> simp [kind] at command
      rw [command]
      decide
    · rw [acquires_guardedBy stored]
      decide
  · rw [acquires_guardedBy member]
    decide

theorem acquires_actOnSample {sample : Sample} {lock : SharedLock}
    (member : .acquire lock ∈ actOnSample sample) : lock = .gSem := by
  have acts : ∀ {condition mode : Bool}, .acquire lock ∈
      (if condition then guardedBy .gSem (.storeMode mode) else []) → lock = .gSem := by
    intro condition mode member
    split at member
    · exact acquires_guardedBy member
    · cases member
  rcases List.mem_append.mp member with enters | leaves
  · exact acts enters
  · exact acts leaves

theorem acquires_missionEffect {effect : MissionEffect} {input : MissionInput}
    {data : MissionData} {lock : SharedLock}
    (member : .acquire lock ∈ (missionEffect effect input data).2) :
    lock ∈ effect.thread.locks := by
  cases effect with
  | batteryUpdate | sensorUpdate | heaterUpdate =>
    exact absurd member (acquires_sendAlert _ _ lock)
  | downlinkUpdate =>
    simp only [missionEffect] at member
    split at member
    · simp at member
    · rw [acquires_sendDownlink member]
      decide
  | readCommand => exact acquires_handleRead member
  | sampleBus =>
    rcases List.mem_cons.mp member with release | acts
    · cases release
    · rw [acquires_actOnSample acts]
      decide
  | _ => cases member

/-- A thread does its own effects and acquires its own locks. -/
def KeepsToItself (thread : MissionThread) (todo : List MissionOp) : Prop :=
  Comes thread todo ∧ ∀ lock, .acquire lock ∈ todo → lock ∈ thread.locks

theorem keepsToItself_of_run {actions : List MissionAction} {state : MissionState}
    {events : List (MissionThread × Fault)}
    (ran : mission.machine.run (.start missionData) actions = some (state, events))
    (thread : MissionThread) : KeepsToItself thread (state.todo thread) := by
  refine ⟨comes_of_run ran thread, ?_⟩
  have kept := todo_invariant KeepsToItself (fun _ => ⟨trivial, fun _ member => by cases member⟩)
    (fun thread => ⟨comes_missionRound thread, ?_⟩)
    (fun _ _ _ _ keeps => ⟨keeps.1.tail, fun lock member =>
      keeps.2 lock (List.mem_cons_of_mem _ member)⟩) ?_ ran thread
  · exact kept.2
  · cases thread <;> simp [mission, missionRound, guardedBy, MissionThread.locks]
  · intro thread effect rest input data keeps
    refine ⟨comes_append (fun next member => ?_) keeps.1.tail, fun lock member => ?_⟩
    · obtain ⟨mine, silent⟩ := own_missionEffect effect input data next member
      exact ⟨mine.trans keeps.1.1, silent⟩
    · rcases List.mem_append.mp member with led | later
      · rw [← keeps.1.1]
        exact acquires_missionEffect led
      · exact keeps.2 lock (List.mem_cons_of_mem _ later)

/-- A lock is owned by a thread that uses it. -/
theorem mem_locks_of_run {actions : List MissionAction} {state : MissionState}
    {events : List (MissionThread × Fault)}
    (ran : mission.machine.run (.start missionData) actions = some (state, events))
    {lock : SharedLock} {thread : MissionThread} (owned : state.owner lock = some thread) :
    lock ∈ thread.locks := by
  refine owner_invariant (fun thread lock => lock ∈ thread.locks) ?_ ran owned
  intro actions state events ran thread lock rest atAcquire
  refine (keepsToItself_of_run ran thread).2 lock ?_
  rw [atAcquire]
  exact List.mem_cons_self

theorem Sender.mutex_injective {who other : Sender} (same : who.mutex = other.mutex) :
    who = other := by
  revert same
  cases who <;> cases other <;> decide

/-- All of a thread's locks but the bus semaphore are the mutex of its own process. -/
theorem sender_of_mem_locks {thread : MissionThread} {lock : SharedLock}
    (uses : lock ∈ thread.locks) (other : lock ≠ .gSem) :
    ∃ who, thread.sender = some who ∧ lock = who.mutex := by
  revert uses other
  cases thread <;> cases lock <;> simp [MissionThread.locks, MissionThread.sender, Sender.mutex]

/-! ### How far a main function has come -/

/-- What a process has while its threads run. -/
def Sender.resources : Sender → Resources
  | power | thermal => ⟨true, [.mq, .sem, .shm], true⟩
  | comms => ⟨true, [.fifo, .mq, .sem, .shm], true⟩

/-- What a process has after some statements of its `main`. -/
def resourcesAfter (done : List MainStatement) : Resources :=
  done.foldl MainStatement.onResources ⟨false, [], true⟩

/-- What holds of every place of the three `main` functions. -/
@[mk_iff]
structure Sender.Place (who : Sender) (done todo : List MainStatement) : Prop where
  /-- A thread runs only with everything open and the data initialised. -/
  provided : ∀ thread, .create thread ∈ done → .join thread ∉ done →
    resourcesAfter done = who.resources ∧ .initData ∉ todo
  /-- The threads are the process's own, each created once and joined later. -/
  own : ∀ thread, .create thread ∈ done ∨ todo.head? = some (.create thread) ∨
    .join thread ∈ done → thread.sender = some who
  fresh : ∀ thread, todo.head? = some (.create thread) → .create thread ∉ done
  joins : ∀ thread, todo.head? = some (.join thread) → .create thread ∈ done
  once : todo.head? = some .initData → .initData ∉ todo.tail
  /-- No thread exists before the data are initialised, and none is left at the end. -/
  before : .initData ∈ todo → ∀ thread, .create thread ∉ done
  after : todo = [] → resourcesAfter done = ⟨true, [], false⟩ ∧
    ∀ thread, thread.sender = some who → .join thread ∈ done
  destroyed : (resourcesAfter done).mutex = false → todo = []
  /-- The handlers are installed first. -/
  first : (resourcesAfter done).handlers = false → done = []
  /-- The threads that use the bus are created last, but for the uplink. -/
  failing : todo.head?.any MainStatement.mayFail = true → ∀ thread, .create thread ∈ done →
    .gSem ∈ thread.locks → thread = .uplink

set_option synthInstance.maxSize 500 in
instance (who : Sender) (done todo : List MainStatement) : Decidable (who.Place done todo) :=
  decidable_of_iff _ (Sender.place_iff who done todo).symm

/-- Every place can be checked. -/
theorem Sender.place_of_split {who : Sender} {done todo : List MainStatement}
    (split : who.main = done ++ todo) : who.Place done todo := by
  have each : ∀ place ≤ 16, who.Place (who.main.take place) (who.main.drop place) := by
    cases who <;> decide
  have size : who.main.length = 16 := by cases who <;> rfl
  have place : done.length ≤ 16 := by
    rw [← size, split, List.length_append]
    exact Nat.le_add_right _ _
  have here := each done.length place
  rwa [split, List.take_left, List.drop_left] at here

/-- A process has done some statements of its `main`, and its threads are as they leave them. -/
structure Processes.Came (state : Processes) (who : Sender) (done : List MainStatement) :
    Prop where
  split : who.main = done ++ (state.process who).todo
  resources : (state.process who).resources = resourcesAfter done
  created : ∀ thread, thread.sender = some who →
    (state.stage thread ≠ .absent ↔ .create thread ∈ done)
  joined : ∀ thread, .join thread ∈ done → state.stage thread = .ended
  success : (state.process who).exited = some .success → (state.process who).todo = []
  failure : (state.process who).exited = some .failure →
    (state.process who).todo.head?.any MainStatement.mayFail = true
  killed : (state.process who).exited = some .killed → done = []

/-- What holds of the processes in every run. -/
structure Processes.Sound (state : Processes) : Prop where
  came : ∀ who, ∃ done, state.Came who done
  /-- A thread that does not run has nothing to do. -/
  idle : ∀ thread, state.stage thread ≠ .running → state.threads.todo thread = []
  watchdog : state.stage .watchdog ≠ .absent

namespace Processes

variable {state next : Processes} {who other : Sender} {done : List MainStatement}

theorem Came.place (came : state.Came who done) : who.Place done (state.process who).todo :=
  Sender.place_of_split came.split

@[simp] theorem process_setProcess_self (process : Process) :
    (state.setProcess who process).process who = process := Function.update_self ..

theorem process_setProcess_of_ne (different : other ≠ who) (process : Process) :
    (state.setProcess who process).process other = state.process other :=
  Function.update_of_ne different ..

theorem stage_execute (statement : MainStatement) (rest : List MainStatement)
    (thread : MissionThread) : (state.execute who statement rest).stage thread =
      if statement = .create thread then .running else state.stage thread := by
  cases statement with
  | create created =>
    by_cases same : thread = created
    · subst same
      simp [execute]
    · simp [execute, Function.update_of_ne same, Ne.symm same]
  | _ => simp [execute, setProcess]

theorem process_execute_self (statement : MainStatement) (rest : List MainStatement) :
    (state.execute who statement rest).process who =
      { state.process who with
        todo := rest
        resources := statement.onResources (state.process who).resources } :=
  Function.update_self ..

theorem process_execute_of_ne (different : other ≠ who) (statement : MainStatement)
    (rest : List MainStatement) :
    (state.execute who statement rest).process other = state.process other :=
  Function.update_of_ne different ..

/-- A process is where it was if it and its threads are as they were. -/
theorem Came.keep (came : state.Came who done) (process : next.process who = state.process who)
    (stages : ∀ thread, thread.sender = some who → next.stage thread = state.stage thread) :
    next.Came who done where
  split := by rw [process, came.split]
  resources := by rw [process, came.resources]
  created thread mine := by rw [stages thread mine, came.created thread mine]
  joined thread member := by
    rw [stages thread (came.place.own thread (.inr (.inr member))), came.joined thread member]
  success := by rw [process]; exact came.success
  failure := by rw [process]; exact came.failure
  killed := by rw [process]; exact came.killed

/-- A process that has not exited, with flags or an exit status changed. -/
theorem Came.change (came : state.Came who done) {process : Process}
    (todo : process.todo = (state.process who).todo)
    (resources : process.resources = (state.process who).resources)
    (success : process.exited = some .success → process.todo = [])
    (failure : process.exited = some .failure →
      process.todo.head?.any MainStatement.mayFail = true)
    (killed : process.exited = some .killed → done = []) :
    (state.setProcess who process).Came who done where
  split := by rw [process_setProcess_self, todo, came.split]
  resources := by rw [process_setProcess_self, resources, came.resources]
  created := came.created
  joined := came.joined
  success := by rwa [process_setProcess_self]
  failure := by rwa [process_setProcess_self]
  killed := by rwa [process_setProcess_self]

/-- A thread that is created next does not exist yet. -/
theorem Came.absent_of_create (came : state.Came who done) {thread : MissionThread}
    (head : (state.process who).todo.head? = some (.create thread)) :
    state.stage thread = .absent := by
  have fresh := came.place.fresh thread head
  rw [← came.created thread (came.place.own thread (.inr (.inl head)))] at fresh
  exact not_not.mp fresh

/-- A statement of `main` has been executed. -/
theorem Came.execute (came : state.Came who done) (alive : (state.process who).exited = none)
    {statement : MainStatement} {rest : List MainStatement}
    (atStatement : (state.process who).todo = statement :: rest)
    (ready : state.ready who statement = true) :
    (state.execute who statement rest).Came who (done ++ [statement]) := by
  have head : (state.process who).todo.head? = some statement := by rw [atStatement]; rfl
  constructor
  case split =>
    rw [process_execute_self, came.split, atStatement, List.append_assoc]
    rfl
  case resources =>
    rw [process_execute_self, came.resources, resourcesAfter, resourcesAfter, List.foldl_append]
    rfl
  case created =>
    intro thread mine
    rw [stage_execute, List.mem_append, List.mem_singleton, ← came.created thread mine]
    by_cases creates : statement = .create thread
    · simp [creates]
    · simp [creates, Ne.symm creates]
  case joined =>
    intro thread member
    rw [stage_execute]
    have ended : state.stage thread = .ended := by
      rcases List.mem_append.mp member with earlier | now
      · exact came.joined thread earlier
      · rw [← List.mem_singleton.mp now] at ready
        exact of_decide_eq_true ready
    rw [if_neg, ended]
    rintro rfl
    rw [came.absent_of_create head] at ended
    cases ended
  case success | failure | killed =>
    rw [process_execute_self]
    intro exited
    rw [alive] at exited
    cases exited

end Processes

theorem Processes.sound_start : Processes.start.Sound where
  came who := by
    refine ⟨[], rfl, rfl, fun thread mine => ?_, fun _ member => (by cases member),
      fun exited => (by cases exited), fun exited => (by cases exited), fun _ => rfl⟩
    have other : thread ≠ .watchdog := by
      rintro rfl
      cases mine
    simp [Processes.start, other]
  idle _ _ := rfl
  watchdog := by decide

theorem Processes.Sound.step {state next : Processes} (sound : state.Sound)
    {action : ProcessesAction} {events : List (MissionThread × Fault)}
    (stepped : processes.step state action = some (next, events)) : next.Sound := by
  -- The other processes and all threads are as they were when one process changes.
  have changed : ∀ who process, (∀ done, state.Came who done →
      (state.setProcess who process).Came who done) → (state.setProcess who process).Sound := by
    intro who process kept
    refine ⟨fun other => ?_, sound.idle, sound.watchdog⟩
    obtain ⟨done, came⟩ := sound.came other
    by_cases same : other = who
    · subst same
      exact ⟨done, kept done came⟩
    · exact ⟨done, came.keep (process_setProcess_of_ne same process) fun _ _ => rfl⟩
  cases does_of_step stepped with
  | @returns who alive through =>
    refine changed who _ fun done came => came.change rfl rfl (fun _ => through) ?_ ?_
    · rintro ⟨⟩
    · rintro ⟨⟩
  | @fails who statement rest alive atStatement mayFail =>
    refine changed who _ fun done came => came.change rfl rfl ?_ (fun _ => ?_) ?_
    · rintro ⟨⟩
    · simp only [atStatement, List.head?_cons, Option.any_some, mayFail]
    · rintro ⟨⟩
  | @handles who signal alive installed =>
    refine changed who _ fun done came => came.change rfl rfl ?_ ?_ ?_ <;>
    · intro exited
      cases alive.symm.trans exited
  | @dies who signal alive early =>
    refine changed who _ fun done came => came.change rfl rfl ?_ ?_ fun _ => ?_
    · rintro ⟨⟩
    · rintro ⟨⟩
    · rw [came.resources] at early
      exact came.place.first early
  | interrupted =>
    exact ⟨fun who => (sound.came who).imp fun done came => came.keep rfl fun _ _ => rfl,
      sound.idle, sound.watchdog⟩
  | receives inner =>
    refine ⟨fun who => (sound.came who).imp fun done came => came.keep rfl fun _ _ => rfl,
      fun thread stays => ?_, sound.watchdog⟩
    cases LockedThreads.does_of_step inner
    exact sound.idle thread stays
  | @ends thread input running hosted idle told =>
    have stages : ∀ other ≠ thread, Function.update state.stage thread .ended other =
        state.stage other := fun other different => Function.update_of_ne different _ _
    have exists' : ∀ other, Function.update state.stage thread .ended other ≠ .absent ↔
        state.stage other ≠ .absent := by
      intro other
      by_cases same : other = thread
      · subst same
        simp [running]
      · rw [stages other same]
    refine ⟨fun who => ?_, fun other stays => ?_, (exists' .watchdog).mpr sound.watchdog⟩
    · obtain ⟨done, came⟩ := sound.came who
      refine ⟨done, came.split, came.resources, fun other mine => ?_, fun other member => ?_,
        came.success, came.failure, came.killed⟩
      · rw [← came.created other mine]
        exact exists' other
      · have ended := came.joined other member
        rwa [← stages other (by rintro rfl; rw [running] at ended; cases ended)] at ended
    · by_cases same : other = thread
      · subst same
        exact idle
      · refine sound.idle other ?_
        rwa [← stages other same]
  | @runs thread input threads _ running hosted goesOn inner =>
    refine ⟨fun who => (sound.came who).imp fun done came => came.keep rfl fun _ _ => rfl,
      fun other stays => ?_, sound.watchdog⟩
    have different : other ≠ thread := by
      rintro rfl
      exact stays running
    exact (todo_of_step different inner).trans (sound.idle other stays)
  | @executes who statement rest alive atStatement ready =>
    have head : (state.process who).todo.head? = some statement := by rw [atStatement]; rfl
    refine ⟨fun other => ?_, fun thread stays => ?_, ?_⟩
    · obtain ⟨done, came⟩ := sound.came other
      by_cases same : other = who
      · subst same
        exact ⟨_, came.execute alive atStatement ready⟩
      · obtain ⟨mine, whoCame⟩ := sound.came who
        refine ⟨done, came.keep (process_execute_of_ne same statement rest) fun thread others => ?_⟩
        rw [stage_execute, if_neg]
        rintro rfl
        have own := whoCame.place.own thread (.inr (.inl head))
        rw [others] at own
        exact same (Option.some.inj own)
    · rw [stage_execute] at stays
      split at stays
      · exact absurd rfl stays
      · exact sound.idle thread stays
    · rw [stage_execute]
      split
      · decide
      · exact sound.watchdog

theorem Processes.sound_of_run {actions : List ProcessesAction} {state : Processes}
    {events : List (MissionThread × Fault)}
    (ran : processes.run .start actions = some (state, events)) : state.Sound :=
  processes.reachable_invariant Processes.Sound Processes.sound_start
    (fun _ _ _ _ sound stepped => sound.step stepped) ⟨actions, events, ran⟩

/-! ### The threads of the processes are those of the mission -/

/-- The data as they are once each process that has not done so has initialised its own. -/
def fillIn (pending : Sender → Bool) (data : MissionData) : MissionData where
  power := if pending .power then powerInit else data.power
  solarElapsed := data.solarElapsed
  thermal := if pending .thermal then thermalInit else data.thermal
  sensorElapsed := data.sensorElapsed
  downlink := ⟨if pending .comms then commsInit else data.downlink.comms, data.downlink.elapsed⟩
  bus := data.bus

/-- The process has yet to initialise its data. -/
def Processes.pending (state : Processes) (who : Sender) : Bool :=
  .initData ∈ (state.process who).todo

/-- The processes as a state of the mission, which begins with all data initialised. -/
def Processes.view (state : Processes) : MissionState :=
  { state.threads with data := fillIn state.pending state.threads.data }

/-- The effects of a process that has initialised its data do not see whether others have. -/
theorem missionEffect_fillIn {pending : Sender → Bool} {effect : MissionEffect}
    (initialised : ∀ who, effect.thread.sender = some who → pending who = false)
    (input : MissionInput) (data : MissionData) :
    missionEffect effect input (fillIn pending data) =
      (fillIn pending (missionEffect effect input data).1,
        (missionEffect effect input data).2) := by
  cases effect with
  | solarUpdate | batteryUpdate | powerBusWrite =>
    have ready := initialised .power rfl
    simp only [missionEffect, fillIn, ready, Bool.false_eq_true, if_false]
  | sensorUpdate | heaterUpdate | thermalBusWrite =>
    have ready := initialised .thermal rfl
    simp only [missionEffect, fillIn, ready, Bool.false_eq_true, if_false]
  | setUplinkActive | storeCommand | downlinkBusWrite =>
    have ready := initialised .comms rfl
    simp only [missionEffect, fillIn, ready, Bool.false_eq_true, if_false]
  | downlinkUpdate =>
    have ready := initialised .comms rfl
    simp only [missionEffect, fillIn, ready, Bool.false_eq_true, if_false]
    split <;> rfl
  | readCommand | sampleBus | storeMode => rfl

namespace Processes

variable {state next : Processes} {who : Sender}

/-- While a thread runs its process has everything it uses. -/
theorem Sound.provided (sound : state.Sound) {thread : MissionThread}
    (running : state.stage thread = .running) (mine : thread.sender = some who) :
    (state.process who).resources = who.resources ∧ state.pending who = false := by
  obtain ⟨done, came⟩ := sound.came who
  have created : .create thread ∈ done := (came.created thread mine).mp (by rw [running]; decide)
  have notJoined : .join thread ∉ done := by
    intro member
    have ended := came.joined thread member
    rw [running] at ended
    cases ended
  obtain ⟨open_, initialised⟩ := came.place.provided thread created notJoined
  exact ⟨came.resources.trans open_, decide_eq_false initialised⟩

/-- Only the initialisation changes what a process has yet to initialise. -/
theorem view_setProcess {process : Process} (todo : process.todo = (state.process who).todo) :
    (state.setProcess who process).view = state.view := by
  have same : (state.setProcess who process).pending = state.pending := by
    funext other
    by_cases mine : other = who
    · subst mine
      rw [pending, process_setProcess_self, todo, pending]
    · rw [pending, process_setProcess_of_ne mine, pending]
  rw [view, same]
  rfl

/-- A statement of a `main` function is not seen. -/
theorem view_execute (sound : state.Sound) {statement : MainStatement}
    {rest : List MainStatement} (atStatement : (state.process who).todo = statement :: rest) :
    (state.execute who statement rest).view = state.view := by
  have others : ∀ other ≠ who, (state.execute who statement rest).pending other =
      state.pending other := by
    intro other different
    rw [pending, process_execute_of_ne different, pending]
  by_cases initialises : statement = .initData
  · subst initialises
    obtain ⟨done, came⟩ := sound.came who
    have once := came.place.once (by rw [atStatement]; rfl)
    rw [atStatement, List.tail_cons] at once
    have now : (state.execute who .initData rest).pending who = false := by
      rw [pending, process_execute_self]
      exact decide_eq_false once
    have before : state.pending who = true := by
      rw [pending, atStatement]
      exact decide_eq_true List.mem_cons_self
    have data : (state.execute who .initData rest).threads.data =
      who.initData state.threads.data := rfl
    have filled : fillIn (state.execute who .initData rest).pending
        (state.execute who .initData rest).threads.data =
          fillIn state.pending state.threads.data := by
      rw [data]
      cases who with
      | power =>
        simp only [fillIn, now, before, others .thermal (by decide), others .comms (by decide),
          Sender.initData, Bool.false_eq_true, if_false, if_true]
      | thermal =>
        simp only [fillIn, now, before, others .power (by decide), others .comms (by decide),
          Sender.initData, Bool.false_eq_true, if_false, if_true]
      | comms =>
        simp only [fillIn, now, before, others .power (by decide), others .thermal (by decide),
          Sender.initData, Bool.false_eq_true, if_false, if_true]
    rw [view, filled]
    rfl
  · have same : (state.execute who statement rest).pending = state.pending := by
      funext other
      by_cases mine : other = who
      · subst mine
        rw [pending, process_execute_self, pending, atStatement]
        simp [Ne.symm initialises]
      · exact others other mine
    have data : (state.execute who statement rest).threads.data = state.threads.data :=
      if_neg initialises
    rw [view, same, data]
    rfl

/-- What a step of the processes is for the mission. -/
theorem view_of_step (sound : state.Sound)
    (keeps : ∀ thread, KeepsToItself thread (state.threads.todo thread))
    {action : ProcessesAction} {events : List (MissionThread × Fault)}
    (stepped : processes.step state action = some (next, events)) :
    next.view = state.view ∧ events = [] ∨
      ∃ request, mission.machine.step state.view request = some (next.view, events) := by
  cases does_of_step stepped with
  | returns | fails | handles | dies => exact .inl ⟨view_setProcess rfl, rfl⟩
  | executes alive atStatement ready => exact .inl ⟨view_execute sound atStatement, rfl⟩
  | ends | interrupted => exact .inl ⟨rfl, rfl⟩
  | receives inner =>
    exact .inr ⟨_, step_mapData (fillIn state.pending) (fun _ _ _ _ same => by cases same) inner⟩
  | @runs thread input threads _ running hosted goesOn inner =>
    refine .inr ⟨_, step_mapData (fillIn state.pending) ?_ inner⟩
    rintro _ _ effect rest ⟨⟩ atEffect
    refine missionEffect_fillIn (fun who mine => ?_) _ _
    have own := (keeps thread).1
    rw [atEffect] at own
    rw [own.1] at mine
    exact (sound.provided running mine).2

end Processes

/-- With the starts, the failures, the signals and the ends of the processes at any time, and with
data that are zero until they are initialised, the threads do nothing but what the mission's
threads do: every run sends the reports of a run of the mission, by the same threads in the same
order, and leaves the locks, the queue, the bus and all initialised data as that does. -/
theorem processes_refine (actions : List ProcessesAction) (state : Processes)
    (events : List (MissionThread × Fault))
    (ran : processes.run .start actions = some (state, events)) :
    ∃ requests, mission.machine.run (.start missionData) requests = some (state.view, events) := by
  refine processes.run_induction (fun _ state events =>
    ∃ requests, mission.machine.run (.start missionData) requests = some (state.view, events))
    ⟨[], rfl⟩ ?_ ran
  rintro actions state events action next emitted ran ⟨requests, went⟩ stepped
  have keeps : ∀ thread, KeepsToItself thread (state.view.todo thread) :=
    keepsToItself_of_run went
  rcases Processes.view_of_step (Processes.sound_of_run ran) keeps stepped with
    ⟨same, rfl⟩ | ⟨request, moved⟩
  · exact ⟨requests, by rw [same, List.append_nil, went]⟩
  · exact ⟨requests ++ [request],
      mission.machine.run_snoc_eq_some.mpr ⟨_, _, _, went, moved, rfl⟩⟩

/-- The power process starts its first thread, which makes an iteration; the thermal process has
no shared memory, and the comms process gets SIGTERM before its handlers are installed. -/
def partlyStarted : List ProcessesAction :=
  List.replicate 6 (.main .power) ++ [.main .thermal, .fails .thermal, .signal .comms .sigterm] ++
    List.replicate 4 (.thread .solar sevens)

theorem processes_refine_partlyStarted :
    ∃ state events requests, processes.run .start partlyStarted = some (state, events) ∧
      (state.process .thermal).exited = some .failure ∧
      (state.process .comms).exited = some .killed ∧
      mission.machine.run (.start missionData) requests = some (state.view, events) := by
  obtain ⟨requests, went⟩ := processes_refine partlyStarted _ _ rfl
  exact ⟨_, _, requests, rfl, rfl, rfl, went⟩

/-! ### What the threads use -/

/-- At every moment of every run: while a thread runs its process has installed its handlers,
opened everything and closed nothing, initialised its data and not destroyed its mutex. When the
mutex is destroyed nobody owns it, all threads of the process have ended and none owns a lock; and
a process that has returned from `main` has closed everything. -/
theorem processes_useOpen (actions : List ProcessesAction) (state : Processes)
    (events : List (MissionThread × Fault))
    (ran : processes.run .start actions = some (state, events)) (who : Sender) :
    (∀ thread, thread.sender = some who → state.stage thread = .running →
        (state.process who).resources = who.resources ∧
          .initData ∉ (state.process who).todo) ∧
      ((state.process who).resources.mutex = false → state.threads.owner who.mutex = none ∧
        ∀ thread, thread.sender = some who → state.stage thread = .ended ∧
          ∀ lock, state.threads.owner lock ≠ some thread) ∧
      ((state.process who).exited = some .success →
        (state.process who).resources = ⟨true, [], false⟩) := by
  have sound := Processes.sound_of_run ran
  obtain ⟨requests, went⟩ := processes_refine actions state events ran
  obtain ⟨left, ordered⟩ := exists_ordered_of_run ascends_missionRound went
  obtain ⟨done, came⟩ := sound.came who
  refine ⟨fun thread mine running => ?_, fun destroyed => ?_, fun exited => ?_⟩
  · obtain ⟨provided, initialised⟩ := sound.provided running mine
    exact ⟨provided, of_decide_eq_false initialised⟩
  · rw [came.resources] at destroyed
    have through := came.place.destroyed destroyed
    have ended : ∀ thread, thread.sender = some who → state.stage thread = .ended :=
      fun thread mine => came.joined thread ((came.place.after through).2 thread mine)
    have unowned : ∀ thread, thread.sender = some who → ∀ lock,
        state.threads.owner lock ≠ some thread := by
      intro thread mine lock owned
      refine ordered.owner_busy owned (sound.idle thread ?_)
      rw [ended thread mine]
      decide
    refine ⟨?_, fun thread mine => ⟨ended thread mine, unowned thread mine⟩⟩
    cases owned : state.threads.owner who.mutex with
    | none => rfl
    | some holder =>
      have uses := mem_locks_of_run went owned
      have notSem : who.mutex ≠ .gSem := by cases who <;> decide
      obtain ⟨owner, mine, same⟩ := sender_of_mem_locks uses notSem
      rw [← Sender.mutex_injective same] at mine
      exact absurd owned (unowned holder mine who.mutex)
  · rw [came.resources]
    exact (came.place.after (came.success exited)).1

/-- The power process starts its threads, is told to shut down, joins them and returns. -/
def powerLife : List ProcessesAction :=
  List.replicate 8 (.main .power) ++ .signal .power .sigterm ::
    [.solar, .battery, .powerBusWriter].map (.thread · sevens) ++
      List.replicate 9 (.main .power)

theorem processes_useOpen_powerLife :
    ∃ state events, processes.run .start powerLife = some (state, events) ∧
      (state.process .power).exited = some .success ∧
      (state.process .power).resources = ⟨true, [], false⟩ ∧
      state.threads.owner .gPowerMutex = none ∧
      ∀ thread, thread.sender = some .power → state.stage thread = .ended ∧
        ∀ lock, state.threads.owner lock ≠ some thread := by
  obtain ⟨_, destroyed, closed⟩ := processes_useOpen powerLife _ _ rfl .power
  exact ⟨_, _, rfl, rfl, closed rfl, destroyed rfl⟩

end Fdir
