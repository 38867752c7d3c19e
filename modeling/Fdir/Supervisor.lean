/-
This file models the OBC process with everything that runs against it: its main function from
the first `start_process` to the end of `wait_children`, its signal handlers, the lives of
its four children and their own handling of signals, and the processes' writes to the
telemetry bus.

A step of `main` is one access to a variable another party can change. Every section under
the bus semaphore is one step, since every access to the bus is made under it, and is taken when
the semaphore is free. The kernel picks the pid a `fork` returns; it may pick one that a child
had which has been reaped.
-/

import Fdir.Comms
import Fdir.Machine
import Fdir.Power
import Fdir.Signals
import Fdir.Thermal

namespace Fdir

open CMemory

/-! ### The state -/

/-- What `watchdog` reads from the bus in its first critical section. -/
structure Sample where
  batt : Float32
  temp : Float32
  solar : Float32
  safe : Bool
deriving DecidableEq

def TelemetryBus.sample (bus : TelemetryBus) : Sample :=
  ⟨bus.batteryPct, bus.tempCpu, bus.solarWatts, bus.safeMode⟩

/-- `batt <= BATTERY_CRITICAL || temp >= TEMP_CRITICAL`. -/
def Sample.isCritical (sample : Sample) : Bool :=
  sample.batt ≤ batteryCritical || tempCritical ≤ sample.temp

/-- `batt > BATTERY_WARNING && temp < TEMP_WARNING && solar > 0`. -/
def Sample.isNominal (sample : Sample) : Bool :=
  batteryWarning < sample.batt && sample.temp < tempWarning && 0.0 < sample.solar

/-- The three broadcast functions; safe mode is entered on a sample `watchdog` still holds. -/
inductive Broadcast where
  | safeMode (sample : Sample)
  | safeModeExit
  | shutdown
deriving DecidableEq

def Broadcast.signal : Broadcast → Signal
  | safeMode _ => .sigusr1
  | safeModeExit => .sigusr2
  | shutdown => .sigterm

/-- Where `main` is. -/
inductive ObcPc where
  /-- Before the `fork` of the first subsystem listed. -/
  | starting (todo : List Subsystem)
  /-- `start_process` has forked and its result is not assigned yet. -/
  | assigning (who : Subsystem) (pid : Int) (todo : List Subsystem)
  /-- At the head of the loop. -/
  | loop
  /-- At the start of `watchdog`. -/
  | sample
  | enterTest (sample : Sample)
  /-- Before the test of the first `g_pid_*` listed. -/
  | testing (broadcast : Broadcast) (rest : List Subsystem)
  /-- The test has passed and `kill` is about to read the variable again. -/
  | killing (broadcast : Broadcast) (who : Subsystem) (rest : List Subsystem)
  /-- Before the store of `MODE_SAFE`. -/
  | storeSafe (sample : Sample)
  | exitTest (sample : Sample)
  /-- Before the store of `MODE_NORMAL`. -/
  | storeNormal
  /-- In `wait_children`, with so many calls of `wait` to come. -/
  | waiting (calls : Nat)
  | finished
deriving DecidableEq

/-- The OBC, its children and the bus. -/
structure Obc where
  pc : ObcPc
  t : Nat
  gPid : PidTable
  flags : SignalFlags
  pendingUsr1 : Bool
  pendingUsr2 : Bool
  pendingChld : Bool
  /-- `handle_sigchld` is running, and `main` is not. -/
  inSigchld : Bool
  children : Children
  bus : TelemetryBus

/-- The OBC after `setup_parent_signals` and `init_ipc`. -/
def Obc.start : Obc where
  pc := .starting startOrder
  t := 0
  gPid := fun _ => -1
  flags := .clear
  pendingUsr1 := false
  pendingUsr2 := false
  pendingChld := false
  inSigchld := false
  children := fun _ => none
  bus := shmCreate

inductive ObcAction where
  /-- The next statement of `main`. -/
  | main
  /-- `fork` returns `pid` to the parent. -/
  | fork (pid : Int)
  | forkFails
  /-- A `wait` of `wait_children` reaps a child. -/
  | wait (who : Subsystem)
  /-- SIGINT from the terminal; the children ignore it. -/
  | sigint
  | sigusr1
  | sigusr2
  | sigchld
  /-- One round of the loop of `handle_sigchld`. -/
  | reap (who : Subsystem)
  /-- `waitpid` finds no zombie and `handle_sigchld` returns. -/
  | sigchldReturns
  | exit (who : Subsystem)
  | handle (who : Subsystem) (signal : Signal)
  /-- A pass of the power process's `bus_writer_thread`. -/
  | powerBusWriter (power : PowerData)
  /-- A pass of the thermal process's `bus_writer_thread`. -/
  | thermalBusWriter (thermal : ThermalData)
  /-- The bus write of `downlink_thread`. -/
  | downlinkBusWriter (sig : Float32) (comms : CommsData)
  /-- The comms process runs `comms_handle_command`. -/
  | command (cmd : CString)

inductive ObcEvent where
  | sampled (sample : Sample)
  | began (broadcast : Broadcast)
  | killed (target : Int) (signal : Signal)
  | stored (mode : Bool)
  | reaped (who : Subsystem)
deriving DecidableEq

/-! ### Steps -/

/-- The child of one subsystem, if it is there and alive. -/
def Obc.live (obc : Obc) (who : Subsystem) : Option ChildProc :=
  (obc.children who).filter fun child => child.status = .alive

/-- The child of one subsystem, if it is a zombie. -/
def Obc.zombie (obc : Obc) (who : Subsystem) : Option ChildProc :=
  (obc.children who).filter fun child => child.status = .zombie

/-- The pids that are taken by children not yet reaped. -/
def Obc.pidsTaken (obc : Obc) : List Int :=
  broadcastOrder.filterMap fun who =>
    ((obc.children who).filter fun child => child.status ≠ .reaped).map ChildProc.pid

/-- The children with one of them replaced. -/
def Obc.setChild (obc : Obc) (who : Subsystem) (child : ChildProc) : Obc :=
  { obc with children := Function.update obc.children who (some child) }

/-- The next statement of `main`. -/
def Obc.next (obc : Obc) : Option (Obc × List ObcEvent) :=
  match obc.pc with
  | .starting [] => some ({ obc with pc := .loop }, [])
  | .starting (_ :: _) => none
  | .assigning who pid todo =>
    some ({ obc with gPid := Function.update obc.gPid who pid, pc := .starting todo }, [])
  | .loop =>
    if obc.flags.gShutdown then
      some ({ obc with pc := .testing .shutdown broadcastOrder }, [.began .shutdown])
    else
      some ({ obc with t := obc.t + 1, pc := if (obc.t + 1) % 2 = 0 then .sample else .loop }, [])
  | .sample =>
    some ({ obc with pc := .enterTest obc.bus.sample }, [.sampled obc.bus.sample])
  | .enterTest sample =>
    if !sample.safe && sample.isCritical then
      some ({ obc with pc := .testing (.safeMode sample) broadcastOrder },
        [.began (.safeMode sample)])
    else some ({ obc with pc := .exitTest sample }, [])
  | .testing (.safeMode sample) [] => some ({ obc with pc := .storeSafe sample }, [])
  | .testing .safeModeExit [] => some ({ obc with pc := .storeNormal }, [])
  | .testing .shutdown [] => some ({ obc with pc := .waiting 4 }, [])
  | .testing broadcast (who :: rest) =>
    if 0 < obc.gPid who then some ({ obc with pc := .killing broadcast who rest }, [])
    else some ({ obc with pc := .testing broadcast rest }, [])
  | .killing broadcast who rest =>
    some ({ obc with
        children := kill (obc.gPid who) broadcast.signal obc.children
        pc := .testing broadcast rest }, [.killed (obc.gPid who) broadcast.signal])
  | .storeSafe sample =>
    some ({ obc with bus := { obc.bus with safeMode := modeSafe }, pc := .exitTest sample },
      [.stored modeSafe])
  | .exitTest sample =>
    if sample.safe && sample.isNominal then
      some ({ obc with pc := .testing .safeModeExit broadcastOrder }, [.began .safeModeExit])
    else some ({ obc with pc := .loop }, [])
  | .storeNormal =>
    some ({ obc with bus := { obc.bus with safeMode := modeNormal }, pc := .loop },
      [.stored modeNormal])
  | .waiting 0 => some ({ obc with pc := .finished }, [])
  | .waiting (calls + 1) =>
    -- With no child left `wait` fails at once; otherwise it waits for one to exit.
    if obc.pidsTaken = [] then some ({ obc with pc := .waiting calls }, []) else none
  | .finished => none

def Obc.step (obc : Obc) : ObcAction → Option (Obc × List ObcEvent)
  | .main => if obc.inSigchld then none else obc.next
  | .fork pid =>
    match obc.pc with
    | .starting (who :: todo) =>
      if obc.inSigchld = false ∧ 0 < pid ∧ pid ∉ obc.pidsTaken then
        some ({ obc.setChild who (.forked pid) with pc := .assigning who pid todo }, [])
      else none
    | _ => none
  | .forkFails =>
    match obc.pc with
    | .starting (who :: todo) =>
      if obc.inSigchld then none else some ({ obc with pc := .assigning who (-1) todo }, [])
    | _ => none
  | .wait who =>
    match obc.pc, obc.zombie who with
    | .waiting (calls + 1), some child =>
      if obc.inSigchld then none
      else some ({ obc.setChild who { child with status := .reaped } with pc := .waiting calls },
        [.reaped who])
    | _, _ => none
  | .sigint => some ({ obc with flags := handleSigint obc.flags }, [])
  | .sigusr1 =>
    if obc.pendingUsr1 then
      some ({ obc with pendingUsr1 := false, flags := handleSigusr1 obc.flags }, [])
    else none
  | .sigusr2 =>
    if obc.pendingUsr2 then
      some ({ obc with pendingUsr2 := false, flags := handleSigusr2Parent obc.flags }, [])
    else none
  | .sigchld =>
    if obc.pendingChld ∧ obc.inSigchld = false then
      some ({ obc with pendingChld := false, inSigchld := true }, [])
    else none
  | .reap who =>
    match obc.zombie who with
    | none => none
    | some child =>
      if obc.inSigchld then
        some ({ obc.setChild who { child with status := .reaped } with
          gPid := clearReaped obc.gPid child.pid }, [.reaped who])
      else none
  | .sigchldReturns =>
    if obc.inSigchld ∧ ∀ who ∈ broadcastOrder, obc.zombie who = none then
      some ({ obc with inSigchld := false }, [])
    else none
  | .exit who =>
    (obc.live who).map fun child =>
      ({ obc.setChild who { child with status := .zombie } with pendingChld := true }, [])
  | .handle who signal =>
    match (obc.children who).bind fun child => child.handle signal with
    | none => none
    | some child => some (obc.setChild who child, [])
  | .powerBusWriter power =>
    (obc.live .power).map fun child =>
      ({ obc with bus := powerBusWrite power child.flags.gSafeMode obc.bus }, [])
  | .thermalBusWriter thermal =>
    (obc.live .thermal).map fun _ => ({ obc with bus := thermalBusWrite thermal obc.bus }, [])
  | .downlinkBusWriter sig comms =>
    (obc.live .comms).map fun _ => ({ obc with bus := downlinkBusWrite sig comms obc.bus }, [])
  | .command cmd =>
    (obc.live .comms).map fun _ =>
      match commandEffect cmd with
      | .killParent .sigusr1 => ({ obc with pendingUsr1 := true }, [])
      | .killParent .sigusr2 => ({ obc with pendingUsr2 := true }, [])
      | _ => (obc, [])

def obcMachine : Machine Obc ObcAction ObcEvent := ⟨Obc.step⟩

/-! ### What a step can do -/

theorem Obc.of_live {obc : Obc} {who : Subsystem} {child : ChildProc}
    (live : obc.live who = some child) :
    obc.children who = some child ∧ child.status = .alive := by
  rw [Obc.live, Option.filter_eq_some_iff] at live
  exact ⟨live.1, of_decide_eq_true live.2⟩

theorem Obc.of_zombie {obc : Obc} {who : Subsystem} {child : ChildProc}
    (zombie : obc.zombie who = some child) :
    obc.children who = some child ∧ child.status = .zombie := by
  rw [Obc.zombie, Option.filter_eq_some_iff] at zombie
  exact ⟨zombie.1, of_decide_eq_true zombie.2⟩

theorem mem_pidsTaken {obc : Obc} {pid : Int} :
    pid ∈ obc.pidsTaken ↔
      ∃ who child, obc.children who = some child ∧ child.status ≠ .reaped ∧ child.pid = pid := by
  simp only [Obc.pidsTaken, List.mem_filterMap, mem_broadcastOrder, true_and,
    Option.map_eq_some_iff, Option.filter_eq_some_iff, decide_eq_true_eq, and_assoc]

/-- What follows a broadcast. -/
def Broadcast.after : Broadcast → ObcPc
  | safeMode sample => .storeSafe sample
  | safeModeExit => .storeNormal
  | shutdown => .waiting 4

/-- What each statement of `main` does, with the states and events it goes between. -/
inductive Obc.Statement (obc : Obc) : Obc → List ObcEvent → Prop
  | started (atPc : obc.pc = .starting []) : Statement obc { obc with pc := .loop } []
  | assign (who : Subsystem) (pid : Int) (todo : List Subsystem)
      (atPc : obc.pc = .assigning who pid todo) :
      Statement obc { obc with gPid := Function.update obc.gPid who pid, pc := .starting todo } []
  | shutDown (atPc : obc.pc = .loop) (shutdown : obc.flags.gShutdown = true) :
      Statement obc { obc with pc := .testing .shutdown broadcastOrder } [.began .shutdown]
  | count (atPc : obc.pc = .loop) (running : obc.flags.gShutdown = false)
      (odd : (obc.t + 1) % 2 ≠ 0) : Statement obc { obc with t := obc.t + 1, pc := .loop } []
  | tick (atPc : obc.pc = .loop) (running : obc.flags.gShutdown = false)
      (even : (obc.t + 1) % 2 = 0) : Statement obc { obc with t := obc.t + 1, pc := .sample } []
  | sample (atPc : obc.pc = .sample) :
      Statement obc { obc with pc := .enterTest obc.bus.sample } [.sampled obc.bus.sample]
  | enter (sample : Sample) (atPc : obc.pc = .enterTest sample) (normal : sample.safe = false)
      (isCritical : sample.isCritical = true) :
      Statement obc { obc with pc := .testing (.safeMode sample) broadcastOrder }
        [.began (.safeMode sample)]
  | noEnter (sample : Sample) (atPc : obc.pc = .enterTest sample)
      (other : sample.safe = true ∨ sample.isCritical = false) :
      Statement obc { obc with pc := .exitTest sample } []
  | broadcasted (broadcast : Broadcast) (atPc : obc.pc = .testing broadcast []) :
      Statement obc { obc with pc := broadcast.after } []
  | tested (broadcast : Broadcast) (who : Subsystem) (rest : List Subsystem)
      (atPc : obc.pc = .testing broadcast (who :: rest)) (positive : 0 < obc.gPid who) :
      Statement obc { obc with pc := .killing broadcast who rest } []
  | skipped (broadcast : Broadcast) (who : Subsystem) (rest : List Subsystem)
      (atPc : obc.pc = .testing broadcast (who :: rest)) (absent : ¬ 0 < obc.gPid who) :
      Statement obc { obc with pc := .testing broadcast rest } []
  | kill (broadcast : Broadcast) (who : Subsystem) (rest : List Subsystem)
      (atPc : obc.pc = .killing broadcast who rest) :
      Statement obc
        { obc with
          children := Fdir.kill (obc.gPid who) broadcast.signal obc.children
          pc := .testing broadcast rest } [.killed (obc.gPid who) broadcast.signal]
  | storeSafe (sample : Sample) (atPc : obc.pc = .storeSafe sample) :
      Statement obc
        { obc with bus := { obc.bus with safeMode := modeSafe }, pc := .exitTest sample }
        [.stored modeSafe]
  | leave (sample : Sample) (atPc : obc.pc = .exitTest sample) (safe : sample.safe = true)
      (isNominal : sample.isNominal = true) :
      Statement obc { obc with pc := .testing .safeModeExit broadcastOrder } [.began .safeModeExit]
  | noLeave (sample : Sample) (atPc : obc.pc = .exitTest sample)
      (other : sample.safe = false ∨ sample.isNominal = false) :
      Statement obc { obc with pc := .loop } []
  | storeNormal (atPc : obc.pc = .storeNormal) :
      Statement obc { obc with bus := { obc.bus with safeMode := modeNormal }, pc := .loop }
        [.stored modeNormal]
  | noChild (calls : Nat) (atPc : obc.pc = .waiting (calls + 1)) (none : obc.pidsTaken = []) :
      Statement obc { obc with pc := .waiting calls } []
  | waited (atPc : obc.pc = .waiting 0) : Statement obc { obc with pc := .finished } []

theorem Obc.statement_of_next {obc next : Obc} {emitted : List ObcEvent}
    (stepped : obc.next = some (next, emitted)) : obc.Statement next emitted := by
  unfold Obc.next at stepped
  split at stepped
  case h_1 atPc =>
    cases stepped
    exact .started atPc
  case h_2 => cases stepped
  case h_3 who pid todo atPc =>
    cases stepped
    exact .assign who pid todo atPc
  case h_4 atPc =>
    split at stepped
    next shutdown =>
      cases stepped
      exact .shutDown atPc shutdown
    next running =>
      cases stepped
      split
      next even => exact .tick atPc (Bool.eq_false_iff.mpr running) even
      next odd => exact .count atPc (Bool.eq_false_iff.mpr running) odd
  case h_5 atPc =>
    cases stepped
    exact .sample atPc
  case h_6 sample atPc =>
    split at stepped
    next allowed =>
      cases stepped
      simp only [Bool.and_eq_true, Bool.not_eq_true'] at allowed
      exact .enter sample atPc allowed.1 allowed.2
    next refused =>
      cases stepped
      simp only [Bool.and_eq_true, Bool.not_eq_true', not_and_or, Bool.not_eq_false,
        Bool.not_eq_true] at refused
      exact .noEnter sample atPc refused
  case h_7 | h_8 | h_9 =>
    next atPc =>
      cases stepped
      exact .broadcasted _ atPc
  case h_10 broadcast who rest atPc =>
    split at stepped
    next positive =>
      cases stepped
      exact .tested broadcast who rest atPc positive
    next absent =>
      cases stepped
      exact .skipped broadcast who rest atPc absent
  case h_11 broadcast who rest atPc =>
    cases stepped
    exact .kill broadcast who rest atPc
  case h_12 sample atPc =>
    cases stepped
    exact .storeSafe sample atPc
  case h_13 sample atPc =>
    split at stepped
    next allowed =>
      cases stepped
      simp only [Bool.and_eq_true] at allowed
      exact .leave sample atPc allowed.1 allowed.2
    next refused =>
      cases stepped
      simp only [Bool.and_eq_true, not_and_or, Bool.not_eq_true] at refused
      exact .noLeave sample atPc refused
  case h_14 atPc =>
    cases stepped
    exact .storeNormal atPc
  case h_15 atPc =>
    cases stepped
    exact .waited atPc
  case h_16 calls atPc =>
    split at stepped
    next none =>
      cases stepped
      exact .noChild calls atPc none
    · cases stepped
  case h_17 => cases stepped

/-- What each action does, with the states and events it goes between. -/
inductive Obc.Does (obc : Obc) : ObcAction → Obc → List ObcEvent → Prop
  | main {next : Obc} {emitted : List ObcEvent} (free : obc.inSigchld = false)
      (statement : obc.Statement next emitted) : Does obc .main next emitted
  | fork (who : Subsystem) (pid : Int) (todo : List Subsystem)
      (atPc : obc.pc = .starting (who :: todo)) (free : obc.inSigchld = false)
      (positive : 0 < pid) (fresh : pid ∉ obc.pidsTaken) :
      Does obc (.fork pid) { obc.setChild who (.forked pid) with pc := .assigning who pid todo } []
  | forkFails (who : Subsystem) (todo : List Subsystem)
      (atPc : obc.pc = .starting (who :: todo)) (free : obc.inSigchld = false) :
      Does obc .forkFails { obc with pc := .assigning who (-1) todo } []
  | wait (who : Subsystem) (child : ChildProc) (calls : Nat) (atPc : obc.pc = .waiting (calls + 1))
      (found : obc.children who = some child) (zombie : child.status = .zombie)
      (free : obc.inSigchld = false) :
      Does obc (.wait who)
        { obc.setChild who { child with status := .reaped } with pc := .waiting calls }
        [.reaped who]
  | reap (who : Subsystem) (child : ChildProc) (found : obc.children who = some child)
      (zombie : child.status = .zombie) (handling : obc.inSigchld = true) :
      Does obc (.reap who)
        { obc.setChild who { child with status := .reaped } with
          gPid := clearReaped obc.gPid child.pid } [.reaped who]
  | exit (who : Subsystem) (child : ChildProc) (found : obc.children who = some child)
      (alive : child.status = .alive) :
      Does obc (.exit who)
        { obc.setChild who { child with status := .zombie } with pendingChld := true } []
  | handle (who : Subsystem) (signal : Signal) (child : ChildProc)
      (found : obc.children who = some child) (alive : child.status = .alive)
      (pending : child.pending signal = true) :
      Does obc (.handle who signal)
        (obc.setChild who { child with
          flags := childHandler signal child.flags
          pending := Function.update child.pending signal false }) []
  | powerBusWriter (power : PowerData) (child : ChildProc)
      (found : obc.children .power = some child) (alive : child.status = .alive) :
      Does obc (.powerBusWriter power)
        { obc with bus := powerBusWrite power child.flags.gSafeMode obc.bus } []
  /-- The other writers leave the mode on the bus alone. -/
  | publish (action : ObcAction) (other : ∀ power, action ≠ .powerBusWriter power)
      (bus : TelemetryBus) (mode : bus.safeMode = obc.bus.safeMode) :
      Does obc action { obc with bus := bus } []
  /-- Signals to the OBC set its flags, and start and end its handler. -/
  | signalled (action : ObcAction) (other : ∀ power, action ≠ .powerBusWriter power)
      (flags : SignalFlags) (pendingUsr1 pendingUsr2 pendingChld inSigchld : Bool) :
      Does obc action
        { obc with
          flags := flags
          pendingUsr1 := pendingUsr1
          pendingUsr2 := pendingUsr2
          pendingChld := pendingChld
          inSigchld := inSigchld } []

theorem Obc.does_of_step {obc next : Obc} {action : ObcAction} {emitted : List ObcEvent}
    (stepped : obc.step action = some (next, emitted)) : obc.Does action next emitted := by
  cases action with
  | main =>
    simp only [Obc.step] at stepped
    split at stepped
    · cases stepped
    next free => exact .main (Bool.eq_false_iff.mpr free) (Obc.statement_of_next stepped)
  | fork pid =>
    simp only [Obc.step] at stepped
    split at stepped
    next who todo atPc =>
      split at stepped
      next allowed =>
        cases stepped
        exact .fork who pid todo atPc allowed.1 allowed.2.1 allowed.2.2
      · cases stepped
    · cases stepped
  | forkFails =>
    simp only [Obc.step] at stepped
    split at stepped
    next who todo atPc =>
      split at stepped
      · cases stepped
      next free =>
        cases stepped
        exact .forkFails who todo atPc (Bool.eq_false_iff.mpr free)
    · cases stepped
  | wait who =>
    simp only [Obc.step] at stepped
    split at stepped
    next calls child atPc zombie =>
      split at stepped
      · cases stepped
      next free =>
        cases stepped
        exact .wait who child calls atPc (Obc.of_zombie zombie).1 (Obc.of_zombie zombie).2
          (Bool.eq_false_iff.mpr free)
    · cases stepped
  | reap who =>
    simp only [Obc.step] at stepped
    split at stepped
    · cases stepped
    next child zombie =>
      split at stepped
      next handling =>
        cases stepped
        exact .reap who child (Obc.of_zombie zombie).1 (Obc.of_zombie zombie).2 handling
      · cases stepped
  | exit who =>
    simp only [Obc.step, Option.map_eq_some_iff] at stepped
    obtain ⟨child, live, ⟨⟩⟩ := stepped
    exact .exit who child (Obc.of_live live).1 (Obc.of_live live).2
  | handle who signal =>
    simp only [Obc.step] at stepped
    split at stepped
    · cases stepped
    next child handled =>
      cases stepped
      obtain ⟨earlier, found, handled⟩ := Option.bind_eq_some_iff.mp handled
      unfold ChildProc.handle at handled
      split at handled
      next allowed =>
        cases handled
        exact .handle who signal earlier found allowed.1 allowed.2
      · cases handled
  | powerBusWriter power =>
    simp only [Obc.step, Option.map_eq_some_iff] at stepped
    obtain ⟨child, live, ⟨⟩⟩ := stepped
    exact .powerBusWriter power child (Obc.of_live live).1 (Obc.of_live live).2
  | thermalBusWriter thermal | downlinkBusWriter sig comms =>
    simp only [Obc.step, Option.map_eq_some_iff] at stepped
    obtain ⟨child, live, ⟨⟩⟩ := stepped
    exact .publish _ (by simp) _ rfl
  | command cmd =>
    simp only [Obc.step, Option.map_eq_some_iff] at stepped
    obtain ⟨child, live, stepped⟩ := stepped
    split at stepped <;> cases stepped <;> exact .signalled _ (by simp) _ _ _ _ _
  | sigint =>
    cases stepped
    exact .signalled _ (by simp) _ _ _ _ _
  | sigusr1 | sigusr2 | sigchld | sigchldReturns =>
    simp only [Obc.step] at stepped
    split at stepped
    · cases stepped
      exact .signalled _ (by simp) _ _ _ _ _
    · cases stepped

end Fdir
