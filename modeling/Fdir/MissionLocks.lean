/-
This file proves what becomes of the threads of the mission with the logger and without it.

The bus semaphore comes below the three mutexes, and every thread acquires upwards. So while the
logger empties the queue no schedule of the threads gets stuck: each comes through its iteration.
Without the logger they still come to its end if the queue has room for a report of each thread
that sends. Once the logger is gone and a holder of the semaphore waits for space in the queue,
the bus never changes again and the watchdog takes no further sample.
-/

import Fdir.Contention
import Fdir.LockOrder
import Mathlib.Data.Fintype.Basic

namespace Fdir

open CMemory LockedThreads

instance : Fintype MissionThread where
  elems := {.solar, .battery, .powerBusWriter, .sensor, .heater, .thermalBusWriter, .uplink,
    .downlink, .watchdog}
  complete thread := by cases thread <;> decide

/-! ### The order of the locks -/

/-- The locks an effect is done under. -/
def MissionEffect.guards : MissionEffect → List SharedLock
  | solarUpdate | batteryUpdate => [.gPowerMutex]
  | powerBusWrite => [.gPowerMutex, .gSem]
  | sensorUpdate | heaterUpdate => [.gThermalMutex]
  | thermalBusWrite => [.gThermalMutex, .gSem]
  | readCommand => []
  | setUplinkActive _ | storeCommand _ | downlinkUpdate => [.gCommsMutex]
  | downlinkBusWrite _ | sampleBus | storeMode _ => [.gSem]

/-- The semaphore comes first. -/
def missionOrder : Discipline SharedLock MissionEffect where
  rank
    | .gSem => 0
    | .gPowerMutex | .gThermalMutex | .gCommsMutex => 1
  highest := 1
  rank_le lock := by cases lock <;> decide
  guards := MissionEffect.guards

/-- A thread's rest acquires upwards and ends after so many operations. -/
abbrev MissionAscends (count : Nat) (held : List SharedLock) (todo : List MissionOp) : Prop :=
  Ascends mission missionOrder count held todo

theorem ascends_guardedBy {count : Nat} {lock : SharedLock} {effect : MissionEffect}
    {rest : List MissionOp} (guarded : effect.guards = [lock])
    (quiet : ∀ input data, (missionEffect effect input data).2 = [])
    (after : MissionAscends count [] rest) :
    MissionAscends (count + 3) [] (guardedBy lock effect ++ rest) := by
  refine Ascends.inSection (List.forall_mem_nil _) (fun other member => ?_) quiet after
  rw [show missionOrder.guards effect = [lock] from guarded] at member
  exact member

theorem ascends_sendAlert (mutex : SharedLock) (alert : Alert) :
    MissionAscends 2 [mutex] (sendAlert mutex alert) := by
  cases alert with
  | none => exact .release List.not_mem_nil .done
  | released fault => exact .release List.not_mem_nil (.send .done)
  | holding fault => exact .send (.release List.not_mem_nil .done)

theorem ascends_sendDownlink (elapsed : Nat) (sig : Float32) (alert : Alert) :
    MissionAscends 5 [.gCommsMutex] (sendDownlink elapsed sig alert) := by
  have busWrite : MissionAscends 3 [] (guardedBy .gSem (.downlinkBusWrite sig)) :=
    ascends_guardedBy rfl (fun _ _ => rfl) .done
  cases alert with
  | none =>
    refine .release List.not_mem_nil ?_
    cases downlinkSnapshot elapsed sig with
    | none => exact busWrite.mono (by decide)
    | some fault => exact .send busWrite
  | released fault => exact (ascends_sendAlert .gCommsMutex (.released fault)).mono (by decide)
  | holding fault => exact (ascends_sendAlert .gCommsMutex (.holding fault)).mono (by decide)

theorem ascends_handleCommand (cmd : CString) : MissionAscends 5 [] (handleCommand cmd) := by
  have store : MissionAscends 3 [] (guardedBy .gCommsMutex (.storeCommand cmd)) :=
    ascends_guardedBy rfl (fun _ _ => rfl) .done
  unfold handleCommand
  cases commandEffect cmd with
  | printStatus => exact .acquire (List.forall_mem_nil _) (.release List.not_mem_nil store)
  | sendFault fault => exact (Ascends.send store).mono (by decide)
  | killParent signal => exact store.mono (by decide)
  | printUnknown => exact store.mono (by decide)

theorem ascends_handleRead (read : FifoRead cmdMaxLen) :
    MissionAscends 8 [] (handleRead read) := by
  by_cases positive : 0 < (fifoReadCommand read).1
  · simp only [handleRead, if_pos positive]
    exact ascends_guardedBy rfl (fun _ _ => rfl) (ascends_handleCommand _)
  · simp only [handleRead, if_neg positive]
    exact ascends_guardedBy rfl (fun _ _ => rfl) .done

theorem ascends_actOnSample (sample : Sample) : MissionAscends 6 [] (actOnSample sample) := by
  have exits : MissionAscends 3 []
      (if sample.safe && sample.isNominal then guardedBy .gSem (.storeMode modeNormal)
        else []) := by
    split
    · exact ascends_guardedBy rfl (fun _ _ => rfl) .done
    · exact .done
  rw [actOnSample]
  split
  · exact ascends_guardedBy rfl (fun _ _ => rfl) exits
  · exact exits.mono (by decide)

/-- An iteration that begins with an effect under a lock. -/
theorem ascends_acquire_perform {count : Nat} {lock : SharedLock} {effect : MissionEffect}
    (guarded : effect.guards = [lock])
    (after : ∀ input data, MissionAscends count [lock] (missionEffect effect input data).2) :
    MissionAscends (count + 2) [] [.acquire lock, .perform effect] := by
  refine .acquire (List.forall_mem_nil _) (.perform (fun other member => ?_) fun input data => ?_)
  · rwa [show missionOrder.guards effect = [lock] from guarded] at member
  · rw [List.append_nil]
    exact after input data

/-- An iteration of a bus writer. -/
theorem ascends_busWriter {lock : SharedLock} {effect : MissionEffect}
    (above : missionOrder.rank .gSem < missionOrder.rank lock)
    (guarded : effect.guards = [lock, .gSem])
    (quiet : ∀ input data, (missionEffect effect input data).2 = []) :
    MissionAscends 5 [] (.acquire .gSem :: guardedBy lock effect ++ [.release .gSem]) := by
  have inner : MissionAscends 4 [.gSem] (guardedBy lock effect ++ [.release .gSem]) := by
    refine Ascends.inSection (fun mine member => ?_) (fun mine member => ?_) quiet
      (.release List.not_mem_nil .done)
    · rwa [List.mem_singleton.mp member]
    · rwa [show missionOrder.guards effect = [lock, .gSem] from guarded] at member
  exact .acquire (List.forall_mem_nil _) inner

/-- The most operations an iteration takes. -/
def iterationBound : Nat := 9

/-- Every iteration of every thread acquires upwards. -/
theorem ascends_missionRound (thread : MissionThread) :
    MissionAscends iterationBound [] (missionRound thread) := by
  cases thread with
  | solar =>
    exact (ascends_guardedBy rfl (fun _ _ => rfl) .done).mono (show 3 ≤ iterationBound by decide)
  | battery | sensor | heater =>
    refine (ascends_acquire_perform rfl fun input data => ?_).mono
      (show 4 ≤ iterationBound by decide)
    exact ascends_sendAlert _ _
  | powerBusWriter | thermalBusWriter =>
    exact (ascends_busWriter (by decide) rfl fun _ _ => rfl).mono (by decide)
  | uplink =>
    refine .perform (List.forall_mem_nil _) fun input data => ?_
    rw [List.append_nil]
    exact ascends_handleRead input.read
  | downlink =>
    refine (ascends_acquire_perform rfl fun input data => ?_).mono
      (show 7 ≤ iterationBound by decide)
    simp only [missionEffect]
    split
    · exact .release List.not_mem_nil .done
    · exact ascends_sendDownlink _ _ _
  | watchdog =>
    exact ascends_acquire_perform rfl fun input data =>
      .release List.not_mem_nil (ascends_actOnSample _)

/-! ### With the logger -/

/-- While the logger empties the queue nothing gets stuck: from every state a run comes to, and
however the threads are scheduled, they do at most nine operations each before one of them begins
another iteration; and at every moment all iterations are over and all locks free, or one thread
can go on, if need be after the logger has received a message. -/
theorem mission_comes_through (earlier later : List MissionAction) (state last : MissionState)
    (events laterEvents : List (MissionThread × Fault))
    (ran : mission.machine.run (.start missionData) earlier = some (state, events))
    (inRound : mission.machine.Guarded InRound state later)
    (goesOn : mission.machine.run state later = some (last, laterEvents)) :
    operations later ≤ 9 * iterationBound ∧
      ((∀ thread, last.todo thread = []) ∧ (∀ lock, last.owner lock = none) ∨
        (∃ thread, Able mission last thread) ∨
        ∃ next, mission.machine.step last .receive = some (next, []) ∧
          ∃ thread, Able mission next thread) :=
  comes_through ascends_missionRound (by decide) ran inRound goesOn

/-- The power bus writer waits for the semaphore the thermal one has. -/
def busWriters : List MissionAction :=
  turns 2 .thermalBusWriter sevens ++ turns 1 .powerBusWriter sevens

theorem mission_comes_through_busWriters :
    ∃ state last events laterEvents,
      mission.machine.run (.start missionData) busWriters = some (state, events) ∧
      mission.machine.run state (turns 2 .thermalBusWriter sevens) = some (last, laterEvents) ∧
      ((∀ thread, last.todo thread = []) ∧ (∀ lock, last.owner lock = none) ∨
        (∃ thread, Able mission last thread) ∨
        ∃ next, mission.machine.step last .receive = some (next, []) ∧
          ∃ thread, Able mission next thread) := by
  refine ⟨_, _, _, _, rfl, rfl, (mission_comes_through busWriters (turns 2 .thermalBusWriter sevens)
    _ _ _ _ rfl ⟨List.cons_ne_nil _ _, fun next emitted stepped => ?_⟩ rfl).2⟩
  cases stepped
  exact ⟨List.cons_ne_nil _ _, fun _ _ _ => trivial⟩

/-! ### Winding down -/

abbrev MissionSends (count : Nat) (todo : List MissionOp) : Prop := SendsAtMost mission count todo

/-- The most reports a thread sends in one iteration. -/
def MissionThread.reports : MissionThread → Nat
  | battery | sensor | heater | uplink | downlink => 1
  | solar | powerBusWriter | thermalBusWriter | watchdog => 0

theorem sends_guardedBy {count : Nat} {lock : SharedLock} {effect : MissionEffect}
    {rest : List MissionOp} (quiet : ∀ input data, (missionEffect effect input data).2 = [])
    (after : MissionSends count rest) : MissionSends count (guardedBy lock effect ++ rest) := by
  refine .acquire (.perform fun input data => ?_)
  rw [show (mission.apply effect input data).2 = [] from quiet input data]
  exact .release after

theorem sends_sendAlert (mutex : SharedLock) (alert : Alert) :
    MissionSends 1 (sendAlert mutex alert) := by
  cases alert with
  | none => exact .release .done
  | released fault => exact .release (.send .done)
  | holding fault => exact .send (.release .done)

theorem sends_sendDownlink (elapsed : Nat) (sig : Float32) (alert : Alert) :
    MissionSends 1 (sendDownlink elapsed sig alert) := by
  have busWrite : ∀ {count}, MissionSends count (guardedBy .gSem (.downlinkBusWrite sig)) :=
    sends_guardedBy (fun _ _ => rfl) .done
  cases alert with
  | none =>
    refine .release ?_
    cases downlinkSnapshot elapsed sig with
    | none => exact busWrite
    | some fault => exact .send busWrite
  | released fault => exact sends_sendAlert .gCommsMutex (.released fault)
  | holding fault => exact sends_sendAlert .gCommsMutex (.holding fault)

theorem sends_handleRead (read : FifoRead cmdMaxLen) : MissionSends 1 (handleRead read) := by
  have handles : ∀ cmd, MissionSends 1 (handleCommand cmd) := by
    intro cmd
    have store : ∀ {count}, MissionSends count (guardedBy .gCommsMutex (.storeCommand cmd)) :=
      sends_guardedBy (fun _ _ => rfl) .done
    unfold handleCommand
    cases commandEffect cmd with
    | printStatus => exact .acquire (.release store)
    | sendFault fault => exact .send store
    | killParent signal => exact store
    | printUnknown => exact store
  by_cases positive : 0 < (fifoReadCommand read).1
  · simp only [handleRead, if_pos positive]
    exact sends_guardedBy (fun _ _ => rfl) (handles _)
  · simp only [handleRead, if_neg positive]
    exact sends_guardedBy (fun _ _ => rfl) .done

theorem sends_actOnSample (sample : Sample) : MissionSends 0 (actOnSample sample) := by
  have exits : MissionSends 0
      (if sample.safe && sample.isNominal then guardedBy .gSem (.storeMode modeNormal)
        else []) := by
    split
    · exact sends_guardedBy (fun _ _ => rfl) .done
    · exact .done
  rw [actOnSample]
  split
  · exact sends_guardedBy (fun _ _ => rfl) exits
  · exact exits

theorem sends_missionRound (thread : MissionThread) :
    MissionSends thread.reports (missionRound thread) := by
  cases thread with
  | solar => exact sends_guardedBy (fun _ _ => rfl) .done
  | battery | sensor | heater =>
    refine .acquire (.perform fun input data => ?_)
    rw [List.append_nil]
    exact sends_sendAlert _ _
  | powerBusWriter | thermalBusWriter =>
    exact .acquire (sends_guardedBy (fun _ _ => rfl) (.release .done))
  | uplink =>
    refine .perform fun input data => ?_
    rw [List.append_nil]
    exact sends_handleRead input.read
  | downlink =>
    refine .acquire (.perform fun input data => ?_)
    rw [List.append_nil]
    simp only [mission, missionEffect]
    split
    · exact .release .done
    · exact sends_sendDownlink _ _ _
  | watchdog =>
    refine .acquire (.perform fun input data => ?_)
    rw [List.append_nil]
    exact .release (sends_actOnSample _)

/-- Even if the logger is gone, all threads come to the end of their iterations when the queue has
room for five reports as they begin no further one: however they are scheduled they do at most
nine operations each, and at every moment all iterations are over and all locks free, or one
thread can go on. -/
theorem mission_winds_down (earlier later : List MissionAction) (state last : MissionState)
    (events laterEvents : List (MissionThread × Fault))
    (ran : mission.machine.run (.start missionData) earlier = some (state, events))
    (room : state.queued + 5 ≤ mqMaxMessages)
    (inRound : mission.machine.Guarded InRound state later)
    (goesOn : mission.machine.run state later = some (last, laterEvents)) :
    operations later ≤ 9 * iterationBound ∧
      ((∀ thread, last.todo thread = []) ∧ (∀ lock, last.owner lock = none) ∨
        ∃ thread, Able mission last thread) :=
  winds_down ascends_missionRound sends_missionRound ran room inRound goesOn

/-- Both bus writers finish, and nothing is received. -/
theorem mission_winds_down_busWriters :
    ∃ state last events laterEvents,
      mission.machine.run (.start missionData) busWriters = some (state, events) ∧
      mission.machine.run state (turns 4 .thermalBusWriter sevens) = some (last, laterEvents) ∧
      operations (turns 4 .thermalBusWriter sevens) ≤ 9 * iterationBound ∧
      ((∀ thread, last.todo thread = []) ∧ (∀ lock, last.owner lock = none) ∨
        ∃ thread, Able mission last thread) := by
  refine ⟨_, _, _, _, rfl, rfl, mission_winds_down busWriters (turns 4 .thermalBusWriter sevens)
    _ _ _ _ rfl (by decide) ⟨List.cons_ne_nil _ _, fun next emitted stepped => ?_⟩ rfl⟩
  cases stepped
  refine ⟨List.cons_ne_nil _ _, fun next emitted stepped => ?_⟩
  cases stepped
  refine ⟨List.cons_ne_nil _ _, fun next emitted stepped => ?_⟩
  cases stepped
  exact ⟨List.cons_ne_nil _ _, fun _ _ _ => trivial⟩

/-! ### Without the logger -/

/-- The bus, and whether a thread is at an effect on it. -/
def MissionEffect.OnBus (effect : MissionEffect) : Prop := .gSem ∈ effect.guards

/-- Only effects under the semaphore change the bus. -/
theorem bus_missionEffect {effect : MissionEffect} (other : ¬ effect.OnBus) (input : MissionInput)
    (data : MissionData) : (missionEffect effect input data).1.bus = data.bus := by
  cases effect with
  | powerBusWrite | thermalBusWrite | downlinkBusWrite | sampleBus | storeMode =>
    exact absurd (by simp [MissionEffect.OnBus, MissionEffect.guards]) other
  | downlinkUpdate =>
    simp only [missionEffect]
    split <;> rfl
  | _ => rfl

/-- Once the logger receives no more and the holder of the bus semaphore waits for space in the
queue, it holds the semaphore for ever, the bus keeps its contents, and no thread comes to the bus
again: no bus writer, and not the watchdog with a sample. -/
theorem starved_for_ever (earlier later : List MissionAction) (state last : MissionState)
    (events laterEvents : List (MissionThread × Fault)) (holder : MissionThread)
    (ran : mission.machine.run (.start missionData) earlier = some (state, events))
    (holds : state.owner .gSem = some holder) (waits : WaitsForSpace mission state holder)
    (noReceive : .receive ∉ later)
    (goesOn : mission.machine.run state later = some (last, laterEvents)) :
    last.owner .gSem = some holder ∧ last.data.bus = state.data.bus ∧
      ∀ thread effect rest, last.todo thread = .perform effect :: rest → ¬ effect.OnBus := by
  obtain ⟨waitsYet, _, holdsYet, same⟩ := waits_for_ever ascends_missionRound ran noReceive goesOn
    waits holds MissionData.bus fun _ => bus_missionEffect
  refine ⟨holdsYet, same, fun thread effect rest atEffect onBus => ?_⟩
  obtain ⟨_, ordered⟩ := exists_ordered_of_run ascends_missionRound
    (mission.machine.run_append_eq_some.mpr ⟨state, _, _, ran, goesOn, rfl⟩)
  have mine := ordered.owner_of_perform atEffect onBus
  rw [holdsYet] at mine
  cases mine
  cases waitsYet with
  | space atSend => rw [atEffect] at atSend; cases atSend
  | lock atAcquire => rw [atEffect] at atAcquire; cases atAcquire

/-- The watchdog begins its tick and comes to the semaphore. -/
theorem starved_for_ever_starving :
    ∃ state last events laterEvents holder,
      mission.machine.run (.start missionData) starving = some (state, events) ∧
      mission.machine.run state (turns 1 .watchdog sevens) = some (last, laterEvents) ∧
      last.owner .gSem = some holder ∧ last.data.bus = state.data.bus ∧
        ∀ thread effect rest, last.todo thread = .perform effect :: rest → ¬ effect.OnBus := by
  have reached : (mission.machine.run (.start missionData) starving).any (fun reached =>
      starves reached.1 &&
        (mission.machine.run reached.1 (turns 1 .watchdog sevens)).isSome) = true := by
    decide +kernel
  obtain ⟨⟨state, events⟩, ran, starved⟩ := (Option.any_eq_true _ _).mp reached
  simp only [Bool.and_eq_true] at starved
  obtain ⟨⟨last, laterEvents⟩, goesOn⟩ := Option.isSome_iff_exists.mp starved.2
  obtain ⟨holds, waits⟩ := waits_of_starves starved.1
  exact ⟨state, last, events, laterEvents, .powerBusWriter, ran, goesOn,
    starved_for_ever starving (turns 1 .watchdog sevens) state last events laterEvents
      .powerBusWriter ran holds waits (by simp [turns]) goesOn⟩

end Fdir
