/-
This file models `init_ipc` on the named objects an earlier mission may have left behind.

The shared memory is opened if it exists, but then sized and overwritten; the FIFO is removed
and made again. The semaphore and the message queue are opened with `O_CREAT` and without
`O_EXCL`, so an object that exists is taken as it is: the initial value 1 and the empty queue are
asked for only when there is none. All calls are taken to succeed.
-/

import Fdir.FileProgram
import Fdir.SendFault

namespace Fdir

open CMemory FileProgram

/-! ### Named objects -/

/-- The objects of one mission that outlive its processes, where they exist: the bytes of the
shared memory, the value of the semaphore, the message queue, and what is unread in the FIFO. -/
structure NamedObjects where
  shm : Option (List UInt8)
  sem : Option Nat
  mq : Option MessageQueue
  fifo : Option (List UInt8)

/-- A machine no mission has run on. -/
def NamedObjects.clean : NamedObjects := ⟨none, none, none, none⟩

/-! ### `shm_create` -/

/-- `sizeof(telemetry_bus_t)`. -/
def busSize : Nat := 80

/-- `offsetof(telemetry_bus_t, timestamp)`. -/
def busTimestampOffset : Nat := 48

/-- `ftruncate`: the object cut or filled with zeros to a size. -/
def ftruncate (object : List UInt8) (size : Nat) : List UInt8 :=
  object.take size ++ List.replicate (size - object.length) 0

/-- `memset(bus, 0, sizeof(telemetry_bus_t))`. -/
def memsetBus (object : List UInt8) : List UInt8 :=
  OpenFile.overwrite object 0 (List.replicate busSize 0)

/-- The store of a `float` field. -/
def storeFloat (offset : Nat) (value : Float32) (object : List UInt8) : List UInt8 :=
  OpenFile.overwrite object offset (storeWord value.toBits.toBitVec)

/-- The store of an `int` field. -/
def storeInt (offset : Nat) (value : BitVec 32) (object : List UInt8) : List UInt8 :=
  OpenFile.overwrite object offset (storeWord value)

/-- The stores of `shm_create` before the timestamp; two fields are only cleared. -/
def storeDefaults (object : List UInt8) : List UInt8 :=
  memsetBus object
    |> storeFloat 0 100.0
    |> storeFloat 4 110.0
    |> storeFloat 8 30.0
    |> storeFloat 12 20.0
    |> storeFloat 16 25.0
    |> storeFloat 20 22.0
    |> storeFloat 24 0.0
    |> storeFloat 32 90.0
    |> storeInt 40 0
    |> storeInt 44 0

/-- `shm_create`: the object it leaves, whether or not there was one. -/
def shmCreateObject (leftover : Option (List UInt8)) (now : Timestamp) : List UInt8 :=
  OpenFile.overwrite (storeDefaults (ftruncate (leftover.getD []) busSize)) busTimestampOffset
    (now.text.bytes ++ [0])

/-- The word at an offset of the shared memory. -/
def wordAt (object : List UInt8) (offset : Nat) : BitVec 32 :=
  loadWord ((object.drop offset).take 4)

def floatAt (object : List UInt8) (offset : Nat) : Float32 :=
  .ofBits (.ofBitVec (wordAt object offset))

/-- The bus as the processes read it from the shared memory. -/
def busOf (object : List UInt8) : TelemetryBus where
  batteryPct := floatAt object 0
  solarWatts := floatAt object 4
  tempCpu := floatAt object 8
  tempBattery := floatAt object 12
  tempAntenna := floatAt object 16
  tempBody := floatAt object 20
  spinRate := floatAt object 24
  adcsMode := wordAt object 28
  signalQuality := floatAt object 32
  uplinkActive := wordAt object 36 != 0
  faultFlags := wordAt object 40
  safeMode := wordAt object 44 != 0

/-! ### The other objects -/

/-- `sem_create`: `sem_open` with `O_CREAT` and the initial value 1. -/
def semCreate (leftover : Option Nat) : Nat := leftover.getD 1

/-- `msgq_create`: `mq_open` with `O_CREAT`. -/
def msgqCreate (leftover : Option MessageQueue) : MessageQueue := leftover.getD .empty

/-- `unlink`, which makes a name free. -/
def unlink (_ : Option (List UInt8)) : Option (List UInt8) := none

/-- `mkfifo`, which fails if the name is taken. -/
def mkfifo : Option (List UInt8) → Option (List UInt8)
  | some _ => none
  | none => some []

/-- `fifo_create`. -/
def fifoCreate (leftover : Option (List UInt8)) : Option (List UInt8) := mkfifo (unlink leftover)

/-- `init_ipc`. -/
def initIpc (leftover : NamedObjects) (now : Timestamp) : NamedObjects where
  shm := some (shmCreateObject leftover.shm now)
  sem := some (semCreate leftover.sem)
  mq := some (msgqCreate leftover.mq)
  fifo := fifoCreate leftover.fifo

/-! ### What is reset -/

theorem length_ftruncate (object : List UInt8) (size : Nat) :
    (ftruncate object size).length = size := by
  rw [ftruncate, List.length_append, List.length_take, List.length_replicate]
  omega

/-- Clearing an object of the bus's size leaves nothing of it. -/
theorem memsetBus_eq {object : List UInt8} (size : object.length = busSize) :
    memsetBus object = List.replicate busSize 0 := by
  have none : object.drop (0 + (List.replicate busSize (0 : UInt8)).length) = [] := by
    refine List.drop_eq_nil_of_le ?_
    rw [List.length_replicate, size, Nat.zero_add]
  rw [memsetBus, OpenFile.overwrite, none, List.append_nil, Nat.zero_sub, List.replicate_zero,
    List.take_zero, List.nil_append, List.nil_append]

/-- The bytes before the timestamp are the same whatever was there. -/
theorem storeDefaults_eq {object : List UInt8} (size : object.length = busSize) :
    storeDefaults object = storeDefaults (List.replicate busSize 0) := by
  rw [storeDefaults, memsetBus_eq size, storeDefaults, memsetBus_eq List.length_replicate]

theorem take_shmCreateObject (leftover : Option (List UInt8)) (now : Timestamp) :
    (shmCreateObject leftover now).take busTimestampOffset =
      (storeDefaults (List.replicate busSize 0)).take busTimestampOffset := by
  rw [shmCreateObject, storeDefaults_eq (length_ftruncate _ _),
    OpenFile.take_overwrite (Nat.le_refl _) (by decide +kernel)]

/-- Nothing reads the bus behind the place of the timestamp. -/
theorem busOf_take (object : List UInt8) :
    busOf (object.take busTimestampOffset) = busOf object := by
  have word : ∀ offset, offset + 4 ≤ busTimestampOffset →
      wordAt (object.take busTimestampOffset) offset = wordAt object offset := by
    intro offset inside
    rw [wordAt, List.drop_take, List.take_take, Nat.min_eq_left (by omega), wordAt]
  simp only [busOf, floatAt]
  rw [word 0 (by decide), word 4 (by decide), word 8 (by decide), word 12 (by decide),
    word 16 (by decide), word 20 (by decide), word 24 (by decide), word 28 (by decide),
    word 32 (by decide), word 36 (by decide), word 40 (by decide), word 44 (by decide)]

/-- `shm_create` leaves the defaults on the bus. -/
theorem busOf_shmCreateObject (leftover : Option (List UInt8)) (now : Timestamp) :
    busOf (shmCreateObject leftover now) = shmCreate := by
  rw [← busOf_take, take_shmCreateObject]
  decide +kernel

/-! ### Starting after a crash -/

/-- What a first start leaves: the semaphore free, the queue empty, the defaults on the bus and
nothing in the FIFO. -/
structure NamedObjects.Fresh (objects : NamedObjects) : Prop where
  shm : objects.shm.map busOf = some shmCreate
  sem : objects.sem = some 1
  mq : objects.mq = some .empty
  fifo : objects.fifo = some []

/-- The objects are the same apart from the time on the bus. -/
structure NamedObjects.SameButTimestamp (first second : NamedObjects) : Prop where
  shm : first.shm.map (List.take busTimestampOffset) =
    second.shm.map (List.take busTimestampOffset)
  sem : first.sem = second.sem
  mq : first.mq = second.mq
  fifo : first.fifo = second.fifo

/-- An object that is taken as it is comes to the value asked for in two cases. -/
theorem getD_eq_iff_fresh {Object : Type} {leftover : Option Object} {value : Object} :
    leftover.getD value = value ↔ leftover = none ∨ leftover = some value := by
  rw [Option.getD_eq_iff, and_iff_left rfl, or_comm]

/-- Whatever an earlier mission left behind: `init_ipc` comes to where a first start does exactly
when it left no semaphore or a free one, and no message queue or an empty one. -/
theorem initIpc_same_iff (leftover : NamedObjects) (now first : Timestamp) :
    (initIpc .clean first).Fresh ∧
      ((initIpc leftover now).SameButTimestamp (initIpc .clean first) ↔
        (leftover.sem = none ∨ leftover.sem = some 1) ∧
          (leftover.mq = none ∨ leftover.mq = some .empty)) := by
  refine ⟨⟨?_, rfl, rfl, rfl⟩, ?_⟩
  · exact congrArg some (busOf_shmCreateObject none first)
  · constructor
    · intro same
      exact ⟨getD_eq_iff_fresh.mp (Option.some.inj same.sem),
        getD_eq_iff_fresh.mp (Option.some.inj same.mq)⟩
    · rintro ⟨sem, mq⟩
      refine ⟨congrArg some ?_, congrArg some (getD_eq_iff_fresh.mpr sem),
        congrArg some (getD_eq_iff_fresh.mpr mq), rfl⟩
      exact (take_shmCreateObject _ _).trans (take_shmCreateObject _ _).symm

/-- What a mission leaves behind that is killed right after its start, while one of its processes
has the semaphore: the other three objects are there as `init_ipc` made them. -/
def killedInSection (started : Timestamp) : NamedObjects :=
  { initIpc .clean started with sem := some 0 }

/-- The next mission's first `sem_wait` blocks. -/
theorem not_initIpc_same :
    ¬ ∀ (leftover : NamedObjects) (now first : Timestamp),
      (initIpc leftover now).SameButTimestamp (initIpc .clean first) := by
  intro claimed
  have same := claimed (killedInSection ⟨.before [], by decide⟩) ⟨.before [], by decide⟩
    ⟨.before [], by decide⟩
  cases Option.some.inj same.sem

end Fdir
