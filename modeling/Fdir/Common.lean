/-
This file models the data every process shares: the thresholds, the telemetry bus in
shared memory, the fault report that travels through the message queue, and the header
and the entry records of `fdr.log` with their layout in bytes.

A C `float` is Lean's `Float32`. Inside a report and a log entry it is kept as its bit
pattern, since those records are only ever copied. A C `int` is a 32-bit word.
-/

import Fdir.CMemory

namespace Fdir

open CMemory

/-! ### Mission constants -/

def missionName : String := "APEX-SAT-01"

def eclipseStart : Nat := 10
def eclipseEnd : Nat := 20
def thermalSpike : Nat := 30

def batteryWarning : Float32 := 20.0
def batteryCritical : Float32 := 10.0

def tempWarning : Float32 := 85.0
def tempCritical : Float32 := 95.0
def tempFreeze : Float32 := 5.0

def signalWarning : Float32 := 30.0
def signalCritical : Float32 := 10.0

/-- `MODE_NORMAL` and `MODE_SAFE`, the two values a safe-mode flag takes. -/
abbrev modeNormal : Bool := false
abbrev modeSafe : Bool := true

/-! ### The telemetry bus -/

/-- `telemetry_bus_t`, without the timestamp nothing reads. -/
structure TelemetryBus where
  batteryPct : Float32
  solarWatts : Float32
  tempCpu : Float32
  tempBattery : Float32
  tempAntenna : Float32
  tempBody : Float32
  spinRate : Float32
  adcsMode : BitVec 32
  signalQuality : Float32
  uplinkActive : Bool
  faultFlags : BitVec 32
  safeMode : Bool
deriving DecidableEq

/-- The defaults `shm_create` leaves on the bus. -/
def shmCreate : TelemetryBus where
  batteryPct := 100.0
  solarWatts := 110.0
  tempCpu := 30.0
  tempBattery := 20.0
  tempAntenna := 25.0
  tempBody := 22.0
  spinRate := 0.0
  adcsMode := 0
  signalQuality := 90.0
  uplinkActive := false
  faultFlags := 0
  safeMode := modeNormal

/-! ### Fault reports and log records -/

/-- `fault_report_t`. -/
structure FaultReport where
  subsystem : CharArray 16
  severity : CharArray 12
  value : BitVec 32
  threshold : BitVec 32
  description : CharArray 64
  timestamp : CharArray 32
deriving DecidableEq

/-- Every character array of the report holds a NUL. -/
structure FaultReport.Terminated (report : FaultReport) : Prop where
  subsystem : report.subsystem.Terminated
  severity : report.severity.Terminated
  description : report.description.Terminated
  timestamp : report.timestamp.Terminated

instance (report : FaultReport) : Decidable report.Terminated :=
  decidable_of_iff (report.subsystem.Terminated ∧ report.severity.Terminated ∧
      report.description.Terminated ∧ report.timestamp.Terminated)
    ⟨fun ⟨first, second, third, fourth⟩ => ⟨first, second, third, fourth⟩,
      fun ⟨first, second, third, fourth⟩ => ⟨first, second, third, fourth⟩⟩

/-- `fdr_header_t`. -/
structure FdrHeader where
  magic : CharArray 8
  mission : CharArray 16
  version : BitVec 32
  entryCount : BitVec 32
  createdAt : CharArray 32
  reserved : CharArray 52
deriving DecidableEq

/-- `fdr_entry_t`. -/
structure FdrEntry where
  entryId : BitVec 32
  subsystem : CharArray 16
  severity : CharArray 12
  value : BitVec 32
  threshold : BitVec 32
  description : CharArray 64
  timestamp : CharArray 32
deriving DecidableEq

/-- `sizeof(fdr_header_t)`. -/
def headerSize : Nat := 116

/-- `offsetof(fdr_header_t, entry_count)`. -/
def entryCountOffset : Nat := 28

/-- `sizeof(fdr_entry_t)`. -/
def entrySize : Nat := 136

namespace FdrHeader

/-- The fields before the entry count, as they lie in memory. -/
def front (header : FdrHeader) : List UInt8 :=
  header.magic.bytes ++ header.mission.bytes ++ storeWord header.version

/-- The fields after the entry count, as they lie in memory. -/
def back (header : FdrHeader) : List UInt8 := header.createdAt.bytes ++ header.reserved.bytes

/-- The header as it lies in memory and in the file. -/
def toBytes (header : FdrHeader) : List UInt8 :=
  header.front ++ storeWord header.entryCount ++ header.back

/-- The header a stretch of memory holds. -/
def ofBytes (memory : List UInt8) : FdrHeader where
  magic := .load 8 0 memory
  mission := .load 16 8 memory
  version := loadWord ((memory.drop 24).take 4)
  entryCount := loadWord ((memory.drop 28).take 4)
  createdAt := .load 32 32 memory
  reserved := .load 52 64 memory

/-- The header after `read` stored `data` over its first bytes. -/
def overlay (header : FdrHeader) (data : List UInt8) : FdrHeader :=
  ofBytes (data ++ header.toBytes.drop data.length)

theorem length_front (header : FdrHeader) : header.front.length = entryCountOffset := by
  simp only [front, List.length_append, CharArray.length_bytes, length_storeWord,
    entryCountOffset]

theorem length_toBytes (header : FdrHeader) : header.toBytes.length = headerSize := by
  simp only [toBytes, back, List.length_append, length_front, CharArray.length_bytes,
    length_storeWord, headerSize, entryCountOffset]

/-- A header is read back from its bytes. -/
theorem ofBytes_toBytes (header : FdrHeader) : ofBytes header.toBytes = header := by
  have split : header.toBytes = header.magic.bytes ++ header.mission.bytes ++
      storeWord header.version ++ storeWord header.entryCount ++ header.createdAt.bytes ++
      header.reserved.bytes := by
    simp only [toBytes, front, back, List.append_assoc]
  have magic := CharArray.load_at header.magic [] (header.mission.bytes ++
    storeWord header.version ++ storeWord header.entryCount ++ header.createdAt.bytes ++
    header.reserved.bytes) 0 rfl
  have mission := CharArray.load_at header.mission header.magic.bytes
    (storeWord header.version ++ storeWord header.entryCount ++ header.createdAt.bytes ++
      header.reserved.bytes) 8 header.magic.length_bytes
  have version := loadWord_at header.version (header.magic.bytes ++ header.mission.bytes)
    (storeWord header.entryCount ++ header.createdAt.bytes ++ header.reserved.bytes) 24
    (by simp [CharArray.length_bytes])
  have count := loadWord_at header.entryCount (header.magic.bytes ++ header.mission.bytes ++
    storeWord header.version) (header.createdAt.bytes ++ header.reserved.bytes) 28
    (by simp [CharArray.length_bytes])
  have created := CharArray.load_at header.createdAt (header.magic.bytes ++
    header.mission.bytes ++ storeWord header.version ++ storeWord header.entryCount)
    header.reserved.bytes 32 (by simp [CharArray.length_bytes])
  have reserved := CharArray.load_at header.reserved (header.magic.bytes ++
    header.mission.bytes ++ storeWord header.version ++ storeWord header.entryCount ++
    header.createdAt.bytes) [] 64 (by simp [CharArray.length_bytes])
  obtain ⟨magicField, missionField, versionField, countField, createdField, reservedField⟩ :=
    header
  simp only [List.append_assoc, List.nil_append, List.append_nil] at *
  simp only [ofBytes, split, magic, mission, version, count, created, reserved]

/-- A read that delivers a whole header replaces whatever the variable held. -/
theorem overlay_toBytes (stale header : FdrHeader) : stale.overlay header.toBytes = header := by
  have none : stale.toBytes.drop header.toBytes.length = [] :=
    List.drop_eq_nil_of_le (by rw [length_toBytes, length_toBytes])
  rw [overlay, none, List.append_nil, ofBytes_toBytes]

end FdrHeader

namespace FdrEntry

/-- The entry as it lies in memory and in the file. -/
def toBytes (entry : FdrEntry) : List UInt8 :=
  storeWord entry.entryId ++ entry.subsystem.bytes ++ entry.severity.bytes ++
    storeWord entry.value ++ storeWord entry.threshold ++ entry.description.bytes ++
    entry.timestamp.bytes

theorem length_toBytes (entry : FdrEntry) : entry.toBytes.length = entrySize := by
  simp only [toBytes, List.length_append, CharArray.length_bytes, length_storeWord, entrySize]

/-- The entry a stretch of memory holds at its start. -/
def ofBytes (memory : List UInt8) : FdrEntry where
  entryId := loadWord ((memory.drop 0).take 4)
  subsystem := .load 16 4 memory
  severity := .load 12 20 memory
  value := loadWord ((memory.drop 32).take 4)
  threshold := loadWord ((memory.drop 36).take 4)
  description := .load 64 40 memory
  timestamp := .load 32 104 memory

/-- An entry is read back from its bytes, whatever follows them. -/
theorem ofBytes_toBytes (entry : FdrEntry) (rest : List UInt8) :
    ofBytes (entry.toBytes ++ rest) = entry := by
  have number := loadWord_at entry.entryId [] (entry.subsystem.bytes ++ entry.severity.bytes ++
    storeWord entry.value ++ storeWord entry.threshold ++ entry.description.bytes ++
    entry.timestamp.bytes ++ rest) 0 rfl
  have subsystem := CharArray.load_at entry.subsystem (storeWord entry.entryId)
    (entry.severity.bytes ++ storeWord entry.value ++ storeWord entry.threshold ++
      entry.description.bytes ++ entry.timestamp.bytes ++ rest) 4 rfl
  have severity := CharArray.load_at entry.severity (storeWord entry.entryId ++
    entry.subsystem.bytes) (storeWord entry.value ++ storeWord entry.threshold ++
    entry.description.bytes ++ entry.timestamp.bytes ++ rest) 20
    (by simp [CharArray.length_bytes])
  have value := loadWord_at entry.value (storeWord entry.entryId ++ entry.subsystem.bytes ++
    entry.severity.bytes) (storeWord entry.threshold ++ entry.description.bytes ++
    entry.timestamp.bytes ++ rest) 32 (by simp [CharArray.length_bytes])
  have threshold := loadWord_at entry.threshold (storeWord entry.entryId ++
    entry.subsystem.bytes ++ entry.severity.bytes ++ storeWord entry.value)
    (entry.description.bytes ++ entry.timestamp.bytes ++ rest) 36
    (by simp [CharArray.length_bytes])
  have description := CharArray.load_at entry.description (storeWord entry.entryId ++
    entry.subsystem.bytes ++ entry.severity.bytes ++ storeWord entry.value ++
    storeWord entry.threshold) (entry.timestamp.bytes ++ rest) 40
    (by simp [CharArray.length_bytes])
  have timestamp := CharArray.load_at entry.timestamp (storeWord entry.entryId ++
    entry.subsystem.bytes ++ entry.severity.bytes ++ storeWord entry.value ++
    storeWord entry.threshold ++ entry.description.bytes) rest 104
    (by simp [CharArray.length_bytes])
  obtain ⟨numberField, subsystemField, severityField, valueField, thresholdField,
    descriptionField, timestampField⟩ := entry
  simp only [List.append_assoc, List.nil_append] at *
  simp only [ofBytes, toBytes, List.append_assoc, number, subsystem, severity, value, threshold,
    description, timestamp]

theorem toBytes_injective : Function.Injective toBytes := by
  intro first second same
  have read := ofBytes_toBytes first []
  rwa [same, ofBytes_toBytes, eq_comm] at read

end FdrEntry

end Fdir
