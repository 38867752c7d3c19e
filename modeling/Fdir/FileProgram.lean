/-
This file is a small library of programs that work on one open file through
`lseek`, `read` and `write`.

An open file is its bytes and the file offset its descriptor carries. A program is a
tree: each node is one system call, and what follows may depend on what the call
returned. `exec` runs a program under a list of outcomes, one for each call in order; a
call past the end of the list succeeds in full. A program that leaves defined behaviour
has no result.
-/

import Mathlib.Data.List.Basic

namespace FileProgram

/-! ### Open files -/

/-- The bytes of a file and the offset of the one descriptor it is open at. -/
structure OpenFile where
  bytes : List UInt8
  offset : Nat
deriving DecidableEq

inductive Whence where
  | set
  | current
  | fromEnd
deriving DecidableEq

/-- What the kernel does with one system call. -/
inductive Outcome where
  | full
  | short (count : Nat)
  | fail
deriving DecidableEq

/-- How many bytes of a write of some size are stored. -/
def Outcome.stored (size : Nat) : Outcome → Nat
  | full => size
  | short count => min count size
  | fail => 0

theorem Outcome.stored_le (size : Nat) (outcome : Outcome) : outcome.stored size ≤ size := by
  cases outcome with
  | full => exact Nat.le_refl _
  | short count => exact Nat.min_le_right _ _
  | fail => exact Nat.zero_le _

namespace OpenFile

/-- The bytes after `data` is stored at `offset`; a gap past the old end is filled with
zeros. -/
def overwrite (bytes : List UInt8) (offset : Nat) (data : List UInt8) : List UInt8 :=
  bytes.take offset ++ List.replicate (offset - bytes.length) 0 ++ data ++
    bytes.drop (offset + data.length)

/-- `lseek`: the new offset, or -1. -/
def lseek (file : OpenFile) (distance : Nat) (whence : Whence) : Outcome → Int × OpenFile
  | .fail => (-1, file)
  | _ =>
    let target := distance + match whence with
      | .set => 0
      | .current => file.offset
      | .fromEnd => file.bytes.length
    (target, { file with offset := target })

/-- `read`: the bytes delivered, or `none` for -1. -/
def read (file : OpenFile) (count : Nat) : Outcome → Option (List UInt8) × OpenFile
  | .fail => (none, file)
  | .short limit =>
    let data := (file.bytes.drop file.offset).take (min limit count)
    (some data, { file with offset := file.offset + data.length })
  | .full =>
    let data := (file.bytes.drop file.offset).take count
    (some data, { file with offset := file.offset + data.length })

/-- `write`: the number of bytes stored, or -1. -/
def write (file : OpenFile) (data : List UInt8) : Outcome → Int × OpenFile
  | .fail => (-1, file)
  | .short limit =>
    let stored := data.take limit
    (stored.length, ⟨overwrite file.bytes file.offset stored, file.offset + stored.length⟩)
  | .full => (data.length, ⟨overwrite file.bytes file.offset data, file.offset + data.length⟩)

/-- Storing at the end of a file appends. -/
theorem overwrite_length (bytes data : List UInt8) :
    overwrite bytes bytes.length data = bytes ++ data := by
  have past : bytes.drop (bytes.length + data.length) = [] := List.drop_eq_nil_of_le (by omega)
  rw [overwrite, past, List.take_length, Nat.sub_self, List.replicate_zero, List.append_nil,
    List.append_nil]

/-- Storing over a stretch of the same length replaces that stretch. -/
theorem overwrite_middle (front old back data : List UInt8) (same : data.length = old.length) :
    overwrite (front ++ old ++ back) front.length data = front ++ data ++ back := by
  have inside : front.length - (front ++ old ++ back).length = 0 := by
    simp only [List.length_append]
    omega
  have tail : (front ++ old ++ back).drop (front.length + data.length) = back := by
    rw [same, ← List.length_append, List.drop_left]
  rw [overwrite, tail, inside, List.replicate_zero, List.append_nil, List.append_assoc front,
    List.take_left]

theorem length_overwrite {bytes data : List UInt8} {offset : Nat}
    (inside : offset ≤ bytes.length) :
    (overwrite bytes offset data).length = max bytes.length (offset + data.length) := by
  simp only [overwrite, List.length_append, List.length_take, List.length_replicate,
    List.length_drop]
  omega

theorem overwrite_nil {bytes : List UInt8} {offset : Nat} (inside : offset ≤ bytes.length) :
    overwrite bytes offset [] = bytes := by
  rw [overwrite, Nat.sub_eq_zero_of_le inside, List.replicate_zero, List.append_nil,
    List.append_nil, List.length_nil, Nat.add_zero, List.take_append_drop]

/-- What lies before the offset stays. -/
theorem take_overwrite {bytes data : List UInt8} {offset count : Nat}
    (before : count ≤ offset) (inside : offset ≤ bytes.length) :
    (overwrite bytes offset data).take count = bytes.take count := by
  rw [overwrite, List.append_assoc, List.append_assoc, List.take_append_of_le_length,
    List.take_take, Nat.min_eq_left before]
  rw [List.length_take]
  omega

/-- A write stores some of the data, whatever its outcome. -/
theorem write_snd {file : OpenFile} (data : List UInt8) (outcome : Outcome)
    (inside : file.offset ≤ file.bytes.length) :
    (file.write data outcome).2 =
      ⟨overwrite file.bytes file.offset (data.take (outcome.stored data.length)),
        file.offset + outcome.stored data.length⟩ := by
  cases outcome with
  | full => rw [Outcome.stored, List.take_length, write]
  | short limit =>
    have same : data.take (min limit data.length) = data.take limit := by
      rw [← List.take_take, List.take_length]
    simp only [write, Outcome.stored, same, List.length_take]
  | fail =>
    rw [Outcome.stored, List.take_zero, overwrite_nil inside, write, Nat.add_zero]

end OpenFile

/-! ### Programs -/

end FileProgram

/-- A program over one open file, as the tree of its system calls. -/
inductive FileProgram (Result : Type) where
  | done (result : Result)
  | undefined
  | lseek (distance : Nat) (whence : FileProgram.Whence) (next : Int → FileProgram Result)
  | read (count : Nat) (next : Option (List UInt8) → FileProgram Result)
  | write (data : List UInt8) (next : Int → FileProgram Result)

namespace FileProgram

variable {Result Other : Type}

/-- Run one program and then another that depends on its result. -/
def bind : FileProgram Result → (Result → FileProgram Other) → FileProgram Other
  | .done result, continuation => continuation result
  | .undefined, _ => .undefined
  | .lseek distance whence next, continuation =>
    .lseek distance whence fun position => (next position).bind continuation
  | .read count next, continuation => .read count fun data => (next data).bind continuation
  | .write data next, continuation => .write data fun stored => (next stored).bind continuation

/-- The result and the file after a program whose calls have the given outcomes. -/
def exec : FileProgram Result → List Outcome → OpenFile → Option (Result × OpenFile)
  | .done result, _, file => some (result, file)
  | .undefined, _, _ => none
  | .lseek distance whence next, outcomes, file =>
    let (position, moved) := file.lseek distance whence (outcomes.headD .full)
    exec (next position) outcomes.tail moved
  | .read count next, outcomes, file =>
    let (data, moved) := file.read count (outcomes.headD .full)
    exec (next data) outcomes.tail moved
  | .write data next, outcomes, file =>
    let (stored, changed) := file.write data (outcomes.headD .full)
    exec (next stored) outcomes.tail changed

@[simp] theorem exec_done (result : Result) (outcomes : List Outcome) (file : OpenFile) :
    exec (.done result) outcomes file = some (result, file) := rfl

@[simp] theorem exec_lseek (distance : Nat) (whence : Whence) (next : Int → FileProgram Result)
    (outcome : Outcome) (rest : List Outcome) (file : OpenFile) :
    exec (.lseek distance whence next) (outcome :: rest) file =
      exec (next (file.lseek distance whence outcome).1) rest
        (file.lseek distance whence outcome).2 := rfl

@[simp] theorem exec_read (count : Nat) (next : Option (List UInt8) → FileProgram Result)
    (outcome : Outcome) (rest : List Outcome) (file : OpenFile) :
    exec (.read count next) (outcome :: rest) file =
      exec (next (file.read count outcome).1) rest (file.read count outcome).2 := rfl

@[simp] theorem exec_write (data : List UInt8) (next : Int → FileProgram Result)
    (outcome : Outcome) (rest : List Outcome) (file : OpenFile) :
    exec (.write data next) (outcome :: rest) file =
      exec (next (file.write data outcome).1) rest (file.write data outcome).2 := rfl

/-- A program all of whose calls succeed in full. -/
def run (program : FileProgram Result) (file : OpenFile) : Option (Result × OpenFile) :=
  program.exec [] file

@[simp] theorem run_done (result : Result) (file : OpenFile) :
    run (.done result) file = some (result, file) := rfl

@[simp] theorem run_lseek_set (distance : Nat) (next : Int → FileProgram Result)
    (file : OpenFile) :
    run (.lseek distance .set next) file =
      run (next distance) { file with offset := distance } := rfl

@[simp] theorem run_lseek_fromEnd (next : Int → FileProgram Result) (file : OpenFile) :
    run (.lseek 0 .fromEnd next) file =
      run (next file.bytes.length) { file with offset := file.bytes.length } := by
  simp only [run, exec, List.headD_nil, List.tail_nil, OpenFile.lseek, Nat.zero_add]

@[simp] theorem run_read (count : Nat) (next : Option (List UInt8) → FileProgram Result)
    (file : OpenFile) :
    run (.read count next) file =
      run (next (some ((file.bytes.drop file.offset).take count)))
        { file with
          offset := file.offset + ((file.bytes.drop file.offset).take count).length } := rfl

@[simp] theorem run_write (data : List UInt8) (next : Int → FileProgram Result)
    (file : OpenFile) :
    run (.write data next) file =
      run (next data.length)
        ⟨OpenFile.overwrite file.bytes file.offset data, file.offset + data.length⟩ := rfl

/-- A sequence of programs succeeds in full when its parts do. -/
theorem run_bind (program : FileProgram Result) (continuation : Result → FileProgram Other)
    (file : OpenFile) :
    run (program.bind continuation) file =
      (run program file).bind fun outcome => run (continuation outcome.1) outcome.2 := by
  induction program generalizing file with
  | done result => rfl
  | undefined => rfl
  | lseek distance whence next inductionHypothesis => exact inductionHypothesis _ _
  | read count next inductionHypothesis => exact inductionHypothesis _ _
  | write data next inductionHypothesis => exact inductionHypothesis _ _

/-! ### Crashes -/

/-- The file a program leaves behind when its process dies after some of its calls, each of
which succeeded in full. -/
def crash : FileProgram Result → Nat → OpenFile → OpenFile
  | .done _, _, file => file
  | .undefined, _, file => file
  | .lseek _ _ _, 0, file => file
  | .lseek distance whence next, calls + 1, file =>
    let (position, moved) := file.lseek distance whence .full
    crash (next position) calls moved
  | .read _ _, 0, file => file
  | .read count next, calls + 1, file =>
    let (data, moved) := file.read count .full
    crash (next data) calls moved
  | .write _ _, 0, file => file
  | .write data next, calls + 1, file =>
    let (stored, changed) := file.write data .full
    crash (next stored) calls changed

@[simp] theorem crash_done (result : Result) (calls : Nat) (file : OpenFile) :
    crash (.done result) calls file = file := by
  cases calls <;> rfl

@[simp] theorem crash_zero (program : FileProgram Result) (file : OpenFile) :
    program.crash 0 file = file := by
  cases program <;> rfl

@[simp] theorem crash_lseek_set (distance : Nat) (next : Int → FileProgram Result) (calls : Nat)
    (file : OpenFile) :
    crash (.lseek distance .set next) (calls + 1) file =
      crash (next distance) calls { file with offset := distance } := rfl

@[simp] theorem crash_lseek_fromEnd (next : Int → FileProgram Result) (calls : Nat)
    (file : OpenFile) :
    crash (.lseek 0 .fromEnd next) (calls + 1) file =
      crash (next file.bytes.length) calls { file with offset := file.bytes.length } := by
  simp only [crash, OpenFile.lseek, Nat.zero_add]

@[simp] theorem crash_read (count : Nat) (next : Option (List UInt8) → FileProgram Result)
    (calls : Nat) (file : OpenFile) :
    crash (.read count next) (calls + 1) file =
      crash (next (some ((file.bytes.drop file.offset).take count))) calls
        { file with
          offset := file.offset + ((file.bytes.drop file.offset).take count).length } := rfl

@[simp] theorem crash_write (data : List UInt8) (next : Int → FileProgram Result) (calls : Nat)
    (file : OpenFile) :
    crash (.write data next) (calls + 1) file =
      crash (next data.length) calls
        ⟨OpenFile.overwrite file.bytes file.offset data, file.offset + data.length⟩ := rfl

end FileProgram
