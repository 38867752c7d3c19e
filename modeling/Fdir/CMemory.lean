/-
This file models the C strings, character arrays and 32-bit words a C program keeps
in memory.

A character array is a list of bytes of a fixed length; the string it holds is what
comes before its first NUL, if it has one. `strcpy` writes a whole string and its
terminator and is undefined where they do not fit; `strncpy` writes exactly as many
bytes as it is told to, padding with NULs and leaving the rest of the destination as it
was. A 32-bit word is stored low byte first.
-/

import Mathlib.Algebra.Group.Nat.Defs
import Mathlib.Data.List.TakeWhile

namespace CMemory

/-! ### Strings and arrays -/

/-- A C string without its terminator: bytes with no NUL among them. -/
structure CString where
  bytes : List UInt8
  noNul : (0 : UInt8) ∉ bytes
deriving DecidableEq

/-- The bytes before the first NUL. -/
def CString.before (bytes : List UInt8) : CString where
  bytes := bytes.takeWhile (· ≠ 0)
  noNul := fun member => by simpa using List.mem_takeWhile_imp member

/-- A string literal, in UTF-8. -/
def CString.literal (text : String) : CString := .before text.toUTF8.data.toList

/-- The first `count` bytes of a string. -/
def CString.cut (source : CString) (count : Nat) : CString where
  bytes := source.bytes.take count
  noNul := fun member => source.noNul (List.mem_of_mem_take member)

/-- `char array[size]`. -/
structure CharArray (size : Nat) where
  bytes : List UInt8
  length_bytes : bytes.length = size
deriving DecidableEq

namespace CharArray

variable {size : Nat}

/-- The array a `memset` to zero or an initialiser `{0}` leaves. -/
def zeros (size : Nat) : CharArray size := ⟨List.replicate size 0, List.length_replicate⟩

/-- The array that starts with some bytes and is zeros behind them. -/
def fill (bytes : List UInt8) (fits : bytes.length ≤ size) : CharArray size :=
  ⟨bytes ++ List.replicate (size - bytes.length) 0, by
    rw [List.length_append, List.length_replicate]
    omega⟩

/-- The string the array holds: everything before its first NUL. -/
def text (array : CharArray size) : CString := .before array.bytes

/-- Some byte of the array is NUL, so reading it as a string stays inside it. -/
def Terminated (array : CharArray size) : Prop := (0 : UInt8) ∈ array.bytes

instance (array : CharArray size) : Decidable array.Terminated :=
  inferInstanceAs (Decidable (_ ∈ _))

/-- The array after a string that fits and its terminator are written at its start. -/
def put (destination : CharArray size) (source : CString) (fits : source.bytes.length < size) :
    CharArray size :=
  ⟨source.bytes ++ 0 :: destination.bytes.drop (source.bytes.length + 1), by
    rw [List.length_append, List.length_cons, List.length_drop, destination.length_bytes]
    omega⟩

/-- `strcpy(destination, "source")`, undefined when the string and its terminator do not fit. -/
def strcpyString (destination : CharArray size) (source : CString) : Option (CharArray size) :=
  if fits : source.bytes.length < size then some (destination.put source fits) else none

/-- `strcpy(destination, source)` between arrays, undefined also when the source has no
terminator to stop at. -/
def strcpy {capacity : Nat} (destination : CharArray size) (source : CharArray capacity) :
    Option (CharArray size) :=
  if source.Terminated then destination.strcpyString source.text else none

/-- `strncpy(destination, source, count)` for a count within the destination. -/
def strncpy (destination : CharArray size) (source : CString) (count : Nat)
    (within : count ≤ size) : CharArray size :=
  ⟨(source.bytes.take count ++ List.replicate (count - source.bytes.length) 0) ++
      destination.bytes.drop count, by
    simp only [List.length_append, List.length_take, List.length_replicate, List.length_drop,
      destination.length_bytes]
    omega⟩

/-- `strncpy(destination, source, sizeof(destination) - 1)`. -/
def strncpyButLast (destination : CharArray size) (source : CString) : CharArray size :=
  destination.strncpy source (size - 1) (Nat.sub_le _ _)

/-- `array[index]`, undefined outside the array. -/
def fetch (array : CharArray size) (index : Nat) : Option UInt8 := array.bytes[index]?

/-- `array[index] = byte`, undefined outside the array. -/
def store (array : CharArray size) (index : Nat) (byte : UInt8) : Option (CharArray size) :=
  if index < size then
    some ⟨array.bytes.set index byte, by rw [List.length_set, array.length_bytes]⟩
  else none

/-- Bytes stored one after the other from an index on, as by `memset` and `read`. -/
def storeFrom : CharArray size → Nat → List UInt8 → Option (CharArray size)
  | array, _, [] => some array
  | array, index, byte :: rest =>
    (array.store index byte).bind fun array => storeFrom array (index + 1) rest

/-- The array stored at an offset of a stretch of memory; what the memory lacks reads as
zeros. -/
def load (size offset : Nat) (memory : List UInt8) : CharArray size :=
  ⟨(memory.drop offset ++ List.replicate size 0).take size, by
    simp only [List.length_take, List.length_append, List.length_replicate]
    omega⟩

/-- An array is read back from where it was stored. -/
theorem load_at (array : CharArray size) (front back : List UInt8) (offset : Nat)
    (place : front.length = offset) : load size offset (front ++ array.bytes ++ back) = array := by
  obtain ⟨bytes, length_bytes⟩ := array
  simp only [load, mk.injEq]
  rw [List.append_assoc, ← place, List.drop_left, List.append_assoc,
    List.take_left' length_bytes]

/-- Reading a terminated array as a string stops inside the array. -/
theorem Terminated.length_text {array : CharArray size} (terminated : array.Terminated) :
    array.text.bytes.length < size := by
  have longer : array.text.bytes.length ≠ array.bytes.length := by
    intro same
    have whole : array.text.bytes = array.bytes :=
      (List.takeWhile_prefix _).eq_of_length same
    exact array.text.noNul (whole ▸ terminated)
  have bound : array.text.bytes.length ≤ array.bytes.length :=
    (List.takeWhile_prefix _).length_le
  rw [array.length_bytes] at longer bound
  omega

/-- A string followed by a NUL is read back whole. -/
theorem before_append_nul (source : CString) (rest : List UInt8) :
    CString.before (source.bytes ++ 0 :: rest) = source := by
  have positive : ∀ byte ∈ source.bytes, decide (byte ≠ 0) = true := by
    intro byte member
    exact decide_eq_true fun nul => source.noNul (nul ▸ member)
  have read : (source.bytes ++ 0 :: rest).takeWhile (· ≠ 0) = source.bytes := by
    rw [List.takeWhile_append_of_pos positive, List.takeWhile_cons_of_neg (by decide),
      List.append_nil]
  obtain ⟨bytes, noNul⟩ := source
  simp only [CString.before, CString.mk.injEq]
  exact read

/-- Bytes with no NUL among them and room for one behind them are a string. -/
theorem text_fill (source : CString) (fits : source.bytes.length < size) :
    (fill source.bytes fits.le : CharArray size).text = source := by
  obtain ⟨rest, room⟩ : ∃ rest, size - source.bytes.length = rest + 1 :=
    ⟨size - source.bytes.length - 1, by omega⟩
  simp only [text, fill, room, List.replicate_succ]
  exact before_append_nul source _

theorem eq_of_bytes {first second : CharArray size} (same : first.bytes = second.bytes) :
    first = second := by
  cases first
  cases second
  cases same
  rfl

theorem store_eq {array : CharArray size} {front back : List UInt8} {old : UInt8}
    (shape : array.bytes = front ++ old :: back) (byte : UInt8) :
    ∃ result, array.store front.length byte = some result ∧
      result.bytes = front ++ byte :: back := by
  have within : front.length < size := by
    rw [← array.length_bytes, shape, List.length_append, List.length_cons]
    omega
  refine ⟨_, if_pos within, ?_⟩
  simp [shape]

/-- Stores that all fall inside the array replace a stretch of it. -/
theorem storeFrom_eq {array : CharArray size} {front old back bytes : List UInt8}
    (shape : array.bytes = front ++ old ++ back) (same : bytes.length = old.length) :
    ∃ result, array.storeFrom front.length bytes = some result ∧
      result.bytes = front ++ bytes ++ back := by
  induction bytes generalizing array front old with
  | nil =>
    obtain rfl := List.length_eq_zero_iff.mp same.symm
    exact ⟨array, rfl, shape⟩
  | cons byte rest inductionHypothesis =>
    obtain ⟨first, more, rfl⟩ := List.exists_cons_of_length_eq_add_one same.symm
    rw [List.append_assoc, List.cons_append] at shape
    obtain ⟨stored, here, bytes⟩ := store_eq shape byte
    have moved : stored.bytes = (front ++ [byte]) ++ more ++ back := by
      simp [bytes]
    obtain ⟨result, there, whole⟩ := inductionHypothesis moved (Nat.succ.inj same)
    rw [List.length_append, List.length_singleton] at there
    refine ⟨result, ?_, by simpa using whole⟩
    rw [storeFrom, here, Option.bind_some, there]

/-- `memset(array, 0, sizeof(array))`. -/
theorem storeFrom_zeros (array : CharArray size) :
    array.storeFrom 0 (List.replicate size 0) = some (zeros size) := by
  obtain ⟨result, stored, bytes⟩ := storeFrom_eq
    (show array.bytes = [] ++ array.bytes ++ [] by simp)
    (show (List.replicate size (0 : UInt8)).length = array.bytes.length by
      rw [List.length_replicate, array.length_bytes])
  rw [List.nil_append, List.append_nil] at bytes
  exact stored.trans (congrArg some (eq_of_bytes bytes))

/-- Bytes stored at the start of a zeroed array. -/
theorem storeFrom_fill {bytes : List UInt8} (fits : bytes.length ≤ size) :
    (zeros size).storeFrom 0 bytes = some (fill bytes fits) := by
  have split : (zeros size).bytes = [] ++ List.replicate bytes.length 0 ++
      List.replicate (size - bytes.length) 0 := by
    rw [List.nil_append, List.replicate_append_replicate, Nat.add_sub_cancel' fits]
    rfl
  obtain ⟨result, stored, filled⟩ := storeFrom_eq split List.length_replicate.symm
  exact stored.trans (congrArg some (eq_of_bytes filled))

/-- The NUL behind the bytes can be stored again, and over the last of them. -/
theorem store_fill {front back : List UInt8} (fits : (front ++ back).length < size)
    (atMost : back.length ≤ 1) :
    (fill (front ++ back) fits.le : CharArray size).store front.length 0 =
      some (fill front (by rw [List.length_append] at fits; omega)) := by
  rw [List.length_append] at fits
  obtain ⟨old, shape⟩ : ∃ old, (fill (front ++ back) (by rw [List.length_append]; omega) :
      CharArray size).bytes = front ++ old :: List.replicate (size - front.length - 1) 0 := by
    rcases back with _ | ⟨last, _ | _⟩
    · refine ⟨0, ?_⟩
      rw [List.length_nil] at fits
      rw [← List.replicate_succ, Nat.sub_add_cancel (by omega)]
      simp only [fill, List.append_nil]
    · refine ⟨last, ?_⟩
      simp [fill, Nat.sub_sub]
    · simp at atMost
  obtain ⟨result, stored, bytes⟩ := store_eq shape 0
  refine stored.trans (congrArg some (eq_of_bytes (bytes.trans ?_)))
  rw [fill, ← List.replicate_succ]
  congr 2
  omega

/-- A string that fits is read back whole. -/
theorem text_put (destination : CharArray size) (source : CString)
    (fits : source.bytes.length < size) : (destination.put source fits).text = source :=
  before_append_nul _ _

theorem terminated_put (destination : CharArray size) (source : CString)
    (fits : source.bytes.length < size) : (destination.put source fits).Terminated :=
  List.mem_append_right _ List.mem_cons_self

/-- A `strcpy` between arrays of one size is defined as soon as the source is terminated. -/
theorem strcpy_same_size (destination source : CharArray size)
    (terminated : source.Terminated) :
    ∃ result, strcpy destination source = some result ∧ result.text = source.text := by
  rw [strcpy, if_pos terminated, strcpyString, dif_pos terminated.length_text]
  exact ⟨_, rfl, text_put _ _ _⟩

/-- A `strncpy` to all but the last byte of a zeroed array cuts the string to what fits and
terminates it. -/
theorem strncpyButLast_zeros (source : CString) (positive : 0 < size) :
    ((zeros size).strncpyButLast source).text = source.cut (size - 1) ∧
      ((zeros size).strncpyButLast source).Terminated := by
  obtain ⟨rest, shape⟩ : ∃ rest, ((zeros size).strncpyButLast source).bytes =
      (source.cut (size - 1)).bytes ++ 0 :: rest := by
    refine ⟨List.replicate (size - 1 - source.bytes.length + (size - (size - 1)) - 1) 0, ?_⟩
    simp only [strncpyButLast, strncpy, zeros, CString.cut, List.drop_replicate,
      List.append_assoc, List.replicate_append_replicate]
    rw [← List.replicate_succ]
    congr 2
    omega
  constructor
  · rw [text, shape, before_append_nul]
  · rw [Terminated, shape]
    exact List.mem_append_right _ List.mem_cons_self

/-- A `strncpy` to all but the last byte of an array that ends in a NUL leaves nothing of what
the array held, if the string fits. -/
theorem strncpyButLast_eq_fill {array : CharArray size} {source : CString}
    (fits : source.bytes.length < size) (lastNul : array.bytes.drop (size - 1) = [0]) :
    array.strncpyButLast source = fill source.bytes fits.le := by
  have room : size - source.bytes.length = size - 1 - source.bytes.length + 1 := by omega
  simp only [strncpyButLast, strncpy, fill, lastNul, mk.injEq]
  rw [List.take_of_length_le (by omega), room, List.replicate_succ', List.append_assoc]

theorem drop_fill {bytes : List UInt8} (fits : bytes.length < size) :
    (fill bytes fits.le : CharArray size).bytes.drop (size - 1) = [0] := by
  have room : size - bytes.length - (size - 1 - bytes.length) = 1 := by omega
  rw [fill, List.drop_append, List.drop_eq_nil_of_le (by omega), List.drop_replicate, room]
  rfl

theorem terminated_fill {bytes : List UInt8} (fits : bytes.length < size) :
    (fill bytes fits.le : CharArray size).Terminated :=
  List.mem_append_right _ (List.mem_replicate.mpr ⟨by omega, rfl⟩)

end CharArray

/-! ### Words -/

/-- The four bytes of a word, low byte first. -/
def storeWord (word : BitVec 32) : List UInt8 :=
  [UInt8.ofBitVec (word.extractLsb' 0 8), UInt8.ofBitVec (word.extractLsb' 8 8),
    UInt8.ofBitVec (word.extractLsb' 16 8), UInt8.ofBitVec (word.extractLsb' 24 8)]

/-- The word four bytes hold. -/
def loadWord : List UInt8 → BitVec 32
  | [first, second, third, fourth] =>
    fourth.toBitVec ++ third.toBitVec ++ second.toBitVec ++ first.toBitVec
  | _ => 0

@[simp] theorem length_storeWord (word : BitVec 32) : (storeWord word).length = 4 := rfl

@[simp] theorem loadWord_storeWord (word : BitVec 32) : loadWord (storeWord word) = word := by
  have high : word.extractLsb' 24 8 ++ word.extractLsb' 16 8 = word.extractLsb' 16 16 :=
    BitVec.extractLsb'_append_extractLsb'_eq_extractLsb' rfl
  have middle : word.extractLsb' 16 16 ++ word.extractLsb' 8 8 = word.extractLsb' 8 24 :=
    BitVec.extractLsb'_append_extractLsb'_eq_extractLsb' rfl
  have low : word.extractLsb' 8 24 ++ word.extractLsb' 0 8 = word.extractLsb' 0 32 :=
    BitVec.extractLsb'_append_extractLsb'_eq_extractLsb' rfl
  simp only [loadWord, storeWord]
  rw [high, middle, low, BitVec.extractLsb'_eq_self]

/-- A count below 2^31 is itself when read as a signed word. -/
theorem toInt_ofNat_of_lt {count : Nat} (small : count < 2 ^ 31) :
    (BitVec.ofNat 32 count).toInt = count := by
  have value : (BitVec.ofNat 32 count).toNat = count := by
    rw [BitVec.toNat_ofNat, Nat.mod_eq_of_lt (by omega)]
  rw [BitVec.toInt_eq_toNat_of_lt (by rw [value]; omega), value]

/-- A word is read back from where it was stored. -/
theorem loadWord_at (word : BitVec 32) (front back : List UInt8) (offset : Nat)
    (place : front.length = offset) :
    loadWord (((front ++ storeWord word ++ back).drop offset).take 4) = word := by
  rw [List.append_assoc, ← place, List.drop_left, List.take_left' (length_storeWord word),
    loadWord_storeWord]

end CMemory
