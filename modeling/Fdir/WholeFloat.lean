/-
This file is a small library about whole numbers in single precision.

A number below `2 ^ 23` is represented exactly, sums and differences of such numbers are exact
as long as they stay below it, and comparing their representations is comparing the numbers. So
a program that only ever computes with such numbers can be reasoned about over `Nat`.
-/

import Mathlib

namespace WholeFloat

open Float.Model (Format UnpackedFloat totalExponent)
open Float.Model.UnpackedFloat

/-! ### Rounding -/

/-- A number in canonical form: its highest bit moved to the implicit bit. -/
def whole (sign : Sign) (number : Nat) : UnpackedFloat :=
  if zero : number = 0 then .zero sign
  else .finite sign (number * 2 ^ (23 - number.log2)) (number.log2 - 23)
    (Nat.mul_pos (Nat.pos_of_ne_zero zero) (Nat.two_pow_pos _))

theorem log2_mul_two_pow {number : Nat} (nonzero : number ≠ 0) (places : Nat) :
    (number * 2 ^ places).log2 = number.log2 + places := by
  rw [Nat.log2_eq_iff (Nat.mul_ne_zero nonzero (Nat.two_pow_pos _).ne')]
  constructor
  · rw [Nat.pow_add]
    exact Nat.mul_le_mul_right _ (Nat.log2_self_le nonzero)
  · rw [Nat.add_right_comm, Nat.pow_add]
    exact Nat.mul_lt_mul_of_pos_right Nat.lt_log2_self (Nat.two_pow_pos _)

/-- Zeros that are shifted out are not missed. -/
theorem shiftRight_exact (mantissa places : Nat) :
    (ExtendedMantissa.mk (mantissa * 2 ^ places) false false >>> places) =
      ⟨mantissa, false, false⟩ := by
  change places.repeat ExtendedMantissa.shiftRightOne _ = _
  induction places generalizing mantissa with
  | zero => rw [Nat.pow_zero, Nat.mul_one]; rfl
  | succ places inductionHypothesis =>
    rw [Nat.pow_succ', ← Nat.mul_assoc, Nat.repeat, inductionHypothesis]
    simp [ExtendedMantissa.shiftRightOne]

theorem shiftToTargetExponent_exact {mantissa : Nat} (full : mantissa.log2 = 23) {exponent : Int}
    (range : -149 ≤ exponent) (places : Nat) :
    shiftToTargetExponent Format.binary32 (mantissa * 2 ^ places) (exponent - places) .exact =
      (⟨mantissa, false, false⟩, exponent) := by
  have nonzero : mantissa ≠ 0 := by
    rintro rfl
    cases full
  have target : Format.binary32.targetExponent
      (totalExponent (mantissa * 2 ^ places) (exponent - places)) = exponent := by
    rw [Format.targetExponent, totalExponent, log2_mul_two_pow nonzero, full]
    change max (_ - (24 : Int)) (-149) = _
    omega
  have amount : (exponent - (exponent - places)).toNat = places := by omega
  rw [shiftToTargetExponent, target, shiftToExponent, amount]
  change (ExtendedMantissa.mk (mantissa * 2 ^ places) false false >>> places, _) = _
  rw [shiftRight_exact, Int.sub_add_cancel]

theorem log2_le {number : Nat} (small : number < 2 ^ 24) : number.log2 ≤ 23 := by
  by_cases zero : number = 0
  · rw [zero]
    decide
  · exact Nat.lt_succ_iff.mp ((Nat.log2_lt zero).mpr small)

theorem log2_canonical {number : Nat} (nonzero : number ≠ 0) (small : number < 2 ^ 24) :
    (number * 2 ^ (23 - number.log2)).log2 = 23 := by
  rw [log2_mul_two_pow nonzero, Nat.add_sub_cancel' (log2_le small)]

theorem roundWithAccuracy_exact (sign : Sign) {number : Nat} (nonzero : number ≠ 0)
    (small : number < 2 ^ 24) (places : Nat) :
    roundWithAccuracy Format.binary32 sign (number * 2 ^ (23 - number.log2) * 2 ^ places)
      (number.log2 - 23 - places) .exact = whole sign number := by
  have full := log2_canonical nonzero small
  have range : (-149 : Int) ≤ number.log2 - 23 := by omega
  have again := shiftToTargetExponent_exact full range 0
  rw [Nat.pow_zero, Nat.mul_one, Int.natCast_zero, Int.sub_zero] at again
  have positive : number * 2 ^ (23 - number.log2) ≠ 0 :=
    Nat.mul_ne_zero nonzero (Nat.two_pow_pos _).ne'
  simp only [roundWithAccuracy, shiftToTargetExponent_exact full range,
    ExtendedMantissa.roundedMantissa, ExtendedMantissa.accuracy, Accuracy.roundToNearestEven,
    again, whole, dif_neg nonzero, dif_neg positive]

/-- Rounding a small number that is written with any number of binary places changes nothing. -/
theorem round_exact (sign : Sign) {number : Nat} (nonzero : number ≠ 0)
    (small : number < 2 ^ 24) (places : Nat) :
    UnpackedFloat.round Format.binary32 sign (number * 2 ^ places) (-places) =
      whole sign number := by
  have target : Format.binary32.targetExponent
      (totalExponent (number * 2 ^ places) (-places)) = number.log2 - 23 := by
    rw [Format.targetExponent, totalExponent, log2_mul_two_pow nonzero]
    change max (_ - (24 : Int)) (-149) = _
    omega
  have low := log2_le small
  have exact := roundWithAccuracy_exact sign nonzero small (places - (23 - number.log2))
  rw [Nat.mul_assoc, ← Nat.pow_add] at exact
  have shifts : places + (-(places : Int) - (number.log2 - 23)).toNat =
      23 - number.log2 + (places - (23 - number.log2)) := by omega
  have exponents : -(places : Int) - (-(places : Int) - (number.log2 - 23)).toNat =
      number.log2 - 23 - (places - (23 - number.log2) : Nat) := by omega
  simp only [UnpackedFloat.round, target, decreaseExponent, Nat.shiftLeft_eq]
  rw [Nat.mul_assoc, ← Nat.pow_add, shifts, exponents]
  exact exact

/-! ### Arithmetic -/

theorem whole_of_ne {number : Nat} (nonzero : number ≠ 0) (sign : Sign) :
    ∃ positive, whole sign number =
      .finite sign (number * 2 ^ (23 - number.log2)) (number.log2 - 23) positive :=
  ⟨_, dif_neg nonzero⟩

theorem normalize_exact {number : Nat} (small : number < 2 ^ 24) (places : Nat) :
    UnpackedFloat.normalize Format.binary32 (number * 2 ^ places : Nat) (-places) .positive =
      whole .positive number := by
  by_cases zero : number = 0
  · subst zero
    rw [Nat.zero_mul]
    rfl
  · have positive : (0 : Int) < (number * 2 ^ places : Nat) :=
      Int.natCast_pos.mpr (Nat.mul_pos (Nat.pos_of_ne_zero zero) (Nat.two_pow_pos _))
    rw [UnpackedFloat.normalize, Int.compare_eq_gt.mpr positive]
    exact round_exact .positive zero small places

theorem normalize_neg_exact {number : Nat} (nonzero : number ≠ 0) (small : number < 2 ^ 24)
    (places : Nat) :
    UnpackedFloat.normalize Format.binary32 (-(number * 2 ^ places : Nat)) (-places) .positive =
      whole .negative number := by
  have positive : (0 : Int) < (number * 2 ^ places : Nat) :=
    Int.natCast_pos.mpr (Nat.mul_pos (Nat.pos_of_ne_zero nonzero) (Nat.two_pow_pos _))
  rw [UnpackedFloat.normalize, Int.compare_eq_lt.mpr (Int.neg_neg_of_pos positive), Int.neg_neg]
  exact round_exact .negative nonzero small places

theorem ofNat_exact {number : Nat} (small : number < 2 ^ 24) :
    UnpackedFloat.ofNat Format.binary32 number = whole .positive number := by
  have exact := normalize_exact small 0
  rwa [Nat.pow_zero, Nat.mul_one] at exact

/-- Two numbers written with as many places as the smaller exponent asks for. -/
theorem decreaseExponent_common {number places : Nat} (fits : 23 - number.log2 ≤ places)
    (low : number.log2 ≤ 23) :
    decreaseExponent (number * 2 ^ (23 - number.log2)) (number.log2 - 23) (-places) =
      (number * 2 ^ places, -(places : Int)) := by
  have shifts : 23 - number.log2 + ((number.log2 : Int) - 23 - -places).toNat = places := by omega
  have exponents : (number.log2 : Int) - 23 - ((number.log2 : Int) - 23 - -places).toNat =
      -places := by omega
  rw [decreaseExponent, Nat.shiftLeft_eq, Nat.mul_assoc, ← Nat.pow_add, shifts, exponents]

theorem min_exponent {first second : Nat} (low : first.log2 ≤ 23) (low' : second.log2 ≤ 23) :
    min ((first.log2 : Int) - 23) (second.log2 - 23) =
      -(max (23 - first.log2) (23 - second.log2) : Nat) := by
  omega

theorem add_exact {first second : Nat} (small : first + second < 2 ^ 24) :
    UnpackedFloat.add Format.binary32 (whole .positive first) (whole .positive second) =
      whole .positive (first + second) := by
  by_cases zero : first = 0
  · subst zero
    rw [Nat.zero_add]
    by_cases zero : second = 0
    · subst zero
      rfl
    · obtain ⟨_, form⟩ := whole_of_ne zero .positive
      rw [form]
      rfl
  by_cases zero' : second = 0
  · subst zero'
    obtain ⟨_, form⟩ := whole_of_ne zero .positive
    rw [Nat.add_zero, form]
    rfl
  obtain ⟨_, form⟩ := whole_of_ne zero .positive
  obtain ⟨_, form'⟩ := whole_of_ne zero' .positive
  have low := log2_le (Nat.lt_of_le_of_lt (Nat.le_add_right first second) small)
  have low' := log2_le (Nat.lt_of_le_of_lt (Nat.le_add_left second first) small)
  have places := min_exponent low low'
  rw [form, form']
  simp only [UnpackedFloat.add, places, decreaseExponent_common (Nat.le_max_left _ _) low,
    decreaseExponent_common (Nat.le_max_right _ _) low', Sign.apply]
  rw [← Int.natCast_add, ← Nat.add_mul]
  exact normalize_exact small _

theorem sub_exact {first second : Nat} (small : first < 2 ^ 24) (small' : second < 2 ^ 24) :
    UnpackedFloat.sub Format.binary32 (whole .positive first) (whole .positive second) =
      if first < second then whole .negative (second - first)
      else whole .positive (first - second) := by
  by_cases zero' : second = 0
  · subst zero'
    rw [if_neg (Nat.not_lt_zero _), Nat.sub_zero]
    by_cases zero : first = 0
    · subst zero
      rfl
    · obtain ⟨_, form⟩ := whole_of_ne zero .positive
      rw [form]
      rfl
  by_cases zero : first = 0
  · subst zero
    obtain ⟨_, form⟩ := whole_of_ne zero' .positive
    obtain ⟨_, form'⟩ := whole_of_ne zero' .negative
    rw [if_pos (Nat.pos_of_ne_zero zero'), Nat.sub_zero, form, form']
    rfl
  obtain ⟨_, form⟩ := whole_of_ne zero .positive
  obtain ⟨_, form'⟩ := whole_of_ne zero' .positive
  have places := min_exponent (log2_le small) (log2_le small')
  rw [form, form']
  simp only [UnpackedFloat.sub, places,
    decreaseExponent_common (Nat.le_max_left _ _) (log2_le small),
    decreaseExponent_common (Nat.le_max_right _ _) (log2_le small'), Sign.apply]
  split
  next below =>
    have difference := Int.natCast_sub (Nat.mul_le_mul_right
      (2 ^ max (23 - first.log2) (23 - second.log2)) (Nat.le_of_lt below))
    rw [← Nat.sub_mul] at difference
    rw [← Int.neg_sub, ← difference]
    exact normalize_neg_exact (by omega) (by omega) _
  next above =>
    have difference := Int.natCast_sub (Nat.mul_le_mul_right
      (2 ^ max (23 - first.log2) (23 - second.log2)) (Nat.le_of_not_lt above))
    rw [← Nat.sub_mul] at difference
    rw [← difference]
    exact normalize_exact (by omega) _

theorem mul_one_exact {number : Nat} (small : number < 2 ^ 24) :
    UnpackedFloat.mul Format.binary32 (whole .positive number) (whole .positive 1) =
      whole .positive number := by
  by_cases zero : number = 0
  · subst zero
    rfl
  obtain ⟨_, form⟩ := whole_of_ne zero .positive
  obtain ⟨_, form'⟩ := whole_of_ne Nat.one_ne_zero .positive
  have exact := roundWithAccuracy_exact .positive zero small 23
  rw [form, form'] at *
  exact exact

/-! ### Packing -/

/-- The bits of a canonical number. -/
theorem pack_whole (sign : Sign) {number : Nat} (nonzero : number ≠ 0)
    (small : number < 2 ^ 24) :
    pack Format.binary32 (whole sign number) =
      packComponents Format.binary32 sign (BitVec.ofNat 8 (number.log2 + 127))
        (BitVec.ofNat 23 (number * 2 ^ (23 - number.log2))) := by
  have low := log2_le small
  have biased : ((number.log2 : Int) - 23 + (Format.binary32.exponentBias : Nat) +
      (Format.binary32.mantissaBitsWithoutImplicit : Nat)).toNat = number.log2 + 127 := by
    change ((number.log2 : Int) - 23 + (127 : Nat) + (23 : Nat)).toNat = _
    omega
  have finite : ¬ 2 ^ Format.binary32.exponentBits ≤ number.log2 + 127 + 1 := by
    change ¬ 256 ≤ _
    omega
  obtain ⟨_, form⟩ := whole_of_ne nonzero sign
  rw [form]
  simp only [pack, biased, if_neg finite, log2_canonical nonzero small]
  exact if_pos rfl

/-- The implicit bit is put back in front of the others. -/
theorem toNat_implicit {mantissa : Nat} (full : mantissa.log2 = 23) :
    (1#1 ++ BitVec.ofNat 23 mantissa).toNat = mantissa := by
  have nonzero : mantissa ≠ 0 := by
    rintro rfl
    cases full
  obtain ⟨above, below⟩ := (Nat.log2_eq_iff nonzero).mp full
  rw [BitVec.toNat_append, BitVec.toNat_ofNat, BitVec.toNat_ofNat,
    ← Nat.shiftLeft_add_eq_or_of_lt (Nat.mod_lt _ (Nat.two_pow_pos _)), Nat.shiftLeft_eq]
  omega

/-- A canonical number comes back from its bits. -/
theorem unpack_pack (sign : Sign) {number : Nat} (small : number < 2 ^ 24) :
    unpack Format.binary32 (pack Format.binary32 (whole sign number)) = whole sign number := by
  by_cases zero : number = 0
  · subst zero
    cases sign <;> rfl
  have low := log2_le small
  have exponent : (BitVec.ofNat 8 (number.log2 + 127)).toNat = number.log2 + 127 := by
    rw [BitVec.toNat_ofNat]
    omega
  have notInfinity : BitVec.ofNat 8 (number.log2 + 127) ≠ -1#8 := by
    intro same
    rw [same] at exponent
    change 255 = _ at exponent
    omega
  have notZero : BitVec.ofNat 8 (number.log2 + 127) ≠ 0#8 := by
    intro same
    rw [same] at exponent
    change 0 = _ at exponent
    omega
  have unbiased : ((number.log2 + 127 : Nat) : Int) -
      ((Format.binary32.exponentBias : Nat) + (Format.binary32.mantissaBitsWithoutImplicit : Nat)) =
      number.log2 - 23 := by
    change ((number.log2 + 127 : Nat) : Int) - ((127 : Nat) + (23 : Nat)) = _
    omega
  obtain ⟨_, form⟩ := whole_of_ne zero sign
  rw [pack_whole sign zero small]
  simp only [unpack, unpackExponent_packComponents, unpackMantissa_packComponents,
    unpackSign_packComponents, Sign.ofBitVec_toBitVec, if_neg notInfinity, if_neg notZero,
    exponent, unbiased, toNat_implicit (log2_canonical zero small), form]

/-! ### Comparing -/

theorem compare_mul_pos {factor : Nat} (positive : 0 < factor) (first second : Nat) :
    compare (first * factor) (second * factor) = compare first second := by
  rcases Nat.lt_trichotomy first second with below | rfl | above
  · rw [compare_lt_iff_lt.mpr below,
      compare_lt_iff_lt.mpr (Nat.mul_lt_mul_of_pos_right below positive)]
  · rw [compare_eq_iff_eq.mpr rfl, compare_eq_iff_eq.mpr rfl]
  · rw [compare_gt_iff_gt.mpr above,
      compare_gt_iff_gt.mpr (Nat.mul_lt_mul_of_pos_right above positive)]

theorem lt_of_log2_lt {first second : Nat} (nonzero : second ≠ 0)
    (below : first.log2 < second.log2) : first < second :=
  calc first < 2 ^ (first.log2 + 1) := Nat.lt_log2_self
    _ ≤ 2 ^ second.log2 := Nat.pow_le_pow_right (by decide) below
    _ ≤ second := Nat.log2_self_le nonzero

theorem compare_whole (first second : Nat) :
    (whole .positive first).compare (whole .positive second) = some (compare first second) := by
  by_cases zero : first = 0 <;> by_cases zero' : second = 0
  · subst zero zero'
    rfl
  · subst zero
    obtain ⟨_, form⟩ := whole_of_ne zero' .positive
    rw [form, compare_lt_iff_lt.mpr (Nat.pos_of_ne_zero zero')]
    rfl
  · subst zero'
    obtain ⟨_, form⟩ := whole_of_ne zero .positive
    rw [form, compare_gt_iff_gt.mpr (Nat.pos_of_ne_zero zero)]
    rfl
  obtain ⟨_, form⟩ := whole_of_ne zero .positive
  obtain ⟨_, form'⟩ := whole_of_ne zero' .positive
  rw [form, form', UnpackedFloat.compare]
  congr 1
  -- The exponents decide unless they agree, and then the mantissas are moved equally far.
  rcases Nat.lt_trichotomy first.log2 second.log2 with below | same | above
  · have exponents : (first.log2 : Int) - 23 < second.log2 - 23 := by omega
    rw [compare_lt_iff_lt.mpr exponents, compare_lt_iff_lt.mpr (lt_of_log2_lt zero' below)]
    rfl
  · rw [same, compare_eq_iff_eq.mpr rfl, compare_mul_pos (Nat.two_pow_pos _)]
    rfl
  · have exponents : (second.log2 : Int) - 23 < first.log2 - 23 := by omega
    rw [compare_gt_iff_gt.mpr exponents, compare_gt_iff_gt.mpr (lt_of_log2_lt zero above)]
    rfl

/-! ### Single precision -/

/-- The conversion multiplies by the zeroth power of ten, which is exact too. -/
theorem toFloat32_eq {number : Nat} (small : number < 2 ^ 23) :
    number.toFloat32 = .ofModel (.pack (whole .positive number)) := by
  have one : ∀ _ : 0 < Float32.exactlyRepresentablePowersOfTen.size,
      Float32.exactlyRepresentablePowersOfTen[0] = .ofModel (.pack (whole .positive 1)) := by
    decide +kernel
  have word : number.toUInt64.toNat = number := by
    rw [Nat.toUInt64, UInt64.toNat_ofNat']
    exact Nat.mod_eq_of_lt (by omega)
  have small' : number < 2 ^ 24 := by omega
  change Float32.ofScientific number false 0 = _
  rw [Float32.ofScientific, dif_pos ⟨small, by decide⟩]
  simp only [one, Bool.false_eq_true, if_false]
  change Float32.ofModel (.pack (UnpackedFloat.mul _
    (UnpackedFloat.unpack _ (UnpackedFloat.pack _ (UnpackedFloat.ofNat _ number.toUInt64.toNat)))
    (UnpackedFloat.unpack _ (UnpackedFloat.pack _ (whole .positive 1))))) = _
  rw [word, ofNat_exact small', unpack_pack .positive small', unpack_pack .positive (by decide),
    mul_one_exact small']

theorem unpack_toFloat32 {number : Nat} (small : number < 2 ^ 23) :
    number.toFloat32.toModel.unpack = whole .positive number := by
  rw [toFloat32_eq small]
  exact unpack_pack .positive (by omega)

theorem add_toFloat32 {first second : Nat} (small : first + second < 2 ^ 23) :
    first.toFloat32 + second.toFloat32 = (first + second).toFloat32 := by
  change Float32.ofModel (.pack (UnpackedFloat.add _ first.toFloat32.toModel.unpack
    second.toFloat32.toModel.unpack)) = _
  rw [unpack_toFloat32 (by omega), unpack_toFloat32 (by omega), add_exact (by omega),
    toFloat32_eq small]

theorem sub_toFloat32 {first second : Nat} (small : first < 2 ^ 23) (above : second ≤ first) :
    first.toFloat32 - second.toFloat32 = (first - second).toFloat32 := by
  change Float32.ofModel (.pack (UnpackedFloat.sub _ first.toFloat32.toModel.unpack
    second.toFloat32.toModel.unpack)) = _
  rw [unpack_toFloat32 small, unpack_toFloat32 (by omega), sub_exact (by omega) (by omega),
    if_neg (Nat.not_lt.mpr above), toFloat32_eq (by omega)]

theorem lt_toFloat32 {first second : Nat} (small : first < 2 ^ 23) (small' : second < 2 ^ 23) :
    first.toFloat32 < second.toFloat32 ↔ first < second := by
  change decide ((first.toFloat32.toModel.unpack.compare second.toFloat32.toModel.unpack ==
    some .lt) = true) = true ↔ _
  rw [unpack_toFloat32 small, unpack_toFloat32 small', compare_whole, decide_eq_true_iff,
    beq_iff_eq, Option.some.injEq, compare_lt_iff_lt]

theorem le_toFloat32 {first second : Nat} (small : first < 2 ^ 23) (small' : second < 2 ^ 23) :
    first.toFloat32 ≤ second.toFloat32 ↔ first ≤ second := by
  change decide ((first.toFloat32.toModel.unpack.compare second.toFloat32.toModel.unpack).any
    (·.isLE) = true) = true ↔ _
  rw [unpack_toFloat32 small, unpack_toFloat32 small', compare_whole, decide_eq_true_iff,
    Option.any_some, Ordering.isLE_iff_ne_gt]
  exact compare_le_iff_le

/-- A difference that would be negative is below zero. -/
theorem sub_toFloat32_lt_zero {first second : Nat} (small : second < 2 ^ 23)
    (below : first < second) : first.toFloat32 - second.toFloat32 < (0).toFloat32 := by
  change decide ((UnpackedFloat.compare (UnpackedFloat.unpack _ (UnpackedFloat.pack _
    (UnpackedFloat.sub _ first.toFloat32.toModel.unpack second.toFloat32.toModel.unpack)))
    (0).toFloat32.toModel.unpack == some .lt) = true) = true
  obtain ⟨_, form⟩ := whole_of_ne (Nat.sub_ne_zero_of_lt below) .negative
  rw [unpack_toFloat32 (by omega), unpack_toFloat32 small, unpack_toFloat32 (by decide),
    sub_exact (by omega) (by omega), if_pos below, unpack_pack .negative (by omega), form]
  rfl

/-- Subtracting down to zero and no further is subtraction of natural numbers. -/
theorem clamp_sub_toFloat32 {first second : Nat} (small : first < 2 ^ 23)
    (small' : second < 2 ^ 23) :
    (if first.toFloat32 - second.toFloat32 < (0).toFloat32 then (0).toFloat32
      else first.toFloat32 - second.toFloat32) = (first - second).toFloat32 := by
  by_cases below : first < second
  · rw [if_pos (sub_toFloat32_lt_zero small' below), Nat.sub_eq_zero_of_le (Nat.le_of_lt below)]
  · rw [sub_toFloat32 small (Nat.le_of_not_lt below), if_neg]
    rw [lt_toFloat32 (by omega) (by decide)]
    exact Nat.not_lt_zero _

/-- Adding up to a limit and no further. -/
theorem clamp_add_toFloat32 {first second limit : Nat} (small : first + second < 2 ^ 23)
    (small' : limit < 2 ^ 23) :
    (if limit.toFloat32 < first.toFloat32 + second.toFloat32 then limit.toFloat32
      else first.toFloat32 + second.toFloat32) = (min limit (first + second)).toFloat32 := by
  rw [add_toFloat32 small]
  by_cases exceeds : limit < first + second
  · rw [if_pos ((lt_toFloat32 small' small).mpr exceeds), Nat.min_eq_left (Nat.le_of_lt exceeds)]
  · rw [if_neg (mt (lt_toFloat32 small' small).mp exceeds),
      Nat.min_eq_right (Nat.le_of_not_lt exceeds)]

end WholeFloat
