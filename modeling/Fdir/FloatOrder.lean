/-
This file is a small library about the order of single-precision numbers.

Each number other than a NaN has a rank in a linear order, the two zeros the same one, and
`<` and `≤` compare ranks. A NaN has no rank and is in neither relation with anything. The
usual rules of a linear order follow, except the ones that fail for a NaN: nothing here goes
from `¬ a < b` to `b ≤ a`.
-/

import Mathlib.Data.Prod.Lex
import Mathlib.Order.Lattice
import Mathlib.Data.Int.Order.Basic

namespace FloatOrder

open Float.Model (UnpackedFloat)

/-- Class, exponent and mantissa, compared in that order. -/
abbrev Rank := Int ×ₗ Int ×ₗ Int

def triple (kind exponent mantissa : Int) : Rank := toLex (kind, toLex (exponent, mantissa))

/-- The rank of an unpacked number. -/
def unpackedRank : UnpackedFloat → Option Rank
  | .notANumber => none
  | .infinity .negative => some (triple (-2) 0 0)
  | .finite .negative mantissa exponent _ => some (triple (-1) (-exponent) (-mantissa))
  | .zero _ => some (triple 0 0 0)
  | .finite .positive mantissa exponent _ => some (triple 1 exponent mantissa)
  | .infinity .positive => some (triple 2 0 0)

theorem compare_triple (kind kind' exponent exponent' mantissa mantissa' : Int) :
    compare (triple kind exponent mantissa) (triple kind' exponent' mantissa') =
      (compare kind kind').then ((compare exponent exponent').then (compare mantissa mantissa')) :=
  rfl

theorem compare_neg (first second : Int) : compare (-first) (-second) = compare second first := by
  rcases lt_trichotomy first second with below | rfl | above
  · rw [compare_gt_iff_gt.mpr (Int.neg_lt_neg below), compare_gt_iff_gt.mpr below]
  · rw [compare_eq_iff_eq.mpr rfl, compare_eq_iff_eq.mpr rfl]
  · rw [compare_lt_iff_lt.mpr (Int.neg_lt_neg above), compare_lt_iff_lt.mpr above]

theorem compare_cast (first second : Nat) :
    compare (first : Int) (second : Int) = compare first second := by
  rcases lt_trichotomy first second with below | rfl | above
  · rw [compare_lt_iff_lt.mpr below, compare_lt_iff_lt.mpr (Int.ofNat_lt.mpr below)]
  · rw [compare_eq_iff_eq.mpr rfl, compare_eq_iff_eq.mpr rfl]
  · rw [compare_gt_iff_gt.mpr above, compare_gt_iff_gt.mpr (Int.ofNat_lt.mpr above)]

/-- Comparing two numbers is comparing their ranks, if both have one. -/
theorem compare_eq (first second : UnpackedFloat) :
    first.compare second =
      (unpackedRank first).bind fun low => (unpackedRank second).map fun high =>
        compare low high := by
  rcases first with ⟨_ | _⟩ | _ | ⟨_ | _⟩ | ⟨_ | _, mantissa, exponent, positive⟩ <;>
    rcases second with ⟨_ | _⟩ | _ | ⟨_ | _⟩ | ⟨_ | _, mantissa', exponent', positive'⟩ <;>
    try rfl
  · show some ((compare exponent exponent').then (compare mantissa mantissa')).swap =
      some (compare (triple (-1) (-exponent) (-mantissa)) (triple (-1) (-exponent') (-mantissa')))
    rw [compare_triple, compare_neg exponent, compare_neg mantissa, compare_cast,
      Ordering.swap_then, ← Std.OrientedCmp.eq_swap, ← Std.OrientedCmp.eq_swap]
    rfl
  · show some ((compare exponent exponent').then (compare mantissa mantissa')) =
      some (compare (triple 1 exponent mantissa) (triple 1 exponent' mantissa'))
    rw [compare_triple, compare_cast]
    rfl

/-- The rank of a single-precision number. -/
def rank (value : Float32) : Option Rank := unpackedRank value.toModel.unpack

theorem lt_iff {first second : Float32} :
    first < second ↔
      ∃ low high, rank first = some low ∧ rank second = some high ∧ low < high := by
  change decide ((first.toModel.unpack.compare second.toModel.unpack == some .lt) = true) =
    true ↔ _
  rw [decide_eq_true_iff, compare_eq, rank, rank]
  cases unpackedRank first.toModel.unpack <;> cases unpackedRank second.toModel.unpack <;>
    simp [compare_lt_iff_lt]

theorem le_iff {first second : Float32} :
    first ≤ second ↔
      ∃ low high, rank first = some low ∧ rank second = some high ∧ low ≤ high := by
  change decide ((first.toModel.unpack.compare second.toModel.unpack).any (·.isLE) = true) =
    true ↔ _
  rw [decide_eq_true_iff, compare_eq, rank, rank]
  cases unpackedRank first.toModel.unpack <;> cases unpackedRank second.toModel.unpack <;>
    simp [Ordering.isLE_iff_ne_gt, compare_le_iff_le]

/-! ### Rules -/

theorem trans_le_lt {first second third : Float32} (lower : first ≤ second)
    (upper : second < third) : first < third := by
  obtain ⟨low, middle, firstRank, secondRank, below⟩ := le_iff.mp lower
  obtain ⟨_, high, again, thirdRank, above⟩ := lt_iff.mp upper
  cases secondRank.symm.trans again
  exact lt_iff.mpr ⟨low, high, firstRank, thirdRank, below.trans_lt above⟩

theorem trans_lt_le {first second third : Float32} (lower : first < second)
    (upper : second ≤ third) : first < third := by
  obtain ⟨low, middle, firstRank, secondRank, below⟩ := lt_iff.mp lower
  obtain ⟨_, high, again, thirdRank, above⟩ := le_iff.mp upper
  cases secondRank.symm.trans again
  exact lt_iff.mpr ⟨low, high, firstRank, thirdRank, below.trans_le above⟩

theorem le_of_lt {first second : Float32} (below : first < second) : first ≤ second := by
  obtain ⟨low, high, firstRank, secondRank, below⟩ := lt_iff.mp below
  exact le_iff.mpr ⟨low, high, firstRank, secondRank, below.le⟩

theorem asymm {first second : Float32} (below : first < second) : ¬ second < first := by
  intro above
  obtain ⟨low, high, firstRank, secondRank, below⟩ := lt_iff.mp below
  obtain ⟨_, _, again, other, above⟩ := lt_iff.mp above
  cases secondRank.symm.trans again
  cases firstRank.symm.trans other
  exact below.asymm above

theorem not_le_of_lt {first second : Float32} (below : first < second) : ¬ second ≤ first := by
  intro above
  have self := trans_le_lt above below
  exact asymm self self

/-- A value at or below a level is not above a higher one. -/
theorem not_lt_of_le {value level higher : Float32} (atMost : value ≤ level)
    (apart : level < higher) : ¬ higher < value :=
  asymm (trans_le_lt atMost apart)

/-- A value at or above a level is not below a lower one. -/
theorem not_lt_of_ge {value level lower : Float32} (atLeast : level ≤ value)
    (apart : lower < level) : ¬ value < lower :=
  asymm (trans_lt_le apart atLeast)

end FloatOrder
