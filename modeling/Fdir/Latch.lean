/-
This file is a small library of latches with hysteresis.

A latch is set by a critical value and cleared by a nominal one; between the two ranges it
keeps what it was. A value can be in the warning range as well, which is worth a remark only
while the latch is clear. The changes of a latch alternate, the first one a set; and after
any sequence of values it is set exactly when some value was critical and none since was
nominal.
-/

import Mathlib.Data.List.Induction

/-- What a latch calls critical, worth a warning, and nominal again. -/
structure Latch (Value : Type) where
  critical : Value → Bool
  warning : Value → Bool
  nominal : Value → Bool
  apart : ∀ value, critical value = true → nominal value = false

/-- What one value does to a latch. -/
inductive Verdict where
  | raised
  | warned
  | cleared
  | quiet
deriving DecidableEq

/-- The elements alternate, `next` being the first. -/
def Alternates (next : Bool) : List Bool → Prop
  | [] => True
  | head :: rest => head = next ∧ Alternates (!next) rest

/-! ### Alternation -/

/-- The changes a latch went through since it was clear, and where they left it. -/
structure Follows (active : Bool) (changes : List Bool) : Prop where
  alternates : Alternates true changes
  last : active = changes.getLast?.getD false

theorem alternates_append {next : Bool} {changes : List Bool} {last : Bool} :
    Alternates next (changes ++ [last]) ↔
      Alternates next changes ∧ last = (changes.getLast?.elim next Bool.not) := by
  induction changes generalizing next with
  | nil => simp [Alternates]
  | cons head rest inductionHypothesis =>
    rw [List.cons_append, Alternates, Alternates, inductionHypothesis, and_assoc]
    refine and_congr_right fun same => and_congr_right fun _ => ?_
    cases rest with
    | nil => simp [same]
    | cons second others =>
      rw [List.getLast?_cons_cons, List.getLast?_eq_some_getLast (List.cons_ne_nil _ _)]
      rfl

theorem Alternates.front {next : Bool} {front back : List Bool}
    (alternates : Alternates next (front ++ back)) : Alternates next front := by
  induction front generalizing next with
  | nil => trivial
  | cons head rest inductionHypothesis =>
    exact ⟨alternates.1, inductionHypothesis alternates.2⟩

/-- There is one more of the first element exactly when it is the last one too. -/
theorem Alternates.count {changes : List Bool} (alternates : Alternates true changes) :
    changes.count true =
      changes.count false + if changes.getLast? = some true then 1 else 0 := by
  induction changes using List.reverseRecOn with
  | nil => rfl
  | append_singleton front last inductionHypothesis =>
    obtain ⟨before, next⟩ := alternates_append.mp alternates
    have counted := inductionHypothesis before
    rw [List.count_append, List.count_append, List.getLast?_concat]
    cases ending : front.getLast? with
    | none =>
      rw [ending] at counted next
      subst next
      simpa using counted
    | some previous =>
      rw [ending] at counted next
      cases previous <;> subst next <;> simpa using counted

namespace Follows

variable {active : Bool} {changes : List Bool}

theorem nil : Follows false [] := ⟨trivial, rfl⟩

/-- The next change is to the other state. -/
theorem snoc (follows : Follows active changes) : Follows (!active) (changes ++ [!active]) where
  alternates := by
    refine alternates_append.mpr ⟨follows.alternates, ?_⟩
    rw [follows.last]
    cases changes.getLast? <;> rfl
  last := by rw [List.getLast?_concat, Option.getD_some]

end Follows

/-! ### Latches -/

namespace Verdict

/-- The latch after the verdict. -/
def applied : Verdict → Bool → Bool
  | raised, _ => true
  | warned, active => active
  | cleared, _ => false
  | quiet, active => active

/-- The state the verdict changed the latch to. -/
def change? : Verdict → Option Bool
  | raised => some true
  | warned => none
  | cleared => some false
  | quiet => none

theorem applied_eq (verdict : Verdict) (active : Bool) :
    verdict.applied active = verdict.change?.getD active := by
  cases verdict <;> rfl

end Verdict

namespace Latch

variable {Value : Type} (latch : Latch Value)

/-- Compare one value with the three ranges in turn. -/
def judge (active : Bool) (value : Value) : Verdict :=
  if latch.critical value && !active then .raised
  else if latch.warning value && !active then .warned
  else if latch.nominal value && active then .cleared
  else .quiet

/-- The latch after one value. -/
def next (active : Bool) (value : Value) : Bool := (latch.judge active value).applied active

/-- The latch after a sequence of values, when it starts clear. -/
def after (values : List Value) : Bool := values.foldl latch.next false

/-- Only the critical and the nominal range decide where the latch goes. -/
theorem next_eq (active : Bool) (value : Value) :
    latch.next active value =
      if latch.critical value then true else if latch.nominal value then false else active := by
  have apart := latch.apart value
  unfold next judge
  cases active <;> cases critical : latch.critical value <;>
    cases warning : latch.warning value <;> cases nominal : latch.nominal value <;>
    simp_all [Verdict.applied]

theorem next_of_critical {active : Bool} {value : Value} (critical : latch.critical value = true) :
    latch.next active value = true := by
  rw [next_eq, if_pos critical]

theorem next_of_nominal {active : Bool} {value : Value} (nominal : latch.nominal value = true) :
    latch.next active value = false := by
  have mild : ¬ latch.critical value = true := by
    intro critical
    rw [latch.apart value critical] at nominal
    cases nominal
  rw [next_eq, if_neg mild, if_pos nominal]

/-- Only a critical value sets the latch. -/
theorem next_clear {value : Value} (mild : latch.critical value = false) :
    latch.next false value = false := by
  rw [next_eq, mild, if_neg Bool.false_ne_true, ite_self]

/-- Only a nominal value clears it. -/
theorem next_set {value : Value} (lasting : latch.nominal value = false) :
    latch.next true value = true := by
  rw [next_eq, lasting, if_neg Bool.false_ne_true, ite_self]

/-- When a latch that is set by less and cleared by more than another does the same as it. -/
theorem next_eq_next_iff {Other : Type} (other : Latch Other) {value : Value} {seen : Other}
    (critical : latch.critical value = true → other.critical seen = true)
    (nominal : other.nominal seen = true → latch.nominal value = true) (active : Bool) :
    latch.next active value = other.next active seen ↔
      (other.critical seen = true →
        latch.critical value = true ∨ active = true ∧ latch.nominal value = false) ∧
      (other.critical seen = false → other.nominal seen = false → active = true →
        latch.nominal value = false) := by
  rw [next_eq, next_eq]
  cases isCritical : latch.critical value <;> cases isCritical' : other.critical seen <;>
    cases isNominal : latch.nominal value <;> cases isNominal' : other.nominal seen <;>
    cases active <;> simp_all

theorem nominal_eq_false {active : Bool} {value : Value}
    (active' : latch.next active value = true) : latch.nominal value = false := by
  refine Bool.eq_false_iff.mpr fun nominal => ?_
  rw [latch.next_of_nominal nominal] at active'
  cases active'

/-- A latch is raised exactly when it goes from clear to set. -/
theorem judge_eq_raised_iff (active : Bool) (value : Value) :
    latch.judge active value = .raised ↔ active = false ∧ latch.next active value = true := by
  unfold next judge
  cases active <;> cases critical : latch.critical value <;>
    cases warning : latch.warning value <;> cases nominal : latch.nominal value <;>
    simp [Verdict.applied]

theorem critical_of_judge_eq_raised {active : Bool} {value : Value}
    (raised : latch.judge active value = .raised) : latch.critical value = true := by
  obtain ⟨clear, set⟩ := (latch.judge_eq_raised_iff active value).mp raised
  by_contra mild
  rw [clear, latch.next_clear (Bool.eq_false_iff.mpr mild)] at set
  cases set

/-- A latch changes only to the state it is not in. -/
theorem change_eq_not {active changed : Bool} {value : Value}
    (change : (latch.judge active value).change? = some changed) : changed = !active := by
  unfold judge at change
  cases active <;> cases critical : latch.critical value <;>
    cases warning : latch.warning value <;> cases nominal : latch.nominal value <;>
    simp_all [Verdict.change?]

/-- One value keeps the changes in step with the latch. -/
theorem follows_next {active : Bool} {changes : List Bool} (value : Value)
    (follows : Follows active changes) :
    Follows (latch.next active value)
      (changes ++ (latch.judge active value).change?.toList) := by
  rw [next, Verdict.applied_eq]
  cases change : (latch.judge active value).change? with
  | none => simpa using follows
  | some changed =>
    rw [latch.change_eq_not change]
    exact follows.snoc

theorem after_snoc (values : List Value) (value : Value) :
    latch.after (values ++ [value]) = latch.next (latch.after values) value := by
  rw [after, List.foldl_append]
  rfl

/-- A latch is set exactly when some value was critical and no later one nominal. -/
theorem after_eq_true_iff (values : List Value) :
    latch.after values = true ↔
      ∃ earlier value later, values = earlier ++ value :: later ∧
        latch.critical value = true ∧ ∀ other ∈ later, latch.nominal other = false := by
  induction values using List.reverseRecOn with
  | nil => simp [after]
  | append_singleton front last inductionHypothesis =>
    rw [after_snoc]
    constructor
    · intro set
      by_cases critical : latch.critical last = true
      · exact ⟨front, last, [], rfl, critical, by simp⟩
      · have nominal := latch.nominal_eq_false set
        rw [next_eq, if_neg critical, if_neg (by simp [nominal]), inductionHypothesis] at set
        obtain ⟨earlier, value, later, rfl, isCritical, quiet⟩ := set
        refine ⟨earlier, value, later ++ [last], by simp, isCritical, fun other member => ?_⟩
        rcases List.mem_append.mp member with member | member
        · exact quiet other member
        · rw [List.mem_singleton.mp member]
          exact nominal
    · rintro ⟨earlier, value, later, split, isCritical, quiet⟩
      rcases List.eq_nil_or_concat later with rfl | ⟨before, other, rfl⟩
      · obtain ⟨rfl, same⟩ := List.append_inj' split rfl
        cases same
        exact latch.next_of_critical isCritical
      · rw [List.concat_eq_append] at split quiet
        rw [← List.cons_append, ← List.append_assoc] at split
        obtain ⟨rfl, same⟩ := List.append_inj' split rfl
        cases same
        have set : latch.after (earlier ++ value :: before) = true :=
          inductionHypothesis.mpr ⟨earlier, value, before, rfl, isCritical,
            fun other member => quiet other (List.mem_append_left _ member)⟩
        have nominal := quiet last (by simp)
        rw [next_eq, set, if_neg (by simp [nominal] : ¬ latch.nominal last = true), ite_self]

end Latch
