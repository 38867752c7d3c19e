/-
This file is a small library about a record that several writers update, each one only in a part
of its own.

To a part it does not matter how the writers take turns: it ends as if its owner had been alone.
So two interleavings of the same sequences of updates leave every part the same; and if an
update sets its whole part, whatever the part was, the owner's last update decides.
-/

import Mathlib.Data.List.Induction

/-- Who updates which part of a record. -/
structure Ownership (Writer Update State : Type) where
  Part : Writer → Type
  part : (who : Writer) → State → Part who
  writer : Update → Writer
  apply : Update → State → State
  /-- What an update makes of its writer's part depends on that part alone. -/
  own : ∀ update state other, part (writer update) state = part (writer update) other →
    part (writer update) (apply update state) = part (writer update) (apply update other)
  frame : ∀ update state who, who ≠ writer update → part who (apply update state) = part who state

namespace Ownership

variable {Writer Update State : Type} (ownership : Ownership Writer Update State)

/-- The record after some updates. -/
def applyAll (updates : List Update) (state : State) : State :=
  updates.foldl (fun state update => ownership.apply update state) state

theorem applyAll_snoc (updates : List Update) (update : Update) (state : State) :
    ownership.applyAll (updates ++ [update]) state =
      ownership.apply update (ownership.applyAll updates state) := by
  rw [applyAll, List.foldl_append]
  rfl

/-- What no update changes is as it was. -/
theorem view_applyAll {View : Type} (view : State → View)
    (untouched : ∀ update state, view (ownership.apply update state) = view state)
    (updates : List Update) (state : State) :
    view (ownership.applyAll updates state) = view state := by
  induction updates using List.reverseRecOn with
  | nil => rfl
  | append_singleton front last inductionHypothesis =>
    rw [applyAll_snoc, untouched, inductionHypothesis]

variable [DecidableEq Writer]

/-- The updates of one writer, in order. -/
def byWriter (who : Writer) (updates : List Update) : List Update :=
  updates.filter fun update => ownership.writer update = who

theorem byWriter_snoc_self (updates : List Update) (update : Update) :
    ownership.byWriter (ownership.writer update) (updates ++ [update]) =
      ownership.byWriter (ownership.writer update) updates ++ [update] := by
  simp [byWriter]

theorem byWriter_snoc_other {who : Writer} (updates : List Update) {update : Update}
    (other : who ≠ ownership.writer update) :
    ownership.byWriter who (updates ++ [update]) = ownership.byWriter who updates := by
  simp [byWriter, other.symm]

/-- Every part ends as if its owner had been alone. -/
theorem part_applyAll (who : Writer) (updates : List Update) (state : State) :
    ownership.part who (ownership.applyAll updates state) =
      ownership.part who (ownership.applyAll (ownership.byWriter who updates) state) := by
  induction updates using List.reverseRecOn with
  | nil => rfl
  | append_singleton front last inductionHypothesis =>
    by_cases same : who = ownership.writer last
    · subst same
      rw [byWriter_snoc_self, applyAll_snoc, applyAll_snoc]
      exact ownership.own last _ _ inductionHypothesis
    · rw [byWriter_snoc_other _ front same, applyAll_snoc, ownership.frame last _ who same,
        inductionHypothesis]

/-- The updates are those of the writers' sequences, each sequence in its order. -/
def Interleaves (sequences : Writer → List Update) (updates : List Update) : Prop :=
  ∀ who, ownership.byWriter who updates = sequences who

/-- How the writers take turns does not matter. -/
theorem part_eq_of_interleaves {sequences : Writer → List Update} {first second : List Update}
    (firstOrder : ownership.Interleaves sequences first)
    (secondOrder : ownership.Interleaves sequences second) (who : Writer) (state : State) :
    ownership.part who (ownership.applyAll first state) =
      ownership.part who (ownership.applyAll second state) := by
  rw [part_applyAll, firstOrder, ← secondOrder, ← part_applyAll]

/-- Updates that set their whole part: the last one of the owner decides. -/
theorem part_of_blind
    (blind : ∀ update state other, ownership.part (ownership.writer update)
        (ownership.apply update state) =
      ownership.part (ownership.writer update) (ownership.apply update other))
    {sequences : Writer → List Update} {updates : List Update}
    (order : ownership.Interleaves sequences updates) (who : Writer) (state : State) :
    ownership.part who (ownership.applyAll updates state) =
      (sequences who).getLast?.elim (ownership.part who state) fun update =>
        ownership.part who (ownership.apply update state) := by
  have alone : ∀ update ∈ sequences who, ownership.writer update = who := by
    intro update member
    rw [← order who] at member
    exact of_decide_eq_true (List.mem_filter.mp member).2
  rw [part_applyAll, order]
  rcases List.eq_nil_or_concat (sequences who) with none | ⟨front, last, split⟩
  · rw [none]
    rfl
  · have owner := alone last (by simp [split])
    subst owner
    rw [split, List.concat_eq_append, applyAll_snoc, List.getLast?_concat, Option.elim_some]
    exact blind last _ _

end Ownership
