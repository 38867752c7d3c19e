/-
This file is a small library of bounded priority queues.

The messages are kept in delivery order. A message sent goes behind every message of its
own priority or a higher one, and is refused when the queue is full; the message received
is the first. A class of messages that a new one does not outrank is a FIFO inside the
queue, whatever else is in it.
-/

import Mathlib.Data.List.Sort

/-- Messages with their priorities, in delivery order, at most `capacity` of them. -/
structure PriorityQueue (Message : Type) (capacity : Nat) where
  messages : List (Nat × Message)
  ordered : messages.Pairwise fun first second => second.1 ≤ first.1
  bounded : messages.length ≤ capacity

namespace PriorityQueue

variable {Message : Type} {capacity : Nat}

/-- The queue nothing has been sent to. -/
def empty : PriorityQueue Message capacity := ⟨[], .nil, Nat.zero_le _⟩

/-- The delivery order with one more message, behind all it does not outrank. -/
def place (message : Nat × Message) (messages : List (Nat × Message)) : List (Nat × Message) :=
  messages.orderedInsert (fun new old => old.1 < new.1) message

theorem ordered_place (message : Nat × Message) {messages : List (Nat × Message)}
    (ordered : messages.Pairwise fun first second => second.1 ≤ first.1) :
    (place message messages).Pairwise fun first second => second.1 ≤ first.1 := by
  induction messages with
  | nil => exact List.pairwise_singleton _ _
  | cons head rest inductionHypothesis =>
    obtain ⟨below, ordered⟩ := List.pairwise_cons.mp ordered
    rw [place, List.orderedInsert_cons]
    split
    next outranked =>
      have tail := List.pairwise_cons.mpr ⟨below, ordered⟩
      refine List.pairwise_cons.mpr ⟨fun other member => ?_, tail⟩
      rcases List.mem_cons.mp member with rfl | member
      · exact Nat.le_of_lt outranked
      · exact (below other member).trans (Nat.le_of_lt outranked)
    next kept =>
      refine List.pairwise_cons.mpr ⟨fun other member => ?_, inductionHypothesis ordered⟩
      rcases (List.mem_orderedInsert _).mp member with rfl | member
      · exact Nat.le_of_not_lt kept
      · exact below other member

/-- Send a message unless the queue is full. -/
def send (queue : PriorityQueue Message capacity) (priority : Nat) (message : Message) :
    Option (PriorityQueue Message capacity) :=
  if room : queue.messages.length < capacity then
    some ⟨place (priority, message) queue.messages, ordered_place _ queue.ordered, by
      rw [place, List.orderedInsert_length]
      exact room⟩
  else none

/-- Receive the first message, if there is one. -/
def receive (queue : PriorityQueue Message capacity) :
    Option ((Nat × Message) × PriorityQueue Message capacity) :=
  match shape : queue.messages with
  | [] => none
  | head :: rest =>
    some (head, ⟨rest, (List.pairwise_cons.mp (shape ▸ queue.ordered)).2, by
      have bounded := queue.bounded
      rw [shape, List.length_cons] at bounded
      omega⟩)

theorem send_eq_some {queue next : PriorityQueue Message capacity} {priority : Nat}
    {message : Message} (sent : queue.send priority message = some next) :
    next.messages = place (priority, message) queue.messages := by
  unfold send at sent
  split at sent
  · cases sent
    rfl
  · cases sent

theorem receive_eq_some {queue next : PriorityQueue Message capacity}
    {message : Nat × Message} (received : queue.receive = some (message, next)) :
    queue.messages = message :: next.messages := by
  unfold receive at received
  split at received
  · cases received
  next head rest shape =>
    cases received
    exact shape

theorem mem_place {message other : Nat × Message} {messages : List (Nat × Message)} :
    other ∈ place message messages ↔ other = message ∨ other ∈ messages :=
  List.mem_orderedInsert _

/-- A message outside a class does not disturb the class. -/
theorem filter_place_of_not (belongs : Nat × Message → Bool) (message : Nat × Message)
    (messages : List (Nat × Message)) (outside : belongs message = false) :
    (place message messages).filter belongs = messages.filter belongs := by
  induction messages with
  | nil => simp [place, outside]
  | cons head rest inductionHypothesis =>
    rw [place, List.orderedInsert_cons]
    split
    · rw [List.filter_cons_of_neg (by simp [outside])]
    · rw [place] at inductionHypothesis
      rw [List.filter_cons, List.filter_cons, inductionHypothesis]

/-- A message joins its class at the end when it outranks no member of the class. -/
theorem filter_place (belongs : Nat × Message → Bool) (message : Nat × Message)
    {messages : List (Nat × Message)}
    (ordered : messages.Pairwise fun first second => second.1 ≤ first.1)
    (inside : belongs message = true)
    (equals : ∀ other ∈ messages, belongs other = true → message.1 ≤ other.1) :
    (place message messages).filter belongs = messages.filter belongs ++ [message] := by
  induction messages with
  | nil => simp [place, inside]
  | cons head rest inductionHypothesis =>
    obtain ⟨below, orderedRest⟩ := List.pairwise_cons.mp ordered
    rw [place, List.orderedInsert_cons]
    split
    next outranked =>
      -- Everything from here on is outranked, so none of it is in the class.
      have none : (head :: rest).filter belongs = [] := by
        refine List.filter_eq_nil_iff.mpr fun other member isMember => ?_
        have atMost : other.1 ≤ head.1 := by
          rcases List.mem_cons.mp member with rfl | member
          · exact Nat.le_refl _
          · exact below other member
        have atLeast := equals other member isMember
        omega
      rw [List.filter_cons_of_pos inside, none, List.nil_append]
    next kept =>
      have tail := inductionHypothesis orderedRest
        fun other member => equals other (List.mem_cons_of_mem _ member)
      rw [place] at tail
      by_cases headInside : belongs head = true
      · rw [List.filter_cons_of_pos headInside, List.filter_cons_of_pos headInside, tail,
          List.cons_append]
      · rw [List.filter_cons_of_neg headInside, List.filter_cons_of_neg headInside, tail]

/-- A message that outranks one in the queue goes ahead of it. -/
theorem place_ahead {message kept : Nat × Message} (outranks : kept.1 < message.1)
    (front back : List (Nat × Message)) :
    ∃ ahead, place message (front ++ kept :: back) = ahead ++ kept :: back ∧
      ahead.length = front.length + 1 := by
  induction front with
  | nil =>
    refine ⟨[message], ?_, rfl⟩
    rw [List.nil_append, place, List.orderedInsert_cons, if_pos outranks]
    rfl
  | cons head rest inductionHypothesis =>
    obtain ⟨ahead, placed, longer⟩ := inductionHypothesis
    rw [List.cons_append, place, List.orderedInsert_cons]
    split
    · exact ⟨message :: head :: rest, rfl, rfl⟩
    · rw [place] at placed
      exact ⟨head :: ahead, by rw [placed]; rfl, congrArg (· + 1) longer⟩

/-- A message that does not outrank one in the queue goes behind it. -/
theorem place_behind {message kept : Nat × Message} (level : message.1 ≤ kept.1)
    {front back : List (Nat × Message)}
    (ordered : (front ++ kept :: back).Pairwise fun first second => second.1 ≤ first.1) :
    ∃ behind, place message (front ++ kept :: back) = front ++ kept :: behind := by
  induction front with
  | nil =>
    refine ⟨place message back, ?_⟩
    rw [List.nil_append, place, List.orderedInsert_cons, if_neg (Nat.not_lt_of_le level)]
    rfl
  | cons head rest inductionHypothesis =>
    obtain ⟨below, ordered⟩ := List.pairwise_cons.mp ordered
    obtain ⟨behind, placed⟩ := inductionHypothesis ordered
    have kept_le := below kept (List.mem_append_right _ List.mem_cons_self)
    rw [place] at placed
    refine ⟨behind, ?_⟩
    rw [List.cons_append, place, List.orderedInsert_cons,
      if_neg (Nat.not_lt_of_le (level.trans kept_le)), placed]
    rfl

end PriorityQueue
