/-
This file is a small library about reading newline-terminated lines from a byte stream in
chunks.

A reader that takes each chunk for a line, after dropping one newline from its end, and
ignores what is empty then, delivers the lines that were sent exactly when the chunks are
aligned with them: every line non-empty and alone in its chunk, with its newline in the same
chunk or alone in the next.
-/

import Mathlib.Data.List.Basic

namespace LineFraming

variable {Symbol : Type} [DecidableEq Symbol] (newline : Symbol)

/-- The stream that carries some lines. -/
def frame (lines : List (List Symbol)) : List Symbol :=
  lines.flatMap fun line => line ++ [newline]

/-- A chunk without the newline at its end, if it has one. -/
def strip (chunk : List Symbol) : List Symbol :=
  if chunk.getLast? = some newline then chunk.dropLast else chunk

/-- What the reader makes of some chunks. -/
def deliver (chunks : List (List Symbol)) : List (List Symbol) :=
  (chunks.map (strip newline)).filter (· ≠ [])

/-- The chunks are aligned with the lines. -/
inductive Aligned : List (List Symbol) → List (List Symbol) → Prop
  | nil : Aligned [] []
  | whole {line : List Symbol} {lines chunks : List (List Symbol)} (nonempty : line ≠ [])
      (rest : Aligned lines chunks) : Aligned (line :: lines) ((line ++ [newline]) :: chunks)
  | split {line : List Symbol} {lines chunks : List (List Symbol)} (nonempty : line ≠ [])
      (rest : Aligned lines chunks) : Aligned (line :: lines) (line :: [newline] :: chunks)

variable {newline}

theorem strip_snoc (line : List Symbol) : strip newline (line ++ [newline]) = line := by
  rw [strip, List.getLast?_concat, if_pos rfl, List.dropLast_concat]

theorem strip_of_not_mem {chunk : List Symbol} (clean : newline ∉ chunk) :
    strip newline chunk = chunk :=
  if_neg fun last => clean (List.mem_of_getLast? last)

/-- A newline that is not the last symbol of its chunk stays. -/
theorem mem_strip (front : List Symbol) {back : List Symbol} (more : back ≠ []) :
    newline ∈ strip newline (front ++ newline :: back) := by
  unfold strip
  split
  · rw [List.dropLast_append_of_ne_nil (List.cons_ne_nil _ _), List.dropLast_cons_of_ne_nil more]
    exact List.mem_append_right _ List.mem_cons_self
  · exact List.mem_append_right _ List.mem_cons_self

theorem length_strip_le (chunk : List Symbol) : (strip newline chunk).length ≤ chunk.length := by
  unfold strip
  split
  · exact (List.dropLast_prefix chunk).length_le
  · exact Nat.le_refl _

theorem mem_of_mem_strip {chunk : List Symbol} {symbol : Symbol}
    (member : symbol ∈ strip newline chunk) : symbol ∈ chunk := by
  unfold strip at member
  split at member
  · exact List.dropLast_subset _ member
  · exact member

theorem deliver_append (front back : List (List Symbol)) :
    deliver newline (front ++ back) = deliver newline front ++ deliver newline back := by
  simp only [deliver, List.map_append, List.filter_append]

theorem deliver_cons_of_ne_nil {chunk : List Symbol} (chunks : List (List Symbol))
    (nonempty : strip newline chunk ≠ []) :
    deliver newline (chunk :: chunks) = strip newline chunk :: deliver newline chunks :=
  List.filter_cons_of_pos (decide_eq_true nonempty)

theorem deliver_newline_cons (chunks : List (List Symbol)) :
    deliver newline ([newline] :: chunks) = deliver newline chunks := by
  have empty : strip newline [newline] = [] := strip_snoc []
  rw [deliver, List.map_cons, empty]
  exact List.filter_cons_of_neg (by simp)

theorem ne_nil_of_mem_deliver {chunks : List (List Symbol)} {line : List Symbol}
    (member : line ∈ deliver newline chunks) : line ≠ [] :=
  of_decide_eq_true (List.mem_filter.mp member).2

/-- A chunk with a newline inside is never a line. -/
theorem deliver_ne_of_inner (front : List Symbol) {back : List Symbol}
    (chunks lines : List (List Symbol)) (more : back ≠ [])
    (clean : ∀ line ∈ lines, newline ∉ line) :
    deliver newline ((front ++ newline :: back) :: chunks) ≠ lines := by
  rintro rfl
  have inner : newline ∈ strip newline (front ++ newline :: back) := mem_strip front more
  rw [deliver_cons_of_ne_nil chunks (List.ne_nil_of_mem inner)] at clean
  exact clean _ List.mem_cons_self inner

theorem Aligned.deliver_eq {lines chunks : List (List Symbol)}
    (aligned : Aligned newline lines chunks) (clean : ∀ line ∈ lines, newline ∉ line) :
    deliver newline chunks = lines := by
  induction aligned with
  | nil => rfl
  | @whole line lines chunks nonempty _ inductionHypothesis =>
    rw [deliver_cons_of_ne_nil _ (by rwa [strip_snoc]), strip_snoc,
      inductionHypothesis fun other member => clean other (List.mem_cons_of_mem _ member)]
  | @split line lines chunks nonempty _ inductionHypothesis =>
    have same := strip_of_not_mem (clean line List.mem_cons_self)
    rw [deliver_cons_of_ne_nil _ (by rwa [same]), same, deliver_newline_cons,
      inductionHypothesis fun other member => clean other (List.mem_cons_of_mem _ member)]

/-- After a line whose newline has not been read, the newline comes alone in the next chunk. -/
theorem exists_newline_chunk {chunks lines : List (List Symbol)} {after : List Symbol}
    (nonempty : ∀ chunk ∈ chunks, chunk ≠ []) (whole : chunks.flatten = newline :: after)
    (clean : ∀ line ∈ lines, newline ∉ line) (delivered : deliver newline chunks = lines) :
    ∃ rest, chunks = [newline] :: rest ∧ rest.flatten = after := by
  cases chunks with
  | nil => cases whole
  | cons chunk rest =>
    cases chunk with
    | nil => exact absurd rfl (nonempty [] List.mem_cons_self)
    | cons first back =>
      rw [List.flatten_cons, List.cons_append, List.cons.injEq] at whole
      obtain ⟨rfl, whole⟩ := whole
      by_cases more : back = []
      · subst more
        exact ⟨rest, rfl, whole⟩
      · exact absurd delivered (deliver_ne_of_inner [] rest lines more clean)

theorem aligned_of_deliver_eq {lines chunks : List (List Symbol)}
    (clean : ∀ line ∈ lines, newline ∉ line) (nonempty : ∀ chunk ∈ chunks, chunk ≠ [])
    (whole : chunks.flatten = frame newline lines) (delivered : deliver newline chunks = lines) :
    Aligned newline lines chunks := by
  induction lines generalizing chunks with
  | nil =>
    cases chunks with
    | nil => exact .nil
    | cons chunk rest =>
      have empty : chunk = [] := (List.append_eq_nil_iff.mp whole).1
      exact absurd empty (nonempty chunk List.mem_cons_self)
  | cons line lines inductionHypothesis =>
    have cleanRest : ∀ other ∈ lines, newline ∉ other :=
      fun other member => clean other (List.mem_cons_of_mem _ member)
    have lineNonempty : line ≠ [] := by
      have member : line ∈ deliver newline chunks := delivered ▸ List.mem_cons_self
      exact ne_nil_of_mem_deliver member
    have lineClean := clean line List.mem_cons_self
    cases chunks with
    | nil => cases delivered
    | cons chunk rest =>
      have chunkNonempty := nonempty chunk List.mem_cons_self
      have nonemptyRest : ∀ other ∈ rest, other ≠ [] :=
        fun other member => nonempty other (List.mem_cons_of_mem _ member)
      have shape : chunk ++ rest.flatten = line ++ (newline :: frame newline lines) := by
        simpa [frame] using whole
      rcases List.append_eq_append_iff.mp shape with ⟨left, rfl, tail⟩ | ⟨back, rfl, tail⟩
      · -- The chunk ends inside the line or at its end.
        have chunkClean : newline ∉ chunk := fun member =>
          lineClean (List.mem_append_left _ member)
        have same := strip_of_not_mem chunkClean
        rw [deliver_cons_of_ne_nil rest (by rwa [same]), same, List.cons.injEq] at delivered
        obtain ⟨equal, delivered⟩ := delivered
        obtain rfl : left = [] := List.self_eq_append_right.mp equal
        obtain ⟨others, rfl, after⟩ :=
          exists_newline_chunk nonemptyRest tail cleanRest delivered
        rw [deliver_newline_cons] at delivered
        rw [List.append_nil]
        exact .split chunkNonempty (inductionHypothesis cleanRest
          (fun other member => nonemptyRest other (List.mem_cons_of_mem _ member)) after delivered)
      · -- The chunk ends at the line's end or behind it.
        cases back with
        | nil =>
          rw [List.nil_append] at tail
          rw [List.append_nil] at *
          have same := strip_of_not_mem lineClean
          rw [deliver_cons_of_ne_nil rest (by rwa [same]), same, List.cons.injEq] at delivered
          obtain ⟨others, rfl, after⟩ :=
            exists_newline_chunk nonemptyRest tail.symm cleanRest delivered.2
          rw [deliver_newline_cons] at delivered
          exact .split lineNonempty (inductionHypothesis cleanRest
            (fun other member => nonemptyRest other (List.mem_cons_of_mem _ member)) after
            delivered.2)
        | cons first back =>
          rw [List.cons_append, List.cons.injEq] at tail
          obtain ⟨rfl, tail⟩ := tail
          by_cases more : back = []
          · subst more
            rw [deliver_cons_of_ne_nil rest (by rwa [strip_snoc]), strip_snoc,
              List.cons.injEq] at delivered
            exact .whole lineNonempty
              (inductionHypothesis cleanRest nonemptyRest tail.symm delivered.2)
          · exact absurd delivered (deliver_ne_of_inner line rest _ more clean)

/-- The reader delivers the lines sent exactly when its chunks are aligned with them. -/
theorem deliver_eq_iff {lines chunks : List (List Symbol)}
    (clean : ∀ line ∈ lines, newline ∉ line) (nonempty : ∀ chunk ∈ chunks, chunk ≠ [])
    (whole : chunks.flatten = frame newline lines) :
    deliver newline chunks = lines ↔ Aligned newline lines chunks :=
  ⟨aligned_of_deliver_eq clean nonempty whole, fun aligned => aligned.deliver_eq clean⟩

end LineFraming
