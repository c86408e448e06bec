import Mathlib.Data.List.Basic

namespace Stateful

variable {α β : Type*}

/-- Consecutive pieces of a list, all full but the last, each with the number of its first element. -/
structure ChunksOf (start : β → Nat) (rows : β → List α) (size first : Nat) (all : List α) (chunks : List β) :
    Prop where
  whole : chunks.flatMap rows = all
  sized : ∀ chunk ∈ chunks, rows chunk ≠ [] ∧ (rows chunk).length ≤ size
  full : ∀ before chunk after, chunks = before ++ chunk :: after → after ≠ [] → (rows chunk).length = size
  starts : ∀ before chunk after, chunks = before ++ chunk :: after →
    start chunk = first + (before.flatMap rows).length

namespace ChunksOf

variable {start : β → Nat} {rows : β → List α} {size first : Nat} {all later : List α} {chunk : β} {chunks : List β}

theorem nil : ChunksOf start rows size first [] [] where
  whole := rfl
  sized := fun _ member => absurd member List.not_mem_nil
  full := fun _ _ _ split => absurd split.symm (by simp)
  starts := fun _ _ _ split => absurd split.symm (by simp)

theorem cons (begins : start chunk = first) (nonempty : rows chunk ≠ []) (filled : (rows chunk).length = size)
    (rest : ChunksOf start rows size (first + size) later chunks) :
    ChunksOf start rows size first (rows chunk ++ later) (chunk :: chunks) where
  whole := by rw [List.flatMap_cons, rest.whole]
  sized := by
    intro other member
    rcases List.mem_cons.mp member with rfl | member
    · exact ⟨nonempty, Nat.le_of_eq filled⟩
    · exact rest.sized other member
  full := by
    intro before other after split notLast
    cases before with
    | nil =>
      cases (List.cons.inj split).1
      exact filled
    | cons head before => exact rest.full before other after (List.cons.inj split).2 notLast
  starts := by
    intro before other after split
    cases before with
    | nil =>
      cases (List.cons.inj split).1
      exact begins
    | cons head before =>
      obtain ⟨same, split⟩ := List.cons.inj split
      rw [rest.starts before other after split, ← same, List.flatMap_cons, List.length_append, filled, Nat.add_assoc]

theorem singleton (begins : start chunk = first) (nonempty : rows chunk ≠ []) (bounded : (rows chunk).length ≤ size) :
    ChunksOf start rows size first (rows chunk) [chunk] where
  whole := by rw [List.flatMap_cons, List.flatMap_nil, List.append_nil]
  sized := by
    intro other member
    cases List.mem_singleton.mp member
    exact ⟨nonempty, bounded⟩
  full := by
    intro before other after split notLast
    cases before with
    | nil => exact absurd (List.cons.inj split).2.symm notLast
    | cons head before => exact absurd (List.cons.inj split).2.symm (by simp)
  starts := by
    intro before other after split
    cases before with
    | nil =>
      cases (List.cons.inj split).1
      exact begins
    | cons head before => exact absurd (List.cons.inj split).2.symm (by simp)

/-- The first element of a piece stands in the list where the number of the piece says. -/
theorem head (chunked : ChunksOf start rows size first all chunks) (member : chunk ∈ chunks) :
    ∃ x others position, rows chunk = x :: others ∧ all[position]? = some x ∧ start chunk = first + position := by
  obtain ⟨before, after, split⟩ := List.append_of_mem member
  cases given : rows chunk with
  | nil => exact absurd given (chunked.sized chunk member).1
  | cons x others =>
    refine ⟨x, others, (before.flatMap rows).length, rfl, ?_, chunked.starts before chunk after split⟩
    rw [← chunked.whole, split, List.flatMap_append, List.getElem?_append_right (Nat.le_refl _), Nat.sub_self,
      List.flatMap_cons, given]
    rfl

end ChunksOf

end Stateful
