import Mathlib.Data.List.Nodup
import Mathlib.Data.List.Perm.Basic

namespace Relational

variable {α β : Type*} [DecidableEq β] (batch : α → β)

/-- The rows of one batch. -/
def ofBatch (b : β) (rows : List α) : List α := rows.filter (batch · = b)

/-- The first table has, of every batch, either nothing or all that the second one has of it. -/
def WholeBatches (target source : List α) : Prop :=
  ∀ b, ofBatch batch b target = [] ∨ (ofBatch batch b target).Perm (ofBatch batch b source)

/-- The rows of the batches of which a table has nothing. -/
def missing (target source : List α) : List α := source.filter (batch · ∉ target.map batch)

variable {batch} {target source a b c : List α} {x : α} {k : β}

theorem mem_ofBatch : x ∈ ofBatch batch k target ↔ x ∈ target ∧ batch x = k := by
  simp [ofBatch]

theorem WholeBatches.refl (rows : List α) : WholeBatches batch rows rows := fun _ => .inr (.refl _)

theorem WholeBatches.trans (first : WholeBatches batch a b) (second : WholeBatches batch b c) :
    WholeBatches batch a c := by
  intro k
  rcases first k with none | all
  · exact .inl none
  · rcases second k with none | further
    · rw [none] at all
      exact .inl all.eq_nil
    · exact .inr (all.trans further)

theorem WholeBatches.of_perm (same : target.Perm source) : WholeBatches batch target source :=
  fun _ => .inr (same.filter _)

theorem WholeBatches.subset (whole : WholeBatches batch target source) (member : x ∈ target) : x ∈ source := by
  have inBatch : x ∈ ofBatch batch (batch x) target := mem_ofBatch.mpr ⟨member, rfl⟩
  rcases whole (batch x) with none | all
  · rw [none] at inBatch
    cases inBatch
  · exact (mem_ofBatch.mp (all.mem_iff.mp inBatch)).1

theorem count_ofBatch [DecidableEq α] : (ofBatch batch (batch x) target).count x = target.count x :=
  List.count_filter (decide_eq_true rfl)

theorem WholeBatches.count [DecidableEq α] (whole : WholeBatches batch target source)
    (member : batch x ∈ target.map batch) : target.count x = source.count x := by
  obtain ⟨y, inTarget, same⟩ := List.mem_map.mp member
  have inBatch : y ∈ ofBatch batch (batch x) target := mem_ofBatch.mpr ⟨inTarget, same⟩
  rcases whole (batch x) with none | all
  · rw [none] at inBatch
    cases inBatch
  · rw [← @count_ofBatch _ _ _ batch, all.count_eq, count_ofBatch]

theorem WholeBatches.nodup (whole : WholeBatches batch target source) (nodup : source.Nodup) :
    target.Nodup := by
  classical
  rw [List.nodup_iff_count_le_one] at nodup ⊢
  intro x
  by_cases member : x ∈ target
  · rw [whole.count (List.mem_map_of_mem member)]
    exact nodup x
  · rw [List.count_eq_zero_of_not_mem member]
    exact Nat.zero_le _

/-- A batch that a table has in full is in full in every table between. -/
theorem WholeBatches.between (first : WholeBatches batch a b) (second : WholeBatches batch b c)
    (full : (ofBatch batch k a).Perm (ofBatch batch k c)) : (ofBatch batch k b).Perm (ofBatch batch k c) := by
  rcases second k with nothing | all
  · have left : ofBatch batch k a = [] := by
      rcases first k with nothing_left | all
      · exact nothing_left
      · rw [nothing] at all
        exact all.eq_nil
    rw [left] at full
    rw [nothing]
    exact full
  · exact all

/-- Adding the missing batches completes a table. -/
theorem WholeBatches.complete (whole : WholeBatches batch target source) :
    (target ++ missing batch target source).Perm source := by
  classical
  refine List.perm_iff_count.mpr fun x => ?_
  rw [List.count_append]
  by_cases known : batch x ∈ target.map batch
  · have absent : x ∉ missing batch target source := fun member =>
      of_decide_eq_true (List.mem_filter.mp member).2 known
    rw [whole.count known, List.count_eq_zero_of_not_mem absent, Nat.add_zero]
  · have absent : x ∉ target := fun member => known (List.mem_map_of_mem member)
    have kept : (missing batch target source).count x = source.count x :=
      List.count_filter (decide_eq_true known)
    rw [List.count_eq_zero_of_not_mem absent, kept, Nat.zero_add]

section FlatMap

variable {γ : Type*} {batch' : γ → β} {f g : α → List γ} {rows : List α}

omit [DecidableEq β] in
/-- A query that keeps the batch of every row commutes with a filter on batches. -/
theorem filter_flatMap (keeps : ∀ x ∈ rows, ∀ y ∈ f x, batch' y = batch x) (p : β → Bool) :
    (rows.flatMap f).filter (p ∘ batch') = (rows.filter (p ∘ batch)).flatMap f := by
  induction rows with
  | nil => rfl
  | cons head rest ih =>
    have ofHead : ∀ y ∈ f head, batch' y = batch head := keeps head (by simp)
    rw [List.flatMap_cons, List.filter_append, ih fun x member => keeps x (List.mem_cons_of_mem _ member)]
    by_cases chosen : p (batch head) = true
    · have all : (f head).filter (p ∘ batch') = f head :=
        List.filter_eq_self.mpr fun y member => by simp [ofHead y member, chosen]
      have kept : (p ∘ batch) head = true := chosen
      rw [all, List.filter_cons_of_pos kept, List.flatMap_cons]
    · have none_left : (f head).filter (p ∘ batch') = [] :=
        List.filter_eq_nil_iff.mpr fun y member => by simp [ofHead y member, chosen]
      have dropped : ¬ (p ∘ batch) head = true := chosen
      rw [none_left, List.filter_cons_of_neg dropped, List.nil_append]

theorem WholeBatches.flatMap (whole : WholeBatches batch target source)
    (keepsF : ∀ x ∈ target, ∀ y ∈ f x, batch' y = batch x)
    (keepsG : ∀ x ∈ source, ∀ y ∈ g x, batch' y = batch x) (same : ∀ x ∈ target, f x = g x) :
    WholeBatches batch' (target.flatMap f) (source.flatMap g) := by
  intro k
  have left : ofBatch batch' k (target.flatMap f) = (ofBatch batch k target).flatMap f :=
    filter_flatMap keepsF (· = k)
  have right : ofBatch batch' k (source.flatMap g) = (ofBatch batch k source).flatMap g :=
    filter_flatMap keepsG (· = k)
  rw [left, right]
  rcases whole k with none | all
  · rw [none]
    exact .inl rfl
  · refine .inr ((List.Perm.of_eq (List.flatMap_congr fun x member => ?_)).trans (all.flatMap_right g))
    exact same x (mem_ofBatch.mp member).1

theorem WholeBatches.map {h : α → γ} (whole : WholeBatches batch target source)
    (keeps : ∀ x, batch' (h x) = batch x) : WholeBatches batch' (target.map h) (source.map h) := by
  rw [List.map_eq_flatMap, List.map_eq_flatMap]
  refine whole.flatMap (fun x _ y member => ?_) (fun x _ y member => ?_) fun _ _ => rfl
  · rw [List.mem_singleton.mp member, keeps]
  · rw [List.mem_singleton.mp member, keeps]

end FlatMap

end Relational
