import Mathlib.Algebra.BigOperators.Group.List.Lemmas
import Mathlib.Algebra.GroupWithZero.Nat
import Mathlib.Data.List.Perm.Lattice
import TaxiPipeline.Relational.Queries

namespace Relational

variable {α κ ι : Type*} [DecidableEq κ] [DecidableEq ι]

section Counts

variable {column column' : List κ} {group : κ × Nat}

theorem mem_groupCounts :
    group ∈ groupCounts column ↔ group.1 ∈ column ∧ group.2 = column.count group.1 := by
  unfold groupCounts
  rw [List.mem_map]
  constructor
  · rintro ⟨value, member, rfl⟩
    exact ⟨List.mem_dedup.mp member, rfl⟩
  · rintro ⟨member, same⟩
    exact ⟨group.1, List.mem_dedup.mpr member, Prod.ext rfl same.symm⟩

theorem groupCounts_keys : (groupCounts column).map Prod.fst = column.dedup := by
  unfold groupCounts
  rw [List.map_map]
  exact List.map_id _

theorem groupCounts_counts : (groupCounts column).map Prod.snd = column.dedup.map fun value => column.count value := by
  unfold groupCounts
  rw [List.map_map]
  rfl

theorem groupCounts_sum : ((groupCounts column).map Prod.snd).sum = column.length := by
  rw [groupCounts_counts]
  exact List.sum_map_count_dedup_eq_length column

end Counts

section Repeats

variable {column column' : List κ}

/-- The sizes of the groups of more than one row. -/
def repeatSizes (column : List κ) : List Nat := ((groupCounts column).map Prod.snd).filter (1 < ·)

/-- The rows that have an equal other row. -/
def participatingRows (column : List κ) : Nat := column.countP fun value => 1 < column.count value

/-- The rows beyond the first of each value. -/
def excessRows (column : List κ) : Nat := column.length - column.dedup.length

/-- The values that occur more than once. -/
def repeatedValues (column : List κ) : Nat := column.dedup.countP fun value => 1 < column.count value

theorem repeatSizes_eq : repeatSizes column =
    (column.dedup.filter fun value => 1 < column.count value).map fun value => column.count value := by
  unfold repeatSizes
  rw [groupCounts_counts, List.filter_map]
  rfl

theorem repeatSizes_length : (repeatSizes column).length = repeatedValues column := by
  rw [repeatSizes_eq, List.length_map, repeatedValues, List.countP_eq_length_filter]

theorem repeatSizes_sum : (repeatSizes column).sum = participatingRows column := by
  rw [repeatSizes_eq]
  exact List.sum_map_count_dedup_filter_eq_countP _ column

theorem sum_pred {sizes : List Nat} (positive : ∀ size ∈ sizes, 1 ≤ size) :
    (sizes.map (· - 1)).sum + sizes.length = sizes.sum := by
  induction sizes with
  | nil => rfl
  | cons size rest ih =>
    have least := positive size List.mem_cons_self
    have others := ih fun other member => positive other (List.mem_cons_of_mem _ member)
    rw [List.map_cons, List.sum_cons, List.sum_cons, List.length_cons]
    omega

/-- What is beyond the first of a group counts only in the groups of more than one. -/
theorem sum_pred_filter (sizes : List Nat) :
    ((sizes.filter (1 < ·)).map (· - 1)).sum = (sizes.map (· - 1)).sum := by
  induction sizes with
  | nil => rfl
  | cons size rest ih =>
    rw [List.filter_cons, List.map_cons, List.sum_cons]
    by_cases several : 1 < size
    · rw [if_pos (decide_eq_true several), List.map_cons, List.sum_cons, ih]
    · rw [if_neg (by simpa using several), ih]
      omega

theorem groupCounts_positive : ∀ size ∈ (groupCounts column).map Prod.snd, 1 ≤ size := by
  intro size member
  rw [groupCounts_counts] at member
  obtain ⟨value, inColumn, rfl⟩ := List.mem_map.mp member
  exact List.count_pos_iff.mpr (List.mem_dedup.mp inColumn)

theorem repeatSizes_excess : ((repeatSizes column).map (· - 1)).sum = excessRows column := by
  have total := sum_pred (@groupCounts_positive _ _ column)
  have groups : ((groupCounts column).map Prod.snd).length = column.dedup.length := by
    rw [groupCounts_counts, List.length_map]
  rw [groupCounts_sum, groups] at total
  rw [repeatSizes, sum_pred_filter, excessRows]
  omega

/-- The rows that have an equal one are the first of each repeated value and the rows beyond it. -/
theorem participating_eq : participatingRows column = excessRows column + repeatedValues column := by
  have total := @sum_pred (repeatSizes column) fun size member => by
    have several := (List.mem_filter.mp member).2
    have more : 1 < size := of_decide_eq_true several
    omega
  rw [repeatSizes_excess, repeatSizes_length, repeatSizes_sum] at total
  exact total.symm

theorem repeated_le_excess : repeatedValues column ≤ excessRows column := by
  rw [← repeatSizes_length, ← repeatSizes_excess]
  have least : ∀ beyond ∈ (repeatSizes column).map (· - 1), 1 ≤ beyond := by
    intro beyond member
    obtain ⟨size, inSizes, rfl⟩ := List.mem_map.mp member
    have several : 1 < size := of_decide_eq_true (List.mem_filter.mp inSizes).2
    omega
  have bound := List.length_le_sum_of_one_le _ least
  rwa [List.length_map] at bound

theorem participatingRows_perm (permuted : column.Perm column') :
    participatingRows column = participatingRows column' := by
  unfold participatingRows
  rw [permuted.countP_eq]
  simp only [permuted.count_eq]

theorem excessRows_perm (permuted : column.Perm column') : excessRows column = excessRows column' := by
  unfold excessRows
  rw [permuted.length_eq, permuted.dedup.length_eq]

theorem repeatedValues_perm (permuted : column.Perm column') : repeatedValues column = repeatedValues column' := by
  unfold repeatedValues
  rw [permuted.dedup.countP_eq]
  simp only [permuted.count_eq]

theorem participatingRows_map {rows : List α} {f : α → κ} {g : α → ι}
    (same : ∀ x ∈ rows, ∀ y ∈ rows, f x = f y ↔ g x = g y) :
    participatingRows (rows.map f) = participatingRows (rows.map g) := by
  have counts : ∀ x ∈ rows, (rows.map f).count (f x) = (rows.map g).count (g x) := by
    intro x inRows
    rw [List.count_eq_countP, List.count_eq_countP, List.countP_map, List.countP_map]
    refine List.countP_congr fun y inRows' => ?_
    rw [Function.comp_apply, Function.comp_apply, beq_iff_eq, beq_iff_eq]
    exact same y inRows' x inRows
  unfold participatingRows
  rw [List.countP_map, List.countP_map]
  refine List.countP_congr fun x inRows => ?_
  rw [Function.comp_apply, Function.comp_apply, counts x inRows]

theorem dedup_length_map {rows : List α} {f : α → κ} {g : α → ι}
    (same : ∀ x ∈ rows, ∀ y ∈ rows, f x = f y ↔ g x = g y) :
    (rows.map f).dedup.length = (rows.map g).dedup.length := by
  induction rows with
  | nil => rfl
  | cons x rest ih =>
    have others := ih fun y inRest z inRest' =>
      same y (List.mem_cons_of_mem _ inRest) z (List.mem_cons_of_mem _ inRest')
    have again : f x ∈ rest.map f ↔ g x ∈ rest.map g := by
      rw [List.mem_map, List.mem_map]
      refine exists_congr fun y => and_congr_right fun inRest => ?_
      exact same y (List.mem_cons_of_mem _ inRest) x List.mem_cons_self
    rw [List.map_cons, List.map_cons]
    by_cases repeated : f x ∈ rest.map f
    · rw [List.dedup_cons_of_mem repeated, List.dedup_cons_of_mem (again.mp repeated), others]
    · rw [List.dedup_cons_of_notMem repeated, List.dedup_cons_of_notMem (mt again.mpr repeated), List.length_cons,
        List.length_cons, others]

theorem excessRows_map {rows : List α} {f : α → κ} {g : α → ι}
    (same : ∀ x ∈ rows, ∀ y ∈ rows, f x = f y ↔ g x = g y) :
    excessRows (rows.map f) = excessRows (rows.map g) := by
  rw [excessRows, excessRows, dedup_length_map same, List.length_map, List.length_map]

theorem repeatedValues_map {rows : List α} {f : α → κ} {g : α → ι}
    (same : ∀ x ∈ rows, ∀ y ∈ rows, f x = f y ↔ g x = g y) :
    repeatedValues (rows.map f) = repeatedValues (rows.map g) := by
  have left := @participating_eq _ _ (rows.map f)
  have right := @participating_eq _ _ (rows.map g)
  rw [participatingRows_map same, excessRows_map same] at left
  omega

theorem filter_dedup (keep : κ → Bool) (column : List κ) : (column.filter keep).dedup = column.dedup.filter keep := by
  induction column with
  | nil => rfl
  | cons value rest ih =>
    by_cases kept : keep value = true
    · rw [List.filter_cons_of_pos kept]
      by_cases again : value ∈ rest
      · rw [List.dedup_cons_of_mem again, List.dedup_cons_of_mem (List.mem_filter.mpr ⟨again, kept⟩), ih]
      · have fresh : value ∉ rest.filter keep := fun member => again (List.mem_filter.mp member).1
        rw [List.dedup_cons_of_notMem again, List.dedup_cons_of_notMem fresh, List.filter_cons_of_pos kept, ih]
    · rw [List.filter_cons_of_neg kept, ih]
      by_cases again : value ∈ rest
      · rw [List.dedup_cons_of_mem again]
      · rw [List.dedup_cons_of_notMem again, List.filter_cons_of_neg kept]

theorem repeatSizes_filter {keep : κ → Bool} (kept : ∀ value ∈ column, 1 < column.count value → keep value = true) :
    repeatSizes (column.filter keep) = repeatSizes column := by
  have counts : ∀ value, keep value = true → (column.filter keep).count value = column.count value :=
    fun value isKept => List.count_filter isKept
  have groups : (column.filter keep).dedup.filter (fun value => 1 < (column.filter keep).count value) =
      column.dedup.filter fun value => 1 < column.count value := by
    rw [filter_dedup, List.filter_filter]
    refine List.filter_congr fun value member => ?_
    by_cases isKept : keep value = true
    · rw [counts value isKept, isKept, Bool.and_true]
    · have single : ¬ 1 < column.count value := fun several => isKept (kept value (List.mem_dedup.mp member) several)
      rw [eq_false_of_ne_true isKept, Bool.and_false, decide_eq_false single]
  rw [repeatSizes_eq, repeatSizes_eq, groups]
  refine List.map_congr_left fun value member => ?_
  obtain ⟨inColumn, several⟩ := List.mem_filter.mp member
  exact counts value (kept value (List.mem_dedup.mp inColumn) (of_decide_eq_true several))

theorem count_map_le {f : κ → ι} (value : κ) : column.count value ≤ (column.map f).count (f value) :=
  List.count_le_count_map

theorem one_lt_count {rows : List α} {f : α → κ} {x y : α} (inRows : x ∈ rows) (inRows' : y ∈ rows) (apart : x ≠ y)
    (same : f x = f y) : 1 < (rows.map f).count (f x) := by
  rw [List.count_eq_countP, List.countP_map, List.countP_eq_length_filter]
  have first : x ∈ rows.filter ((· == f x) ∘ f) := List.mem_filter.mpr ⟨inRows, beq_iff_eq.mpr rfl⟩
  have second : y ∈ rows.filter ((· == f x) ∘ f) := List.mem_filter.mpr ⟨inRows', beq_iff_eq.mpr same.symm⟩
  by_contra single
  obtain ⟨z, only⟩ := List.length_eq_one_iff.mp (le_antisymm (not_lt.mp single) (List.length_pos_of_mem first))
  rw [only, List.mem_singleton] at first second
  exact apart (first.trans second.symm)

section Refinements

variable {rows : List α} {f : α → κ} {g : α → ι}

theorem dedup_length_le (finer : ∀ x ∈ rows, ∀ y ∈ rows, g x = g y → f x = f y) :
    (rows.map f).dedup.length ≤ (rows.map g).dedup.length := by
  induction rows with
  | nil => exact le_rfl
  | cons x rest ih =>
    have others := ih fun y inRest z inRest' =>
      finer y (List.mem_cons_of_mem _ inRest) z (List.mem_cons_of_mem _ inRest')
    rw [List.map_cons, List.map_cons]
    by_cases again : g x ∈ rest.map g
    · obtain ⟨y, inRest, same⟩ := List.mem_map.mp again
      have repeated : f x ∈ rest.map f :=
        List.mem_map.mpr ⟨y, inRest, finer y (List.mem_cons_of_mem _ inRest) x List.mem_cons_self same⟩
      rwa [List.dedup_cons_of_mem again, List.dedup_cons_of_mem repeated]
    · rw [List.dedup_cons_of_notMem again, List.length_cons]
      by_cases repeated : f x ∈ rest.map f
      · rw [List.dedup_cons_of_mem repeated]
        omega
      · rw [List.dedup_cons_of_notMem repeated, List.length_cons]
        omega

theorem same_of_dedup_length (finer : ∀ x ∈ rows, ∀ y ∈ rows, g x = g y → f x = f y)
    (asMany : (rows.map f).dedup.length = (rows.map g).dedup.length) :
    ∀ x ∈ rows, ∀ y ∈ rows, f x = f y → g x = g y := by
  induction rows with
  | nil => exact fun x member => nomatch member
  | cons x rest ih =>
    have finerRest : ∀ y ∈ rest, ∀ z ∈ rest, g y = g z → f y = f z := fun y inRest z inRest' =>
      finer y (List.mem_cons_of_mem _ inRest) z (List.mem_cons_of_mem _ inRest')
    have bound := dedup_length_le finerRest
    rw [List.map_cons, List.map_cons] at asMany
    have head : ∀ y ∈ rest, (f x = f y → g x = g y) ∧
        (rest.map f).dedup.length = (rest.map g).dedup.length := by
      intro y inRest
      by_cases again : g x ∈ rest.map g
      · obtain ⟨z, inRest', same⟩ := List.mem_map.mp again
        have coarse : f z = f x := finer z (List.mem_cons_of_mem _ inRest') x List.mem_cons_self same
        have repeated : f x ∈ rest.map f := List.mem_map.mpr ⟨z, inRest', coarse⟩
        rw [List.dedup_cons_of_mem again, List.dedup_cons_of_mem repeated] at asMany
        refine ⟨fun equal => ?_, asMany⟩
        rw [← same]
        exact ih finerRest asMany z inRest' y inRest (coarse.trans equal)
      · rw [List.dedup_cons_of_notMem again, List.length_cons] at asMany
        by_cases repeated : f x ∈ rest.map f
        · rw [List.dedup_cons_of_mem repeated] at asMany
          omega
        · rw [List.dedup_cons_of_notMem repeated, List.length_cons] at asMany
          refine ⟨fun equal => absurd ?_ repeated, by omega⟩
          exact equal ▸ List.mem_map_of_mem inRest
    intro y inRows z inRows' equal
    rcases List.mem_cons.mp inRows with rfl | inRest
    · rcases List.mem_cons.mp inRows' with rfl | inRest'
      · rfl
      · exact (head z inRest').1 equal
    · rcases List.mem_cons.mp inRows' with rfl | inRest'
      · exact ((head y inRest).1 equal.symm).symm
      · exact ih finerRest (head y inRest).2 y inRest z inRest' equal

end Refinements

/-- A coarser reading finds as many excess rows only if it tells the same rows apart. -/
theorem excessRows_eq_iff {rows : List α} {f : α → κ} {g : α → ι}
    (finer : ∀ x ∈ rows, ∀ y ∈ rows, g x = g y → f x = f y) :
    excessRows (rows.map f) = excessRows (rows.map g) ↔ ∀ x ∈ rows, ∀ y ∈ rows, f x = f y → g x = g y := by
  constructor
  · intro asMany
    have coarse := (List.dedup_sublist (rows.map f)).length_le
    have fine := (List.dedup_sublist (rows.map g)).length_le
    unfold excessRows at asMany
    rw [List.length_map] at asMany coarse
    rw [List.length_map] at asMany fine
    exact same_of_dedup_length finer (by omega)
  · intro same
    exact excessRows_map fun x inRows y inRows' => ⟨same x inRows y inRows', finer x inRows y inRows'⟩

end Repeats

end Relational
