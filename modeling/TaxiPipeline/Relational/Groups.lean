import Mathlib.Data.List.Dedup
import Mathlib.Data.List.Sort

namespace Relational

variable {α κ : Type*}

section Groups

variable [DecidableEq κ]

/-- `GROUP BY key`: each value of the key with its rows; nulls are one value. -/
def groupBy (key : α → κ) (rows : List α) : List (κ × List α) :=
  (rows.map key).dedup.map fun k => (k, rows.filter fun row => key row = k)

variable {key : α → κ} {rows : List α} {group : κ × List α}

theorem mem_groupBy : group ∈ groupBy key rows ↔
    group.1 ∈ rows.map key ∧ group.2 = rows.filter fun row => key row = group.1 := by
  unfold groupBy
  rw [List.mem_map]
  constructor
  · rintro ⟨k, member, rfl⟩
    exact ⟨List.mem_dedup.mp member, rfl⟩
  · rintro ⟨member, same⟩
    exact ⟨group.1, List.mem_dedup.mpr member, Prod.ext rfl same.symm⟩

theorem groupBy_keys : (groupBy key rows).map Prod.fst = (rows.map key).dedup := by
  unfold groupBy
  rw [List.map_map]
  exact List.map_id _

theorem groupBy_keys_nodup : ((groupBy key rows).map Prod.fst).Nodup := by
  rw [groupBy_keys]
  exact List.nodup_dedup _

/-- Splitting rows by distinct keys that are all their keys loses and repeats nothing. -/
theorem flatMap_filter_perm {keys : List κ} (nodup : keys.Nodup) (all : ∀ row ∈ rows, key row ∈ keys) :
    (keys.flatMap fun k => rows.filter fun row => key row = k).Perm rows := by
  induction keys generalizing rows with
  | nil =>
    have empty : rows = [] := List.eq_nil_iff_forall_not_mem.mpr fun row member => by cases all row member
    rw [empty]
    exact .refl _
  | cons k rest ih =>
    obtain ⟨fresh, distinct⟩ := List.nodup_cons.mp nodup
    have others : rest.flatMap (fun k' => rows.filter fun row => key row = k') =
        rest.flatMap fun k' => (rows.filter fun row => !decide (key row = k)).filter fun row => key row = k' := by
      apply List.flatMap_congr
      intro k' member
      rw [List.filter_filter]
      apply List.filter_congr
      intro row _
      by_cases same : key row = k'
      · have apart : ¬ key row = k := by
          rw [same]
          rintro rfl
          exact fresh member
        rw [decide_eq_true same, decide_eq_false apart]
        rfl
      · simp [same]
    have covered : ∀ row ∈ rows.filter fun row => !decide (key row = k), key row ∈ rest := by
      intro row member
      obtain ⟨inRows, apart⟩ := List.mem_filter.mp member
      rcases List.mem_cons.mp (all row inRows) with same | later
      · simp [same] at apart
      · exact later
    rw [List.flatMap_cons, others]
    exact (List.Perm.append_left _ (ih distinct covered)).trans (List.filter_append_perm _ rows)

/-- Every row is in exactly one group. -/
theorem groupBy_perm : ((groupBy key rows).flatMap Prod.snd).Perm rows := by
  unfold groupBy
  rw [List.flatMap_map]
  exact flatMap_filter_perm (List.nodup_dedup _) fun row member =>
    List.mem_dedup.mpr (List.mem_map_of_mem member)

end Groups

section Ranking

variable {before : α → α → Prop} [DecidableRel before] {l : List α} {x : α} {n : Nat}

/-- In a strictly sorted list the first `n` members are those before which fewer than `n` members stand. -/
theorem mem_take_sorted (asymmetric : ∀ a b, before a b → ¬ before b a) (sorted : l.Pairwise before) :
    x ∈ l.take n ↔ x ∈ l ∧ l.countP (before · x) < n := by
  induction l generalizing n with
  | nil => simp
  | cons a rest ih =>
    obtain ⟨first, restSorted⟩ := List.pairwise_cons.mp sorted
    cases n with
    | zero => simp
    | succ n =>
      rw [List.take_succ_cons, List.mem_cons, List.mem_cons, List.countP_cons, ih restSorted]
      have irreflexive : ¬ before a a := fun self => asymmetric a a self self
      by_cases same : x = a
      · subst same
        have none_before : rest.countP (before · x) = 0 := by
          rw [List.countP_eq_zero]
          intro b member
          exact fun earlier => asymmetric x b (first b member) (of_decide_eq_true earlier)
        simp [none_before, irreflexive]
      · constructor
        · rintro (equal | ⟨member, few⟩)
          · exact absurd equal same
          · refine ⟨.inr member, ?_⟩
            split <;> omega
        · rintro ⟨equal | member, few⟩
          · exact absurd equal same
          · have earlier := first x member
            rw [if_pos (decide_eq_true earlier)] at few
            exact .inr ⟨member, by omega⟩

variable {order : α → α → Prop} [DecidableRel order]

/-- A member can come among the first `n` of the sorted list exactly when fewer than `n` members have to stand
    before it, however ties are broken. -/
theorem mem_take_some_order [DecidableEq α] [Std.Total order] [IsTrans α order] :
    (∃ sorted : List α, sorted.Perm l ∧ sorted.Pairwise order ∧ x ∈ sorted.take n) ↔
      x ∈ l ∧ l.countP (fun y => ¬ order x y) < n := by
  have self : order x x := by simpa using Std.Total.total (r := order) x x
  constructor
  · rintro ⟨sorted, permuted, ordered, early⟩
    refine ⟨permuted.mem_iff.mp (List.mem_of_mem_take early), ?_⟩
    have after : (sorted.drop n).countP (fun y => ¬ order x y) = 0 := by
      rw [List.countP_eq_zero]
      intro y late
      have parts := ordered
      rw [← List.take_append_drop n sorted, List.pairwise_append] at parts
      simpa using parts.2.2 x early y late
    have notAll : (sorted.take n).countP (fun y => ¬ order x y) ≠ (sorted.take n).length := by
      intro all
      have held := List.countP_eq_length.mp all x early
      exact of_decide_eq_true held self
    have before := (sorted.take n).countP_le_length (p := fun y => ¬ order x y)
    rw [← permuted.countP_eq, ← List.take_append_drop n sorted, List.countP_append, after]
    have short := List.length_take_le n sorted
    omega
  · rintro ⟨member, few⟩
    refine ⟨(x :: l.erase x).insertionSort order, (List.perm_insertionSort order _).trans
      (List.perm_cons_erase member).symm, List.pairwise_insertionSort order _, ?_⟩
    have counted := (List.perm_cons_erase member).countP_eq (fun y => decide (¬ order x y))
    rw [List.countP_cons_of_neg (by simpa using self),
      ← (List.perm_insertionSort order (l.erase x)).countP_eq] at counted
    rw [List.insertionSort_cons, List.orderedInsert_eq_take_drop]
    generalize (l.erase x).insertionSort order = rest at counted
    have front : (rest.takeWhile fun y => ¬ order x y).length ≤ rest.countP fun y => ¬ order x y := by
      have kept : (rest.takeWhile fun y => ¬ order x y).Sublist rest := List.takeWhile_sublist _
      have all : ∀ y ∈ rest.takeWhile fun y => ¬ order x y, decide (¬ order x y) = true :=
        List.all_eq_true.mp List.all_takeWhile
      rw [← List.countP_eq_length.mpr all]
      exact kept.countP_le
    rw [List.take_append, List.mem_append]
    right
    have room : 0 < n - (rest.takeWhile fun y => ¬ order x y).length := by omega
    obtain ⟨k, isRoom⟩ := Nat.exists_eq_succ_of_ne_zero room.ne'
    rw [isRoom]
    exact List.mem_cons_self

end Ranking

end Relational
