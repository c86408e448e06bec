import Mathlib.Data.List.NodupEquivFin
import Mathlib.Data.List.Sort
import Mathlib.Order.WellFounded

namespace Relational

variable {α κ : Type*}

section Orders

variable [LinearOrder κ] (key : α → κ) (rows rows' : List α)

/-- `order by key desc`. -/
def newestFirst : List α := rows.insertionSort fun left right => key right ≤ key left

/-- Every row stands before the rows of smaller keys, and no two rows have one key. -/
def Descending : Prop := rows.Pairwise fun left right => key right < key left

variable {key rows rows'}

theorem newestFirst_perm : (newestFirst key rows).Perm rows := List.perm_insertionSort _ rows

theorem newestFirst_descending (distinct : (rows.map key).Nodup) : Descending key (newestFirst key rows) := by
  have total : Std.Total fun left right : α => key right ≤ key left :=
    ⟨fun left right => le_total (key right) (key left)⟩
  have transitive : IsTrans α fun left right => key right ≤ key left := ⟨fun _ _ _ first second => second.trans first⟩
  have sorted := List.pairwise_insertionSort (fun left right => key right ≤ key left) rows
  have apart : (newestFirst key rows).Pairwise fun left right => key left ≠ key right := by
    rw [← List.pairwise_map (f := key) (R := (· ≠ ·))]
    exact (newestFirst_perm.map key).nodup_iff.mpr distinct
  exact sorted.imp₂ (fun left right below differ => lt_of_le_of_ne below differ.symm) apart

theorem descending_antisymm : Std.Antisymm fun left right : α => key right < key left :=
  ⟨fun _ _ first second => absurd (first.trans second) (lt_irrefl _)⟩

/-- Rows that come to a table push the others back but do not change their order. -/
theorem newestFirst_sublist (distinct : (rows'.map key).Nodup) (kept : rows.Subperm rows') :
    (newestFirst key rows).Sublist (newestFirst key rows') := by
  have antisymm := @descending_antisymm α κ _ key
  have permuted : (newestFirst key rows).Subperm (newestFirst key rows') :=
    (newestFirst_perm.subperm_right.mpr kept).trans newestFirst_perm.symm.subperm
  have distinctBefore : (rows.map key).Nodup := by
    obtain ⟨kept', same, inside⟩ := kept
    exact (same.map key).nodup_iff.mp ((inside.map key).nodup distinct)
  exact List.sublist_of_subperm_of_pairwise permuted (newestFirst_descending distinctBefore)
    (newestFirst_descending distinct)

end Orders

section Pages

variable {rows rows' : List α} {limit offset : Nat} {row : α}

/-- `limit ... offset ...` of ordered rows. -/
def page (limit offset : Nat) (rows : List α) : List α := (rows.drop offset).take limit

/-- The row stands at the offset or after it. -/
def FromOffset (offset : Nat) (rows : List α) (row : α) : Prop := ∃ i, offset ≤ i ∧ rows[i]? = some row

theorem fromOffset_zero (member : row ∈ rows) : FromOffset 0 rows row := by
  obtain ⟨i, found⟩ := List.mem_iff_getElem?.mp member
  exact ⟨i, Nat.zero_le i, found⟩

theorem fromOffset_page (waiting : FromOffset offset rows row) :
    row ∈ page limit offset rows ∨ FromOffset (offset + limit) rows row := by
  obtain ⟨i, after, found⟩ := waiting
  by_cases onPage : i < offset + limit
  · left
    refine List.mem_iff_getElem?.mpr ⟨i - offset, ?_⟩
    unfold page
    rw [List.getElem?_take, if_pos (by omega), List.getElem?_drop, Nat.add_sub_of_le after, found]
  · exact .inr ⟨i, not_lt.mp onPage, found⟩

theorem FromOffset.later (waiting : FromOffset offset rows row) (grown : rows.Sublist rows') :
    FromOffset offset rows' row := by
  obtain ⟨i, after, found⟩ := waiting
  obtain ⟨place, same⟩ := List.sublist_iff_exists_orderEmbedding_getElem?_eq.mp grown
  refine ⟨place i, after.trans (StrictMono.le_apply place.strictMono), ?_⟩
  rw [← same i, found]

theorem page_length : (page limit offset rows).length = min limit (rows.length - offset) := by
  unfold page
  rw [List.length_take, List.length_drop]

theorem page_last (short : (page limit offset rows).length < limit) : ¬ FromOffset (offset + limit) rows row := by
  rintro ⟨i, after, found⟩
  have inside := (List.getElem?_eq_some_iff.mp found).1
  rw [page_length] at short
  omega

theorem take_page : rows.take offset ++ page limit offset rows = rows.take (offset + limit) := by
  unfold page
  rw [List.take_add]

theorem take_last (short : (page limit offset rows).length < limit) : rows.take (offset + limit) = rows := by
  rw [page_length] at short
  exact List.take_of_length_le (by omega)

end Pages

end Relational
