import Mathlib.Data.List.Nodup

namespace Relational

variable {α κ : Type*} [DecidableEq κ] {key : α → κ} {merge : α → α → α} {rows news : List α} {row : α}

/-- `insert ... on conflict (key) do update`; `merge` says what the row that is there keeps. -/
def upsert (key : α → κ) (merge : α → α → α) (rows : List α) (row : α) : List α :=
  if rows.any fun old => key old = key row then
    rows.map fun old => if key old = key row then merge old row else old
  else rows ++ [row]

theorem upsert_fresh (fresh : key row ∉ rows.map key) : upsert key merge rows row = rows ++ [row] := by
  unfold upsert
  rw [if_neg]
  simpa using fresh

theorem upsert_known (known : key row ∈ rows.map key) : upsert key merge rows row =
    rows.map fun old => if key old = key row then merge old row else old := by
  unfold upsert
  rw [if_pos]
  simpa using known

theorem upserts_fresh (distinct : (news.map key).Nodup) (fresh : ∀ new ∈ news, key new ∉ rows.map key) :
    news.foldl (upsert key merge) rows = rows ++ news := by
  induction news generalizing rows with
  | nil => simp
  | cons new rest ih =>
    obtain ⟨apart, restDistinct⟩ := List.nodup_cons.mp distinct
    have restFresh : ∀ other ∈ rest, key other ∉ (rows ++ [new]).map key := by
      intro other member
      rw [List.map_append, List.mem_append, not_or]
      refine ⟨fresh other (List.mem_cons_of_mem _ member), ?_⟩
      intro same
      rw [List.map_singleton, List.mem_singleton] at same
      exact apart (same ▸ List.mem_map_of_mem member)
    rw [List.foldl_cons, upsert_fresh (fresh new List.mem_cons_self), ih restDistinct restFresh,
      List.append_assoc, List.singleton_append]

/-- The row of a key after rows have been upserted, each key once. -/
def merged (key : α → κ) (merge : α → α → α) (news : List α) (old : α) : α :=
  match news.find? fun new => key new = key old with
  | some new => merge old new
  | none => old

theorem merged_none (absent : key row ∉ news.map key) : merged key merge news row = row := by
  have none_found : news.find? (fun new => decide (key new = key row)) = none := by
    rw [List.find?_eq_none]
    intro new member same
    exact absent (of_decide_eq_true same ▸ List.mem_map_of_mem member)
  unfold merged
  rw [none_found]

theorem merged_of_mem {new : α} (distinct : (news.map key).Nodup) (member : new ∈ news)
    (same : key new = key row) : merged key merge news row = merge row new := by
  have found : news.find? (fun other => decide (key other = key row)) = some new := by
    cases first : news.find? (fun other => decide (key other = key row)) with
    | none => exact absurd (decide_eq_true same) (List.find?_eq_none.mp first new member)
    | some other =>
      have sameKey : key other = key row := by simpa using List.find?_some first
      rw [List.inj_on_of_nodup_map distinct (List.mem_of_find?_eq_some first) member (sameKey.trans same.symm)]
  unfold merged
  rw [found]

theorem upserts_known (keeps : ∀ old new, key (merge old new) = key new) (distinct : (news.map key).Nodup)
    (known : ∀ new ∈ news, key new ∈ rows.map key) :
    news.foldl (upsert key merge) rows = rows.map (merged key merge news) := by
  induction news generalizing rows with
  | nil =>
    rw [List.foldl_nil]
    exact (List.map_id rows).symm
  | cons new rest ih =>
    obtain ⟨apart, restDistinct⟩ := List.nodup_cons.mp distinct
    have sameKeys : (rows.map fun old => if key old = key new then merge old new else old).map key =
        rows.map key := by
      rw [List.map_map]
      apply List.map_congr_left
      intro old _
      by_cases same : key old = key new
      · simp [same, keeps]
      · simp [same]
    rw [List.foldl_cons, upsert_known (known new List.mem_cons_self), ih restDistinct, List.map_map]
    · apply List.map_congr_left
      intro old _
      by_cases same : key old = key new
      · have later : key (merge old new) ∉ rest.map key := by rwa [keeps]
        rw [Function.comp_apply, if_pos same, merged_none later]
        simp [merged, same]
      · rw [Function.comp_apply, if_neg same]
        simp [merged, Ne.symm same]
    · intro other member
      rw [sameKeys]
      exact known other (List.mem_cons_of_mem _ member)

end Relational
