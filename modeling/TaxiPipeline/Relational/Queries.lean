import Mathlib.Data.List.Dedup
import Mathlib.Data.List.Nodup

namespace Relational

variable {α β κ : Type*}

/-- SQL's `=` on nullable columns, as a join or a filter reads it: true only of two values. -/
def equal [DecidableEq κ] : Option κ → Option κ → Bool
  | some left, some right => left == right
  | _, _ => false

/-- Every left row with each right row that it meets, or once with nulls when it meets none. -/
def leftJoin (left : List α) (right : List β) (on : α → β → Bool) : List (α × Option β) :=
  left.flatMap fun a =>
    match right.filter (on a) with
    | [] => [(a, none)]
    | found => found.map fun b => (a, some b)

/-- Every left row with each right row that it meets. -/
def innerJoin (left : List α) (right : List β) (on : α → β → Bool) : List (α × β) :=
  left.flatMap fun a => (right.filter (on a)).map (a, ·)

/-- `select column, count(*) ... group by column`, in the order of first appearance. -/
def groupCounts [DecidableEq κ] (column : List κ) : List (κ × Nat) :=
  column.dedup.map fun value => (value, column.count value)

/-- The non-null values of a column are distinct, as a unique constraint demands. -/
def UniqueKey (key : β → Option κ) (rows : List β) : Prop := (rows.filterMap key).Nodup

instance [DecidableEq κ] (key : β → Option κ) (rows : List β) : Decidable (UniqueKey key rows) :=
  inferInstanceAs (Decidable (rows.filterMap key).Nodup)

section LeftJoins

variable {left left' : List α} {right right' : List β} {on : α → β → Bool} {a : α}

theorem leftJoin_append :
    leftJoin (left ++ left') right on = leftJoin left right on ++ leftJoin left' right on :=
  List.flatMap_append

/-- A row of a left join: a left row with a right row that it meets, or with nulls if it meets none. -/
theorem mem_leftJoin {found : Option β} : (a, found) ∈ leftJoin left right on ↔
    a ∈ left ∧ (found = none ∧ right.filter (on a) = [] ∨ ∃ b ∈ right.filter (on a), found = some b) := by
  unfold leftJoin
  rw [List.mem_flatMap]
  constructor
  · rintro ⟨a', member, joined⟩
    split at joined
    · rename_i none_met
      cases List.mem_singleton.mp joined
      exact ⟨member, .inl ⟨rfl, none_met⟩⟩
    · obtain ⟨b, met, same⟩ := List.mem_map.mp joined
      cases same
      exact ⟨member, .inr ⟨b, met, rfl⟩⟩
  · rintro ⟨member, ⟨rfl, none_met⟩ | ⟨b, met, rfl⟩⟩
    · exact ⟨a, member, by simp [none_met]⟩
    · refine ⟨a, member, ?_⟩
      split
      · rename_i none_met
        rw [none_met] at met
        cases met
      · exact List.mem_map_of_mem met

/-- A left join sees of the right table only the rows that its left rows meet. -/
theorem leftJoin_congr (same : ∀ a ∈ left, right.filter (on a) = right'.filter (on a)) :
    leftJoin left right on = leftJoin left right' on := by
  unfold leftJoin
  refine List.flatMap_congr fun a member => ?_
  rw [same a member]

end LeftJoins

section Joins

variable [DecidableEq κ] {key : β → Option κ} {left : List α} {right : List β}

theorem equal_iff {x y : Option κ} : equal x y = true ↔ ∃ k, x = some k ∧ y = some k := by
  cases x with
  | none => exact ⟨nofun, fun ⟨_, impossible, _⟩ => nomatch impossible⟩
  | some k =>
    cases y with
    | none => exact ⟨nofun, fun ⟨_, _, impossible⟩ => nomatch impossible⟩
    | some k' =>
      constructor
      · intro same
        exact ⟨k, rfl, congrArg some (beq_iff_eq.mp same).symm⟩
      · rintro ⟨value, sameLeft, sameRight⟩
        cases sameLeft
        cases sameRight
        exact beq_iff_eq.mpr rfl

theorem filter_equal_none (rows : List β) : rows.filter (fun b => equal none (key b)) = [] :=
  List.filter_eq_nil_iff.mpr fun _ _ => Bool.false_ne_true

theorem UniqueKey.filter_equal (unique : UniqueKey key right) (k : Option κ) :
    right.filter (fun b => equal k (key b)) = (right.find? fun b => equal k (key b)).toList := by
  induction right with
  | nil => rfl
  | cons head rest ih =>
    cases meets : equal k (key head) with
    | false =>
      have restUnique : UniqueKey key rest := unique.sublist ((List.sublist_cons_self _ _).filterMap key)
      simp [meets, ih restUnique]
    | true =>
      obtain ⟨value, rfl, ofHead⟩ := equal_iff.mp meets
      have apart : ∀ b ∈ rest, equal (some value) (key b) = false := by
        intro b member
        have fresh : value ∉ rest.filterMap key := by
          unfold UniqueKey at unique
          rw [List.filterMap_cons_some ofHead, List.nodup_cons] at unique
          exact unique.1
        refine Bool.eq_false_iff.mpr fun same => fresh ?_
        obtain ⟨other, sameValue, ofRow⟩ := equal_iff.mp same
        cases sameValue
        exact List.mem_filterMap.mpr ⟨b, member, ofRow⟩
      have none_left : rest.filter (fun b => equal (some value) (key b)) = [] := by
        refine List.filter_eq_nil_iff.mpr fun b member => ?_
        rw [apart b member]
        exact Bool.false_ne_true
      simp [meets, none_left]

/-- A left join on a unique column neither drops nor repeats a left row. -/
theorem UniqueKey.leftJoin (unique : UniqueKey key right) (column : α → Option κ) :
    leftJoin left right (fun a b => equal (column a) (key b)) =
      left.map fun a => (a, right.find? fun b => equal (column a) (key b)) := by
  unfold Relational.leftJoin
  rw [List.map_eq_flatMap]
  congr 1
  funext a
  rw [unique.filter_equal]
  cases right.find? fun b => equal (column a) (key b) <;> rfl

theorem mem_innerJoin {on : α → β → Bool} {a : α} {b : β} :
    (a, b) ∈ innerJoin left right on ↔ a ∈ left ∧ b ∈ right ∧ on a b = true := by
  simp [innerJoin]

/-- An inner join on a unique column keeps the left rows that meet a right one, each once. -/
theorem UniqueKey.innerJoin (unique : UniqueKey key right) (column : α → Option κ) :
    (innerJoin left right fun a b => equal (column a) (key b)).map Prod.fst =
      left.filter fun a => (right.find? fun b => equal (column a) (key b)).isSome := by
  induction left with
  | nil => rfl
  | cons head rest ih =>
    unfold Relational.innerJoin at ih ⊢
    rw [List.flatMap_cons, List.map_append, ih, unique.filter_equal, List.filter_cons]
    cases right.find? fun b => equal (column head) (key b) <;> rfl

end Joins

end Relational
