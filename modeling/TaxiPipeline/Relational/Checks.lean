import TaxiPipeline.Relational.Counts

namespace Relational

variable {α β κ : Type}

/-- `full outer join`: the rows of both left joins, with nulls where a row meets none. -/
def fullJoin (left : List α) (right : List β) (on : α → β → Bool) : List (Option α × Option β) :=
  (leftJoin left right on).map (fun row => (some row.1, row.2)) ++
    (right.filter fun b => left.all fun a => !on a b).map fun b => (none, some b)

section Columns

variable [DecidableEq κ]

/-- `select column ... group by column having count(*) > 1`. -/
def repeated (column : List κ) : List κ := column.dedup.filter fun value => 1 < column.count value

/-- `select column ... where column not in (values) group by column`. -/
def outside (values column : List κ) : List κ := column.dedup.filter (· ∉ values)

/-- The children that have no parent. -/
def orphans (parents children : List κ) : List κ := children.filter (· ∉ parents)

/-- The full outer join of two counts by a key, where the counts are distinct. -/
def differingCounts (left right : List κ) : List (Option κ × Option Nat × Option Nat) :=
  ((fullJoin (groupCounts left) (groupCounts right) fun l r => equal (some l.1) (some r.1)).filter fun row =>
    row.1.map Prod.snd ≠ row.2.map Prod.snd).map fun row =>
      ((row.1.map Prod.fst).or (row.2.map Prod.fst), row.1.map Prod.snd, row.2.map Prod.snd)

/-- `select left.key, count(right.key) from left left join right ... group by 1`. -/
def joinedCounts (left right : List κ) : List (κ × Nat) :=
  let joined := leftJoin left right fun l r => equal (some l) (some r)
  (joined.map Prod.fst).dedup.map fun key => (key, joined.countP fun row => row.1 = key && row.2.isSome)

/-- The left join of counts with others by their key, where the counts differ and a missing one is 0. -/
def miscounted (counts : List (κ × Nat)) (column : List κ) : List (κ × Nat × Nat) :=
  ((leftJoin counts (groupCounts column) fun l r => equal (some l.1) (some r.1)).map fun row =>
    (row.1.1, row.1.2, (row.2.map Prod.snd).getD 0)).filter fun row => row.2.1 ≠ row.2.2

end Columns

section Joins

variable {left : List α} {right : List β} {on : α → β → Bool} {x : Option α} {y : Option β}

theorem mem_fullJoin : (x, y) ∈ fullJoin left right on ↔ (∃ a, x = some a ∧ (a, y) ∈ leftJoin left right on) ∨
    x = none ∧ ∃ b ∈ right, y = some b ∧ ∀ a ∈ left, on a b = false := by
  unfold fullJoin
  simp only [List.mem_append, List.mem_map, Prod.mk.injEq, List.mem_filter, List.all_eq_true, Bool.not_eq_true',
    Prod.exists]
  constructor
  · rintro (⟨a, found, member, rfl, rfl⟩ | ⟨b, ⟨member, alone⟩, rfl, rfl⟩)
    · exact .inl ⟨a, rfl, member⟩
    · exact .inr ⟨rfl, b, member, rfl, alone⟩
  · rintro (⟨a, rfl, member⟩ | ⟨rfl, b, member, rfl, alone⟩)
    · exact .inl ⟨a, y, member, rfl, rfl⟩
    · exact .inr ⟨b, ⟨member, alone⟩, rfl, rfl⟩

end Joins

section Checks

variable [DecidableEq κ] {column left right : List κ} {values : List κ}

theorem repeated_nil : repeated column = [] ↔ column.Nodup := by
  unfold repeated
  rw [List.filter_eq_nil_iff, List.nodup_iff_count_le_one]
  constructor
  · intro none_twice value
    by_cases member : value ∈ column
    · have once := none_twice value (List.mem_dedup.mpr member)
      simpa using once
    · rw [List.count_eq_zero_of_not_mem member]
      exact Nat.zero_le 1
  · intro once value _
    simpa using once value

theorem outside_nil : outside values column = [] ↔ ∀ value ∈ column, value ∈ values := by
  unfold outside
  rw [List.filter_eq_nil_iff]
  simp only [List.mem_dedup, decide_not, Bool.not_eq_true', decide_eq_false_iff_not, not_not]

theorem orphans_nil : orphans left right = [] ↔ ∀ key ∈ right, key ∈ left := by
  unfold orphans
  rw [List.filter_eq_nil_iff]
  simp only [decide_not, Bool.not_eq_true', decide_eq_false_iff_not, not_not]

/-- A key with its count joins with the same key and its count, or with nulls where that has none. -/
theorem mem_joined_counts {key : κ} {n : Nat} {found : Option (κ × Nat)} :
    ((key, n), found) ∈ leftJoin (groupCounts left) (groupCounts right)
        (fun l r => equal (some l.1) (some r.1)) ↔
      (key ∈ left ∧ n = left.count key) ∧
        (found = none ∧ key ∉ right ∨ found = some (key, right.count key) ∧ key ∈ right) := by
  rw [mem_leftJoin, mem_groupCounts]
  refine and_congr_right fun _ => or_congr (and_congr_right fun _ => ?_) ?_
  · rw [List.filter_eq_nil_iff]
    constructor
    · intro alone member
      exact alone (key, right.count key) (mem_groupCounts.mpr ⟨member, rfl⟩) (equal_iff.mpr ⟨key, rfl, rfl⟩)
    · rintro absent ⟨other, m⟩ member met
      obtain ⟨k, same, same'⟩ := equal_iff.mp met
      cases same.trans same'.symm
      exact absent (mem_groupCounts.mp member).1
  · constructor
    · rintro ⟨⟨other, m⟩, member, rfl⟩
      rw [List.mem_filter] at member
      obtain ⟨k, same, same'⟩ := equal_iff.mp member.2
      cases same.trans same'.symm
      obtain ⟨inRight, counted⟩ := mem_groupCounts.mp member.1
      exact ⟨congrArg (fun m => some (key, m)) counted, inRight⟩
    · rintro ⟨rfl, member⟩
      refine ⟨_, List.mem_filter.mpr ⟨mem_groupCounts.mpr ⟨member, rfl⟩, ?_⟩, rfl⟩
      exact equal_iff.mpr ⟨key, rfl, rfl⟩

/-- No count differs exactly when both columns have every key equally often. -/
theorem differingCounts_nil : differingCounts left right = [] ↔ ∀ key, left.count key = right.count key := by
  unfold differingCounts
  rw [List.map_eq_nil_iff, List.filter_eq_nil_iff]
  simp only [decide_not, Bool.not_eq_true', decide_eq_false_iff_not, not_not, Prod.forall]
  constructor
  · intro agree key
    by_cases inLeft : key ∈ left
    · by_cases inRight : key ∈ right
      · have both := agree (some (key, left.count key)) (some (key, right.count key))
          (mem_fullJoin.mpr (.inl ⟨_, rfl, mem_joined_counts.mpr ⟨⟨inLeft, rfl⟩, .inr ⟨rfl, inRight⟩⟩⟩))
        exact Option.some.inj both
      · have alone := agree (some (key, left.count key)) none
          (mem_fullJoin.mpr (.inl ⟨_, rfl, mem_joined_counts.mpr ⟨⟨inLeft, rfl⟩, .inl ⟨rfl, inRight⟩⟩⟩))
        cases alone
    · by_cases inRight : key ∈ right
      · have alone := agree none (some (key, right.count key)) (mem_fullJoin.mpr (.inr ⟨rfl, _,
          mem_groupCounts.mpr ⟨inRight, rfl⟩, rfl, fun other member => by
            cases met : equal (some other.1) (some key) with
            | false => rfl
            | true =>
              obtain ⟨k, same, same'⟩ := equal_iff.mp met
              cases same.trans same'.symm
              exact absurd (mem_groupCounts.mp member).1 inLeft⟩))
        cases alone
      · rw [List.count_eq_zero_of_not_mem inLeft, List.count_eq_zero_of_not_mem inRight]
  · intro same x y member
    rcases mem_fullJoin.mp member with ⟨⟨key, n⟩, rfl, joined⟩ | ⟨rfl, ⟨key, n⟩, inRight, rfl, alone⟩
    · obtain ⟨⟨inLeft, rfl⟩, ⟨rfl, absent⟩ | ⟨rfl, -⟩⟩ := mem_joined_counts.mp joined
      · have none_left := same key
        rw [List.count_eq_zero_of_not_mem absent] at none_left
        exact absurd inLeft (List.count_eq_zero.mp none_left)
      · exact congrArg some (same key)
    · obtain ⟨member, -⟩ := mem_groupCounts.mp inRight
      have some_left : 0 < left.count key := by
        rw [same key]
        exact List.count_pos_iff.mpr member
      have apart := alone (key, left.count key) (mem_groupCounts.mpr ⟨List.count_pos_iff.mp some_left, rfl⟩)
      rw [equal_iff.mpr ⟨key, rfl, rfl⟩] at apart
      cases apart

theorem mem_leftJoin_keys {key : κ} :
    key ∈ (leftJoin left right fun l r => equal (some l) (some r)).map Prod.fst ↔ key ∈ left := by
  rw [List.mem_map]
  constructor
  · rintro ⟨⟨other, found⟩, member, rfl⟩
    exact (mem_leftJoin.mp member).1
  · intro member
    rcases met : right.filter (fun r => equal (some key) (some r)) with _ | ⟨r, rest⟩
    · exact ⟨(key, none), mem_leftJoin.mpr ⟨member, .inl ⟨rfl, met⟩⟩, rfl⟩
    · exact ⟨(key, some r), mem_leftJoin.mpr ⟨member, .inr ⟨r, met ▸ List.mem_cons_self, rfl⟩⟩, rfl⟩

theorem leftJoin_countP {key : κ} : (leftJoin left right fun l r => equal (some l) (some r)).countP
    (fun row => row.1 = key && row.2.isSome) = left.count key * right.count key := by
  induction left with
  | nil => rw [List.count_nil, Nat.zero_mul]; rfl
  | cons l rest ih =>
    have split : leftJoin (l :: rest) right (fun l r => equal (some l) (some r)) =
        leftJoin [l] right (fun l r => equal (some l) (some r)) ++
          leftJoin rest right fun l r => equal (some l) (some r) :=
      @leftJoin_append _ _ [l] rest right fun l r => equal (some l) (some r)
    have first : (leftJoin [l] right fun l r => equal (some l) (some r)).countP
        (fun row => row.1 = key && row.2.isSome) = if l = key then right.count key else 0 := by
      have matches_count : (right.filter fun r => equal (some l) (some r)).length = right.count l := by
        rw [List.count_eq_length_filter]
        refine congrArg List.length (List.filter_congr fun r _ => ?_)
        rw [equal, Bool.beq_comm]
      unfold leftJoin
      rw [List.flatMap_singleton]
      rcases met : right.filter (fun r => equal (some l) (some r)) with _ | ⟨r, found⟩
      · rw [met] at matches_count
        by_cases same : l = key
        · rw [if_pos same, ← same, ← matches_count]
          simp
        · rw [if_neg same]
          simp
      · rw [met] at matches_count
        by_cases same : l = key
        · rw [if_pos same, ← same, ← matches_count, List.countP_eq_length.mpr, List.length_map]
          intro row member
          obtain ⟨b, -, rfl⟩ := List.mem_map.mp member
          simp
        · rw [if_neg same, List.countP_eq_zero]
          intro row member
          obtain ⟨b, -, rfl⟩ := List.mem_map.mp member
          simp [same]
    rw [split, List.countP_append, ih, first, List.count_cons]
    by_cases same : l = key
    · rw [if_pos same, if_pos (beq_iff_eq.mpr same), Nat.add_mul, Nat.one_mul, Nat.add_comm]
    · rw [if_neg same, if_neg (fun met => same (beq_iff_eq.mp met)), Nat.zero_add, Nat.add_zero]

/-- Distinct keys of the left are counted as often as they occur on the right. -/
theorem mem_joinedCounts {key : κ} {n : Nat} (nodup : left.Nodup) :
    (key, n) ∈ joinedCounts left right ↔ key ∈ left ∧ n = right.count key := by
  unfold joinedCounts
  rw [List.mem_map]
  simp only [List.mem_dedup, Prod.mk.injEq]
  constructor
  · rintro ⟨other, member, rfl, rfl⟩
    have inLeft := mem_leftJoin_keys.mp member
    rw [leftJoin_countP, List.count_eq_one_of_mem nodup inLeft, Nat.one_mul]
    exact ⟨inLeft, rfl⟩
  · rintro ⟨member, rfl⟩
    refine ⟨key, mem_leftJoin_keys.mpr member, rfl, ?_⟩
    rw [leftJoin_countP, List.count_eq_one_of_mem nodup member, Nat.one_mul]

theorem miscounted_nil {counts : List (κ × Nat)} : miscounted counts column = [] ↔
    ∀ entry ∈ counts, entry.2 = column.count entry.1 := by
  have found : ∀ entry ∈ counts, ∀ other, (entry, other) ∈ leftJoin counts (groupCounts column)
      (fun l r => equal (some l.1) (some r.1)) → ((other.map Prod.snd).getD 0) = column.count entry.1 := by
    intro entry member other joined
    rcases (mem_leftJoin.mp joined).2 with ⟨rfl, alone⟩ | ⟨group, met, rfl⟩
    · have absent : entry.1 ∉ column := fun inColumn =>
        List.filter_eq_nil_iff.mp alone (entry.1, column.count entry.1) (mem_groupCounts.mpr ⟨inColumn, rfl⟩)
          (equal_iff.mpr ⟨entry.1, rfl, rfl⟩)
      exact (List.count_eq_zero_of_not_mem absent).symm
    · rw [List.mem_filter] at met
      obtain ⟨k, same, same'⟩ := equal_iff.mp met.2
      rw [Option.some.inj (same.trans same'.symm)]
      exact (mem_groupCounts.mp met.1).2
  unfold miscounted
  rw [List.filter_eq_nil_iff]
  simp only [List.mem_map, Prod.exists, decide_not, Bool.not_eq_true', decide_eq_false_iff_not, not_not]
  constructor
  · intro agree entry member
    rcases met : (groupCounts column).filter (fun r => equal (some entry.1) (some r.1)) with _ | ⟨r, rest⟩
    · have joined : (entry, none) ∈ leftJoin counts (groupCounts column) (fun l r => equal (some l.1) (some r.1)) :=
        mem_leftJoin.mpr ⟨member, .inl ⟨rfl, met⟩⟩
      have same := agree _ ⟨entry.1, entry.2, none, joined, rfl⟩
      exact same.trans (found entry member none joined)
    · have joined : (entry, some r) ∈ leftJoin counts (groupCounts column) (fun l r => equal (some l.1) (some r.1)) :=
        mem_leftJoin.mpr ⟨member, .inr ⟨r, met ▸ List.mem_cons_self, rfl⟩⟩
      have same := agree _ ⟨entry.1, entry.2, some r, joined, rfl⟩
      exact same.trans (found entry member (some r) joined)
  · rintro agree row ⟨key, n, other, joined, rfl⟩
    have member := (mem_leftJoin.mp joined).1
    exact (agree (key, n) member).trans (found (key, n) member other joined).symm

end Checks

end Relational
