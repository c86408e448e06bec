import TaxiPipeline.Relational.Counts

namespace Relational

variable {α β κ ι : Type*} [DecidableEq κ] [DecidableEq ι]

/-- A dictionary in the order of insertion, with the value of one key changed from what it is or from a default. -/
def alter (initial : β) (key : ι) (change : β → β) : List (ι × β) → List (ι × β)
  | [] => [(key, change initial)]
  | (k, value) :: rest =>
    if k = key then (k, change value) :: rest else (k, value) :: alter initial key change rest

/-- One more of a key in a counter. -/
def increment (key : κ) : List (κ × Nat) → List (κ × Nat) := alter 0 key (· + 1)

/-- The counters of the second members, in a dictionary by the first ones. -/
def tallyBuckets (pairs : List (ι × κ)) : List (ι × List (κ × Nat)) :=
  pairs.foldl (fun groups pair => alter [] pair.1 (increment pair.2) groups) []

section Alter

variable {initial : β} {key k : ι} {change : β → β} {dict : List (ι × β)} {value : β}

theorem alter_keys : (alter initial key change dict).map Prod.fst =
    if key ∈ dict.map Prod.fst then dict.map Prod.fst else dict.map Prod.fst ++ [key] := by
  induction dict with
  | nil => rfl
  | cons entry rest ih =>
    unfold alter
    by_cases same : entry.1 = key
    · rw [if_pos same, if_pos (by rw [← same]; exact List.mem_map_of_mem List.mem_cons_self)]
      rfl
    · have other : key ∈ (entry :: rest).map Prod.fst ↔ key ∈ rest.map Prod.fst := by
        rw [List.map_cons, List.mem_cons]
        exact or_iff_right fun equal => same equal.symm
      rw [if_neg same, List.map_cons, ih]
      by_cases known : key ∈ rest.map Prod.fst
      · rw [if_pos known, if_pos (other.mpr known)]
        rfl
      · rw [if_neg known, if_neg (mt other.mp known)]
        rfl

theorem alter_nodup (nodup : (dict.map Prod.fst).Nodup) : ((alter initial key change dict).map Prod.fst).Nodup := by
  rw [alter_keys]
  split
  · exact nodup
  · rename_i fresh
    rw [List.nodup_append']
    exact ⟨nodup, List.nodup_singleton key, List.disjoint_singleton.mpr fresh⟩

/-- The entries of the other keys stay, and the entry of the key is the changed one. -/
theorem mem_alter (nodup : (dict.map Prod.fst).Nodup) : (k, value) ∈ alter initial key change dict ↔
    (k ≠ key ∧ (k, value) ∈ dict) ∨
      (k = key ∧ ((∃ old, (key, old) ∈ dict ∧ value = change old) ∨
        (key ∉ dict.map Prod.fst ∧ value = change initial))) := by
  induction dict with
  | nil => simp [alter]
  | cons entry rest ih =>
    obtain ⟨name, held⟩ := entry
    obtain ⟨fresh, distinct⟩ := List.nodup_cons.mp nodup
    have notLater : ∀ v, (name, v) ∉ rest := fun v member => fresh (List.mem_map.mpr ⟨(name, v), member, rfl⟩)
    unfold alter
    by_cases same : name = key
    · subst same
      rw [if_pos rfl, List.mem_cons, Prod.mk.injEq]
      by_cases isKey : k = name
      · subst isKey
        simp [notLater]
      · simp [isKey]
    · rw [if_neg same, List.mem_cons, Prod.mk.injEq, ih distinct]
      by_cases isKey : k = key
      · subst isKey
        have apart : k ≠ name := fun equal => same equal.symm
        simp [apart]
      · simp only [isKey, List.mem_cons, Prod.mk.injEq, ne_eq, not_false_eq_true, true_and, false_and, or_false]

end Alter

section Folds

variable {initial : β} {key : α → ι} {step : α → β → β} {items : List α}

/-- A loop that changes the entries of a dictionary, one item after another. -/
def foldByKey (initial : β) (key : α → ι) (step : α → β → β) (items : List α) : List (ι × β) :=
  items.foldl (fun dict item => alter initial (key item) (step item) dict) []

/-- The value of a key is what its own items make of the default. -/
def foldOf (initial : β) (key : α → ι) (step : α → β → β) (k : ι) (items : List α) : β :=
  (items.filter (key · = k)).foldl (fun value item => step item value) initial

theorem foldByKey_append (item : α) : foldByKey initial key step (items ++ [item]) =
    alter initial (key item) (step item) (foldByKey initial key step items) := by
  unfold foldByKey
  rw [List.foldl_append]
  rfl

theorem foldByKey_nodup : ((foldByKey initial key step items).map Prod.fst).Nodup := by
  induction items using List.reverseRecOn with
  | nil => exact List.nodup_nil
  | append_singleton items item ih =>
    rw [foldByKey_append]
    exact alter_nodup ih

theorem foldOf_append {item : α} {k : ι} : foldOf initial key step k (items ++ [item]) =
    if key item = k then step item (foldOf initial key step k items) else foldOf initial key step k items := by
  unfold foldOf
  rw [List.filter_append, List.foldl_append]
  by_cases same : key item = k
  · simp [same]
  · simp [same]

theorem mem_foldByKey {k : ι} {value : β} : (k, value) ∈ foldByKey initial key step items ↔
    k ∈ items.map key ∧ value = foldOf initial key step k items := by
  induction items using List.reverseRecOn generalizing k value with
  | nil => simp [foldByKey]
  | append_singleton items item ih =>
    have keys : key item ∈ (foldByKey initial key step items).map Prod.fst ↔ key item ∈ items.map key := by
      rw [List.mem_map]
      constructor
      · rintro ⟨⟨name, held⟩, member, rfl⟩
        exact (ih.mp member).1
      · intro known
        exact ⟨(key item, foldOf initial key step (key item) items), ih.mpr ⟨known, rfl⟩, rfl⟩
    have untouched : key item ∉ items.map key → foldOf initial key step (key item) items = initial := by
      intro fresh
      have none_left : items.filter (key · = key item) = [] := by
        refine List.filter_eq_nil_iff.mpr fun other member same => fresh ?_
        exact of_decide_eq_true same ▸ List.mem_map_of_mem member
      rw [foldOf, none_left]
      rfl
    rw [foldByKey_append, mem_alter foldByKey_nodup, keys, ih, foldOf_append, List.map_append, List.mem_append,
      List.map_singleton, List.mem_singleton]
    by_cases isKey : k = key item
    · subst isKey
      rw [if_pos rfl]
      constructor
      · rintro (⟨apart, -⟩ | ⟨-, ⟨old, member, changed⟩ | ⟨fresh, changed⟩⟩)
        · exact absurd rfl apart
        · exact ⟨.inr rfl, changed.trans (congrArg _ (ih.mp member).2)⟩
        · exact ⟨.inr rfl, by rw [changed, untouched fresh]⟩
      · rintro ⟨-, changed⟩
        refine .inr ⟨rfl, ?_⟩
        by_cases known : key item ∈ items.map key
        · exact .inl ⟨_, ih.mpr ⟨known, rfl⟩, changed⟩
        · exact .inr ⟨known, by rw [changed, untouched known]⟩
    · rw [if_neg fun same => isKey same.symm]
      simp [isKey]

end Folds

section Buckets

variable {pairs : List (ι × κ)}

theorem foldOf_increment {keys : List κ} {k : κ} :
    foldOf 0 id (fun (_ : κ) n => n + 1) k keys = keys.count k := by
  induction keys using List.reverseRecOn with
  | nil => rfl
  | append_singleton keys item ih =>
    rw [foldOf_append, ih, List.count_append, id_eq, List.count_singleton]
    by_cases same : item = k
    · simp [same]
    · simp [same]

/-- The entries of all counters, by both keys. -/
def flatBuckets (buckets : List (ι × List (κ × Nat))) : List ((ι × κ) × Nat) :=
  buckets.flatMap fun bucket => bucket.2.map fun entry => ((bucket.1, entry.1), entry.2)

theorem tallyBuckets_eq : tallyBuckets pairs = foldByKey [] Prod.fst (fun pair => increment pair.2) pairs := rfl

theorem foldOf_bucket {h : ι} : foldOf [] Prod.fst (fun (pair : ι × κ) => increment pair.2) h pairs =
    foldByKey 0 id (fun _ n => n + 1) ((pairs.filter (·.1 = h)).map Prod.snd) := by
  unfold foldOf foldByKey
  rw [List.foldl_map]
  rfl

/-- How often a value occurs. -/
def occurrences (column : List κ) (value : κ) : Nat := column.count value

theorem count_bucket {h : ι} {k : κ} :
    ((pairs.filter (·.1 = h)).map Prod.snd).count k = occurrences pairs (h, k) := by
  unfold occurrences List.count
  rw [List.countP_map, List.countP_filter]
  refine List.countP_congr fun pair _ => ?_
  obtain ⟨h', k'⟩ := pair
  simp [and_comm]

theorem mem_flatBuckets {h : ι} {k : κ} {n : Nat} : ((h, k), n) ∈ flatBuckets (tallyBuckets pairs) ↔
    (h, k) ∈ pairs ∧ n = occurrences pairs (h, k) := by
  unfold flatBuckets
  rw [List.mem_flatMap]
  constructor
  · rintro ⟨⟨h', counter⟩, inBuckets, inCounter⟩
    obtain ⟨⟨k', n'⟩, entry, same⟩ := List.mem_map.mp inCounter
    obtain ⟨⟨rfl, rfl⟩, rfl⟩ : (h' = h ∧ k' = k) ∧ n' = n := by simpa [Prod.ext_iff] using same
    rw [tallyBuckets_eq, mem_foldByKey, foldOf_bucket] at inBuckets
    obtain ⟨-, rfl⟩ := inBuckets
    obtain ⟨member, counted⟩ := mem_foldByKey.mp entry
    rw [List.map_id] at member
    rw [foldOf_increment, count_bucket] at counted
    refine ⟨?_, counted⟩
    obtain ⟨pair, inBucket, isKey⟩ := List.mem_map.mp member
    obtain ⟨inPairs, ofBucket⟩ := List.mem_filter.mp inBucket
    have pair_eq : pair = (h', k') := Prod.ext (of_decide_eq_true ofBucket) isKey
    rwa [pair_eq] at inPairs
  · rintro ⟨member, rfl⟩
    have inBucket : k ∈ (pairs.filter (·.1 = h)).map Prod.snd :=
      List.mem_map.mpr ⟨(h, k), List.mem_filter.mpr ⟨member, decide_eq_true rfl⟩, rfl⟩
    refine ⟨(h, foldByKey 0 id (fun _ n => n + 1) ((pairs.filter (·.1 = h)).map Prod.snd)), ?_, ?_⟩
    · rw [tallyBuckets_eq, mem_foldByKey, foldOf_bucket]
      exact ⟨List.mem_map_of_mem member, rfl⟩
    · refine List.mem_map.mpr ⟨(k, occurrences pairs (h, k)), mem_foldByKey.mpr ⟨?_, ?_⟩, rfl⟩
      · rwa [List.map_id]
      · rw [foldOf_increment, count_bucket]

theorem flatBuckets_nodup : (flatBuckets (tallyBuckets pairs)).Nodup := by
  unfold flatBuckets
  rw [List.nodup_flatMap]
  constructor
  · rintro ⟨h, counter⟩ inBuckets
    rw [tallyBuckets_eq, mem_foldByKey, foldOf_bucket] at inBuckets
    obtain ⟨-, rfl⟩ := inBuckets
    refine List.Nodup.map (fun left right same => ?_) (List.Nodup.of_map Prod.fst foldByKey_nodup)
    simpa [Prod.ext_iff] using same
  · have keys : (tallyBuckets pairs).Pairwise fun left right => left.1 ≠ right.1 :=
      List.pairwise_map.mp foldByKey_nodup
    refine keys.imp fun apart entry inLeft inRight => apart ?_
    obtain ⟨left, -, rfl⟩ := List.mem_map.mp inLeft
    obtain ⟨right, -, same⟩ := List.mem_map.mp inRight
    exact congrArg (fun entry : (ι × κ) × Nat => entry.1.1) same.symm

/-- The buckets together hold the groups of the pairs. -/
theorem flatBuckets_perm : (flatBuckets (tallyBuckets pairs)).Perm (groupCounts pairs) := by
  have distinct : (groupCounts pairs).Nodup := by
    refine List.Nodup.of_map Prod.fst ?_
    rw [groupCounts_keys]
    exact List.nodup_dedup _
  rw [List.perm_ext_iff_of_nodup flatBuckets_nodup distinct]
  rintro ⟨⟨h, k⟩, n⟩
  exact mem_flatBuckets.trans (@mem_groupCounts _ _ pairs ((h, k), n)).symm

/-- The sizes of the repeated entries of the buckets are those of the pairs. -/
theorem bucketSizes_perm : ((tallyBuckets pairs).flatMap fun bucket => (bucket.2.map Prod.snd).filter (1 < ·)).Perm
    (repeatSizes pairs) := by
  have sizes : ((tallyBuckets pairs).flatMap fun bucket => (bucket.2.map Prod.snd).filter (1 < ·)) =
      ((flatBuckets (tallyBuckets pairs)).map Prod.snd).filter (1 < ·) := by
    unfold flatBuckets
    rw [List.map_flatMap, List.filter_flatMap]
    refine List.flatMap_congr fun bucket _ => ?_
    rw [List.map_map]
    rfl
  rw [sizes]
  exact (flatBuckets_perm.map Prod.snd).filter _

end Buckets

end Relational
