import TaxiPipeline.Model.DuplicateProfile
import TaxiPipeline.Quality.RowDefinitions
import TaxiPipeline.Stateful.Loops

namespace TaxiPipeline

open Relational Stateful

/-- A value up to the equality of rows: all NaNs are one value, and so are the two zeros. -/
inductive CellValue where
  | integer (value : Int)
  | floating (value : Binary64.Meaning)
  | string (value : String)
  | boolean (value : Bool)
  | timestamp (ticks : Int)
  deriving DecidableEq

def Cell.meaning : Cell → CellValue
  | .integer value => .integer value
  | .floating value => .floating (Binary64.meaning value)
  | .string value => .string value
  | .boolean value => .boolean value
  | .timestamp ticks => .timestamp ticks

/-- A row up to equality, null being a value of its own. -/
def rowValues (row : TableRow) : List (Option CellValue) := row.map (Option.map Cell.meaning)

/-- The duplicates counted directly over the rows. -/
def directProfile (rows : List TableRow) : DuplicateProfile where
  totalRows := rows.length
  uniqueFullRows := (rows.map rowValues).dedup.length
  rowsParticipatingInDuplicateGroups := participatingRows (rows.map rowValues)
  duplicateExcessRows := excessRows (rows.map rowValues)
  duplicateGroups := repeatedValues (rows.map rowValues)

/-- `isoformat()` tells the timestamps of a type apart and is never the text of the null. -/
structure Isoformats (isoformat : String → Int → Except PyException String) : Prop where
  injective : ∀ type ticks ticks' text,
    isoformat type ticks = .ok text → isoformat type ticks' = .ok text → ticks = ticks'
  notNull : ∀ type ticks, isoformat type ticks ≠ .ok "null"

/-- Python has a `datetime` for every timestamp of the row. -/
def Convertible (isoformat : String → Int → Except PyException String) (schema : List ColumnField)
    (row : TableRow) : Prop :=
  ∀ entry ∈ schema.zip row, ∀ ticks, entry.2 = some (.timestamp ticks) →
    ∃ text, isoformat entry.1.typeName ticks = .ok text

/-- What is left of a value when a null and the text of the null are one. -/
def blurred (value : Option CellValue) : Option CellValue := if value = some (.string "null") then none else value

/-- The value of a row under a name: the one in the last column of this name. -/
def valueOf (schema : List ColumnField) (row : TableRow) (name : String) : Option CellValue :=
  (lastValue name ((schema.map ColumnField.name).zip (rowValues row))).join

/-- No two different rows of one hash differ in nothing but a null against the text of the null. -/
def ApartUnderHash {η : Type} (rowHash : TableRow → η) (schema : List ColumnField) (rows : List TableRow) : Prop :=
  ∀ left ∈ rows, ∀ right ∈ rows, rowHash left = rowHash right →
    (∀ field ∈ schema, blurred (valueOf schema left field.name) = blurred (valueOf schema right field.name)) →
      rowValues left = rowValues right

section Values

variable {isoformat : String → Int → Except PyException String} {field : ColumnField} {left right : Option Cell}
variable {u v : Option PyValue}

theorem asPy_timestamp {ticks : Int} : asPy isoformat field (some (.timestamp ticks)) = .ok u ↔
    ∃ text, isoformat field.typeName ticks = .ok text ∧ u = some (.datetime text) := by
  unfold asPy
  rw [bind_ok]
  refine exists_congr fun text => and_congr_right fun _ => ?_
  exact ⟨fun same => (Except.ok.inj same).symm, fun same => congrArg _ same.symm⟩

theorem blurred_text {text : String} :
    blurred (some (.string text)) = if text = "null" then none else some (.string text) := by
  unfold blurred
  simp only [Option.some_inj, CellValue.string.injEq]

theorem blurred_null : blurred none = none := rfl

theorem duplicateValue_floating {x : Double} {typeName : String} : duplicateValue (some (.float x)) typeName =
    (typeName, if x.isNaN then .text "nan" else .float x.canonical) := by
  simp only [duplicateValue, Double.canonical]
  by_cases nan : x.isNaN = true
  · rw [if_pos nan, if_pos nan]
  · rw [if_neg nan, if_neg nan, if_neg nan]
    split <;> rfl

theorem duplicateValue_float {x y : Double} {typeName : String} :
    duplicateValue (some (.float x)) typeName = duplicateValue (some (.float y)) typeName ↔
      Binary64.meaning x = Binary64.meaning y := by
  rw [duplicateValue_floating, duplicateValue_floating, Prod.mk.injEq, and_iff_right rfl]
  by_cases left : x.isNaN = true
  · by_cases right : y.isNaN = true
    · rw [if_pos left, if_pos right, Double.isNaN_iff.mp left, Double.isNaN_iff.mp right]
      exact iff_of_true rfl rfl
    · rw [if_pos left, if_neg right, Double.isNaN_iff.mp left]
      exact iff_of_false nofun fun same => right (Double.isNaN_iff.mpr same.symm)
  · by_cases right : y.isNaN = true
    · rw [if_neg left, if_pos right, Double.isNaN_iff.mp right]
      exact iff_of_false nofun fun same => left (Double.isNaN_iff.mpr same)
    · rw [if_neg left, if_neg right, DuplicateKey.float.injEq, Double.canonical_eq_iff]

theorem duplicateValue_null (formats : Isoformats isoformat) {cell : Cell} {typeName : String}
    (converted : asPy isoformat field (some cell) = .ok u) :
    duplicateValue u typeName = duplicateValue none typeName ↔ blurred (some cell.meaning) = none := by
  cases cell with
  | integer value =>
    cases converted
    exact iff_of_false (fun same => nomatch (Prod.mk.inj same).2) nofun
  | floating value =>
    cases converted
    refine iff_of_false (fun same => ?_) nofun
    rw [duplicateValue_floating] at same
    by_cases nan : value.isNaN = true
    · rw [if_pos nan] at same
      exact absurd (DuplicateKey.text.inj (Prod.mk.inj same).2) (by decide)
    · rw [if_neg nan] at same
      cases (Prod.mk.inj same).2
  | string value =>
    cases converted
    rw [Cell.meaning, blurred_text]
    by_cases isNull : value = "null"
    · rw [if_pos isNull, isNull]
      exact iff_of_true rfl rfl
    · rw [if_neg isNull]
      exact iff_of_false (fun same => isNull (DuplicateKey.text.inj (Prod.mk.inj same).2)) nofun
  | boolean value =>
    cases converted
    exact iff_of_false (fun same => nomatch (Prod.mk.inj same).2) nofun
  | timestamp ticks =>
    obtain ⟨text, formatted, rfl⟩ := asPy_timestamp.mp converted
    refine iff_of_false (fun same => ?_) nofun
    have isNull : text = "null" := DuplicateKey.text.inj (Prod.mk.inj same).2
    exact formats.notNull _ _ (isNull ▸ formatted)

theorem duplicateValue_valid (formats : Isoformats isoformat) {cell cell' : Cell} {typeName : String}
    (kinds : cell.kind = cell'.kind) (fromLeft : asPy isoformat field (some cell) = .ok u)
    (fromRight : asPy isoformat field (some cell') = .ok v) :
    duplicateValue u typeName = duplicateValue v typeName ↔
      blurred (some cell.meaning) = blurred (some cell'.meaning) := by
  cases cell with
  | integer value =>
    cases cell' with
    | integer value' =>
      cases fromLeft
      cases fromRight
      simp [duplicateValue, blurred, Cell.meaning]
    | floating | string | boolean | timestamp => cases kinds
  | floating value =>
    cases cell' with
    | floating value' =>
      cases fromLeft
      cases fromRight
      rw [duplicateValue_float]
      simp [blurred, Cell.meaning]
    | integer | string | boolean | timestamp => cases kinds
  | string text =>
    cases cell' with
    | string text' =>
      cases fromLeft
      cases fromRight
      have texts : duplicateValue (some (.str text)) typeName = duplicateValue (some (.str text')) typeName ↔
          text = text' := by simp [duplicateValue]
      rw [texts, Cell.meaning, Cell.meaning, blurred_text, blurred_text]
      by_cases left : text = "null"
      · by_cases right : text' = "null"
        · simp [left, right]
        · simp [left, right, eq_comm]
      · by_cases right : text' = "null"
        · simp [left, right]
        · simp [left, right]
    | integer | floating | boolean | timestamp => cases kinds
  | boolean value =>
    cases cell' with
    | boolean value' =>
      cases fromLeft
      cases fromRight
      simp [duplicateValue, blurred, Cell.meaning]
    | integer | floating | string | timestamp => cases kinds
  | timestamp ticks =>
    cases cell' with
    | timestamp ticks' =>
      obtain ⟨text, formatted, rfl⟩ := asPy_timestamp.mp fromLeft
      obtain ⟨text', formatted', rfl⟩ := asPy_timestamp.mp fromRight
      have moments : blurred (some (Cell.meaning (.timestamp ticks))) =
          blurred (some (Cell.meaning (.timestamp ticks'))) ↔ ticks = ticks' := by simp [blurred, Cell.meaning]
      rw [moments]
      constructor
      · intro same
        have texts : text = text' := DuplicateKey.text.inj (Prod.mk.inj same).2
        exact formats.injective _ _ _ text' (texts ▸ formatted) formatted'
      · rintro rfl
        rw [formatted] at formatted'
        rw [Except.ok.inj formatted']
    | integer | floating | string | boolean => cases kinds

/-- The pairs of two values of a column are equal exactly for equal values, but for the null and its text. -/
theorem duplicateValue_iff (formats : Isoformats isoformat) {typeName : String}
    (ofLeft : OfKind field left) (ofRight : OfKind field right)
    (fromLeft : asPy isoformat field left = .ok u) (fromRight : asPy isoformat field right = .ok v) :
    duplicateValue u typeName = duplicateValue v typeName ↔
      blurred (left.map Cell.meaning) = blurred (right.map Cell.meaning) := by
  cases left with
  | none =>
    cases fromLeft
    cases right with
    | none =>
      cases fromRight
      exact iff_of_true rfl rfl
    | some cell' =>
      rw [eq_comm, duplicateValue_null formats fromRight, Option.map_none, blurred_null, eq_comm]
      rfl
  | some cell =>
    cases right with
    | none =>
      cases fromRight
      exact duplicateValue_null formats fromLeft
    | some cell' =>
      have kinds : cell.kind = cell'.kind := (ofLeft cell rfl).trans (ofRight cell' rfl).symm
      exact duplicateValue_valid formats kinds fromLeft fromRight

end Values

section Rows

variable {isoformat : String → Int → Except PyException String} {schema : List ColumnField}
variable {row left right : TableRow} {name : String}

/-- The column, the cell and the converted cell under a name. -/
inductive Reads (isoformat : String → Int → Except PyException String) :
    Option ColumnField → Option (Option Cell) → Option (Option PyValue) → Prop where
  | absent : Reads isoformat none none none
  | present {field : ColumnField} {cell : Option Cell} {value : Option PyValue} (ofKind : OfKind field cell)
      (converted : asPy isoformat field cell = .ok value) : Reads isoformat (some field) (some cell) (some value)

theorem Reads.or {field field' : Option ColumnField} {cell cell' : Option (Option Cell)}
    {value value' : Option (Option PyValue)} (later : Reads isoformat field cell value)
    (earlier : Reads isoformat field' cell' value') :
    Reads isoformat (field.or field') (cell.or cell') (value.or value') := by
  cases later with
  | absent => exact earlier
  | present ofKind converted => exact .present ofKind converted

theorem sourceRow_reads {source : List (String × Option PyValue)} (typed : List.Forall₂ OfKind schema row)
    (converted : sourceRow isoformat schema row = .ok source) :
    Reads isoformat (lastValue name (schema.map fun field => (field.name, field)))
      (lastValue name ((schema.map ColumnField.name).zip row)) (lastValue name source) := by
  induction typed generalizing source with
  | nil =>
    cases converted
    exact .absent
  | @cons field cell fields cells ofKind _ ih =>
    cases mapM_ok.mp converted with
    | cons head tail =>
      obtain ⟨value, asValue, same⟩ := bind_ok.mp head
      cases same
      have later := ih (mapM_ok.mpr tail)
      refine later.or ?_
      by_cases named : field.name = name
      · rw [if_pos named, if_pos named, if_pos named]
        exact .present ofKind asValue
      · rw [if_neg named, if_neg named, if_neg named]
        exact .absent

theorem lastValue_map {β γ : Type} {f : β → γ} {names : List String} {values : List β} :
    lastValue name (names.zip (values.map f)) = (lastValue name (names.zip values)).map f := by
  induction names generalizing values with
  | nil => rfl
  | cons key names ih =>
    cases values with
    | nil => rfl
    | cons value values =>
      rw [List.map_cons, List.zip_cons_cons, List.zip_cons_cons, lastValue, lastValue, ih, Option.map_or]
      by_cases named : key = name
      · rw [if_pos named, if_pos named]
        rfl
      · rw [if_neg named, if_neg named]
        rfl

theorem valueOf_eq : valueOf schema row name =
    ((lastValue name ((schema.map ColumnField.name).zip row)).join).map Cell.meaning := by
  unfold valueOf rowValues
  rw [lastValue_map]
  cases lastValue name ((schema.map ColumnField.name).zip row) <;> rfl

theorem duplicateRow_ok {tuple : List (String × DuplicateKey)} : duplicateRow isoformat schema row = .ok tuple ↔
    ∃ source, sourceRow isoformat schema row = .ok source ∧
      tuple = schema.map fun field => duplicateValue (lastValue field.name source).join field.typeName := by
  unfold duplicateRow
  rw [bind_ok]
  refine exists_congr fun source => and_congr_right fun _ => ?_
  exact ⟨fun same => (Except.ok.inj same).symm, fun same => congrArg _ same.symm⟩

/-- The tuples of two rows tell apart what their values tell apart, but for nulls and their text. -/
theorem duplicateRow_iff (formats : Isoformats isoformat) {tuple tuple' : List (String × DuplicateKey)}
    (ofLeft : List.Forall₂ OfKind schema left) (ofRight : List.Forall₂ OfKind schema right)
    (fromLeft : duplicateRow isoformat schema left = .ok tuple)
    (fromRight : duplicateRow isoformat schema right = .ok tuple') :
    tuple = tuple' ↔
      ∀ field ∈ schema, blurred (valueOf schema left field.name) = blurred (valueOf schema right field.name) := by
  obtain ⟨source, sourced, rfl⟩ := duplicateRow_ok.mp fromLeft
  obtain ⟨source', sourced', rfl⟩ := duplicateRow_ok.mp fromRight
  rw [List.map_inj_left]
  refine forall₂_congr fun field _ => ?_
  have reads := @sourceRow_reads isoformat schema left field.name source ofLeft sourced
  have reads' := @sourceRow_reads isoformat schema right field.name source' ofRight sourced'
  rw [valueOf_eq, valueOf_eq]
  revert reads reads'
  generalize lastValue field.name (schema.map fun field => (field.name, field)) = found
  generalize lastValue field.name ((schema.map ColumnField.name).zip left) = cell
  generalize lastValue field.name ((schema.map ColumnField.name).zip right) = cell'
  generalize lastValue field.name source = value
  generalize lastValue field.name source' = value'
  intro reads reads'
  cases reads with
  | absent =>
    cases reads'
    exact iff_of_true rfl rfl
  | present ofKind converted =>
    cases reads' with
    | present ofKind' converted' => exact duplicateValue_iff formats ofKind ofKind' converted converted'

theorem duplicateRow_exists :
    (∃ tuple, duplicateRow isoformat schema row = .ok tuple) ↔ Convertible isoformat schema row := by
  constructor
  · rintro ⟨tuple, returned⟩ entry inRow ticks isTimestamp
    obtain ⟨source, sourced, -⟩ := duplicateRow_ok.mp returned
    obtain ⟨result, -, converted⟩ := forall₂_item_mem (mapM_ok.mp sourced) inRow
    obtain ⟨value, asValue, -⟩ := bind_ok.mp converted
    rw [isTimestamp] at asValue
    obtain ⟨text, formatted, -⟩ := asPy_timestamp.mp asValue
    exact ⟨text, formatted⟩
  · intro convertible
    have each : ∀ entry ∈ schema.zip row, ∃ value, asPy isoformat entry.1 entry.2 = .ok value := by
      rintro ⟨field, cell⟩ inRow
      cases cell with
      | none => exact ⟨_, rfl⟩
      | some cell =>
        cases cell with
        | timestamp ticks =>
          obtain ⟨text, formatted⟩ := convertible _ inRow ticks rfl
          exact ⟨_, asPy_timestamp.mpr ⟨text, formatted, rfl⟩⟩
        | integer | floating | string | boolean => exact ⟨_, rfl⟩
    have converted : ∃ source, sourceRow isoformat schema row = .ok source := by
      refine mapM_exists fun entry inRow => ?_
      obtain ⟨value, asValue⟩ := each entry inRow
      exact ⟨_, bind_ok.mpr ⟨value, asValue, rfl⟩⟩
    obtain ⟨source, sourced⟩ := converted
    exact ⟨_, duplicateRow_ok.mpr ⟨source, sourced, rfl⟩⟩

end Rows

section Profile

variable {η : Type} [DecidableEq η] {rowHash : TableRow → η} {isoformat : String → Int → Except PyException String}
variable {schema : List ColumnField} {batches : List (List TableRow)}

theorem candidates_iff {h : η} : h ∈ candidates rowHash batches ↔ 1 < (batches.flatten.map rowHash).count h := by
  have hashes : batches.flatMap (List.map rowHash) = batches.flatten.map rowHash := by
    rw [List.map_flatten, List.flatMap_def]
  unfold candidates
  rw [hashes, List.mem_map]
  constructor
  · rintro ⟨group, member, rfl⟩
    obtain ⟨inGroups, several⟩ := List.mem_filter.mp member
    rw [← (mem_groupCounts.mp inGroups).2]
    exact of_decide_eq_true several
  · intro several
    refine ⟨(h, _), List.mem_filter.mpr ⟨mem_groupCounts.mpr ⟨?_, rfl⟩, decide_eq_true several⟩, rfl⟩
    exact List.count_pos_iff.mp (lt_trans Nat.zero_lt_one several)

/-- The rows that the second pass looks at, in the order of the file. -/
def nominated (rowHash : TableRow → η) (batches : List (List TableRow)) : List TableRow :=
  batches.flatten.filter fun row => rowHash row ∈ candidates rowHash batches

theorem mem_nominated {row : TableRow} : row ∈ nominated rowHash batches ↔
    row ∈ batches.flatten ∧ 1 < (batches.flatten.map rowHash).count (rowHash row) := by
  unfold nominated
  rw [List.mem_filter, decide_eq_true_iff, candidates_iff]

/-- A nominated row as the second pass counts it. -/
def hashedRow (rowHash : TableRow → η) (isoformat : String → Int → Except PyException String)
    (schema : List ColumnField) (row : TableRow) : Except PyException (η × List (String × DuplicateKey)) := do
  let tuple ← duplicateRow isoformat schema row
  return (rowHash row, tuple)

theorem candidateGroups_ok {groups : List (η × List (List (String × DuplicateKey) × Nat))} :
    candidateGroups rowHash isoformat schema batches = .ok groups ↔
      ∃ pairs, (nominated rowHash batches).mapM (hashedRow rowHash isoformat schema) = .ok pairs ∧
        groups = tallyBuckets pairs := by
  have steps : (fun (groups : List (η × List (List (String × DuplicateKey) × Nat))) (row : TableRow) => do
      let tuple ← duplicateRow isoformat schema row
      return alter [] (rowHash row) (increment tuple) groups) = fun groups row =>
        hashedRow rowHash isoformat schema row >>= fun pair => .ok (alter [] pair.1 (increment pair.2) groups) := by
    funext groups row
    unfold hashedRow
    cases duplicateRow isoformat schema row <;> rfl
  unfold candidateGroups nominated
  rw [steps, List.filter_flatten]
  refine Iff.trans ?_ (@foldlM_reads _ _ _ _ (hashedRow rowHash isoformat schema)
    (fun groups pair => alter [] pair.1 (increment pair.2) groups) _ [] groups)
  rw [← foldlM_flatten, List.foldlM_map]

/-- The profile that the sizes of the repeated groups give. -/
def profileOf (total : Nat) (sizes : List Nat) : DuplicateProfile where
  totalRows := total
  uniqueFullRows := (total : Int) - ((sizes.map (· - 1)).sum : Nat)
  rowsParticipatingInDuplicateGroups := sizes.sum
  duplicateExcessRows := (sizes.map (· - 1)).sum
  duplicateGroups := sizes.length

theorem profileOf_perm {total : Nat} {sizes sizes' : List Nat} (permuted : sizes.Perm sizes') :
    profileOf total sizes = profileOf total sizes' := by
  unfold profileOf
  rw [permuted.length_eq, permuted.sum_eq, (permuted.map (· - 1)).sum_eq]

theorem candidateGroups_nil (none_left : (candidates rowHash batches).isEmpty = true) :
    candidateGroups rowHash isoformat schema batches = .ok [] := by
  have nothing : nominated rowHash batches = [] := by
    unfold nominated
    rw [List.isEmpty_iff.mp none_left]
    exact List.filter_eq_nil_iff.mpr fun row _ => by simp
  refine candidateGroups_ok.mpr ⟨[], ?_, rfl⟩
  rw [nothing]
  rfl

theorem profile_ok {iterBatches : Nat → List (List TableRow)} {batchSize : Nat} {profile : DuplicateProfile} :
    exactDuplicateProfile rowHash isoformat schema iterBatches batchSize = .ok profile ↔
      ∃ pairs, (nominated rowHash (iterBatches batchSize)).mapM (hashedRow rowHash isoformat schema) = .ok pairs ∧
        profile = profileOf (iterBatches batchSize).flatten.length (repeatSizes pairs) := by
  have groups : (if (candidates rowHash (iterBatches batchSize)).isEmpty then .ok []
      else candidateGroups rowHash isoformat schema (iterBatches batchSize)) =
        candidateGroups rowHash isoformat schema (iterBatches batchSize) := by
    split
    · rename_i none_left
      exact (candidateGroups_nil none_left).symm
    · rfl
  unfold exactDuplicateProfile
  dsimp only
  rw [groups, bind_ok, List.length_flatten]
  constructor
  · rintro ⟨buckets, counted, returned⟩
    obtain ⟨pairs, read, rfl⟩ := candidateGroups_ok.mp counted
    refine ⟨pairs, read, ?_⟩
    rw [← profileOf_perm bucketSizes_perm]
    exact (Except.ok.inj returned).symm
  · rintro ⟨pairs, read, rfl⟩
    refine ⟨tallyBuckets pairs, candidateGroups_ok.mpr ⟨pairs, read, rfl⟩, ?_⟩
    rw [← profileOf_perm bucketSizes_perm]
    rfl

end Profile

section Exact

variable {η : Type} [DecidableEq η] {rowHash : TableRow → η} {isoformat : String → Int → Except PyException String}
variable {schema : List ColumnField} {batches : List (List TableRow)}

/-- The tuple of a row that has one. -/
def tupleOf (isoformat : String → Int → Except PyException String) (schema : List ColumnField) (row : TableRow) :
    List (String × DuplicateKey) :=
  match duplicateRow isoformat schema row with
  | .ok tuple => tuple
  | .error _ => []

/-- The bucket of a row and its key in it. -/
def bucketKey (rowHash : TableRow → η) (isoformat : String → Int → Except PyException String)
    (schema : List ColumnField) (row : TableRow) : η × List (String × DuplicateKey) :=
  (rowHash row, tupleOf isoformat schema row)

omit [DecidableEq η] in
theorem hashedRow_ok {row : TableRow} {pair : η × List (String × DuplicateKey)} :
    hashedRow rowHash isoformat schema row = .ok pair ↔
      ∃ tuple, duplicateRow isoformat schema row = .ok tuple ∧ pair = (rowHash row, tuple) := by
  unfold hashedRow
  rw [bind_ok]
  refine exists_congr fun tuple => and_congr_right fun _ => ?_
  exact ⟨fun same => (Except.ok.inj same).symm, fun same => congrArg _ same.symm⟩

omit [DecidableEq η] in
theorem hashedRow_bucketKey {row : TableRow} {pair : η × List (String × DuplicateKey)}
    (read : hashedRow rowHash isoformat schema row = .ok pair) : pair = bucketKey rowHash isoformat schema row := by
  obtain ⟨tuple, returned, rfl⟩ := hashedRow_ok.mp read
  unfold bucketKey tupleOf
  rw [returned]

/-- The second pass returns exactly when all rows that it looks at have their tuples. -/
theorem nominated_read {pairs : List (η × List (String × DuplicateKey))} :
    (nominated rowHash batches).mapM (hashedRow rowHash isoformat schema) = .ok pairs ↔
      (∀ row ∈ nominated rowHash batches, Convertible isoformat schema row) ∧
        pairs = (nominated rowHash batches).map (bucketKey rowHash isoformat schema) := by
  have keys : ∀ values, (nominated rowHash batches).mapM (hashedRow rowHash isoformat schema) = .ok values →
      values = (nominated rowHash batches).map (bucketKey rowHash isoformat schema) := by
    intro values read
    rw [← mapM_map (fun _ _ returned => hashedRow_bucketKey returned) read, List.map_id']
  constructor
  · intro read
    refine ⟨fun row member => ?_, keys pairs read⟩
    obtain ⟨pair, -, returned⟩ := forall₂_item_mem (mapM_ok.mp read) member
    obtain ⟨tuple, ofRow, -⟩ := hashedRow_ok.mp returned
    exact duplicateRow_exists.mp ⟨tuple, ofRow⟩
  · rintro ⟨convertible, rfl⟩
    have read : ∃ values, (nominated rowHash batches).mapM (hashedRow rowHash isoformat schema) = .ok values := by
      refine mapM_exists fun row member => ?_
      obtain ⟨tuple, returned⟩ := duplicateRow_exists.mpr (convertible row member)
      exact ⟨_, hashedRow_ok.mpr ⟨tuple, returned, rfl⟩⟩
    obtain ⟨values, returned⟩ := read
    rw [returned, keys values returned]

theorem nominated_repeats : repeatSizes ((nominated rowHash batches).map (bucketKey rowHash isoformat schema)) =
    repeatSizes (batches.flatten.map (bucketKey rowHash isoformat schema)) := by
  have filtered : (nominated rowHash batches).map (bucketKey rowHash isoformat schema) =
      (batches.flatten.map (bucketKey rowHash isoformat schema)).filter
        fun key => key.1 ∈ candidates rowHash batches := by
    rw [List.filter_map]
    rfl
  rw [filtered]
  refine repeatSizes_filter fun key _ several => decide_eq_true (candidates_iff.mpr (lt_of_lt_of_le several ?_))
  have hashes : (batches.flatten.map (bucketKey rowHash isoformat schema)).map Prod.fst =
      batches.flatten.map rowHash := List.map_map
  rw [← hashes]
  exact count_map_le key

theorem directProfile_eq {rows : List TableRow} :
    directProfile rows = profileOf rows.length (repeatSizes (rows.map rowValues)) := by
  have distinct := (List.dedup_sublist (rows.map rowValues)).length_le
  have unique : ((rows.map rowValues).dedup.length : Int) = rows.length - (excessRows (rows.map rowValues) : Nat) := by
    unfold excessRows
    rw [List.length_map] at distinct ⊢
    omega
  unfold directProfile profileOf
  rw [repeatSizes_excess, repeatSizes_sum, repeatSizes_length, unique]

theorem profileOf_eq_iff {κ ι : Type} [DecidableEq κ] [DecidableEq ι] {rows : List TableRow} {f : TableRow → κ}
    {g : TableRow → ι} (finer : ∀ x ∈ rows, ∀ y ∈ rows, g x = g y → f x = f y) :
    profileOf rows.length (repeatSizes (rows.map f)) = profileOf rows.length (repeatSizes (rows.map g)) ↔
      ∀ x ∈ rows, ∀ y ∈ rows, f x = f y → g x = g y := by
  rw [← excessRows_eq_iff finer]
  unfold profileOf
  rw [repeatSizes_excess, repeatSizes_sum, repeatSizes_length, repeatSizes_excess, repeatSizes_sum, repeatSizes_length]
  constructor
  · intro same
    exact congrArg DuplicateProfile.duplicateExcessRows same
  · intro asMany
    have same := (excessRows_eq_iff finer).mp asMany
    have both : ∀ x ∈ rows, ∀ y ∈ rows, f x = f y ↔ g x = g y := fun x inRows y inRows' =>
      ⟨same x inRows y inRows', finer x inRows y inRows'⟩
    rw [asMany, participatingRows_map both, repeatedValues_map both]

variable {table : ParquetTable} {iterBatches : Nat → List (List TableRow)} {batchSize : Nat}

/-- For rows of one hash, the keys in its bucket are equal exactly when the rows agree but for nulls and their text. -/
theorem bucketKey_iff (formats : Isoformats isoformat)
    (convertible : ∀ row ∈ table.rows, 1 < (table.rows.map rowHash).count (rowHash row) →
      Convertible isoformat table.schema row) :
    ∀ left ∈ table.rows, ∀ right ∈ table.rows,
      bucketKey rowHash isoformat table.schema left = bucketKey rowHash isoformat table.schema right ↔
        rowHash left = rowHash right ∧ ∀ field ∈ table.schema,
          blurred (valueOf table.schema left field.name) = blurred (valueOf table.schema right field.name) := by
  intro left inLeft right inRight
  unfold bucketKey
  rw [Prod.mk.injEq]
  refine and_congr_right fun sameHash => ?_
  by_cases same : left = right
  · rw [same]
    exact iff_of_true rfl fun _ _ => rfl
  · have several := one_lt_count inLeft inRight same sameHash
    obtain ⟨tuple, fromLeft⟩ := duplicateRow_exists.mpr (convertible left inLeft several)
    obtain ⟨tuple', fromRight⟩ := duplicateRow_exists.mpr (convertible right inRight (sameHash ▸ several))
    unfold tupleOf
    rw [fromLeft, fromRight]
    exact duplicateRow_iff formats (table.typed left inLeft) (table.typed right inRight) fromLeft fromRight

/-- The profile is the direct count exactly when every row that shares its hash has a `datetime` for each of its
timestamps, and no two different rows of one hash differ in nothing but a null against the text of the null. -/
theorem exactDuplicateProfile_iff (formats : Isoformats isoformat)
    (batched : (iterBatches batchSize).flatten = table.rows)
    (respects : ∀ left ∈ table.rows, ∀ right ∈ table.rows, rowValues left = rowValues right →
      rowHash left = rowHash right) :
    exactDuplicateProfile rowHash isoformat table.schema iterBatches batchSize = .ok (directProfile table.rows) ↔
      (∀ row ∈ table.rows, 1 < (table.rows.map rowHash).count (rowHash row) →
        Convertible isoformat table.schema row) ∧ ApartUnderHash rowHash table.schema table.rows := by
  have nominees : ∀ row, row ∈ nominated rowHash (iterBatches batchSize) ↔
      row ∈ table.rows ∧ 1 < (table.rows.map rowHash).count (rowHash row) := by
    intro row
    rw [← batched]
    exact mem_nominated
  have conversions : (∀ row ∈ nominated rowHash (iterBatches batchSize), Convertible isoformat table.schema row) ↔
      ∀ row ∈ table.rows, 1 < (table.rows.map rowHash).count (rowHash row) →
        Convertible isoformat table.schema row := by
    refine forall_congr' fun row => ?_
    rw [nominees, and_imp]
  rw [profile_ok, directProfile_eq, ← conversions]
  simp only [nominated_read, and_assoc, exists_and_left, exists_eq_left, nominated_repeats, batched]
  refine and_congr_right fun convertible => ?_
  have keys := bucketKey_iff formats (conversions.mp convertible)
  have finer : ∀ left ∈ table.rows, ∀ right ∈ table.rows, rowValues left = rowValues right →
      bucketKey rowHash isoformat table.schema left = bucketKey rowHash isoformat table.schema right := by
    intro left inLeft right inRight same
    refine (keys left inLeft right inRight).mpr ⟨respects left inLeft right inRight same, fun field _ => ?_⟩
    unfold valueOf
    rw [same]
  rw [eq_comm, profileOf_eq_iff finer]
  unfold ApartUnderHash
  refine forall₂_congr fun left inLeft => forall₂_congr fun right inRight => ?_
  rw [keys left inLeft right inRight, and_imp]

/-- A file of two rows, one with a null flag and one with the flag `null`. -/
def nullAndText : ParquetTable where
  schema := [⟨"store_and_fwd_flag", "large_string", .string⟩]
  rows := [[none], [some (.string "null")]]
  typed := by decide +kernel

/-- The `isoformat()` of the epoch; no other moment stands in the files below. -/
def epochFormat (_ : String) (ticks : Int) : Except PyException String :=
  if ticks = 0 then .ok "1970-01-01T00:00:00" else .error (valueError "year is out of range")

theorem epochFormat_formats : Isoformats epochFormat where
  injective := by
    intro type ticks ticks' text left right
    unfold epochFormat at left right
    split at left
    · rename_i isEpoch
      split at right
      · rename_i isEpoch'
        rw [isEpoch, isEpoch']
      · cases right
    · cases left
  notNull := by
    intro type ticks formatted
    unfold epochFormat at formatted
    split at formatted
    · exact absurd (Except.ok.inj formatted) (by decide +kernel)
    · cases formatted

/-- Under a hash that collides, a null and the text of the null are taken for one value. -/
theorem nullAndText_miscounted :
    ¬ ∀ (table : ParquetTable) (rowHash : TableRow → UInt64) (isoformat : String → Int → Except PyException String)
      (iterBatches : Nat → List (List TableRow)) (batchSize : Nat), Isoformats isoformat → 1 ≤ batchSize →
        (iterBatches batchSize).flatten = table.rows →
        (∀ left ∈ table.rows, ∀ right ∈ table.rows, rowValues left = rowValues right →
          rowHash left = rowHash right) →
        exactDuplicateProfile rowHash isoformat table.schema iterBatches batchSize =
          .ok (directProfile table.rows) := by
  intro exact_always
  have claimed := exact_always nullAndText (fun _ => 0) epochFormat (fun _ => [nullAndText.rows]) 100000
    epochFormat_formats (by decide) rfl fun _ _ _ _ _ => rfl
  have profiled : exactDuplicateProfile (fun _ => (0 : UInt64)) epochFormat nullAndText.schema
      (fun _ => [nullAndText.rows]) 100000 = .ok ⟨2, 1, 2, 1, 1⟩ := by decide +kernel
  have direct : directProfile nullAndText.rows = ⟨2, 2, 0, 0, 0⟩ := by decide +kernel
  rw [profiled, direct] at claimed
  exact absurd (Except.ok.inj claimed) (by decide)

/-- Three rows of a count and a moment; the first and the last are equal. -/
def countsAndMoments : ParquetTable where
  schema := [⟨"passenger_count", "int64", .integer⟩, ⟨"tpep_pickup_datetime", "timestamp[us]", .timestamp⟩]
  rows := [[some (.integer 1), some (.timestamp 0)], [none, some (.timestamp 0)],
    [some (.integer 1), some (.timestamp 0)]]
  typed := by decide +kernel

theorem countsAndMoments_profiled : exactDuplicateProfile (fun _ => (0 : UInt64)) epochFormat countsAndMoments.schema
    (fun _ => countsAndMoments.rows.map fun row => [row]) 1 = .ok ⟨3, 2, 2, 1, 1⟩ := by
  have direct : directProfile countsAndMoments.rows = ⟨3, 2, 2, 1, 1⟩ := by decide +kernel
  rw [← direct]
  refine (exactDuplicateProfile_iff epochFormat_formats rfl fun _ _ _ _ _ => rfl).mpr ⟨?_, ?_⟩
  · intro row member _ entry inRow ticks isTimestamp
    have atEpoch : ∀ row ∈ countsAndMoments.rows, ∀ entry ∈ countsAndMoments.schema.zip row,
        entry.2 ∈ [none, some (.integer 1), some (.timestamp 0)] := by decide +kernel
    have known := atEpoch row member entry inRow
    rw [isTimestamp] at known
    obtain rfl : ticks = 0 := by simpa using known
    exact ⟨_, rfl⟩
  · unfold ApartUnderHash
    decide +kernel

end Exact

end TaxiPipeline
