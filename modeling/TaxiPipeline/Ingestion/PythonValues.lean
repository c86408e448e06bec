import TaxiPipeline.Model.RecordBatches
import TaxiPipeline.Sources.Months
import TaxiPipeline.Stateful.Loops

namespace TaxiPipeline

open Relational ColumnTable Stateful

variable {α β : Type}

/-- A dictionary of distinct names holds each name's own column. -/
theorem lookup_zip {names : List String} {columns : List β} (nodup : names.Nodup)
    (same : columns.length = names.length) (name : String) (empty : β) :
    (names.zip columns).reverse.lookup name = (names.idxOf? name).map (columns.getD · empty) := by
  induction names generalizing columns with
  | nil => rfl
  | cons first rest ih =>
    cases columns with
    | nil => cases same
    | cons column others =>
      have later := ih nodup.of_cons (by simpa using same)
      rw [List.zip_cons_cons, List.reverse_cons, List.lookup_append, later, List.idxOf?_cons]
      by_cases found : first = name
      · have absent : rest.idxOf? name = none :=
          List.idxOf?_eq_none_iff.mpr (found ▸ (List.nodup_cons.mp nodup).1)
        simp [absent, found]
      · have other : (name == first) = false := by simpa using fun h => found h.symm
        simp [List.lookup_cons, found, other, Option.map_map, Function.comp_def]

/-- Python has a value for the cell: its microseconds are those of a moment of the years 1 to 9999, its bytes are
    UTF-8. -/
def ArrowCell.Convertible : ArrowCell → Prop
  | .int _ | .double _ => True
  | .timestamp microseconds => ∃ moment : DateTime, microseconds.toInt = moment.sinceEpoch
  | .text utf8 => utf8.IsValidUTF8

/-- The columns that `to_pylist` gives, where it gives them. -/
def pyTable (table : RecordBatch ArrowCell) : RecordBatch ArrowValue := table.mapCells ArrowCell.value?

section Cells

variable {cell : ArrowCell} {column : List (Option ArrowCell)}

theorem asPy_ok : (∃ value, cell.asPy = .ok value) ↔ cell.Convertible := by
  cases cell with
  | int value | double value => exact iff_of_true ⟨_, rfl⟩ True.intro
  | timestamp microseconds =>
    show _ ↔ ∃ moment : DateTime, microseconds.toInt = moment.sinceEpoch
    simp only [← DateTime.fromEpoch_eq_some]
    cases dated : DateTime.fromEpoch microseconds.toInt <;> simp [ArrowCell.asPy, dated]
  | text utf8 =>
    show _ ↔ utf8.IsValidUTF8
    rw [← decodeUtf8_ok]
    cases decoded : decodeUtf8 utf8 <;> simp [ArrowCell.asPy, decoded, Except.map]

theorem scalarAsPy_ok (cell : Option ArrowCell) :
    (∃ value, scalarAsPy cell = .ok value) ↔ ∀ value, cell = some value → value.Convertible := by
  cases cell with
  | none => exact iff_of_true ⟨none, rfl⟩ nofun
  | some value =>
    simp only [Option.some_inj, forall_eq', ← asPy_ok]
    cases converted : value.asPy <;> simp [scalarAsPy, converted, Except.map]

theorem scalarAsPy_value {cell : Option ArrowCell} {value : Option ArrowValue}
    (converted : scalarAsPy cell = .ok value) :
    cell.bind ArrowCell.value? = value := by
  cases cell with
  | none => exact Except.ok.inj converted
  | some cell =>
    cases given : cell.asPy with
    | error error =>
      simp only [scalarAsPy, given, Except.map] at converted
      cases converted
    | ok found =>
      simp only [scalarAsPy, given, Except.map] at converted
      simp only [Option.bind_some, ArrowCell.value?, given, Except.toOption]
      exact Except.ok.inj converted

theorem toPyList_ok :
    (∃ values, toPyList column = .ok values) ↔ ∀ cell : ArrowCell, some cell ∈ column → cell.Convertible := by
  unfold toPyList
  rw [mapM_exists_iff]
  simp only [scalarAsPy_ok]
  constructor
  · intro each cell member
    exact each _ member cell rfl
  · intro each entry member cell same
    exact each cell (same ▸ member)

theorem toPyList_values {values : List (Option ArrowValue)} (converted : toPyList column = .ok values) :
    values = column.map (·.bind ArrowCell.value?) := by
  have read : ∀ cell value, scalarAsPy cell = .ok value → id value = cell.bind ArrowCell.value? :=
    fun cell value given => (scalarAsPy_value given).symm
  have same := mapM_map read converted
  rwa [List.map_id] at same

end Cells

section Batches

variable {batch : RecordBatch ArrowCell}

/-- The dictionary of a batch comes if every cell can be converted. -/
theorem valuesByName_ok : (∃ entries, valuesByName batch = .ok entries) ↔
    ∀ column ∈ batch.columns, ∀ cell : ArrowCell, some cell ∈ column → cell.Convertible := by
  have each : ∀ entry : String × List (Option ArrowCell),
      (∃ pair, (toPyList entry.2).map (fun values => (entry.1, values)) = .ok pair) ↔
        ∀ cell : ArrowCell, some cell ∈ entry.2 → cell.Convertible := by
    intro entry
    rw [← toPyList_ok]
    cases toPyList entry.2 <;> simp [Except.map]
  have seconds : (batch.names.zip batch.columns).map Prod.snd = batch.columns :=
    List.map_snd_zip batch.one_per_name.le
  unfold valuesByName
  rw [mapM_exists_iff]
  simp only [each]
  constructor
  · intro convertible column member
    rw [← seconds] at member
    obtain ⟨entry, inZip, rfl⟩ := List.mem_map.mp member
    exact convertible entry inZip
  · intro convertible entry member
    exact convertible entry.2 (seconds ▸ List.mem_map_of_mem member)

/-- The dictionary holds the converted columns. -/
theorem valuesByName_entries {entries : List (String × List (Option ArrowValue))}
    (converted : valuesByName batch = .ok entries) : entries = batch.names.zip (pyTable batch).columns := by
  have read : ∀ (entry : String × List (Option ArrowCell)) pair,
      (toPyList entry.2).map (fun values => (entry.1, values)) = .ok pair →
        id pair = Prod.map id (List.map (·.bind ArrowCell.value?)) entry := by
    intro entry pair given
    cases list : toPyList entry.2 with
    | error error =>
      rw [list] at given
      cases given
    | ok values =>
      rw [list] at given
      obtain rfl := Except.ok.inj given
      exact Prod.ext rfl (toPyList_values list)
  have same := mapM_map read converted
  rw [List.map_id] at same
  rw [same]
  exact List.zip_map_right.symm

theorem sourceValues_eq {table : RecordBatch α} (nodup : table.names.Nodup) (name : String) :
    sourceValues (table.names.zip table.columns) table.rowCount name = table.columnOf name := by
  unfold sourceValues columnOf
  rw [lookup_zip nodup table.one_per_name name []]
  cases table.names.idxOf? name <;> rfl

end Batches

end TaxiPipeline
