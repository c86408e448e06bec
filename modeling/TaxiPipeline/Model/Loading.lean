import Mathlib.Data.List.Enum
import TaxiPipeline.Model.Runs

namespace TaxiPipeline

/-- The values that a loader writes beside the columns of the file. -/
structure LoadIdentity where
  sourceFileId : Nat
  pipelineRunId : Nat
  ingestedAt : Timestamp
  deriving DecidableEq, Repr

structure RawBatch (table : RawTable) where
  startRowNumber : Nat
  rows : List (RawRow table)

def RawBatch.rowCount {table : RawTable} (batch : RawBatch table) : Nat := batch.rows.length

structure LoadCounts where
  rowsRead : Nat
  rowsLoaded : Nat
  deriving DecidableEq, Repr

def rawRow {table : RawTable} (identity : LoadIdentity) (sourceRowNumber : Nat) (values : table.Values) :
    RawRow table where
  lineage := ⟨identity.sourceFileId, sourceRowNumber, identity.pipelineRunId⟩
  ingestedAt := identity.ingestedAt
  values := values

/-- The loop of `iter_parquet_batches` over the record batches of the reader. -/
def iterParquetBatches {table : RawTable} (identity : LoadIdentity) :
    (sourceRowNumber : Nat) → List (List table.Values) → List (RawBatch table)
  | _, [] => []
  | sourceRowNumber, values :: rest =>
    ⟨sourceRowNumber, values.mapIdx fun offset row => rawRow identity (sourceRowNumber + offset) row⟩ ::
      iterParquetBatches identity (sourceRowNumber + values.length) rest

/-- The loop of `iter_taxi_zone_batches`, with the rows of the batch in progress. -/
def iterTaxiZoneBatches (identity : LoadIdentity) (batchSize : Nat) :
    (sourceRowNumber : Nat) → (batchRows : List (RawRow .taxiZones)) → List TaxiZone →
      List (RawBatch .taxiZones)
  | sourceRowNumber, batchRows, [] =>
    if batchRows.isEmpty then [] else [⟨sourceRowNumber - batchRows.length, batchRows⟩]
  | sourceRowNumber, batchRows, row :: rest =>
    let batchRows := batchRows ++ [(rawRow identity sourceRowNumber row : RawRow .taxiZones)]
    let sourceRowNumber := sourceRowNumber + 1
    if batchRows.length = batchSize then
      ⟨sourceRowNumber - batchRows.length, batchRows⟩ ::
        iterTaxiZoneBatches identity batchSize sourceRowNumber [] rest
    else iterTaxiZoneBatches identity batchSize sourceRowNumber batchRows rest

/-- A landing file as its reader delivers it: record batches of the table's rows. -/
abbrev LandingFile := (table : RawTable) → List (List table.Values)

def iterBatches (identity : LoadIdentity) (batchSize : Nat) (file : LandingFile) :
    (table : RawTable) → List (RawBatch table)
  | .yellowTrips => iterParquetBatches identity 1 (file .yellowTrips)
  | .greenTrips => iterParquetBatches identity 1 (file .greenTrips)
  | .taxiZones => iterTaxiZoneBatches identity batchSize 1 [] (file .taxiZones).flatten

/-- The dispatch of `_load_and_count` on the dataset name. -/
def rawTableOf (datasetName : String) : Except PyException RawTable :=
  if datasetName = "yellow_tripdata" then .ok .yellowTrips
  else if datasetName = "green_tripdata" then .ok .greenTrips
  else if datasetName = "taxi_zone_lookup" then .ok .taxiZones
  else .error (valueError s!"Unsupported ingestion dataset: {datasetName}")

/-- The exception of copying one row, if it fails. -/
def Database.copyError (db : Database) {table : RawTable} (row : RawRow table) : Option PyException :=
  if !table.fits row.values then some (dataError "value out of range for a column of a raw table")
  else if db.conflicts row.keys then some uniqueViolation
  else none

/-- `select count(*) from model where _source_file_id = source_file_id`. -/
def Database.persistedCount (db : Database) (table : RawTable) (sourceFileId : Nat) : Nat :=
  (db.rowsOf table sourceFileId).length

def validateCounts (metadata : SourceFileMetadata) (counts : LoadCounts) (persistedCount : Nat) :
    Except PyException Unit :=
  match metadata.rowCount with
  | none => .error (valueError "Registered source row count is required for raw ingestion")
  | some rowCount =>
    if (counts.rowsRead : Int) ≠ rowCount then
      .error (valueError s!"Row-count mismatch: read {counts.rowsRead}, expected {rowCount}")
    else if counts.rowsLoaded ≠ counts.rowsRead ∨ persistedCount ≠ counts.rowsRead then
      .error (valueError
      s!"Row-count mismatch: read {counts.rowsRead}, copied {counts.rowsLoaded}, persisted {persistedCount}")
    else .ok ()

/-- The row numbers `first`, `first + 1`, ... of `count` rows of one load. -/
def numbered (identity : LoadIdentity) (first count : Nat) : List Lineage :=
  (List.range' first count).map (⟨identity.sourceFileId, ·, identity.pipelineRunId⟩)

theorem numbered_append (identity : LoadIdentity) (first left right : Nat) :
    numbered identity first left ++ numbered identity (first + left) right =
      numbered identity first (left + right) := by
  rw [numbered, numbered, numbered, ← List.map_append, List.range'_append_1]

@[simp] theorem numbered_length (identity : LoadIdentity) (first count : Nat) :
    (numbered identity first count).length = count := by
  simp [numbered]

theorem mapIdx_lineage {table : RawTable} (identity : LoadIdentity) (first : Nat)
    (values : List table.Values) :
    (values.mapIdx fun offset row => (rawRow identity (first + offset) row : RawRow table)).map (·.lineage) =
      numbered identity first values.length := by
  induction values generalizing first with
  | nil => rfl
  | cons row rest ih =>
    have shifted := ih (first + 1)
    simp only [List.mapIdx_cons, List.map_cons, numbered, List.length_cons, List.range'_succ] at shifted ⊢
    rw [← shifted]
    simp only [rawRow, Nat.add_zero, List.cons.injEq, true_and]
    congr 2
    funext offset row
    rw [show first + 1 + offset = first + (offset + 1) by omega]

theorem iterParquetBatches_lineage {table : RawTable} (identity : LoadIdentity) (first : Nat)
    (slices : List (List table.Values)) :
    ((iterParquetBatches identity first slices).flatMap (·.rows)).map (·.lineage) =
      numbered identity first slices.flatten.length := by
  induction slices generalizing first with
  | nil => rfl
  | cons values rest ih =>
    simp only [iterParquetBatches, List.flatMap_cons, List.map_append, mapIdx_lineage, ih,
      List.flatten_cons, List.length_append, numbered_append]

theorem iterTaxiZoneBatches_lineage (identity : LoadIdentity) (batchSize first : Nat)
    (batchRows : List (RawRow .taxiZones)) (rows : List TaxiZone) :
    ((iterTaxiZoneBatches identity batchSize first batchRows rows).flatMap (·.rows)).map (·.lineage) =
      batchRows.map (·.lineage) ++ numbered identity first rows.length := by
  induction rows generalizing first batchRows with
  | nil =>
    unfold iterTaxiZoneBatches
    split
    · rename_i empty
      simp [List.isEmpty_iff.mp empty, numbered]
    · simp [numbered]
  | cons row rest ih =>
    have head : numbered identity first (rest.length + 1) =
        ⟨identity.sourceFileId, first, identity.pipelineRunId⟩ ::
          numbered identity (first + 1) rest.length := by
      simp [numbered, List.range'_succ]
    unfold iterTaxiZoneBatches
    dsimp only
    rw [List.length_cons, head]
    split
    · simp [List.flatMap_cons, ih, rawRow]
    · simp [ih, rawRow]

/-- The rows of a load are numbered from 1 without gap or repetition, whatever the batches. -/
theorem iterBatches_lineage (identity : LoadIdentity) (batchSize : Nat) (file : LandingFile)
    (table : RawTable) :
    ((iterBatches identity batchSize file table).flatMap (·.rows)).map (·.lineage) =
      numbered identity 1 (file table).flatten.length := by
  cases table
  · exact iterParquetBatches_lineage identity 1 _
  · exact iterParquetBatches_lineage identity 1 _
  · simpa [iterBatches] using iterTaxiZoneBatches_lineage identity batchSize 1 [] (file .taxiZones).flatten

theorem mapIdx_values {table : RawTable} (identity : LoadIdentity) (first : Nat) (values : List table.Values) :
    (values.mapIdx fun offset row => (rawRow identity (first + offset) row : RawRow table)).map (·.values) =
      values := by
  refine List.ext_getElem (by simp) fun position _ _ => ?_
  simp [rawRow]

theorem iterParquetBatches_values {table : RawTable} (identity : LoadIdentity) (first : Nat)
    (slices : List (List table.Values)) :
    ((iterParquetBatches identity first slices).flatMap (·.rows)).map (·.values) = slices.flatten := by
  induction slices generalizing first with
  | nil => rfl
  | cons values rest ih =>
    simp only [iterParquetBatches, List.flatMap_cons, List.map_append, mapIdx_values, ih, List.flatten_cons]

theorem iterTaxiZoneBatches_values (identity : LoadIdentity) (batchSize first : Nat)
    (batchRows : List (RawRow .taxiZones)) (rows : List TaxiZone) :
    ((iterTaxiZoneBatches identity batchSize first batchRows rows).flatMap (·.rows)).map (·.values) =
      batchRows.map (·.values) ++ rows := by
  induction rows generalizing first batchRows with
  | nil =>
    unfold iterTaxiZoneBatches
    split
    · rename_i empty
      simp [List.isEmpty_iff.mp empty]
    · simp
  | cons row rest ih =>
    unfold iterTaxiZoneBatches
    dsimp only
    split
    · simp [List.flatMap_cons, ih, rawRow]
    · simp [ih, rawRow]

/-- A load copies every row of its file, in the order of the file. -/
theorem iterBatches_values (identity : LoadIdentity) (batchSize : Nat) (file : LandingFile)
    (table : RawTable) :
    ((iterBatches identity batchSize file table).flatMap (·.rows)).map (·.values) = (file table).flatten := by
  cases table
  · exact iterParquetBatches_values identity 1 _
  · exact iterParquetBatches_values identity 1 _
  · simpa [iterBatches] using iterTaxiZoneBatches_values identity batchSize 1 [] (file .taxiZones).flatten

theorem validateCounts_ok {metadata : SourceFileMetadata} {counts : LoadCounts} {persistedCount : Nat} :
    validateCounts metadata counts persistedCount = .ok () ↔
      metadata.rowCount = some (counts.rowsRead : Int) ∧ counts.rowsLoaded = counts.rowsRead ∧
        persistedCount = counts.rowsRead := by
  unfold validateCounts
  cases metadata.rowCount with
  | none => simp
  | some rowCount =>
    dsimp only
    split
    · simp
      omega
    · split
      · simp
        omega
      · simp
        omega

end TaxiPipeline
