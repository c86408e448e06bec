import TaxiPipeline.Ingestion.CopiedRows
import TaxiPipeline.Ingestion.FaultFree
import TaxiPipeline.Model.ZoneFiles

namespace TaxiPipeline

open Relational Stateful

/-- What the loads read a landing file with: `csv`, and pyarrow's files and their batches. -/
structure RowReaders where
  csvFile : Bytes → CsvFile
  parquetFile : Bytes → ParquetFile
  iterBatches : ParquetFile → Int → List (RecordBatch ArrowCell)

/-- The landing file that a load opens, unless a value in it cannot be read. -/
def RowReaders.opened (rows : RowReaders) (datasetName : String) (content : Bytes) (batchSize : Int) :
    Except PyException LandingFile :=
  if datasetName = "taxi_zone_lookup" then (rows.csvFile content).landing
  -- a call with a batch size below 1 raises before it opens anything
  else (rows.parquetFile content).opened rows.iterBatches (max 1 batchSize)

/-- The landing file whether or not every value in it can be read. -/
def RowReaders.landing (rows : RowReaders) (datasetName : String) (content : Bytes) (batchSize : Int) : LandingFile :=
  if datasetName = "taxi_zone_lookup" then (rows.csvFile content).landing.toOption.getD fun _ => []
  else (rows.parquetFile content).landing rows.iterBatches (max 1 batchSize)

/-- pyarrow's batches hold the rows of their file. -/
def RowReaders.Slices (rows : RowReaders) : Prop :=
  ∀ file batchSize, 1 ≤ batchSize → ColumnTable.SlicesOf (rows.iterBatches file batchSize) file.table

/-- The readers of an inspection see the file that the loads read: pyarrow opens one Parquet file for both, and pandas
    reads the CSV file that `csv` splits. -/
structure RowReaders.AgreeOn (rows : RowReaders) (readers : Readers) (content : Bytes) : Prop where
  parquet : ∀ found, readers.parquetFile content = .ok found →
    found = ((rows.parquetFile content).schema, (rows.parquetFile content).table.rowCount)
  csv : ∀ frame, readers.readCsv content = .ok frame → ∃ pandas : Pandas, frame = pandas.readCsv (rows.csvFile content)

/-- The columns of the raw table take the values of the file, and no two zones have one LocationID. -/
structure LandingFile.Loadable (file : LandingFile) (table : RawTable) : Prop where
  fits : ∀ values ∈ (file table).flatten, table.fits values = true
  locations : table = .taxiZones → ((file .taxiZones).flatten.map (·.locationId)).Nodup

/-- A reader may deliver every file in one batch. -/
theorem RowReaders.slices_of_single {rows : RowReaders}
    (single : ∀ file batchSize, rows.iterBatches file batchSize = [file.table]) : rows.Slices := by
  intro file batchSize _
  rw [single]
  refine ⟨fun _ member => ?_, List.sum_singleton, fun _ => List.flatMap_singleton _ _⟩
  rw [List.mem_singleton.mp member]

section Values

variable {file : ParquetFile} {table : RawTable}

theorem batches_values (ofColumns : (String → Option ArrowValue) → table.Values)
    (batches : List (RecordBatch ArrowCell)) :
    (batches.map (batchValues ofColumns)).flatten = (List.range (batches.map (·.rowCount)).sum).map fun row =>
      ofColumns fun column => ((batches.flatMap (·.columnOf column)).getD row none).bind ArrowCell.value? := by
  induction batches with
  | nil => rfl
  | cons batch rest ih =>
    rw [List.map_cons, List.flatten_cons, ih]
    exact (columns_cons (fun _ cell => ofColumns fun column => (cell column).bind ArrowCell.value?) batch rest).symm

theorem slices_values (ofColumns : (String → Option ArrowValue) → table.Values)
    {batches : List (RecordBatch ArrowCell)} (slices : ColumnTable.SlicesOf batches file.table) :
    (batches.map (batchValues ofColumns)).flatten =
      (List.range file.table.rowCount).map fun row => ofColumns ((pyTable file.table).cell · row) := by
  rw [batches_values, slices.rowCount]
  refine List.map_congr_left fun row _ => congrArg ofColumns (funext fun column => ?_)
  rw [slices.columnOf]
  exact (ColumnTable.mapCells_cell ArrowCell.value? row).symm

end Values

section Opened

variable {rows : RowReaders} {readers : Readers} {source : SourcePartition} {content : Bytes} {batchSize : Int}
  {metadata : SourceFileMetadata} {file : LandingFile} {table : RawTable}

theorem opened_landing (slices : rows.Slices) {datasetName : String}
    (opened : rows.opened datasetName content batchSize = .ok file) :
    file = rows.landing datasetName content batchSize := by
  unfold RowReaders.opened at opened
  unfold RowReaders.landing
  split at opened
  · rename_i zones
    rw [if_pos zones, opened]
    rfl
  · rename_i trips
    rw [if_neg trips]
    exact ((opened_iff (slices _ _ (le_max_left _ _))).mp opened).2

/-- The rows of a trip file are the rows of the Parquet file. -/
theorem landing_trips (slices : rows.Slices) {datasetName : String} (trips : datasetName ≠ "taxi_zone_lookup") :
    (rows.landing datasetName content batchSize .yellowTrips).flatten =
        (List.range (rows.parquetFile content).table.rowCount).map (fun row =>
          YellowTrip.ofColumns ((pyTable (rows.parquetFile content).table).cell · row)) ∧
      (rows.landing datasetName content batchSize .greenTrips).flatten =
        (List.range (rows.parquetFile content).table.rowCount).map fun row =>
          GreenTrip.ofColumns ((pyTable (rows.parquetFile content).table).cell · row) := by
  have sliced := slices (rows.parquetFile content) (max 1 batchSize) (le_max_left _ _)
  unfold RowReaders.landing
  rw [if_neg trips]
  exact ⟨@slices_values _ .yellowTrips _ _ sliced, @slices_values _ .greenTrips _ _ sliced⟩

/-- How a file is cut into batches does not change its rows. -/
theorem landing_delivered (slices : rows.Slices) {datasetName : String} {batchSize' : Int} (table : RawTable) :
    (rows.landing datasetName content batchSize table).flatten =
      (rows.landing datasetName content batchSize' table).flatten := by
  by_cases zones : datasetName = "taxi_zone_lookup"
  · unfold RowReaders.landing
    rw [if_pos zones, if_pos zones]
  · have left := @landing_trips rows content batchSize slices _ zones
    have right := @landing_trips rows content batchSize' slices _ zones
    cases table with
    | yellowTrips => exact left.1.trans right.1.symm
    | greenTrips => exact left.2.trans right.2.symm
    | taxiZones =>
      unfold RowReaders.landing
      rw [if_neg zones, if_neg zones]
      rfl

theorem landing_length {csv : CsvFile} (landed : csv.landing = .ok file) :
    (file .taxiZones).flatten.length = csv.records.length := by
  unfold CsvFile.landing at landed
  cases parsed : csv.records.mapM (CsvFile.zoneRow csv.header) with
  | error error =>
    rw [parsed] at landed
    cases landed
  | ok zones =>
    rw [parsed] at landed
    obtain rfl := Except.ok.inj landed
    have length := (mapM_ok.mp parsed).length_eq
    simp [CsvFile.zonesLanding, length]

theorem validateTaxiZones_count {frame : Frame} {rowCount : Nat} (valid : validateTaxiZones frame = .ok rowCount) :
    rowCount = frame.locationId.length := by
  unfold validateTaxiZones at valid
  dsimp only at valid
  split at valid
  · cases valid
  split at valid
  · cases valid
  split at valid
  · cases valid
  split at valid
  · cases valid
  split at valid
  · cases valid
  exact (Except.ok.inj valid).symm

theorem inspectParquet_rowCount (agree : rows.AgreeOn readers content) {datasetName : String} {found : Structure}
    (structured : inspectParquet readers datasetName content = .ok found) :
    found.rowCount = (rows.parquetFile content).table.rowCount := by
  unfold inspectParquet at structured
  obtain ⟨⟨schema, rowCount⟩, read, later⟩ := bind_ok.mp structured
  obtain ⟨version, -, counted⟩ := bind_ok.mp later
  have same := congrArg Prod.snd (agree.parquet _ read)
  split at counted
  · cases counted
  · rw [← Except.ok.inj counted]
    exact same

theorem inspectCsv_rowCount (agree : rows.AgreeOn readers content) {found : Structure}
    (structured : inspectCsv readers content = .ok found) :
    found.rowCount = (rows.csvFile content).records.length := by
  unfold inspectCsv at structured
  obtain ⟨frame, read, later⟩ := bind_ok.mp structured
  obtain ⟨rowCount, valid, counted⟩ := bind_ok.mp later
  obtain ⟨pandas, rfl⟩ := agree.csv _ read
  rw [← Except.ok.inj counted]
  dsimp only
  rw [validateTaxiZones_count valid]
  simp only [Pandas.readCsv, Pandas.readColumn, CsvFile.column, List.length_map]

/-- An inspection counts the rows that a load opens. -/
theorem opened_rowCount (slices : rows.Slices) (agree : rows.AgreeOn readers content)
    (resolved : Resolved source) (inspected : inspectSource readers source content = .ok metadata)
    (dataset : rawTableOf source.datasetName = .ok table)
    (opened : rows.opened source.datasetName content batchSize = .ok file) :
    metadata.rowCount = some ((file table).flatten.length : Int) := by
  obtain ⟨-, found, structured, described⟩ := inspectSource_ok inspected
  subst described
  show some (found.rowCount : Int) = _
  unfold inspectStructure at structured
  have known := resolved.dataset
  simp only [List.mem_cons, Prod.mk.injEq, List.not_mem_nil, or_false] at known
  rcases known with ⟨-, name, format⟩ | ⟨-, name, format⟩ | ⟨-, name, format⟩
  · rw [if_pos format] at structured
    have notZones : source.datasetName ≠ "taxi_zone_lookup" := by
      rw [name]
      decide
    rw [name] at dataset
    cases dataset
    rw [opened_landing slices opened, (landing_trips slices notZones).1, List.length_map, List.length_range,
      inspectParquet_rowCount agree structured]
  · rw [if_pos format] at structured
    have notZones : source.datasetName ≠ "taxi_zone_lookup" := by
      rw [name]
      decide
    rw [name] at dataset
    cases dataset
    rw [opened_landing slices opened, (landing_trips slices notZones).2, List.length_map, List.length_range,
      inspectParquet_rowCount agree structured]
  · have notParquet : source.sourceFormat ≠ "parquet" := by
      rw [format]
      decide
    rw [if_neg notParquet, if_pos format] at structured
    rw [name] at dataset
    cases dataset
    unfold RowReaders.opened at opened
    rw [if_pos name] at opened
    rw [landing_length opened, inspectCsv_rowCount agree structured]

/-- A file that can be opened and loaded holds what its inspection says. -/
theorem opened_matches (slices : rows.Slices) (agree : rows.AgreeOn readers content)
    (resolved : Resolved source) (inspected : inspectSource readers source content = .ok metadata)
    (sized : ∀ rowCount ∈ metadata.rowCount, rowCount < 2 ^ 63)
    (dataset : rawTableOf source.datasetName = .ok table)
    (opened : rows.opened source.datasetName content batchSize = .ok file) (loadable : file.Loadable table) :
    file.Matches metadata table := by
  have counted := opened_rowCount slices agree resolved inspected dataset opened
  have bounded := sized _ counted
  obtain ⟨-, found, -, described⟩ := inspectSource_ok inspected
  have named : metadata.datasetName = source.datasetName := by rw [described]
  exact ⟨named ▸ dataset, counted, by exact_mod_cast bounded, loadable.fits, loadable.locations⟩

end Opened

end TaxiPipeline
