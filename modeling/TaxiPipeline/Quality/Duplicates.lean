import Mathlib.Data.List.ReduceOption
import TaxiPipeline.Ingestion.FileRows
import TaxiPipeline.Ingestion.OpenedFiles
import TaxiPipeline.Quality.RowDefinitions
import TaxiPipeline.Sources.Validators

namespace TaxiPipeline

open ReadCommitted Relational

/-- A field of a file up to the equality of rows: all NaNs are one value, and so are the two zeros. -/
inductive FieldValue where
  | int (value : Int)
  | double (value : Binary64.Meaning)
  | timestamp (value : DateTime)
  | text (value : String)
  deriving DecidableEq

def ArrowValue.field : ArrowValue → FieldValue
  | .int value => .int value
  | .double value => .double (Binary64.meaning value)
  | .timestamp value => .timestamp value
  | .text value => .text value

/-- The values that a column of a type holds. -/
def ArrowType.Holds : ArrowType → ArrowValue → Prop
  | .int32, value | .int64, value => ∃ n, value = .int n
  | .float64, value => ∃ x, value = .double x
  | .timestampUs, value => ∃ moment, value = .timestamp moment
  | .largeString, value => ∃ text, value = .text text
  | .other _, _ => True

instance (type : ArrowType) (value : ArrowValue) : Decidable (type.Holds value) :=
  match type, value with
  | .int32, .int n | .int64, .int n => .isTrue ⟨n, rfl⟩
  | .float64, .double x => .isTrue ⟨x, rfl⟩
  | .timestampUs, .timestamp moment => .isTrue ⟨moment, rfl⟩
  | .largeString, .text text => .isTrue ⟨text, rfl⟩
  | .other _, _ => .isTrue True.intro
  | .int32, .double _ | .int32, .timestamp _ | .int32, .text _ => .isFalse nofun
  | .int64, .double _ | .int64, .timestamp _ | .int64, .text _ => .isFalse nofun
  | .float64, .int _ | .float64, .timestamp _ | .float64, .text _ => .isFalse nofun
  | .timestampUs, .int _ | .timestampUs, .double _ | .timestampUs, .text _ => .isFalse nofun
  | .largeString, .int _ | .largeString, .double _ | .largeString, .timestamp _ => .isFalse nofun

namespace ParquetFile

variable (file : ParquetFile)

/-- The values of the columns are of the types of the schema. -/
def Typed : Prop :=
  ∀ field ∈ file.schema, ∀ row value, (pyTable file.table).cell field.name row = some value → field.type.Holds value

/-- A row of the file over all of its source fields, null being a value of its own. -/
def fieldRow (row : Nat) : List (Option FieldValue) :=
  file.table.names.map fun name => ((pyTable file.table).cell name row).map ArrowValue.field

def fieldRows : List (List (Option FieldValue)) := (List.range file.table.rowCount).map file.fieldRow

end ParquetFile

section Fields

variable {left right : Option ArrowValue}

theorem column_iff {β γ : Type} {read : ArrowValue → Option β} {make : β → ArrowValue} {key : β → γ}
    (reads : ∀ b, read (make b) = some b) (keys : ∀ b b', key b = key b' ↔ (make b).field = (make b').field)
    (ofLeft : ∀ value, left = some value → ∃ b, value = make b)
    (ofRight : ∀ value, right = some value → ∃ b, value = make b) :
    (left.bind read).map key = (right.bind read).map key ↔
      left.map ArrowValue.field = right.map ArrowValue.field := by
  cases left with
  | none =>
    cases right with
    | none => exact iff_of_true rfl rfl
    | some value =>
      obtain ⟨b, rfl⟩ := ofRight value rfl
      rw [Option.bind_some, reads]
      exact iff_of_false nofun nofun
  | some value =>
    obtain ⟨b, rfl⟩ := ofLeft value rfl
    cases right with
    | none =>
      rw [Option.bind_some, reads]
      exact iff_of_false nofun nofun
    | some value' =>
      obtain ⟨b', rfl⟩ := ofRight value' rfl
      rw [Option.bind_some, Option.bind_some, reads, reads, Option.map_some, Option.map_some, Option.map_some,
        Option.map_some, Option.some_inj, Option.some_inj]
      exact keys b b'

theorem plain_iff {β : Type} {read : ArrowValue → Option β} {make : β → ArrowValue}
    (reads : ∀ b, read (make b) = some b) (keys : ∀ b b', b = b' ↔ (make b).field = (make b').field)
    (ofLeft : ∀ value, left = some value → ∃ b, value = make b)
    (ofRight : ∀ value, right = some value → ∃ b, value = make b) :
    left.bind read = right.bind read ↔ left.map ArrowValue.field = right.map ArrowValue.field := by
  have columns := @column_iff left right β β read make id reads keys ofLeft ofRight
  rwa [Option.map_id, id, id] at columns

theorem int_iff (ofLeft : ∀ value, left = some value → ArrowType.int64.Holds value)
    (ofRight : ∀ value, right = some value → ArrowType.int64.Holds value) :
    left.bind ArrowValue.int? = right.bind ArrowValue.int? ↔
      left.map ArrowValue.field = right.map ArrowValue.field :=
  plain_iff (fun _ => rfl) (fun _ _ => by simp [ArrowValue.field]) ofLeft ofRight

theorem timestamp_iff (ofLeft : ∀ value, left = some value → ArrowType.timestampUs.Holds value)
    (ofRight : ∀ value, right = some value → ArrowType.timestampUs.Holds value) :
    left.bind ArrowValue.timestamp? = right.bind ArrowValue.timestamp? ↔
      left.map ArrowValue.field = right.map ArrowValue.field :=
  plain_iff (fun _ => rfl) (fun _ _ => by simp [ArrowValue.field]) ofLeft ofRight

theorem text_iff (ofLeft : ∀ value, left = some value → ArrowType.largeString.Holds value)
    (ofRight : ∀ value, right = some value → ArrowType.largeString.Holds value) :
    left.bind ArrowValue.text? = right.bind ArrowValue.text? ↔
      left.map ArrowValue.field = right.map ArrowValue.field :=
  plain_iff (fun _ => rfl) (fun _ _ => by simp [ArrowValue.field]) ofLeft ofRight

theorem double_iff (ofLeft : ∀ value, left = some value → ArrowType.float64.Holds value)
    (ofRight : ∀ value, right = some value → ArrowType.float64.Holds value) :
    (left.bind ArrowValue.double?).map Double.canonical = (right.bind ArrowValue.double?).map Double.canonical ↔
      left.map ArrowValue.field = right.map ArrowValue.field :=
  column_iff (fun _ => rfl) (fun _ _ => by simp [ArrowValue.field, Double.canonical_eq_iff]) ofLeft ofRight

end Fields

section Rows

variable {left right : String → Option ArrowValue} {contract : List (String × ArrowType)}

/-- The cells of a row hold values of the types of a contract. -/
def OfContract (contract : List (String × ArrowType)) (row : String → Option ArrowValue) : Prop :=
  ∀ entry ∈ contract, ∀ value, row entry.1 = some value → entry.2.Holds value

def SameField (left right : String → Option ArrowValue) (name : String) : Prop :=
  (left name).map ArrowValue.field = (right name).map ArrowValue.field

/-- Reading the cells of two rows by the types of a contract tells apart what their fields tell apart. -/
structure ReadsFields (contract : List (String × ArrowType)) (left right : String → Option ArrowValue) : Prop where
  ints : ∀ name, (name, ArrowType.int32) ∈ contract ∨ (name, ArrowType.int64) ∈ contract →
    ((left name).bind ArrowValue.int? = (right name).bind ArrowValue.int? ↔ SameField left right name)
  doubles : ∀ name, (name, ArrowType.float64) ∈ contract →
    (((left name).bind ArrowValue.double?).map Double.canonical =
        ((right name).bind ArrowValue.double?).map Double.canonical ↔ SameField left right name)
  timestamps : ∀ name, (name, ArrowType.timestampUs) ∈ contract →
    ((left name).bind ArrowValue.timestamp? = (right name).bind ArrowValue.timestamp? ↔ SameField left right name)
  texts : ∀ name, (name, ArrowType.largeString) ∈ contract →
    ((left name).bind ArrowValue.text? = (right name).bind ArrowValue.text? ↔ SameField left right name)

theorem readsFields (ofLeft : OfContract contract left) (ofRight : OfContract contract right) :
    ReadsFields contract left right where
  ints := by
    rintro name (member | member)
    · exact int_iff (ofLeft _ member) (ofRight _ member)
    · exact int_iff (ofLeft _ member) (ofRight _ member)
  doubles := fun _ member => double_iff (ofLeft _ member) (ofRight _ member)
  timestamps := fun _ member => timestamp_iff (ofLeft _ member) (ofRight _ member)
  texts := fun _ member => text_iff (ofLeft _ member) (ofRight _ member)

/-- The grouping columns of the Yellow trips are the source fields, no more and no fewer. -/
theorem yellow_groupKey_iff (ofLeft : OfContract yellowFieldTypes left) (ofRight : OfContract yellowFieldTypes right) :
    RawTable.yellowTrips.groupKey (YellowTrip.ofColumns left) =
        RawTable.yellowTrips.groupKey (YellowTrip.ofColumns right) ↔
      ∀ name ∈ yellowSourceColumns, SameField left right name := by
  obtain ⟨ints, doubles, timestamps, texts⟩ := readsFields ofLeft ofRight
  simp only [yellowSourceColumns, yellowBaselineFields, yellowBaselineTypes, yellowAdditiveField,
    List.map_cons, List.map_nil, List.cons_append, List.nil_append, List.forall_mem_cons, List.not_mem_nil,
    false_imp_iff, implies_true, and_true, RawTable.groupKey, YellowTrip.ofColumns, YellowTrip.mk.injEq]
  simp (disch := decide) only [ints, doubles, timestamps, texts]

theorem green_groupKey_iff (ofLeft : OfContract greenFieldTypes left) (ofRight : OfContract greenFieldTypes right) :
    RawTable.greenTrips.groupKey (GreenTrip.ofColumns left) =
        RawTable.greenTrips.groupKey (GreenTrip.ofColumns right) ↔
      ∀ name ∈ greenSourceColumns, SameField left right name := by
  obtain ⟨ints, doubles, timestamps, texts⟩ := readsFields ofLeft ofRight
  simp only [greenSourceColumns, greenBaselineFields, greenFieldTypes, List.map_cons, List.map_nil,
    List.forall_mem_cons, List.not_mem_nil, false_imp_iff, implies_true, and_true, RawTable.groupKey,
    GreenTrip.ofColumns, GreenTrip.mk.injEq]
  simp (disch := decide) only [ints, doubles, timestamps, texts]

end Rows

section Files

variable {file : ParquetFile} {contract : List (String × ArrowType)} {sourceColumns : List String}

theorem cell_absent {name : String} (absent : name ∉ file.table.names) (row : Nat) :
    (pyTable file.table).cell name row = none := by
  have notThere : (pyTable file.table).names.idxOf? name = none := List.idxOf?_eq_none_iff.mpr absent
  unfold ColumnTable.cell ColumnTable.columnOf
  rw [notThere]
  dsimp only
  rw [List.getD_eq_getElem?_getD, List.getElem?_replicate]
  split <;> rfl

theorem fieldRow_eq_iff (names : ∀ name ∈ file.table.names, name ∈ sourceColumns) {i j : Nat} :
    file.fieldRow i = file.fieldRow j ↔
      ∀ name ∈ sourceColumns, SameField ((pyTable file.table).cell · i) ((pyTable file.table).cell · j) name := by
  unfold ParquetFile.fieldRow
  rw [List.map_inj_left]
  constructor
  · intro same name _
    by_cases present : name ∈ file.table.names
    · exact same name present
    · simp only [SameField, cell_absent present]
  · exact fun same name present => same name (names name present)

theorem ParquetFile.Typed.ofContract (typed : file.Typed) (schema : file.schema = contractFields contract)
    {whole : List (String × ArrowType)} (columns : ∀ entry ∈ whole, entry ∈ contract ∨ entry.1 ∉ contract.map Prod.fst)
    (row : Nat) : OfContract whole ((pyTable file.table).cell · row) := by
  intro entry member value found
  rcases columns entry member with inContract | absent
  · refine typed ⟨entry.1, entry.2, true⟩ ?_ row value found
    rw [schema]
    exact List.mem_map_of_mem (f := fun (entry : String × ArrowType) => (⟨entry.1, entry.2, true⟩ : ArrowField))
      inContract
  · have notThere : entry.1 ∉ file.table.names := by
      rw [file.named, schema, contractFields_names]
      exact absent
    exact nomatch (cell_absent notThere row).symm.trans found

theorem yellow_keys {version : String} (valid : validateYellowSchema file.schema = .ok version) (typed : file.Typed)
    (i j : Nat) : RawTable.yellowTrips.groupKey (YellowTrip.ofColumns ((pyTable file.table).cell · i)) =
        RawTable.yellowTrips.groupKey (YellowTrip.ofColumns ((pyTable file.table).cell · j)) ↔
      file.fieldRow i = file.fieldRow j := by
  rcases validateYellowSchema_ends file.schema with ⟨contract, known, schema, -⟩ | ⟨-, error, refused, -⟩
  · have columns : ∀ contract ∈ yellowContracts, (∀ name ∈ contract.2.map Prod.fst, name ∈ yellowSourceColumns) ∧
        ∀ entry ∈ yellowFieldTypes, entry ∈ contract.2 ∨ entry.1 ∉ contract.2.map Prod.fst := by decide +kernel
    have names : ∀ name ∈ file.table.names, name ∈ yellowSourceColumns := by
      rw [file.named, schema, contractFields_names]
      exact (columns contract known).1
    have ofContract := typed.ofContract schema (columns contract known).2
    rw [fieldRow_eq_iff names]
    exact yellow_groupKey_iff (ofContract i) (ofContract j)
  · cases valid.symm.trans refused

theorem green_keys {version : String} (valid : validateGreenSchema file.schema = .ok version) (typed : file.Typed)
    (i j : Nat) : RawTable.greenTrips.groupKey (GreenTrip.ofColumns ((pyTable file.table).cell · i)) =
        RawTable.greenTrips.groupKey (GreenTrip.ofColumns ((pyTable file.table).cell · j)) ↔
      file.fieldRow i = file.fieldRow j := by
  rcases validateGreenSchema_ends file.schema with ⟨contract, known, schema, -⟩ | ⟨-, error, refused, -⟩
  · have columns : ∀ contract ∈ greenContracts, (∀ name ∈ contract.2.map Prod.fst, name ∈ greenSourceColumns) ∧
        ∀ entry ∈ greenFieldTypes, entry ∈ contract.2 ∨ entry.1 ∉ contract.2.map Prod.fst := by decide +kernel
    have names : ∀ name ∈ file.table.names, name ∈ greenSourceColumns := by
      rw [file.named, schema, contractFields_names]
      exact (columns contract known).1
    have ofContract := typed.ofContract schema (columns contract known).2
    rw [fieldRow_eq_iff names]
    exact green_groupKey_iff (ofContract i) (ofContract j)
  · cases valid.symm.trans refused

theorem duplicateMeasurement_eq {db : Database} {table : RawTable} {sourceFileId rowsChecked : Nat}
    {ofColumns : (String → Option ArrowValue) → table.Values}
    (stored : db.trips table sourceFileId = (List.range file.table.rowCount).map fun row =>
      ofColumns ((pyTable file.table).cell · row))
    (keys : ∀ i j, table.groupKey (ofColumns ((pyTable file.table).cell · i)) =
        table.groupKey (ofColumns ((pyTable file.table).cell · j)) ↔
      file.fieldRow i = file.fieldRow j) :
    duplicateMeasurement db table sourceFileId rowsChecked = ⟨rowsChecked, participatingRows file.fieldRows,
      some (.duplicates (excessRows file.fieldRows) (repeatedValues file.fieldRows))⟩ := by
  have sizes : ((groupCounts ((db.trips table sourceFileId).map table.groupKey)).map (·.2)).filter (1 < ·) =
      repeatSizes ((List.range file.table.rowCount).map fun row =>
        table.groupKey (ofColumns ((pyTable file.table).cell · row))) := by
    rw [stored, List.map_map]
    rfl
  unfold duplicateMeasurement
  dsimp only
  rw [sizes, repeatSizes_sum, repeatSizes_excess, repeatSizes_length]
  unfold ParquetFile.fieldRows
  rw [participatingRows_map fun i _ j _ => keys i j, excessRows_map fun i _ j _ => keys i j,
    repeatedValues_map fun i _ j _ => keys i j]

end Files

/-- What the measurement says of the rows of a file, and that it does not depend on their order. -/
structure CountsDuplicates (rows : List (List (Option FieldValue))) (rowsChecked : Nat)
    (measurement : QualityMeasurement) : Prop where
  measured : measurement = ⟨rowsChecked, participatingRows rows,
    some (.duplicates (excessRows rows) (repeatedValues rows))⟩
  failed : participatingRows rows = excessRows rows + repeatedValues rows
  groups : repeatedValues rows ≤ excessRows rows
  reordered : ∀ rows', rows'.Perm rows → participatingRows rows' = participatingRows rows ∧
    excessRows rows' = excessRows rows ∧ repeatedValues rows' = repeatedValues rows

theorem countsDuplicates_of_eq {rows : List (List (Option FieldValue))} {rowsChecked : Nat}
    {measurement : QualityMeasurement} (measured : measurement = ⟨rowsChecked, participatingRows rows,
      some (.duplicates (excessRows rows) (repeatedValues rows))⟩) : CountsDuplicates rows rowsChecked measurement where
  measured := measured
  failed := participating_eq
  groups := repeated_le_excess
  reordered := fun _ permuted =>
    ⟨participatingRows_perm permuted, excessRows_perm permuted, repeatedValues_perm permuted⟩

def Request.batchSize : Request → Int
  | .register _ => 1
  | .ingest _ batchSize => batchSize

section Accepted

variable {readers : Readers} {source : SourcePartition} {content : Bytes} {metadata : SourceFileMetadata}

theorem inspected_schema (resolved : Resolved source) (inspected : inspectSource readers source content = .ok metadata)
    (trips : metadata.datasetName ≠ "taxi_zone_lookup") :
    ∃ found version, readers.parquetFile content = .ok found ∧
      validateParquetSchema metadata.datasetName found.1 = .ok version := by
  obtain ⟨-, structured, inspection, described⟩ := inspectSource_ok inspected
  subst described
  have format : source.sourceFormat = "parquet" := by
    have known := resolved.dataset
    simp only [List.mem_cons, Prod.mk.injEq, List.not_mem_nil, or_false] at known
    rcases known with ⟨-, -, format⟩ | ⟨-, -, format⟩ | ⟨-, name, -⟩
    · exact format
    · exact format
    · exact absurd name trips
  unfold inspectStructure at inspection
  rw [if_pos format] at inspection
  unfold inspectParquet at inspection
  cases opened : readers.parquetFile content with
  | error error =>
    rw [opened] at inspection
    cases inspection
  | ok found =>
    rw [opened] at inspection
    cases valid : validateParquetSchema source.datasetName found.1 with
    | error error =>
      simp only [Bind.bind, Except.bind, valid] at inspection
      cases inspection
    | ok version => exact ⟨found, version, rfl, valid⟩

end Accepted

section Loaded

variable {Client : Type} [Fintype Client] [DecidableEq Client] {requests : Client → Request}
  {source : Client → SourcePartition} {content : Client → Bytes} {rows : RowReaders} {zoneFile : Bytes → LandingFile}
  {s : Platform Client}

/-- The landing file that a call opens. -/
def callFile (requests : Client → Request) (rows : RowReaders) (zoneFile : Bytes → LandingFile)
    (content : Client → Bytes) (i : Client) : LandingFile :=
  if (requests i).metadata.datasetName = "taxi_zone_lookup" then zoneFile (content i)
  else rows.landing (requests i).metadata.datasetName (content i) (requests i).batchSize

/-- Once a trip file is loaded, the duplicate measurement of its source counts the equal rows of the file. -/
theorem duplicates_follow_file (readers : Readers) (resolved : ∀ i, Resolved (source i))
    (inspected : ∀ i, inspectSource readers (source i) (content i) = .ok (requests i).metadata)
    (collisionFree : ∀ i j, readers.sha256 (content i) = readers.sha256 (content j) → content i = content j)
    (reads : ∀ bytes found, readers.parquetFile bytes = .ok found → found.1 = (rows.parquetFile bytes).schema)
    (typed : ∀ bytes, (rows.parquetFile bytes).Typed) (slices : rows.Slices) {schedule : List (Client × Event)}
    (opens : ∀ i now file, (i, Event.openFile now file) ∈ schedule →
      (requests i).metadata.datasetName ≠ "taxi_zone_lookup" →
        rows.opened (requests i).metadata.datasetName (content i) (requests i).batchSize = .ok file)
    (opensZones : ∀ i now file, (i, Event.openFile now file) ∈ schedule →
      (requests i).metadata.datasetName = "taxi_zone_lookup" → file = zoneFile (content i))
    (ran : (ingestion requests).run startState schedule = some s) {i : Client} {row : SourceFile}
    (member : row ∈ s.committed.sourceFiles) (partition : row.partitionKey = (requests i).metadata.partitionKey)
    (checksum : row.checksumSha256 = (requests i).metadata.checksumSha256) (loaded : row.status = .loaded)
    {table : RawTable} (dataset : rawTableOf (requests i).metadata.datasetName = .ok table)
    (trips : table ≠ .taxiZones) (rowsChecked : Nat) :
    CountsDuplicates (rows.parquetFile (content i)).fieldRows rowsChecked
      (duplicateMeasurement s.committed table row.sourceFileId rowsChecked) := by
  have ofTrips : (requests i).metadata.datasetName ≠ "taxi_zone_lookup" := by
    intro zone
    rw [zone] at dataset
    cases dataset
    exact trips rfl
  obtain ⟨found, version, inspects, valid⟩ := inspected_schema (resolved i) (inspected i) ofTrips
  rw [reads _ _ inspects] at valid
  have zones : ∀ j, (requests j).metadata.datasetName = "taxi_zone_lookup" →
      callFile requests rows zoneFile content j = zoneFile (content j) := fun j zone => if_pos zone
  have others : ∀ j, (requests j).metadata.datasetName ≠ "taxi_zone_lookup" →
      callFile requests rows zoneFile content j =
        rows.landing (requests j).metadata.datasetName (content j) (requests j).batchSize := fun j other => if_neg other
  have delivered : ∀ i j, content i = content j → (requests i).metadata.datasetName = (requests j).metadata.datasetName →
      ∀ table, (callFile requests rows zoneFile content i table).flatten =
        (callFile requests rows zoneFile content j table).flatten := by
    intro i j sameContent sameDataset table
    by_cases zone : (requests j).metadata.datasetName = "taxi_zone_lookup"
    · rw [zones i (sameDataset.trans zone), zones j zone, sameContent]
    · rw [others i (sameDataset ▸ zone), others j zone, sameContent, sameDataset]
      exact landing_delivered slices table
  have opened : ∀ i now file, (i, Event.openFile now file) ∈ schedule →
      file = callFile requests rows zoneFile content i := by
    intro i now file inSchedule
    by_cases zone : (requests i).metadata.datasetName = "taxi_zone_lookup"
    · rw [zones i zone]
      exact opensZones i now file inSchedule zone
    · rw [others i zone]
      exact opened_landing slices (opens i now file inSchedule zone)
  have stored := loaded_rows_follow_file readers resolved inspected collisionFree delivered opened ran member partition
    checksum loaded dataset
  rw [others i ofTrips] at stored
  have values := @landing_trips rows (content i) (requests i).batchSize slices _ ofTrips
  apply countsDuplicates_of_eq
  unfold validateParquetSchema at valid
  unfold rawTableOf at dataset
  split at dataset
  · cases dataset
    rename_i yellow
    rw [if_pos yellow] at valid
    exact duplicateMeasurement_eq (stored.trans values.1) (yellow_keys valid (typed _))
  · rename_i notYellow
    rw [if_neg notYellow] at valid
    split at dataset
    · cases dataset
      rename_i green
      rw [if_pos green] at valid
      exact duplicateMeasurement_eq (stored.trans values.2) (green_keys valid (typed _))
    · rename_i notGreen
      rw [if_neg notGreen] at valid
      cases valid

end Loaded

/-- A file of the first schema version whose first two rows are equal, with two different NaNs as fares. -/
def repeatedFile : ParquetFile where
  schema := contractFields yellowBaselineTypes
  table := {
    names := yellowBaselineFields
    columns := yellowBaselineFields.map fun name =>
      if name = "VendorID" then [some (.int 1), some (.int 1), none]
      else if name = "fare_amount" then [some (.double 0x7FF8000000000000), some (.double 0xFFF8000000000001), none]
      else [none, none, none]
    rowCount := 3
    one_per_name := by decide
    rectangular := by decide +kernel }
  named := by decide

def repeatedReaders : Readers where
  sha256 := fun _ => 1
  parquetFile := fun _ => .ok (repeatedFile.schema, 3)
  readCsv := fun _ => .error (valueError "not a CSV file")
  schemaFingerprint := fun _ => 0

def repeatedMetadata : SourceFileMetadata := { yellowMetadata with rowCount := some 3 }

def noZones : CsvFile where
  header := taxiZoneRequiredFields
  records := []
  distinct := taxiZoneRequiredFields_nodup
  bounded := by decide
  nulFree := by decide
  sized := by decide

/-- A reader that delivers every file in one batch. -/
def wholeFiles : RowReaders where
  csvFile := fun _ => noZones
  parquetFile := fun _ => repeatedFile
  iterBatches := fun file _ => [file.table]

theorem repeatedFile_typed : repeatedFile.Typed := by
  have held : ∀ field ∈ repeatedFile.schema, ∀ value ∈ ((pyTable repeatedFile.table).columnOf field.name).reduceOption,
      field.type.Holds value := by decide +kernel
  intro field member row value found
  refine held field member value (List.reduceOption_mem_iff.mpr ?_)
  unfold ColumnTable.cell at found
  rw [List.getD_eq_getElem?_getD] at found
  cases inColumn : ((pyTable repeatedFile.table).columnOf field.name)[row]? with
  | none =>
    rw [inColumn] at found
    cases found
  | some cell =>
    rw [inColumn] at found
    cases found
    exact List.mem_of_getElem? inColumn

/-- An undisturbed ingestion of the file. -/
def repeatedLoad : List (Unit × Event) :=
  List.replicate 8 ((), .next 0) ++
    ((), .openFile 1 (wholeFiles.landing "yellow_tripdata" [1] 2)) :: List.replicate 11 ((), .next 2)

theorem repeatedLoad_counts : ∃ s row, (ingestion fun _ : Unit => .ingest repeatedMetadata 2).run startState
        repeatedLoad = some s ∧ row ∈ s.committed.sourceFiles ∧ row.status = .loaded ∧
      CountsDuplicates repeatedFile.fieldRows 3 (duplicateMeasurement s.committed .yellowTrips row.sourceFileId 3) ∧
      (participatingRows repeatedFile.fieldRows, excessRows repeatedFile.fieldRows,
        repeatedValues repeatedFile.fieldRows) = (2, 1, 1) := by
  have loads : ((ingestion fun _ : Unit => .ingest repeatedMetadata 2).run startState repeatedLoad).map
      (fun s => s.committed.sourceFiles.map fun row => (row.partitionKey, row.checksumSha256, row.status)) =
        some [("yellow/2025/01", 1, .loaded)] := by decide +kernel
  obtain ⟨s, ran, sources⟩ := Option.map_eq_some_iff.mp loads
  obtain ⟨row, only, described⟩ := List.map_eq_singleton_iff.mp sources
  obtain ⟨partition, checksum, loaded⟩ : row.partitionKey = "yellow/2025/01" ∧ row.checksumSha256 = 1 ∧
      row.status = .loaded := by simpa using described
  have member : row ∈ s.committed.sourceFiles := only ▸ List.mem_singleton_self row
  have opened : wholeFiles.opened "yellow_tripdata" [1] 2 = .ok (wholeFiles.landing "yellow_tripdata" [1] 2) := rfl
  have opens : ∀ (i : Unit) now file, (i, Event.openFile now file) ∈ repeatedLoad →
      "yellow_tripdata" ≠ "taxi_zone_lookup" → wholeFiles.opened "yellow_tripdata" [1] 2 = .ok file := by
    intro i now file inSchedule _
    simp only [repeatedLoad, List.mem_append, List.mem_cons, List.mem_replicate, Prod.mk.injEq] at inSchedule
    rcases inSchedule with ⟨-, -, impossible⟩ | ⟨-, same⟩ | ⟨-, -, impossible⟩
    · cases impossible
    · rw [(Event.openFile.inj same).2]
      exact opened
    · cases impossible
  refine ⟨s, row, ran, member, loaded, ?_, by decide +kernel⟩
  exact @duplicates_follow_file Unit _ _ (fun _ => .ingest repeatedMetadata 2) (fun _ => yellowSource) (fun _ => [1])
    wholeFiles (fun _ _ => []) s repeatedReaders (fun _ => .yellow (show yellowTripSource 2025 1 = .ok yellowSource by decide))
    (fun _ => by decide) (fun _ _ _ => rfl) (fun _ _ same => by cases same; rfl) (fun _ => repeatedFile_typed)
    (RowReaders.slices_of_single fun _ _ => rfl) repeatedLoad opens (fun _ _ _ _ zones => absurd zones (by decide)) ran ()
    row member partition checksum loaded .yellowTrips (by decide) (by decide) 3

end TaxiPipeline
