import TaxiPipeline.Model.Contracts
import TaxiPipeline.Model.Loading
import TaxiPipeline.Model.PythonText
import TaxiPipeline.Relational.Columns

namespace TaxiPipeline

open Relational

variable {α β σ : Type}

/-- A record batch of pyarrow: named columns of cells, a null cell being `None`. -/
abbrev RecordBatch (α : Type) := ColumnTable String α

/-- A value of an Arrow column: a `timestamp[us]` counts from 1970, a text is its UTF-8 buffer. -/
inductive ArrowCell where
  | int (value : Int)
  | double (value : Double)
  | timestamp (microseconds : Int64)
  | text (utf8 : ByteArray)

/-- A value that pyarrow converts to Python. -/
inductive ArrowValue where
  | int (value : Int)
  | double (value : Double)
  | timestamp (value : DateTime)
  | text (value : String)
  deriving DecidableEq

def ArrowValue.int? : ArrowValue → Option Int
  | .int value => some value
  | _ => none

def ArrowValue.double? : ArrowValue → Option Double
  | .double value => some value
  | _ => none

def ArrowValue.timestamp? : ArrowValue → Option DateTime
  | .timestamp value => some value
  | _ => none

def ArrowValue.text? : ArrowValue → Option String
  | .text value => some value
  | _ => none

/-- `as_py` of a scalar that is not null. -/
def ArrowCell.asPy : ArrowCell → Except PyException ArrowValue
  | .int value => .ok (.int value)
  | .double value => .ok (.double value)
  | .timestamp microseconds =>
    match DateTime.fromEpoch microseconds.toInt with
    | some moment => .ok (.timestamp moment)
    | none => .error ⟨.other "OverflowError", "date value out of range"⟩
  | .text utf8 => (decodeUtf8 utf8).map .text

/-- `as_py` of a scalar. -/
def scalarAsPy : Option ArrowCell → Except PyException (Option ArrowValue)
  | none => .ok none
  | some cell => cell.asPy.map some

/-- `record_batch.column(index).to_pylist()`. -/
def toPyList (column : List (Option ArrowCell)) : Except PyException (List (Option ArrowValue)) :=
  column.mapM scalarAsPy

/-- An open Parquet file: its schema and its rows, stored by columns. -/
structure ParquetFile where
  schema : List ArrowField
  table : RecordBatch ArrowCell
  named : table.names = schema.map (·.name)

/-- What a generator yields, and the exception that ends it, if one does. -/
structure Generated (β : Type) where
  yielded : List β
  raised : Option PyException

def Generated.fail (error : PyException) : Generated β := ⟨[], some error⟩

def Generated.cons (first : β) (rest : Generated β) : Generated β :=
  ⟨first :: rest.yielded, rest.raised⟩

/-- The members of the tuples that the loaders give to COPY. -/
inductive CopyValue (α : Type) where
  | source (value : Option α)
  | number (value : Nat)
  | timestamp (value : Timestamp)
  deriving DecidableEq

/-- A `RawBatch` with its rows as the tuples of the source. -/
structure CopyBatch (α : Type) where
  startRowNumber : Nat
  rows : List (List (CopyValue α))

def CopyBatch.rowCount (batch : CopyBatch α) : Nat := batch.rows.length

def copyBatchSizeError : PyException := valueError "batch_size must be positive"

/-- `zip(first, *others, strict=True)`, run to its end. -/
def zipStrict : (first : List β) → (others : List (List β)) → Except PyException (List (List β))
  | [], others =>
    match others.findIdx? (!·.isEmpty) with
    | none => .ok []
    | some index => .error (valueError s!"zip() argument {index + 2} is longer than argument{plural index}")
  | value :: rest, others =>
    match others.findIdx? (·.isEmpty) with
    | some index => .error (valueError s!"zip() argument {index + 2} is shorter than argument{plural index}")
    | none => do
      let rows ← zipStrict rest (others.map List.tail)
      .ok ((value :: others.filterMap List.head?) :: rows)
where
  plural (index : Nat) : String := if index = 0 then " 1" else s!"s 1-{index + 1}"

/-- `zip(*columns, strict=True)`, run to its end. -/
def zipColumns : List (List β) → Except PyException (List (List β))
  | [] => .ok []
  | first :: others => zipStrict first others

/-- `values_by_name`, as the entries that are set one after another. -/
def valuesByName (batch : RecordBatch ArrowCell) : Except PyException (List (String × List (Option ArrowValue))) :=
  (batch.names.zip batch.columns).mapM fun entry => (toPyList entry.2).map fun values => (entry.1, values)

/-- `values_by_name.get(name, [None] * row_count)`; a repeated name keeps its last column. -/
def sourceValues {β : Type} (entries : List (String × List (Option β))) (rowCount : Nat) (name : String) :
    List (Option β) :=
  (entries.reverse.lookup name).getD (List.replicate rowCount none)

/-- The tuple of one row: `(*values, source_file_id, row_number, pipeline_run_id, ingested_at)`. -/
def copyTuple (identity : LoadIdentity) (rowNumber : Nat) (values : List (Option α)) : List (CopyValue α) :=
  values.map .source ++
    [.number identity.sourceFileId, .number rowNumber, .number identity.pipelineRunId,
      .timestamp identity.ingestedAt]

/-- The rows of a batch, from the number of its first row on. -/
def copyRowsOf (sourceColumns : List String) (identity : LoadIdentity) (sourceRowNumber : Nat)
    (batch : RecordBatch ArrowCell) : Except PyException (List (List (CopyValue ArrowValue))) := do
  let entries ← valuesByName batch
  let values ← zipColumns (sourceColumns.map (sourceValues entries batch.rowCount))
  .ok (values.mapIdx fun offset row => copyTuple identity (sourceRowNumber + offset) row)

/-- The loop of `iter_parquet_batches`. -/
def copyRecordBatches (sourceColumns : List String) (identity : LoadIdentity) :
    (sourceRowNumber : Nat) → List (RecordBatch ArrowCell) → Generated (CopyBatch ArrowValue)
  | _, [] => ⟨[], none⟩
  | sourceRowNumber, batch :: rest =>
    match copyRowsOf sourceColumns identity sourceRowNumber batch with
    | .error error => .fail error
    | .ok rows =>
      .cons ⟨sourceRowNumber, rows⟩
        (copyRecordBatches sourceColumns identity (sourceRowNumber + batch.rowCount) rest)

def technicalColumns : List String :=
  ["_source_file_id", "_source_row_number", "_pipeline_run_id", "_ingested_at"]

def yellowSourceColumns : List String := yellowBaselineFields ++ [yellowAdditiveField]
def yellowCopyColumns : List String := yellowSourceColumns ++ technicalColumns

def greenSourceColumns : List String := greenBaselineFields
def greenCopyColumns : List String := greenSourceColumns ++ technicalColumns

namespace ParquetFile

variable (iterBatches : ParquetFile → Int → List (RecordBatch ArrowCell)) (file : ParquetFile)
  (identity : LoadIdentity) (batchSize : Int)

/-- `iter_parquet_batches` on an open file, with pyarrow's `iter_batches`. -/
def iterParquetBatches (sourceColumns : List String)
    (validateSchema : List ArrowField → Except PyException String) : Generated (CopyBatch ArrowValue) :=
  if batchSize ≤ 0 then .fail copyBatchSizeError
  else
    match validateSchema file.schema with
    | .error error => .fail error
    | .ok _ => copyRecordBatches sourceColumns identity 1 (iterBatches file batchSize)

def iterYellowBatches : Generated (CopyBatch ArrowValue) :=
  file.iterParquetBatches iterBatches identity batchSize yellowSourceColumns validateYellowSchema

def iterGreenBatches : Generated (CopyBatch ArrowValue) :=
  file.iterParquetBatches iterBatches identity batchSize greenSourceColumns validateGreenSchema

end ParquetFile

/-- The target of a `COPY ... FROM STDIN` statement. -/
structure CopyStatement where
  schema : String
  table : String
  columns : List String
  deriving DecidableEq, Repr

/-- psycopg's COPY on a session: opening it, writing a row and closing it. -/
structure CopyDriver (σ α : Type) where
  start : CopyStatement → σ → Except PyException σ
  writeRow : CopyStatement → List (CopyValue α) → σ → Except PyException σ
  finish : CopyStatement → σ → Except PyException σ

/-- One turn of the loop of `copy_rows`: the number of rows copied and the session. -/
def copyRow (driver : CopyDriver σ α) (statement : CopyStatement) (state : Nat × σ)
    (row : List (CopyValue α)) : Except PyException (Nat × σ) := do
  let session ← driver.writeRow statement row state.2
  .ok (state.1 + 1, session)

def copyRows (driver : CopyDriver σ α) (statement : CopyStatement) (rows : List (List (CopyValue α)))
    (session : σ) : Except PyException (Nat × σ) := do
  let opened ← driver.start statement session
  let copied ← rows.foldlM (copyRow driver statement) (0, opened)
  let closed ← driver.finish statement copied.2
  .ok (copied.1, closed)

/-- One turn of the loop of `load_yellow` and `load_green`. -/
def loadBatch (driver : CopyDriver σ α) (statement : CopyStatement) (state : LoadCounts × σ)
    (batch : CopyBatch α) : Except PyException (LoadCounts × σ) := do
  let copied ← copyRows driver statement batch.rows state.2
  .ok (⟨state.1.rowsRead + batch.rowCount, state.1.rowsLoaded + copied.1⟩, copied.2)

/-- The body that `load_yellow` and `load_green` share. -/
def loadBatches (driver : CopyDriver σ α) (statement : CopyStatement) (batches : Generated (CopyBatch α))
    (session : σ) : Except PyException (LoadCounts × σ) := do
  let loaded ← batches.yielded.foldlM (loadBatch driver statement) (⟨0, 0⟩, session)
  match batches.raised with
  | some error => .error error
  | none => .ok loaded

def loadYellow (driver : CopyDriver σ α) (batches : Generated (CopyBatch α)) (session : σ) :
    Except PyException (LoadCounts × σ) :=
  loadBatches driver ⟨"raw", "yellow_trips", yellowCopyColumns⟩ batches session

def loadGreen (driver : CopyDriver σ α) (batches : Generated (CopyBatch α)) (session : σ) :
    Except PyException (LoadCounts × σ) :=
  loadBatches driver ⟨"raw", "green_trips", greenCopyColumns⟩ batches session

/-- The columns of `raw.yellow_trips` with the attributes that the model maps them to. -/
def YellowTrip.ofColumns (column : String → Option ArrowValue) : YellowTrip where
  vendorId := (column "VendorID").bind ArrowValue.int?
  pickupDatetime := (column "tpep_pickup_datetime").bind ArrowValue.timestamp?
  dropoffDatetime := (column "tpep_dropoff_datetime").bind ArrowValue.timestamp?
  passengerCount := (column "passenger_count").bind ArrowValue.int?
  tripDistance := (column "trip_distance").bind ArrowValue.double?
  rateCodeId := (column "RatecodeID").bind ArrowValue.int?
  storeAndFwdFlag := (column "store_and_fwd_flag").bind ArrowValue.text?
  pickupLocationId := (column "PULocationID").bind ArrowValue.int?
  dropoffLocationId := (column "DOLocationID").bind ArrowValue.int?
  paymentType := (column "payment_type").bind ArrowValue.int?
  fareAmount := (column "fare_amount").bind ArrowValue.double?
  extra := (column "extra").bind ArrowValue.double?
  mtaTax := (column "mta_tax").bind ArrowValue.double?
  tipAmount := (column "tip_amount").bind ArrowValue.double?
  tollsAmount := (column "tolls_amount").bind ArrowValue.double?
  improvementSurcharge := (column "improvement_surcharge").bind ArrowValue.double?
  totalAmount := (column "total_amount").bind ArrowValue.double?
  congestionSurcharge := (column "congestion_surcharge").bind ArrowValue.double?
  airportFee := (column "Airport_fee").bind ArrowValue.double?
  cbdCongestionFee := (column "cbd_congestion_fee").bind ArrowValue.double?

/-- The columns of `raw.green_trips` with the attributes that the model maps them to. -/
def GreenTrip.ofColumns (column : String → Option ArrowValue) : GreenTrip where
  vendorId := (column "VendorID").bind ArrowValue.int?
  pickupDatetime := (column "lpep_pickup_datetime").bind ArrowValue.timestamp?
  dropoffDatetime := (column "lpep_dropoff_datetime").bind ArrowValue.timestamp?
  storeAndFwdFlag := (column "store_and_fwd_flag").bind ArrowValue.text?
  rateCodeId := (column "RatecodeID").bind ArrowValue.int?
  pickupLocationId := (column "PULocationID").bind ArrowValue.int?
  dropoffLocationId := (column "DOLocationID").bind ArrowValue.int?
  passengerCount := (column "passenger_count").bind ArrowValue.int?
  tripDistance := (column "trip_distance").bind ArrowValue.double?
  fareAmount := (column "fare_amount").bind ArrowValue.double?
  extra := (column "extra").bind ArrowValue.double?
  mtaTax := (column "mta_tax").bind ArrowValue.double?
  tipAmount := (column "tip_amount").bind ArrowValue.double?
  tollsAmount := (column "tolls_amount").bind ArrowValue.double?
  ehailFee := (column "ehail_fee").bind ArrowValue.double?
  improvementSurcharge := (column "improvement_surcharge").bind ArrowValue.double?
  totalAmount := (column "total_amount").bind ArrowValue.double?
  paymentType := (column "payment_type").bind ArrowValue.int?
  tripType := (column "trip_type").bind ArrowValue.int?
  congestionSurcharge := (column "congestion_surcharge").bind ArrowValue.double?
  cbdCongestionFee := (column "cbd_congestion_fee").bind ArrowValue.double?

def CopyValue.source? : CopyValue ArrowValue → Option ArrowValue
  | .source value => value
  | _ => none

def CopyValue.number? : CopyValue ArrowValue → Option Nat
  | .number value => some value
  | _ => none

def CopyValue.timestamp? : CopyValue ArrowValue → Option Timestamp
  | .timestamp value => some value
  | _ => none

/-- The raw row that COPY makes of a tuple, matching its members with the columns by position. -/
def storedRow {table : RawTable} (ofColumns : (String → Option ArrowValue) → table.Values)
    (copyColumns : List String) (tuple : List (CopyValue ArrowValue)) : Option (RawRow table) := do
  let row := copyColumns.zip tuple
  let sourceFileId ← (row.lookup "_source_file_id").bind CopyValue.number?
  let sourceRowNumber ← (row.lookup "_source_row_number").bind CopyValue.number?
  let pipelineRunId ← (row.lookup "_pipeline_run_id").bind CopyValue.number?
  let ingestedAt ← (row.lookup "_ingested_at").bind CopyValue.timestamp?
  some ⟨⟨sourceFileId, sourceRowNumber, pipelineRunId⟩, ingestedAt,
    ofColumns fun column => (row.lookup column).bind CopyValue.source?⟩

/-- What Python reads of a cell, where it can. -/
def ArrowCell.value? (cell : ArrowCell) : Option ArrowValue := cell.asPy.toOption

/-- The rows of a record batch as values of a raw table. -/
def batchValues {table : RawTable} (ofColumns : (String → Option ArrowValue) → table.Values)
    (batch : RecordBatch ArrowCell) : List table.Values :=
  (List.range batch.rowCount).map fun row => ofColumns fun column => (batch.cell column row).bind ArrowCell.value?

end TaxiPipeline
