import Mathlib.Logic.Function.Basic
import TaxiPipeline.Model.Calendar
import TaxiPipeline.Model.Statuses

namespace TaxiPipeline

/-- The value of a SHA-256 hex digest; `CHAR(64)` stores its 64 digits without padding. -/
abbrev Digest := BitVec 256

/-- The bits of a `double precision` value. -/
abbrev Double := BitVec 64

structure SourceFileMetadata where
  datasetName : String
  serviceType : Option String
  year : Option Int
  month : Option Int
  partitionKey : String
  sourceUrl : String
  landingPath : String
  sourceFormat : String
  checksumSha256 : Digest
  fileSizeBytes : Int
  rowCount : Option Int
  schemaFingerprint : Option Digest
  schemaVersion : Option String
  deriving DecidableEq, Repr

/-- A row of `ops.source_files`. -/
structure SourceFile where
  sourceFileId : Nat
  datasetName : String
  serviceType : Option String
  sourceYear : Option Int
  sourceMonth : Option Int
  partitionKey : String
  sourceUrl : String
  landingPath : String
  checksumSha256 : Digest
  fileSizeBytes : Int
  rowCount : Option Int
  schemaFingerprint : Option Digest
  status : SourceStatus
  validatedAt : Option Timestamp
  loadedAt : Option Timestamp
  storageBackend : String
  storageUri : Option String
  storageVersionId : Option String
  storedAt : Option Timestamp
  deriving DecidableEq, Repr

/-- A row of `ops.pipeline_runs`. -/
structure PipelineRun where
  runId : Nat
  datasetName : String
  serviceType : Option String
  sourceYear : Option Int
  sourceMonth : Option Int
  sourceFileId : Option Nat
  startedAt : Timestamp
  finishedAt : Option Timestamp
  status : RunStatus
  statusReason : Option SkipReason
  rowsRead : Option Int
  rowsLoaded : Option Int
  warningCount : Option Int
  errorCount : Option Int
  errorMessage : Option String
  deriving DecidableEq, Repr

/-- The source columns of `raw.yellow_trips`. -/
structure YellowTrip where
  vendorId : Option Int
  pickupDatetime : Option DateTime
  dropoffDatetime : Option DateTime
  passengerCount : Option Int
  tripDistance : Option Double
  rateCodeId : Option Int
  storeAndFwdFlag : Option String
  pickupLocationId : Option Int
  dropoffLocationId : Option Int
  paymentType : Option Int
  fareAmount : Option Double
  extra : Option Double
  mtaTax : Option Double
  tipAmount : Option Double
  tollsAmount : Option Double
  improvementSurcharge : Option Double
  totalAmount : Option Double
  congestionSurcharge : Option Double
  airportFee : Option Double
  cbdCongestionFee : Option Double
  deriving DecidableEq

/-- The source columns of `raw.green_trips`. -/
structure GreenTrip where
  vendorId : Option Int
  pickupDatetime : Option DateTime
  dropoffDatetime : Option DateTime
  storeAndFwdFlag : Option String
  rateCodeId : Option Int
  pickupLocationId : Option Int
  dropoffLocationId : Option Int
  passengerCount : Option Int
  tripDistance : Option Double
  fareAmount : Option Double
  extra : Option Double
  mtaTax : Option Double
  tipAmount : Option Double
  tollsAmount : Option Double
  ehailFee : Option Double
  improvementSurcharge : Option Double
  totalAmount : Option Double
  paymentType : Option Int
  tripType : Option Int
  congestionSurcharge : Option Double
  cbdCongestionFee : Option Double
  deriving DecidableEq

/-- The source columns of `raw.taxi_zones`. -/
structure TaxiZone where
  locationId : Int
  borough : Option String
  zone : Option String
  serviceZone : Option String
  deriving DecidableEq

inductive RawTable where
  | yellowTrips
  | greenTrips
  | taxiZones
  deriving DecidableEq, Repr

@[reducible] def RawTable.Values : RawTable → Type
  | .yellowTrips => YellowTrip
  | .greenTrips => GreenTrip
  | .taxiZones => TaxiZone

instance (table : RawTable) : DecidableEq table.Values :=
  match table with
  | .yellowTrips => inferInstanceAs (DecidableEq YellowTrip)
  | .greenTrips => inferInstanceAs (DecidableEq GreenTrip)
  | .taxiZones => inferInstanceAs (DecidableEq TaxiZone)

/-- The technical columns of a raw row: its source file, position and run. -/
structure Lineage where
  sourceFileId : Nat
  sourceRowNumber : Nat
  pipelineRunId : Nat
  deriving DecidableEq, Repr

structure RawRow (table : RawTable) where
  lineage : Lineage
  ingestedAt : Timestamp
  values : table.Values
  deriving DecidableEq

inductive QualitySeverity where
  | info
  | warning
  | error
  deriving DecidableEq, Repr

inductive QualityStatus where
  | passed
  | violated
  deriving DecidableEq, Repr

inductive DomainValue where
  | number (value : Int)
  | text (value : String)
  deriving DecidableEq, Repr

/-- The `details` documents that the checks write. -/
inductive QualityDetails where
  | unexpectedValues (counts : List (DomainValue × Nat))
  | duplicates (excessRows groups : Nat)
  deriving DecidableEq, Repr

/-- A row of `ops.data_quality_results`; `failureRate` is the exact quotient. -/
structure DataQualityResult where
  qualityResultId : Nat
  runId : Nat
  checkName : String
  severity : QualitySeverity
  status : QualityStatus
  rowsChecked : Nat
  rowsFailed : Nat
  failureRate : Rat
  details : Option QualityDetails
  executedAt : Timestamp
  deriving DecidableEq

structure Database where
  sourceFiles : List SourceFile
  pipelineRuns : List PipelineRun
  raw : (table : RawTable) → List (RawRow table)
  qualityResults : List DataQualityResult

/-- The identity sequences; a value once drawn is never given back. -/
structure Sequences where
  sourceFileId : Nat
  runId : Nat
  qualityResultId : Nat
  deriving DecidableEq, Repr

def Database.empty : Database where
  sourceFiles := []
  pipelineRuns := []
  raw := fun _ => []
  qualityResults := []

def Sequences.start : Sequences := ⟨1, 1, 1⟩

namespace Database

def getSourceFile (db : Database) (sourceFileId : Nat) : Option SourceFile :=
  db.sourceFiles.find? (·.sourceFileId == sourceFileId)

def getRun (db : Database) (runId : Nat) : Option PipelineRun :=
  db.pipelineRuns.find? (·.runId == runId)

/-- The rows of one source file in one raw table. -/
def rowsOf (db : Database) (table : RawTable) (sourceFileId : Nat) : List (RawRow table) :=
  (db.raw table).filter (·.lineage.sourceFileId == sourceFileId)

def addSourceFile (db : Database) (row : SourceFile) : Database :=
  { db with sourceFiles := db.sourceFiles ++ [row] }

def addRun (db : Database) (run : PipelineRun) : Database :=
  { db with pipelineRuns := db.pipelineRuns ++ [run] }

def addRaw (db : Database) (table : RawTable) (row : RawRow table) : Database :=
  { db with raw := Function.update db.raw table (db.raw table ++ [row]) }

def updateSourceFile (db : Database) (sourceFileId : Nat) (change : SourceFile → SourceFile) :
    Database :=
  { db with sourceFiles :=
      db.sourceFiles.map fun row => if row.sourceFileId = sourceFileId then change row else row }

def updateRun (db : Database) (runId : Nat) (change : PipelineRun → PipelineRun) : Database :=
  { db with pipelineRuns :=
      db.pipelineRuns.map fun run => if run.runId = runId then change run else run }

end Database

end TaxiPipeline
