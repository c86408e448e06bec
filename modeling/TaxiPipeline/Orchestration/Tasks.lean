import TaxiPipeline.Ingestion.Alone
import TaxiPipeline.Model.QualityChecks
import TaxiPipeline.Storage.Preparation
import TaxiPipeline.Warehouse.Refresh

namespace TaxiPipeline

open ReadCommitted Stateful StorageAction

/-- What `resolve_month` returns to the other tasks. -/
structure TargetMonth where
  year : Int
  month : Int
  partitionLabel : String
  deriving DecidableEq, Repr

def TargetMonth.of (year month : Int) : TargetMonth :=
  ⟨year, month, paddedInt 4 year ++ "-" ++ paddedInt 2 month⟩

def resolveMonth (logicalDate : Date) (year month : Option Int) : Except PyException TargetMonth :=
  match year, month with
  | some year, some month =>
    if ¬ (1000 ≤ year ∧ year ≤ 9999) then .error (valueError "year must be a four-digit integer")
    else if ¬ (1 ≤ month ∧ month ≤ 12) then .error (valueError "month must be an integer between 1 and 12")
    else .ok (.of year month)
  | none, none =>
    let monthIndex : Int := logicalDate.year * 12 + logicalDate.month - 3
    .ok (.of (monthIndex / 12) (monthIndex % 12 + 1))
  | _, _ => .error (valueError "Manual runs must provide both year and month")

inductive LoadDecision where
  | alreadyLoaded
  | loaded
  deriving DecidableEq, Repr

def LoadDecision.value : LoadDecision → String
  | .alreadyLoaded => "already_loaded"
  | .loaded => "loaded"

/-- What `_ensure_loaded` returns. -/
structure LoadedPartition where
  partitionKey : String
  sourceFileId : Nat
  ingestionRunId : Nat
  decision : LoadDecision
  status : RunStatus
  rowsLoaded : Nat
  deriving DecidableEq, Repr

def sourceRevisionError (text : String) : PyException := ⟨.other "SourceRevisionError", text⟩

/-- `_raise_for_source_revision`. -/
def raiseForSourceRevision (result : IngestionResult) : Except PyException Unit :=
  if result.status = .skipped ∧ result.statusReason = some .sourceRevisionDetected then
    .error (sourceRevisionError (s!"Source revision requires review for {result.partitionKey} " ++
      s!"(source_file_id={result.sourceFileId}, run_id={result.runId})"))
  else .ok ()

def LoadedPartition.of (ingestion : IngestionResult) : LoadedPartition where
  partitionKey := ingestion.partitionKey
  sourceFileId := ingestion.sourceFileId
  ingestionRunId := ingestion.runId
  decision := if ingestion.statusReason = some .alreadyLoaded then .alreadyLoaded else .loaded
  status := ingestion.status
  rowsLoaded := ingestion.rowsLoaded

/-- `DEFAULT_BATCH_SIZE`. -/
def defaultBatchSize : Int := 50000

/-- What stands for the end of a call whose process is lost; no handler of the source sees it. -/
def processLost : PyException := ⟨.other "SystemExit", "process lost"⟩

/-- A call of `ingest_source` that no other call overlaps, with what its statements meet. -/
def ingestSource (metadata : SourceFileMetadata) (events : List Event) (s : Session) :
    Option (Except PyException IngestionResult × Session) :=
  ((Request.ingest metadata defaultBatchSize).program.run (.alone s.db s.sequences .idle [])
    (events.map ((), ·))).bind fun t =>
      match t.phase () with
      | .finished (.returned result) _ => some (.ok result, ⟨t.committed, t.external⟩)
      | .finished (.raised error) _ => some (.error error, ⟨t.committed, t.external⟩)
      | .crashed _ => some (.error processLost, ⟨t.committed, t.external⟩)
      | _ => none

/-- The deployment that the tasks run in: its storage, the configured backend, and the resolved path of the dbt
    project. -/
structure Installation where
  setup : StorageSetup
  backend : LandingBackend
  projectDir : String

/-- What one try of `_ensure_loaded` meets: its surroundings, the clock and the events of its ingestion. -/
structure LoadTry where
  around : Surroundings
  now : Timestamp
  events : List Event

/-- Surroundings in which nothing has to be fetched, and a try in them. -/
def loadTry (now : Timestamp) (events : List Event) : LoadTry :=
  ⟨⟨none, fun content => [content], [], fun _ => .error processLost⟩, now, events⟩

/-- A try that meets no fault, on a file whose load has `n` statements after the opening of its file. -/
def tryOn (file : LandingFile) (n : Nat) : LoadTry :=
  loadTry 0 (List.replicate 8 (.next 0) ++ .openFile 1 file :: List.replicate n (.next 0))

/-- The end of `_ensure_loaded`, after its ingestion has returned. -/
def concludeLoad (storage : StorageResult) (ingestion : IngestionResult) : Preparation LoadedPartition := do
  onDeployment (inTransaction (persistStorageMetadata ingestion.sourceFileId storage))
  Attempt.lift (raiseForSourceRevision ingestion)
  return .of ingestion

def Workspace.withSession (w : Workspace) (session : Session) : Workspace :=
  { w with deployment := { w.deployment with session := session } }

/-- `_ensure_loaded`. -/
def ensureLoaded (installed : Installation) (tried : LoadTry) (source : SourcePartition) (w : Workspace) :
    Option (Except PyException LoadedPartition × Workspace) :=
  match prepareSource installed.setup installed.backend tried.around tried.now source w with
  | (.error error, w) => some (.error error, w)
  | (.ok prepared, w) =>
    (ingestSource prepared.metadata tried.events w.deployment.session).map fun
      | (.error error, session) => (.error error, w.withSession session)
      | (.ok ingestion, session) => concludeLoad prepared.storage ingestion (w.withSession session)

def ensureTaxiZonesLoaded (installed : Installation) (tried : LoadTry) :
    Workspace → Option (Except PyException LoadedPartition × Workspace) :=
  ensureLoaded installed tried taxiZoneSource

/-- The source that `ensure_trip_month_loaded` loads. -/
def tripMonthSource (serviceType : String) (year month : Int) : Except PyException SourcePartition :=
  if serviceType = "yellow" then yellowTripSource year month
  else if serviceType = "green" then greenTripSource year month
  else .error (valueError s!"Unsupported service type: {serviceType}")

def ensureTripMonthLoaded (installed : Installation) (tried : LoadTry) (serviceType : String) (year month : Int)
    (w : Workspace) : Option (Except PyException LoadedPartition × Workspace) :=
  match tripMonthSource serviceType year month with
  | .error error => some (.error error, w)
  | .ok source => ensureLoaded installed tried source w

/-- The runs that `find_latest_successful_run` selects. -/
def Database.successfulRuns (db : Database) (serviceType : String) (year month : Int) : List PipelineRun :=
  db.pipelineRuns.filter fun run =>
    run.datasetName == serviceType ++ "_tripdata" && run.serviceType == some serviceType &&
      run.sourceYear == some year && run.sourceMonth == some month && run.status == .succeeded &&
      db.sourceFiles.any fun source => some source.sourceFileId == run.sourceFileId && source.status == .loaded

def findLatestSuccessfulRun (db : Database) (serviceType : String) (year month : Int) :
    Except PyException Nat :=
  match ((db.successfulRuns serviceType year month).map (·.runId)).max? with
  | some runId => .ok runId
  | none => .error (qualityEvaluationError
      s!"No successful loaded run for {serviceType}/{year}/{paddedInt 2 month}")

/-- `run_partition_quality` in its one transaction. -/
def runPartitionQuality (now : Timestamp) (serviceType : String) (year month : Int) :
    Preparation QualityRunSummary :=
  onDeployment (inTransaction do
    let runId ← Attempt.lift (findLatestSuccessfulRun (← Transaction.database) serviceType year month)
    runQualityChecks now runId)

/-- What `run_dbt_build` returns. -/
structure DbtResult where
  status : String
  projectDir : String
  deriving DecidableEq, Repr

/-- `run_dbt_build`, by the exit status of `dbt build`. -/
def runDbtBuild (projectDir : String) (exitStatus : Nat) : Except PyException DbtResult :=
  if exitStatus = 0 then .ok ⟨"succeeded", projectDir⟩
  else .error ⟨.other "CalledProcessError", s!"Command '['dbt', 'build', '--project-dir', '{projectDir}', " ++
    s!"'--profiles-dir', '{projectDir}']' returned non-zero exit status {exitStatus}."⟩

end TaxiPipeline
