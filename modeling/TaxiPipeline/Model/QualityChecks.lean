import Mathlib.Data.Rat.Defs
import TaxiPipeline.Model.Measurements
import TaxiPipeline.Model.Loading

namespace TaxiPipeline

open Stateful

/-- An entry of `QUALITY_CONFIG` with the rules of the dataset. -/
structure QualityConfig where
  table : RawTable
  model : TripModel table
  domainValues : List (DomainCheck table)
  rules : List QualityRule

def qualityConfig (datasetName : String) : Option QualityConfig :=
  if datasetName = "yellow_tripdata" then
    some ⟨.yellowTrips, yellowTripModel, yellowDomainValues, yellowRules⟩
  else if datasetName = "green_tripdata" then
    some ⟨.greenTrips, greenTripModel, greenDomainValues, greenRules⟩
  else none

structure QualityRunSummary where
  partitionKey : String
  runId : Nat
  rowsChecked : Nat
  checkCount : Nat
  warningsViolated : Nat
  errorsViolated : Nat
  deriving DecidableEq, Repr

def qualityEvaluationError (text : String) : PyException := ⟨.qualityEvaluationError, text⟩

/-- A run that may be evaluated, with its source and the month of the source. -/
structure QualityTarget where
  run : PipelineRun
  source : SourceFile
  year : Int
  month : Int

/-- `_validated_target`. -/
def Database.validatedTarget (db : Database) (runId : Nat) : Except PyException QualityTarget :=
  match db.getRun runId with
  | none => .error (qualityEvaluationError s!"Unknown pipeline run ID: {runId}")
  | some run =>
    if run.status ≠ .succeeded then
      .error (qualityEvaluationError
        s!"Run {runId} has status {run.status.value}; quality requires succeeded")
    else
      match qualityConfig run.datasetName, run.sourceFileId with
      | some _, some sourceFileId =>
        match db.getSourceFile sourceFileId with
        | none => .error (qualityEvaluationError s!"Run {runId} does not reference a loaded source")
        | some source =>
          if source.status ≠ .loaded then
            .error (qualityEvaluationError s!"Run {runId} does not reference a loaded source")
          else
            match source.sourceYear, source.sourceMonth with
            | some year, some month => .ok ⟨run, source, year, month⟩
            | _, _ => .error (qualityEvaluationError s!"Run {runId} has no monthly source dimensions")
      | _, _ =>
        .error (qualityEvaluationError s!"Run {runId} is not a supported loaded trip ingestion run")

/-- `order by loaded_at desc nulls last, source_file_id desc`: the row comes before the other. -/
def SourceFile.loadedBefore (row other : SourceFile) : Bool :=
  match row.loadedAt, other.loadedAt with
  | some moment, some moment' =>
    moment' < moment || (moment == moment' && other.sourceFileId ≤ row.sourceFileId)
  | some _, none => true
  | none, some _ => false
  | none, none => other.sourceFileId ≤ row.sourceFileId

/-- `_loaded_zone_source_id`. -/
def Database.loadedZoneSourceId (db : Database) : Except PyException Nat :=
  let zones := db.sourceFiles.filter fun row =>
    row.datasetName == "taxi_zone_lookup" && row.status == .loaded
  match zones.insertionSort (fun row other => row.loadedBefore other) with
  | [] => .error (qualityEvaluationError "No loaded Taxi Zone source is available")
  | row :: _ =>
    if db.persistedCount .taxiZones row.sourceFileId = 0 then
      .error (qualityEvaluationError "Loaded Taxi Zone source contains no raw rows")
    else .ok row.sourceFileId

def requireConfig (datasetName : String) : Except PyException QualityConfig :=
  match qualityConfig datasetName with
  | some config => .ok config
  | none => .error ⟨.other "KeyError", datasetName⟩

/-- The measurements of one target, complete for the rules of its dataset. -/
def Database.measure (db : Database) (target : QualityTarget) (config : QualityConfig) :
    Except PyException (Nat × Measurements) := do
  let zoneSourceFileId ← db.loadedZoneSourceId
  let sourceFileId := target.source.sourceFileId
  let (rowsChecked, scalar) ←
    scalarMeasurements db config.model sourceFileId target.year target.month
  let measurements := scalar ++
    domainMeasurements db config.domainValues sourceFileId rowsChecked ++
    zoneMeasurements db config.model sourceFileId zoneSourceFileId rowsChecked ++
    [("exact_duplicate_source_rows", duplicateMeasurement db config.table sourceFileId rowsChecked)]
  let measured := measurements.map (·.1)
  let rules := config.rules.map (·.name)
  if measured.all rules.contains && rules.all measured.contains then
    return (rowsChecked, measurements)
  else .error (qualityEvaluationError "Quality rule catalog and measurements are inconsistent")

/-- The values of `_upsert_result`. -/
def qualityResult (qualityResultId runId : Nat) (rule : QualityRule) (measurement : QualityMeasurement)
    (executedAt : Timestamp) : DataQualityResult where
  qualityResultId := qualityResultId
  runId := runId
  checkName := rule.name
  severity := rule.severity
  status := if measurement.rowsFailed = 0 then .passed else .violated
  rowsChecked := measurement.rowsChecked
  rowsFailed := measurement.rowsFailed
  failureRate :=
    if measurement.rowsChecked = 0 then 0 else (measurement.rowsFailed : Rat) / measurement.rowsChecked
  details := measurement.details
  executedAt := executedAt

/-- `insert ... on conflict (run_id, check_name) do update`; the row that is there keeps its id. -/
def Database.upsertQualityResult (db : Database) (result : DataQualityResult) : Database :=
  let same := fun old : DataQualityResult =>
    old.runId == result.runId && old.checkName == result.checkName
  if db.qualityResults.any same then
    { db with qualityResults := db.qualityResults.map fun old =>
        if same old then { result with qualityResultId := old.qualityResultId } else old }
  else { db with qualityResults := db.qualityResults ++ [result] }

/-- `_upsert_result`, which draws an id also when it updates. -/
def upsertResult (runId : Nat) (executedAt : Timestamp) (rule : QualityRule)
    (measurement : QualityMeasurement) : Transaction Unit := do
  let qualityResultId ← Transaction.drawQualityResultId
  Transaction.update (·.upsertQualityResult (qualityResult qualityResultId runId rule measurement executedAt))

/-- The loop over the rules; a rule without measurement would be a `KeyError`. -/
def upsertResults (runId : Nat) (executedAt : Timestamp) (measurements : Measurements) :
    List QualityRule → Transaction Unit
  | [] => pure ()
  | rule :: rest =>
    match measurements.lookup rule.name with
    | some measurement => do
      upsertResult runId executedAt rule measurement
      upsertResults runId executedAt measurements rest
    | none => Attempt.raise ⟨.other "KeyError", rule.name⟩

/-- `_violated_count`. -/
def Database.violatedCount (db : Database) (runId : Nat) (severity : QualitySeverity) : Nat :=
  db.qualityResults.countP fun result =>
    result.runId == runId && result.severity == severity && result.status == .violated

def PipelineRun.markEvaluated (run : PipelineRun) (warningCount errorCount : Nat) : PipelineRun :=
  { run with warningCount := some (warningCount : Int), errorCount := some (errorCount : Int) }

def runQualityChecks (now : Timestamp) (runId : Nat) : Transaction QualityRunSummary := do
  let target ← Attempt.lift ((← Transaction.database).validatedTarget runId)
  let config ← Attempt.lift (requireConfig target.source.datasetName)
  let (rowsChecked, measurements) ← Attempt.lift ((← Transaction.database).measure target config)
  upsertResults runId now measurements config.rules
  let db ← Transaction.database
  let warningCount := db.violatedCount runId .warning
  let errorCount := db.violatedCount runId .error
  let _ ← finishRun target.run (·.markEvaluated warningCount errorCount)
  return {
    partitionKey := target.source.partitionKey
    runId := runId
    rowsChecked := rowsChecked
    checkCount := config.rules.length
    warningsViolated := warningCount
    errorsViolated := errorCount }

end TaxiPipeline
