import TaxiPipeline.Model.Registry

namespace TaxiPipeline

open Stateful

/-- A run row of a source, before any status is recorded in it. -/
def runningRun (runId : Nat) (source : SourceFile) (now : Timestamp) : PipelineRun where
  runId := runId
  datasetName := source.datasetName
  serviceType := source.serviceType
  sourceYear := source.sourceYear
  sourceMonth := source.sourceMonth
  sourceFileId := some source.sourceFileId
  startedAt := now
  finishedAt := none
  status := .running
  statusReason := none
  rowsRead := none
  rowsLoaded := none
  warningCount := none
  errorCount := none
  errorMessage := none

def skippedRun (runId : Nat) (source : SourceFile) (reason : SkipReason) (now : Timestamp) :
    PipelineRun :=
  { runningRun runId source now with
    finishedAt := some now
    status := .skipped
    statusReason := some reason
    rowsLoaded := some 0 }

/-- The optional counters of `mark_run_succeeded`. -/
structure RunCounts where
  rowsRead : Option Int
  rowsLoaded : Option Int
  warningCount : Option Int
  errorCount : Option Int
  deriving DecidableEq, Repr

def PipelineRun.markSucceeded (run : PipelineRun) (finishedAt : Timestamp) (counts : RunCounts) :
    PipelineRun :=
  { run with
    status := .succeeded
    finishedAt := some finishedAt
    statusReason := none
    rowsRead := counts.rowsRead
    rowsLoaded := counts.rowsLoaded
    warningCount := counts.warningCount
    errorCount := counts.errorCount
    errorMessage := none }

def PipelineRun.markFailed (run : PipelineRun) (finishedAt : Timestamp) (message : String) :
    PipelineRun :=
  { run with
    status := .failed
    finishedAt := some finishedAt
    statusReason := none
    errorMessage := some message }

/-- The exception of writing a row of `ops.pipeline_runs`, if it fails. -/
def PipelineRun.writeError (run : PipelineRun) : Option PyException :=
  if !run.fits then some (dataError "value out of range for a column of pipeline_runs")
  else if !run.meetsChecks then some checkViolation
  else none

theorem writeError_none {run : PipelineRun} :
    run.writeError = none ↔ run.fits = true ∧ run.meetsChecks = true := by
  unfold PipelineRun.writeError
  cases run.fits <;> cases run.meetsChecks <;> simp

/-- `get_run`. -/
def Database.requireRun (db : Database) (runId : Nat) : Except PyException PipelineRun :=
  match db.getRun runId with
  | some run => .ok run
  | none => .error (metadataStateError s!"Unknown run ID: {runId}")

/-- The test of `_get_running_run` after `get_run`. -/
def requireRunning (run : PipelineRun) : Except PyException Unit :=
  if run.status ≠ .running then
    .error (metadataStateError s!"Run {run.runId} is terminal with status {run.status.value}")
  else .ok ()

def Database.requireRunningRun (db : Database) (runId : Nat) : Except PyException PipelineRun := do
  let run ← db.requireRun runId
  requireRunning run
  return run

def requireStartable (source : SourceFile) : Except PyException Unit :=
  if source.status ≠ .ready then
    .error (metadataStateError
      s!"Cannot start run for source {source.sourceFileId} with status {source.status.value}")
  else .ok ()

def requireSkippable (source : SourceFile) (reason : SkipReason) : Except PyException Unit :=
  if source.status ≠ reason.requiredStatus then
    .error (metadataStateError
      s!"Skip reason {reason.value} is invalid for source status {source.status.value}")
  else .ok ()

def requireMessage (message : String) : Except PyException Unit :=
  if isBlank message then .error (valueError "error_message must not be empty") else .ok ()

def requireSource (run : PipelineRun) : Except PyException Nat :=
  match run.sourceFileId with
  | some sourceFileId => .ok sourceFileId
  | none => .error (metadataStateError s!"Run {run.runId} has no source file")

/-- `session.add(run); session.flush()`. -/
def insertRun (run : Nat → PipelineRun) : Transaction PipelineRun := do
  let runId ← Transaction.drawRunId
  match (run runId).writeError with
  | some error => Attempt.raise error
  | none =>
    Transaction.update (·.addRun (run runId))
    return run runId

/-- The attribute assignments to a run and their flush. -/
def finishRun (run : PipelineRun) (change : PipelineRun → PipelineRun) : Transaction PipelineRun := do
  match (change run).writeError with
  | some error => Attempt.raise error
  | none =>
    Transaction.update (·.updateRun run.runId change)
    return change run

theorem finishRun_apply (run : PipelineRun) (change : PipelineRun → PipelineRun) (s : Session) :
    finishRun run change s =
      match (change run).writeError with
      | some error => (.error error, s)
      | none => (.ok (change run), { s with db := s.db.updateRun run.runId change }) := by
  unfold finishRun
  cases (change run).writeError <;> rfl

def startRun (now : Timestamp) (sourceFileId : Nat) : Transaction PipelineRun := do
  let source ← Attempt.lift ((← Transaction.database).requireSourceFile sourceFileId)
  Attempt.lift (requireStartable source)
  insertRun (runningRun · source now)

def markRunSucceeded (now : Timestamp) (runId : Nat) (counts : RunCounts) :
    Transaction PipelineRun := do
  let run ← Attempt.lift ((← Transaction.database).requireRunningRun runId)
  let sourceFileId ← Attempt.lift (requireSource run)
  let _ ← markSourceLoaded now sourceFileId (some now)
  finishRun run (·.markSucceeded now counts)

def markRunFailed (now : Timestamp) (runId : Nat) (message : String) : Transaction PipelineRun := do
  Attempt.lift (requireMessage message)
  let run ← Attempt.lift ((← Transaction.database).requireRunningRun runId)
  finishRun run (·.markFailed now message)

def createSkippedRun (now : Timestamp) (sourceFileId : Nat) (reason : String) :
    Transaction PipelineRun :=
  match SkipReason.ofValue reason with
  | none => Attempt.raise (metadataStateError s!"Unknown skip reason: {reason}")
  | some skipReason => do
    let source ← Attempt.lift ((← Transaction.database).requireSourceFile sourceFileId)
    Attempt.lift (requireSkippable source skipReason)
    insertRun (skippedRun · source skipReason now)

theorem getRun_some {db : Database} {runId : Nat} {run : PipelineRun}
    (found : db.getRun runId = some run) : run ∈ db.pipelineRuns ∧ run.runId = runId :=
  ⟨List.mem_of_find?_eq_some found, by simpa using List.find?_some found⟩

theorem requireRun_ok {db : Database} {runId : Nat} {run : PipelineRun}
    (found : db.requireRun runId = .ok run) : db.getRun runId = some run := by
  unfold Database.requireRun at found
  split at found
  · rename_i got
    cases found
    exact got
  · cases found

theorem requireRunning_ok {run : PipelineRun} : requireRunning run = .ok () ↔ run.status = .running := by
  unfold requireRunning
  split <;> simp_all

theorem requireRunningRun_ok {db : Database} {runId : Nat} {run : PipelineRun}
    (found : db.requireRunningRun runId = .ok run) :
    db.getRun runId = some run ∧ run.status = .running := by
  unfold Database.requireRunningRun at found
  cases got : db.requireRun runId <;> simp only [got, Bind.bind, Except.bind] at found
  · cases found
  · rename_i row
    cases running : requireRunning row <;> simp only [running] at found
    · cases found
    · cases found
      exact ⟨requireRun_ok got, requireRunning_ok.mp running⟩

theorem requireStartable_ok {source : SourceFile} :
    requireStartable source = .ok () ↔ source.status = .ready := by
  unfold requireStartable
  split <;> simp_all

theorem requireSkippable_ok {source : SourceFile} {reason : SkipReason} :
    requireSkippable source reason = .ok () ↔ source.status = reason.requiredStatus := by
  unfold requireSkippable
  split <;> simp_all

theorem requireMessage_ok {message : String} :
    requireMessage message = .ok () ↔ isBlank message = false := by
  unfold requireMessage
  split <;> simp_all

theorem requireSource_ok {run : PipelineRun} {sourceFileId : Nat} :
    requireSource run = .ok sourceFileId ↔ run.sourceFileId = some sourceFileId := by
  unfold requireSource
  split <;> simp_all

theorem runningRun_writeError {runId : Nat} {source : SourceFile} {now : Timestamp}
    (fits : source.fits = true) (checks : source.meetsChecks = true) :
    (runningRun runId source now).writeError = none := by
  simp only [SourceFile.fits, List.all_cons, List.all_nil, Bool.and_true, Bool.and_eq_true,
    SourceFile.meetsChecks] at fits checks
  simp [PipelineRun.writeError, PipelineRun.fits, PipelineRun.meetsChecks, runningRun, fits, checks]

theorem skippedRun_writeError {runId : Nat} {source : SourceFile} {reason : SkipReason}
    {now : Timestamp} (fits : source.fits = true) (checks : source.meetsChecks = true) :
    (skippedRun runId source reason now).writeError = none := by
  simp only [SourceFile.fits, List.all_cons, List.all_nil, Bool.and_true, Bool.and_eq_true,
    SourceFile.meetsChecks] at fits checks
  simp [PipelineRun.writeError, PipelineRun.fits, PipelineRun.meetsChecks, skippedRun, runningRun, fits,
    checks, fitsBigInt]

end TaxiPipeline
