import TaxiPipeline.Ingestion.Statements

namespace TaxiPipeline

open ReadCommitted

/-- What a client calls: `prepare_ingestion` in one transaction, or `ingest_source`. -/
inductive Request where
  | register (metadata : SourceFileMetadata)
  | ingest (metadata : SourceFileMetadata) (batchSize : Int)
  deriving DecidableEq, Repr

def Request.metadata : Request → SourceFileMetadata
  | .register metadata => metadata
  | .ingest metadata _ => metadata

structure IngestionResult where
  partitionKey : String
  sourceFileId : Nat
  runId : Nat
  status : RunStatus
  rowsRead : Nat
  rowsLoaded : Nat
  statusReason : Option SkipReason
  deriving DecidableEq, Repr

/-- How a call ends for its caller. -/
inductive Outcome where
  | registered (result : SourceRegistrationResult)
  | returned (result : IngestionResult)
  | raised (error : PyException)
  deriving DecidableEq, Repr

/-- Where a call stands. `recorded` keeps the run whose insert the call has committed. -/
inductive Phase where
  | idle
  | registering (point : RegistrationPoint)
  | skipping (sourceFileId : Nat) (reason : SkipReason) (point : RecordPoint)
  | starting (sourceFileId : Nat) (point : RecordPoint)
  | loading (sourceFileId runId : Nat) (point : LoadPoint)
  | failing (sourceFileId runId : Nat) (message : String) (point : FailPoint)
  | finished (outcome : Outcome) (recorded : Option Nat)
  | crashed (recorded : Option Nat)

def Phase.recorded : Phase → Option Nat
  | .idle | .registering _ | .skipping .. | .starting .. => none
  | .loading _ runId _ | .failing _ runId _ _ => some runId
  | .finished _ recorded | .crashed recorded => recorded

/-- What a statement meets: its turn with the clock and the file, or a fault. A commit may
    also take effect and raise all the same. -/
inductive Event where
  | next (now : Timestamp)
  | openFile (now : Timestamp) (file : LandingFile)
  | raise (error : PyException)
  | commitRaises (error : PyException)
  | crash

/-- The effect of a reply on the open transaction and the phase after it. -/
def Reply.proceed {Point Result : Type} (next : Point → Phase) (finish : Result → Phase)
    (abort : PyException → Phase) : Reply Point Result → Effect Write × Phase
  | .read point => (.read, next point)
  | .write w point => (.write w, next point)
  | .commit result => (.commit, finish result)
  | .raise error => (.rollback, abort error)

def raisedPhase (recorded : Option Nat) (error : PyException) : Phase :=
  .finished (.raised error) recorded

/-- The `except Exception` handler around the load; an exception that is none ends the process, as a crash does. -/
def failingPhase (sourceFileId runId : Nat) (error : PyException) : Phase :=
  .failing sourceFileId runId (safeErrorMessage error) .select

def Request.afterRegistration (request : Request) (result : SourceRegistrationResult) : Phase :=
  match request with
  | .register _ => .finished (.registered result) none
  | .ingest .. =>
    match result.decision.skipReason with
    | some reason => .skipping result.sourceFileId reason .select
    | none => .starting result.sourceFileId .select

def Request.afterSkip (request : Request) (sourceFileId : Nat) (reason : SkipReason) (runId : Nat) :
    Phase :=
  .finished (.returned {
    partitionKey := request.metadata.partitionKey
    sourceFileId := sourceFileId
    runId := runId
    status := .skipped
    rowsRead := 0
    rowsLoaded := 0
    statusReason := some reason }) (some runId)

def Request.afterLoad (request : Request) (sourceFileId runId : Nat) (counts : LoadCounts) : Phase :=
  .finished (.returned {
    partitionKey := request.metadata.partitionKey
    sourceFileId := sourceFileId
    runId := runId
    status := .succeeded
    rowsRead := counts.rowsRead
    rowsLoaded := counts.rowsLoaded
    statusReason := none }) (some runId)

def afterFailure (runId : Nat) (message : String) : Phase :=
  .finished (.raised ⟨.ingestionError, message⟩) (some runId)

/-- The check of `ingest_source` before its first transaction. -/
def Request.begin : Request → Phase
  | .register _ => .registering .findExactVersion
  | .ingest _ batchSize =>
    if batchSize ≤ 0 then .finished (.raised (valueError "batch_size must be positive")) none
    else .registering .findExactVersion

def Phase.advance (request : Request) (db : Database) (sequences : Sequences) (now : Timestamp) :
    Phase → Option ((Effect Write × Phase) × Sequences)
  | .idle => some ((.read, request.begin), sequences)
  | .registering point => some
      ((point.exec request.metadata db sequences now).proceed .registering request.afterRegistration
        (raisedPhase none), point.draw sequences)
  | .skipping sourceFileId reason point => some
      ((skippedRunExec sourceFileId reason db sequences now point).proceed
        (.skipping sourceFileId reason) (request.afterSkip sourceFileId reason) (raisedPhase none),
        point.draw sequences)
  | .starting sourceFileId point => some
      ((startRunExec sourceFileId db sequences now point).proceed (.starting sourceFileId)
        (.loading sourceFileId · .openFile) (raisedPhase none), point.draw sequences)
  | .loading sourceFileId runId point =>
    (point.exec request.metadata sourceFileId runId db now).map fun reply =>
      (reply.proceed (.loading sourceFileId runId) (request.afterLoad sourceFileId runId)
        (failingPhase sourceFileId runId), sequences)
  | .failing sourceFileId runId message point => some
      ((point.exec runId message db now).proceed (.failing sourceFileId runId message)
        (fun _ => afterFailure runId message) (raisedPhase (some runId)), sequences)
  | .finished .. | .crashed _ => none

def Phase.openFile (request : Request) (now : Timestamp) (file : LandingFile) :
    Phase → Option (Effect Write × Phase)
  | .loading sourceFileId runId .openFile =>
    match request with
    | .register _ => none
    | .ingest metadata batchSize =>
      some ((openExec metadata batchSize sourceFileId runId now file).proceed
        (.loading sourceFileId runId) (request.afterLoad sourceFileId runId)
        (failingPhase sourceFileId runId))
  | _ => none

/-- Only an ingestion that is about to load opens a file. -/
theorem Phase.openFile_some {request : Request} {now : Timestamp} {file : LandingFile} {phase : Phase}
    {outcome : Effect Write × Phase} (opened : phase.openFile request now file = some outcome) :
    ∃ metadata batchSize sourceFileId runId, request = .ingest metadata batchSize ∧
      phase = .loading sourceFileId runId .openFile ∧
      outcome = (openExec metadata batchSize sourceFileId runId now file).proceed (.loading sourceFileId runId)
        (request.afterLoad sourceFileId runId) (failingPhase sourceFileId runId) := by
  unfold openFile at opened
  split at opened
  · split at opened
    · cases opened
    · cases opened
      exact ⟨_, _, _, _, rfl, rfl, rfl⟩
  · cases opened

/-- The phase after an exception that the environment raises inside a transaction. -/
def Phase.raise (error : PyException) : Phase → Option Phase
  | .registering _ | .skipping .. | .starting .. => some (raisedPhase none error)
  | .loading sourceFileId runId _ => some (failingPhase sourceFileId runId error)
  | .failing _ runId _ _ => some (raisedPhase (some runId) error)
  | .idle | .finished .. | .crashed _ => none

/-- The phase after a commit that took effect and raised. -/
def Phase.commitRaises (error : PyException) : Phase → Option Phase
  | .registering (.commit _) => some (raisedPhase none error)
  | .skipping _ _ (.commit runId) | .starting _ (.commit runId) => some (raisedPhase (some runId) error)
  | .loading sourceFileId runId (.commit _) => some (failingPhase sourceFileId runId error)
  | .failing _ runId _ .commit => some (raisedPhase (some runId) error)
  | _ => none

def Phase.crash : Phase → Option Phase
  | .finished .. | .crashed _ => none
  | phase => some (.crashed phase.recorded)

theorem Phase.crash_some {phase next : Phase} (crashed : phase.crash = some next) : next = .crashed phase.recorded := by
  cases phase <;> cases crashed <;> rfl

def Request.exec (request : Request) (phase : Phase) (db : Database) (sequences : Sequences) :
    Event → Option (Effect Write × Phase × Sequences)
  | .next now =>
    (phase.advance request db sequences now).map fun ((effect, next), drawn) => (effect, next, drawn)
  | .openFile now file =>
    (phase.openFile request now file).map fun (effect, next) => (effect, next, sequences)
  | .raise error => (phase.raise error).map (.rollback, ·, sequences)
  | .commitRaises error => (phase.commitRaises error).map (.commit, ·, sequences)
  | .crash => phase.crash.map (.rollback, ·, sequences)

/-- Any number of `prepare_ingestion` and `ingest_source` calls over one database. -/
def ingestion {Client : Type} (requests : Client → Request) :
    Program Client Phase Event Database Sequences Write IndexKey where
  apply := Write.apply
  locks := Write.locks
  exec := fun i => (requests i).exec

/-- The empty platform before any call. -/
def startState {Client : Type} : State Client Phase Database Sequences Write :=
  State.initial Database.empty Sequences.start .idle

end TaxiPipeline
