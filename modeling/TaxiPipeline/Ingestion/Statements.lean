import TaxiPipeline.Model.Loading
import TaxiPipeline.ReadCommitted.UniqueIndex

namespace TaxiPipeline

/-- The rows that the ingestion transactions write. -/
inductive Write where
  | insertSource (row : SourceFile)
  | loadSource (sourceFileId : Nat) (loadedAt : Timestamp)
  | insertRun (run : PipelineRun)
  | succeedRun (runId : Nat) (finishedAt : Timestamp) (counts : RunCounts)
  | failRun (runId : Nat) (finishedAt : Timestamp) (message : String)
  | insertRaw (table : RawTable) (row : RawRow table)
  deriving DecidableEq

def Write.apply (db : Database) : Write → Database
  | .insertSource row => db.addSourceFile row
  | .loadSource sourceFileId loadedAt => db.updateSourceFile sourceFileId (·.markLoaded loadedAt)
  | .insertRun run => db.addRun run
  | .succeedRun runId finishedAt counts => db.updateRun runId (·.markSucceeded finishedAt counts)
  | .failRun runId finishedAt message => db.updateRun runId (·.markFailed finishedAt message)
  | .insertRaw table row => db.addRaw table row

/-- The entries of unique indexes that a write adds. -/
def Write.inserts : Write → List IndexKey
  | .insertSource row => row.keys
  | .insertRun run => run.keys
  | .insertRaw _ row => row.keys
  | .loadSource .. | .succeedRun .. | .failRun .. => []

/-- An insert holds its index entries and an update holds its row. -/
def Write.locks : Write → List IndexKey
  | .loadSource sourceFileId _ => [.sourceFile sourceFileId]
  | .succeedRun runId _ _ => [.run runId]
  | .failRun runId _ _ => [.run runId]
  | w => w.inserts

/-- What a statement of a transaction with result `Result` does, and where it goes on. -/
inductive Reply (Point Result : Type) where
  | read (next : Point)
  | write (w : Write) (next : Point)
  | commit (result : Result)
  | raise (error : PyException)

namespace Reply

variable {α Point Result : Type}

/-- Go on with a value, or raise the exception of computing it. -/
def check (result : Except PyException α) (next : α → Reply Point Result) : Reply Point Result :=
  match result with
  | .ok a => next a
  | .error error => .raise error

/-- Go on unless the statement fails. -/
def guarded (failure : Option PyException) (next : Reply Point Result) : Reply Point Result :=
  match failure with
  | none => next
  | some error => .raise error

end Reply

/-- The statements of `prepare_ingestion`. -/
inductive RegistrationPoint where
  | findExactVersion
  | findPartition
  | insert (status : SourceStatus)
  | findRacedVersion (error : PyException)
  | commit (result : SourceRegistrationResult)
  deriving DecidableEq

def RegistrationPoint.exec (metadata : SourceFileMetadata) (db : Database) (sequences : Sequences)
    (now : Timestamp) : RegistrationPoint → Reply RegistrationPoint SourceRegistrationResult
  | .findExactVersion =>
    match db.findExactVersion metadata with
    | some existing => .read (.commit (registrationResult existing false))
    | none => .read .findPartition
  | .findPartition => .read (.insert (registrationStatus (db.findPartition metadata.partitionKey)))
  | .insert status =>
    let row := newSourceFile sequences.sourceFileId status now metadata
    match db.sourceFileInsertError row with
    | none => .write (.insertSource row) (.commit (registrationResult row true))
    | some error =>
      -- the savepoint is undone; only an integrity error goes on in this transaction
      if error.kind = .integrityError then .read (.findRacedVersion error) else .raise error
  | .findRacedVersion error =>
    match db.findExactVersion metadata with
    | some raced => .read (.commit (registrationResult raced false))
    | none => .raise error
  | .commit result => .commit result

/-- The insert draws its id when it gets its turn, and never gives it back. -/
def RegistrationPoint.draw (sequences : Sequences) : RegistrationPoint → Sequences
  | .insert _ => { sequences with sourceFileId := sequences.sourceFileId + 1 }
  | _ => sequences

/-- The statements of `start_run` and of `create_skipped_run`: read the source, insert the run. -/
inductive RecordPoint where
  | select
  | insert (source : SourceFile)
  | commit (runId : Nat)
  deriving DecidableEq

def RecordPoint.exec (require : SourceFile → Except PyException Unit)
    (newRun : Nat → SourceFile → PipelineRun) (sourceFileId : Nat) (db : Database)
    (sequences : Sequences) : RecordPoint → Reply RecordPoint Nat
  | .select =>
    .check (db.requireSourceFile sourceFileId) fun source =>
      .check (require source) fun () => .read (.insert source)
  | .insert source =>
    let run := newRun sequences.runId source
    .guarded run.writeError (.write (.insertRun run) (.commit run.runId))
  | .commit runId => .commit runId

def RecordPoint.draw (sequences : Sequences) : RecordPoint → Sequences
  | .insert _ => { sequences with runId := sequences.runId + 1 }
  | _ => sequences

/-- `start_run` in a transaction of its own. -/
def startRunExec (sourceFileId : Nat) (db : Database) (sequences : Sequences) (now : Timestamp) :
    RecordPoint → Reply RecordPoint Nat :=
  RecordPoint.exec requireStartable (runningRun · · now) sourceFileId db sequences

/-- `create_skipped_run` in a transaction of its own. -/
def skippedRunExec (sourceFileId : Nat) (reason : SkipReason) (db : Database) (sequences : Sequences)
    (now : Timestamp) : RecordPoint → Reply RecordPoint Nat :=
  RecordPoint.exec (requireSkippable · reason) (skippedRun · · reason now) sourceFileId db sequences

/-- Between two rows of a load: the counters, the rest of the batch and the batches to come. -/
structure CopyProgress (table : RawTable) where
  rowsRead : Nat
  rowsLoaded : Nat
  copied : Nat
  current : List (RawRow table)
  rest : List (RawBatch table)

def CopyProgress.start {table : RawTable} (batches : List (RawBatch table)) : CopyProgress table :=
  ⟨0, 0, 0, [], batches⟩

/-- The statements of the load transaction. -/
inductive LoadPoint where
  | openFile
  | copy (table : RawTable) (progress : CopyProgress table)
  | count (table : RawTable) (counts : LoadCounts)
  | selectRun (counts : LoadCounts)
  | selectSource (counts : LoadCounts) (run : PipelineRun) (source : Nat) (finishedAt : Timestamp)
  | updateSource (counts : LoadCounts) (run : PipelineRun) (source : Nat) (finishedAt : Timestamp)
  | updateRun (counts : LoadCounts) (run : PipelineRun) (finishedAt : Timestamp)
  | commit (counts : LoadCounts)

/-- The arguments that `ingest_source` gives to `mark_run_succeeded`. -/
def LoadCounts.toRunCounts (counts : LoadCounts) : RunCounts where
  rowsRead := some (counts.rowsRead : Int)
  rowsLoaded := some (counts.rowsLoaded : Int)
  warningCount := some 0
  errorCount := some 0

/-- One turn of the COPY loop: a row, or the end of a batch. -/
def CopyProgress.exec {table : RawTable} (db : Database) (progress : CopyProgress table) :
    Reply LoadPoint LoadCounts :=
  match progress.current, progress.rest with
  | row :: current, _ =>
    .guarded (db.copyError row) (.write (.insertRaw table row)
      (.copy table { progress with copied := progress.copied + 1, current := current }))
  | [], batch :: rest =>
    .read (.copy table ⟨progress.rowsRead + batch.rowCount, progress.rowsLoaded + progress.copied, 0,
      batch.rows, rest⟩)
  | [], [] => .read (.count table ⟨progress.rowsRead, progress.rowsLoaded + progress.copied⟩)

def LoadPoint.exec (metadata : SourceFileMetadata) (sourceFileId runId : Nat) (db : Database)
    (now : Timestamp) : LoadPoint → Option (Reply LoadPoint LoadCounts)
  | .openFile => none
  | .copy _ progress => some (progress.exec db)
  | .count table counts => some <|
    .check (validateCounts metadata counts (db.persistedCount table sourceFileId)) fun () =>
      .read (.selectRun counts)
  | .selectRun counts => some <|
    .check (db.requireRunningRun runId) fun run =>
      .check (requireSource run) fun source => .read (.selectSource counts run source now)
  | .selectSource counts run source finishedAt => some <|
    .check (db.requireSourceFile source) fun row =>
      .check (requireLoadable row) fun () => .read (.updateSource counts run source finishedAt)
  | .updateSource counts run source finishedAt => some <|
    .write (.loadSource source finishedAt) (.updateRun counts run finishedAt)
  | .updateRun counts run finishedAt => some <|
    .guarded (run.markSucceeded finishedAt counts.toRunCounts).writeError
      (.write (.succeedRun run.runId finishedAt counts.toRunCounts) (.commit counts))
  | .commit counts => some (.commit counts)

/-- `_load_and_count` up to its first row. -/
def openExec (metadata : SourceFileMetadata) (batchSize : Int) (sourceFileId runId : Nat)
    (now : Timestamp) (file : LandingFile) : Reply LoadPoint LoadCounts :=
  .check (rawTableOf metadata.datasetName) fun table =>
    .read (.copy table (.start (iterBatches ⟨sourceFileId, runId, now⟩ batchSize.toNat file table)))

/-- The statements of `mark_run_failed` in a transaction of its own. -/
inductive FailPoint where
  | select
  | update (run : PipelineRun)
  | commit
  deriving DecidableEq

def FailPoint.exec (runId : Nat) (message : String) (db : Database) (now : Timestamp) :
    FailPoint → Reply FailPoint Unit
  | .select =>
    .check (requireMessage message) fun () =>
      .check (db.requireRunningRun runId) fun run => .read (.update run)
  | .update run =>
    .guarded (run.markFailed now message).writeError
      (.write (.failRun run.runId now message) .commit)
  | .commit => .commit ()

end TaxiPipeline
