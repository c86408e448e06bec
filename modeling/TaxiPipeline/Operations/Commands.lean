import TaxiPipeline.Orchestration.Tasks

namespace TaxiPipeline

open Stateful StorageAction

/-- The environment variables that `build_storage` reads. -/
structure StorageEnvironment where
  landingBackend : Option String
  s3Bucket : Option String
  awsRegion : Option String

def buildStorage (environment : StorageEnvironment) : Except PyException LandingBackend :=
  let backend := String.ofList ((environment.landingBackend.getD "local").toList.map Char.toLower)
  if backend = "local" then .ok .localLanding
  else if backend = "s3" then
    if environment.s3Bucket.getD "" = "" then
      .error (valueError "TLC_S3_BUCKET is required for the S3 landing backend")
    else if environment.awsRegion.getD "" = "" then
      .error (valueError "AWS_REGION is required for the S3 landing backend")
    else .ok .s3Landing
  else .error (valueError s!"Unsupported LANDING_BACKEND: {backend}")

/-- The choices of `--service`. -/
inductive TripService where
  | yellow
  | green
  deriving DecidableEq, Repr

def TripService.value : TripService → String
  | .yellow => "yellow"
  | .green => "green"

/-- What `storage sync` is asked to sync; `none` stands for the zones. -/
abbrev SyncService := Option TripService

/-- The sources that `fetch`, `register` and `ingest` name; `none` stands for the commands of the zones. -/
abbrev SourceArgument := Option (TripService × Int × Int)

inductive SourceAction where
  | fetch
  | register
  | ingest
  deriving DecidableEq, Repr

/-- The arguments of `main`, as its parser leaves them. -/
inductive Command where
  | source (action : SourceAction) (argument : SourceArgument)
  | qualityRun (service : TripService) (year month : Int)
  | storageSync (service : SyncService) (year month : Option Int)
  | storageSyncAll
  | storageVerify (sourceFileId : Nat)
  | storageMaterialize (sourceFileId : Nat)
  | storageCheckBucket

/-- `_source_from_args`. -/
def sourceFromArgs : SourceArgument → Except PyException SourcePartition
  | none => .ok taxiZoneSource
  | some (.green, year, month) => greenTripSource year month
  | some (.yellow, year, month) => yellowTripSource year month

/-- The settings of Block Public Access, all of which S3 returns. -/
structure PublicAccessBlock where
  blockPublicAcls : Bool
  ignorePublicAcls : Bool
  blockPublicPolicy : Bool
  restrictPublicBuckets : Bool
  deriving DecidableEq, Repr

def PublicAccessBlock.values (settings : PublicAccessBlock) : List Bool :=
  [settings.blockPublicAcls, settings.ignorePublicAcls, settings.blockPublicPolicy, settings.restrictPublicBuckets]

/-- What `verify_bucket` reads of a bucket: whether it is versioned, its Block Public Access and the algorithms of
    its encryption rules. -/
structure BucketSafeguards where
  versioning : Except PyException (Option String)
  publicAccess : Except PyException PublicAccessBlock
  encryption : Except PyException (List String)

structure BucketReport where
  versioning : String
  publicAccess : String
  encryption : String
  deriving DecidableEq, Repr

def verifyBucket (safeguards : BucketSafeguards) : Except PyException BucketReport := do
  let versioning ← safeguards.versioning
  let settings ← safeguards.publicAccess
  let rules ← safeguards.encryption
  if versioning ≠ some "Enabled" ∨ ¬ settings.values.all id then
    .error (storageIntegrityError "bucket versioning or Block Public Access is not enabled")
  else
    match rules with
    | [] => .error ⟨.other "IndexError", "list index out of range"⟩
    | algorithm :: _ => .ok ⟨"Enabled", "blocked", algorithm⟩

/-- What a command prints. -/
inductive CommandReport where
  | metadata (metadata : SourceFileMetadata)
  | registration (metadata : SourceFileMetadata) (registration : SourceRegistrationResult)
  | ingestion (result : IngestionResult)
  | quality (summary : QualityRunSummary)
  | synced (sourceFileId : Nat) (uri : Option String)
  | syncedAll (count : Nat)
  | verified (uri : Option String)
  | materialized (path : Path)
  | bucket (report : BucketReport)

/-- What a shell and its command meet: the environment, a try of a source, and the clock of the syncs. -/
structure CommandRun where
  environment : StorageEnvironment
  safeguards : BucketSafeguards
  tried : LoadTry
  clock : Nat → Timestamp

/-- The storage of a run, of which the environment names the bucket. -/
def CommandRun.setup (run : CommandRun) (setup : StorageSetup) : StorageSetup :=
  { setup with bucket := run.environment.s3Bucket.getD "" }

/-- `_persist_storage`. -/
def persistStorage (sourceFileId : Nat) (storage : StorageResult) : Preparation Unit :=
  onDeployment (inTransaction (persistStorageMetadata sourceFileId storage))

/-- What `main` does with a prepared source. -/
def concludeSource (run : CommandRun) (action : SourceAction) (prepared : PreparedSource) (w : Workspace) :
    Option (Except PyException CommandReport × Workspace) :=
  match action with
  | .fetch => some (.ok (.metadata prepared.metadata), w)
  | .register =>
    let registering : Preparation CommandReport := do
      let registration ← onDeployment (inTransaction (prepareIngestion run.tried.now prepared.metadata))
      persistStorage registration.sourceFileId prepared.storage
      return .registration prepared.metadata registration
    some (registering w)
  | .ingest =>
    (ingestSource prepared.metadata run.tried.events w.deployment.session).map fun
      | (.error error, session) => (.error error, w.withSession session)
      | (.ok result, session) =>
        let persisting : Preparation CommandReport := do
          persistStorage result.sourceFileId prepared.storage
          return .ingestion result
        persisting (w.withSession session)

def sourceCommand (setup : StorageSetup) (backend : LandingBackend) (run : CommandRun) (action : SourceAction)
    (source : SourcePartition) (w : Workspace) : Option (Except PyException CommandReport × Workspace) :=
  match prepareSource setup backend run.tried.around run.tried.now source w with
  | (.error error, w) => some (.error error, w)
  | (.ok prepared, w) => concludeSource run action prepared w

/-- The partition key that `find_source_file_id` looks up. -/
def syncPartitionKey : SyncService → Option Int → Option Int → Except PyException String
  | none, _, _ => .ok "reference/taxi_zones"
  | some service, some year, some month => .ok (service.value ++ "/" ++ paddedInt 4 year ++ "/" ++ paddedInt 2 month)
  | _, _, _ => .error (valueError "monthly storage sync requires year and month")

def Database.findSourceFileId (db : Database) (service : SyncService) (year month : Option Int) :
    Except PyException Nat := do
  let partitionKey ← syncPartitionKey service year month
  match ((db.sourceFiles.filter (·.partitionKey == partitionKey)).map (·.sourceFileId)).max? with
  | some sourceFileId => .ok sourceFileId
  | none => .error (valueError s!"No registered source for {partitionKey}")

def materializeSource (setup : StorageSetup) (backend : LandingBackend) (around : Surroundings) (sourceFileId : Nat) :
    Preparation Path := do
  onDeployment (requireS3 "materialization requires LANDING_BACKEND=s3" backend)
  let source ← onDeployment (getSource sourceFileId)
  let root := (← onDeployment deployment).landing.root
  let destination ← Attempt.lift (destinationOf root source.landingPath)
  onFiles around (setup.materialize source.storageUri destination source.checksumSha256 source.fileSizeBytes)

/-- `sync_all_sources`; each of its syncs builds the storage anew. -/
def syncAllBuilt (setup : StorageSetup) (built : Except PyException LandingBackend) (clock : Nat → Timestamp) :
    StorageAction (List (Nat × StorageResult)) :=
  match built with
  | .ok backend => syncAllSources setup backend clock
  | .error error => do
    let sources := (← deployment).session.db.sourcesById
    sources.foldlM (fun results source => do
      match ← Attempt.lift ((← deployment).landing.file source.landingPath) with
      | none => return results
      | some _ => Attempt.raise error) []

/-- The commands of `_storage_command`, over what `build_storage` builds. -/
def storageCommand (setup : StorageSetup) (run : CommandRun) (built : Except PyException LandingBackend) :
    Command → Preparation CommandReport
  | .storageSync service year month => do
    let sourceFileId ← Attempt.lift ((← onDeployment deployment).session.db.findSourceFileId service year month)
    let backend ← Attempt.lift built
    let result ← onDeployment (syncSource setup backend run.tried.now sourceFileId)
    return .synced sourceFileId result.uri
  | .storageSyncAll => do
    let results ← onDeployment (syncAllBuilt setup built run.clock)
    return .syncedAll results.length
  | .storageVerify sourceFileId => do
    let backend ← Attempt.lift built
    let result ← onDeployment (verifySourceStorage setup backend run.tried.now sourceFileId)
    return .verified result.uri
  | .storageMaterialize sourceFileId => do
    let backend ← Attempt.lift built
    let path ← materializeSource setup backend run.tried.around sourceFileId
    return .materialized path
  | _ => do
    match ← Attempt.lift built with
    | .s3Landing => return .bucket (← Attempt.lift (verifyBucket run.safeguards))
    | .localLanding => Attempt.raise (valueError "bucket check requires LANDING_BACKEND=s3")

/-- The body of `main`, up to its handlers of exceptions. -/
def runCommand (setup : StorageSetup) (run : CommandRun) (command : Command) (w : Workspace) :
    Option (Except PyException CommandReport × Workspace) :=
  match command with
  | .source action argument =>
    match sourceFromArgs argument, buildStorage run.environment with
    | .error error, _ | .ok _, .error error => some (.error error, w)
    | .ok source, .ok backend => sourceCommand (run.setup setup) backend run action source w
  | .qualityRun service year month =>
    some ((do return .quality (← runPartitionQuality run.tried.now service.value year month) :
      Preparation CommandReport) w)
  | command => some (storageCommand (run.setup setup) run (buildStorage run.environment) command w)

/-- The classes that the handlers of `main` name. -/
inductive HandledClass where
  | osError
  | runtimeError
  | sqlAlchemyError
  | valueError
  deriving DecidableEq, Repr

/-- The classes of other exceptions that are handled. -/
def otherHandled : List (String × HandledClass) :=
  [("OSError", .osError), ("FileNotFoundError", .osError), ("FileExistsError", .osError), ("PermissionError", .osError),
    ("URLError", .osError), ("SourceRevisionError", .runtimeError), ("ArrowInvalid", .valueError)]

def ExceptionKind.handledClass : ExceptionKind → Option HandledClass
  | .valueError | .metadataStateError | .qualityEvaluationError | .sourceContractError => some .valueError
  | .storageIntegrityError | .ingestionError => some .runtimeError
  | .integrityError | .dataError => some .sqlAlchemyError
  | .other className => otherHandled.lookup className

def Command.handles (command : Command) (handled : HandledClass) : Bool :=
  match command with
  | .qualityRun .. => handled ≠ .osError
  | _ => true

def Command.heading : Command → String
  | .source .. => "Source error: "
  | .qualityRun .. => "Quality error: "
  | _ => "Storage error: "

/-- How `main` ends: with a report and status 0, a line on stderr and status 1, or an exception. -/
inductive CommandEnd where
  | reported (report : CommandReport)
  | failed (line : String)
  | raised (error : PyException)

def Command.ends (command : Command) : Except PyException CommandReport → CommandEnd
  | .ok report => .reported report
  | .error error =>
    match error.kind.handledClass with
    | some handled =>
      if command.handles handled then .failed (command.heading ++ error.text) else .raised error
    | none => .raised error

def main (setup : StorageSetup) (run : CommandRun) (command : Command) (w : Workspace) :
    Option (CommandEnd × Workspace) :=
  (runCommand setup run command w).map fun (result, w') => (command.ends result, w')

end TaxiPipeline
