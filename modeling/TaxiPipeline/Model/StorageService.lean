import TaxiPipeline.Model.Backends

namespace TaxiPipeline

open ObjectStore Stateful

/-- One platform as a storage call finds it: the operational database, the bucket and the repository. -/
structure Deployment where
  session : Session
  bucket : S3Bucket
  landing : Landing

abbrev StorageAction (α : Type) : Type := Attempt Deployment PyException α

namespace StorageAction

variable {α : Type}

def deployment : StorageAction Deployment := fun d => (.ok d, d)

def onBucket (body : BucketCall α) : StorageAction α := fun d =>
  let (result, bucket) := body d.bucket
  (result, { d with bucket := bucket })

def inTransaction (body : Transaction α) : StorageAction α := fun d =>
  let (result, session) := Transaction.atomically body d.session
  (result, { d with session := session })

end StorageAction

open StorageAction

/-- `session.get(SourceFile, source_file_id)` and its check. -/
def StorageAction.getSource (sourceFileId : Nat) : StorageAction SourceFile := do
  match (← deployment).session.db.getSourceFile sourceFileId with
  | some source => return source
  | none => Attempt.raise (unknownSource sourceFileId)

def requireS3 (refusal : String) (backend : LandingBackend) : StorageAction Unit :=
  match backend with
  | .s3Landing => return
  | .localLanding => Attempt.raise (valueError refusal)

def syncSource (setup : StorageSetup) (backend : LandingBackend) (now : Timestamp) (sourceFileId : Nat) :
    StorageAction StorageResult := do
  requireS3 "storage sync requires LANDING_BACKEND=s3" backend
  let metadata := metadataFromRecord (← getSource sourceFileId)
  let file ← Attempt.lift ((← deployment).landing.file metadata.landingPath)
  let result ← onBucket (setup.store now metadata file)
  inTransaction (persistStorageMetadata sourceFileId result)
  return result

/-- One turn of the loop of `sync_all_sources`. -/
def syncIfPresent (setup : StorageSetup) (backend : LandingBackend) (clock : Nat → Timestamp)
    (results : List (Nat × StorageResult)) (source : SourceFile) : StorageAction (List (Nat × StorageResult)) := do
  match ← Attempt.lift ((← deployment).landing.file source.landingPath) with
  | none => return results
  | some _ =>
    let result ← syncSource setup backend (clock source.sourceFileId) source.sourceFileId
    return results ++ [(source.sourceFileId, result)]

/-- The rows of `select(SourceFile).order_by(SourceFile.source_file_id)`. -/
def Database.sourcesById (db : Database) : List SourceFile :=
  db.sourceFiles.mergeSort fun left right => left.sourceFileId ≤ right.sourceFileId

def syncAllSources (setup : StorageSetup) (backend : LandingBackend) (clock : Nat → Timestamp) :
    StorageAction (List (Nat × StorageResult)) := do
  let sources := (← deployment).session.db.sourcesById
  sources.foldlM (syncIfPresent setup backend clock) []

/-- The version ids that `verify_source_storage` tells apart; either may be missing. -/
def versionsDiffer : Option String → Option String → Bool
  | some recorded, some found => recorded ≠ found
  | _, _ => false

def verifySourceStorage (setup : StorageSetup) (backend : LandingBackend) (now : Timestamp) (sourceFileId : Nat) :
    StorageAction StorageResult := do
  requireS3 "storage verification requires LANDING_BACKEND=s3" backend
  let source ← getSource sourceFileId
  if source.storageBackend ≠ "s3" then
    Attempt.raise (valueError s!"Source file {sourceFileId} is not S3-backed")
  else
    let result ← onBucket (setup.inspect now (metadataFromRecord source))
    if source.storageUri ≠ result.uri then
      Attempt.raise (valueError s!"Source file {sourceFileId} storage URI does not match its immutable key")
    else if versionsDiffer source.storageVersionId result.versionId then
      Attempt.raise (valueError s!"Source file {sourceFileId} storage version does not match S3")
    else return result

section Apply

variable {α : Type} {d : Deployment} {setup : StorageSetup} {sourceFileId : Nat} {source : SourceFile}
  {metadata : SourceFileMetadata} {now : Timestamp} {key : String} {object : S3Object}

theorem onBucket_apply (body : BucketCall α) :
    onBucket body d = ((body d.bucket).1, { d with bucket := (body d.bucket).2 }) := rfl

theorem requireS3_s3 (refusal : String) : requireS3 refusal .s3Landing d = (.ok (), d) := rfl

theorem getSource_got (got : d.session.db.getSourceFile sourceFileId = some source) :
    getSource sourceFileId d = (.ok source, d) := by
  simp only [getSource, Attempt.bind_apply, deployment, got, Attempt.pure_apply]

theorem store_found (setup : StorageSetup) (now : Timestamp) {content : Bytes}
    (hashed : setup.readers.sha256 content = metadata.checksumSha256) (keyed : s3Key metadata = .ok key)
    {bucket : S3Bucket} (found : bucket.latest key = some object) (matched : object.Matches metadata) :
    setup.store now metadata (some content) bucket = (.ok (setup.result key object.id now), bucket) := by
  simp only [StorageSetup.store, Attempt.bind_apply, Attempt.lift_apply, verifyLocal_ok.mpr ⟨rfl, hashed⟩, keyed,
    headOrNone, found, verifyHead_ok.mpr matched, Attempt.pure_apply]

theorem inspect_found (setup : StorageSetup) (now : Timestamp) (keyed : s3Key metadata = .ok key) {bucket : S3Bucket}
    (found : bucket.latest key = some object) (matched : object.Matches metadata) :
    setup.inspect now metadata bucket = (.ok (setup.result key object.id now), bucket) := by
  simp only [StorageSetup.inspect, Attempt.bind_apply, Attempt.lift_apply, keyed, headOrNone, found,
    verifyHead_ok.mpr matched, Attempt.pure_apply]

theorem inspect_missing (setup : StorageSetup) (now : Timestamp) (keyed : s3Key metadata = .ok key) {bucket : S3Bucket}
    (missing : bucket.latest key = none) :
    setup.inspect now metadata bucket =
      (.error (storageIntegrityError "S3 object does not exist"), bucket) := by
  simp only [StorageSetup.inspect, Attempt.bind_apply, Attempt.lift_apply, keyed, headOrNone, missing,
    Attempt.raise_apply]

end Apply

end TaxiPipeline
