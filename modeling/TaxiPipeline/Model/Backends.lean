import TaxiPipeline.Model.Landing
import TaxiPipeline.Model.ObjectKeys
import TaxiPipeline.Model.Paths
import TaxiPipeline.Model.StorageMetadata
import TaxiPipeline.ObjectStore.Buckets

namespace TaxiPipeline

open ObjectStore Stateful

/-- A stored object version with its user metadata and its `VersionId`. -/
abbrev S3Object := Version String Bytes (List (String × String)) (Option String)

abbrev S3Bucket := Bucket String Bytes (List (String × String)) (Option String)

/-- What all storage calls of one platform share; the nth upload gets the nth of `versionIds`. -/
structure StorageSetup where
  readers : Readers
  bucket : String
  versionIds : Nat → Option String

/-- What `build_storage` builds: a `LocalLandingStorage` or an `S3LandingStorage`. -/
inductive LandingBackend where
  | localLanding
  | s3Landing
  deriving DecidableEq, Repr

def storageIntegrityError (text : String) : PyException := ⟨.storageIntegrityError, text⟩

/-- `_object_metadata`. -/
def objectMetadata (metadata : SourceFileMetadata) : List (String × String) :=
  [("sha256", hexdigest metadata.checksumSha256), ("partition-key", metadata.partitionKey),
    ("dataset-name", metadata.datasetName)] ++
    match metadata.serviceType with
    | some service => if service ≠ "" then [("service-type", service)] else []
    | none => []

/-- What `_verify_head` compares of an object with its source. -/
def S3Object.Matches (head : S3Object) (metadata : SourceFileMetadata) : Prop :=
  (head.body.length : Int) = metadata.fileSizeBytes ∧
    head.tags.lookup "sha256" = some (hexdigest metadata.checksumSha256) ∧
    head.tags.lookup "partition-key" = some metadata.partitionKey ∧
    head.tags.lookup "dataset-name" = some metadata.datasetName

instance (head : S3Object) (metadata : SourceFileMetadata) : Decidable (head.Matches metadata) := by
  unfold S3Object.Matches
  infer_instance

/-- `_verify_head`. -/
def verifyHead (head : S3Object) (metadata : SourceFileMetadata) : Except PyException Unit :=
  if head.Matches metadata then .ok ()
  else .error (storageIntegrityError "S3 object metadata or size conflicts with source")

def localMismatch : PyException :=
  storageIntegrityError "local landing file does not match registered SHA-256"

/-- `_verify_local`, with what the path holds if it is a file. -/
def verifyLocal (readers : Readers) (file : Option Bytes) (checksum : Digest) : Except PyException Bytes :=
  match file with
  | none => .error localMismatch
  | some content => if readers.sha256 content = checksum then .ok content else .error localMismatch

/-- The result of `LocalLandingStorage.store`. -/
def localResult (now : Timestamp) : StorageResult := ⟨"local", none, none, now⟩

def StorageSetup.uri (setup : StorageSetup) (key : String) : String := "s3://" ++ setup.bucket ++ "/" ++ key

/-- The result of `S3LandingStorage.store` and of `inspect`. -/
def StorageSetup.result (setup : StorageSetup) (key : String) (versionId : Option String) (now : Timestamp) :
    StorageResult :=
  ⟨"s3", some (setup.uri key), versionId, now⟩

/-- What `head_object` raises for a key without an object. -/
def objectNotFound : PyException := ⟨.other "ClientError", "Not Found"⟩

/-- A call on the bucket with the exceptions that it raises. -/
abbrev BucketCall (α : Type) : Type := Attempt S3Bucket PyException α

/-- `_head`. -/
def headOrNone (key : String) : BucketCall (Option S3Object) := fun bucket => (.ok (bucket.latest key), bucket)

/-- `head_object`. -/
def headObject (key : String) : BucketCall S3Object := fun bucket =>
  match bucket.latest key with
  | some head => (.ok head, bucket)
  | none => (.error objectNotFound, bucket)

/-- `put_object`, with the `VersionId` of its response. -/
def StorageSetup.putObject (setup : StorageSetup) (key : String) (body : Bytes)
    (tags : List (String × String)) : BucketCall (Option String) := fun bucket =>
  (.ok (setup.versionIds bucket.length), bucket.put setup.versionIds key body tags)

/-- `S3LandingStorage.store`. -/
def StorageSetup.store (setup : StorageSetup) (now : Timestamp) (metadata : SourceFileMetadata)
    (file : Option Bytes) : BucketCall StorageResult := do
  let content ← Attempt.lift (verifyLocal setup.readers file metadata.checksumSha256)
  let key ← Attempt.lift (s3Key metadata)
  match ← headOrNone key with
  | none =>
    let versionId ← setup.putObject key content (objectMetadata metadata)
    let stored ← headObject key
    Attempt.lift (verifyHead stored metadata)
    return setup.result key versionId now
  | some existing =>
    Attempt.lift (verifyHead existing metadata)
    return setup.result key existing.id now

/-- `S3LandingStorage.inspect`. -/
def StorageSetup.inspect (setup : StorageSetup) (now : Timestamp) (metadata : SourceFileMetadata) :
    BucketCall StorageResult := do
  let key ← Attempt.lift (s3Key metadata)
  match ← headOrNone key with
  | none => Attempt.raise (storageIntegrityError "S3 object does not exist")
  | some head =>
    Attempt.lift (verifyHead head metadata)
    return setup.result key head.id now

/-- `_metadata_from_record`. -/
def metadataFromRecord (source : SourceFile) : SourceFileMetadata where
  datasetName := source.datasetName
  serviceType := source.serviceType
  year := source.sourceYear
  month := source.sourceMonth
  partitionKey := source.partitionKey
  sourceUrl := source.sourceUrl
  landingPath := source.landingPath
  sourceFormat := if lowerSuffix source.landingPath = ".csv".toList then "csv" else "parquet"
  checksumSha256 := source.checksumSha256
  fileSizeBytes := source.fileSizeBytes
  rowCount := source.rowCount
  schemaFingerprint := source.schemaFingerprint
  schemaVersion := none

/-- A repository on one machine: where it is, and the files that are there. -/
structure Landing where
  root : Path
  files : Path → Option Bytes

/-- What `_destination(repository_root, landing_path)` holds. -/
def Landing.file (landing : Landing) (landingPath : String) : Except PyException (Option Bytes) :=
  (destinationOf landing.root landingPath).map landing.files

def unknownSource (sourceFileId : Nat) : PyException := valueError s!"Unknown source file ID: {sourceFileId}"

theorem Landing.file_resolved {source : SourcePartition} (resolved : Resolved source) (landing : Landing) :
    landing.file source.landingPath = .ok (landing.files (resolvePath landing.root source.landingPath)) := by
  rw [Landing.file, destinationOf, resolved.underLanding]
  rfl

theorem inspectSource_describes {readers : Readers} {source : SourcePartition} {content : Bytes}
    {metadata : SourceFileMetadata} (inspected : inspectSource readers source content = .ok metadata) :
    metadata.Describes source ∧ metadata.checksumSha256 = readers.sha256 content ∧
      metadata.fileSizeBytes = content.length := by
  obtain ⟨-, found, -, rfl⟩ := inspectSource_ok inspected
  exact ⟨⟨rfl, rfl, rfl, rfl, rfl, rfl⟩, rfl, rfl⟩

theorem objectMetadata_lookup (metadata : SourceFileMetadata) :
    (objectMetadata metadata).lookup "sha256" = some (hexdigest metadata.checksumSha256) ∧
      (objectMetadata metadata).lookup "partition-key" = some metadata.partitionKey ∧
      (objectMetadata metadata).lookup "dataset-name" = some metadata.datasetName := by
  refine ⟨rfl, ?_, ?_⟩ <;> rfl

theorem verifyHead_ok {head : S3Object} {metadata : SourceFileMetadata} :
    verifyHead head metadata = .ok () ↔ head.Matches metadata := by
  unfold verifyHead
  split <;> simp_all

theorem verifyLocal_ok {readers : Readers} {file : Option Bytes} {checksum : Digest} {content : Bytes} :
    verifyLocal readers file checksum = .ok content ↔ file = some content ∧ readers.sha256 content = checksum := by
  unfold verifyLocal
  split
  · simp
  · split
    · rename_i found matched
      constructor
      · intro same
        cases same
        exact ⟨rfl, matched⟩
      · rintro ⟨same, -⟩
        cases same
        rfl
    · rename_i found apart
      constructor
      · intro same
        cases same
      · rintro ⟨same, matched⟩
        cases same
        exact absurd matched apart

theorem verifyLocal_error {readers : Readers} {file : Option Bytes} {checksum : Digest} {error : PyException}
    (refused : verifyLocal readers file checksum = .error error) : error = localMismatch := by
  unfold verifyLocal at refused
  split at refused
  · cases refused
    rfl
  · split at refused
    · cases refused
    · cases refused
      rfl

end TaxiPipeline
