import TaxiPipeline.Model.Backends
import TaxiPipeline.Model.Constraints
import TaxiPipeline.ReadCommitted.Runs

namespace TaxiPipeline

open ReadCommitted

/-- A call that stores a landing file and records where: `sync_source` when `inspected` is none, else
    the `store` of `prepare_source` on the inspected metadata and then `persist_storage_metadata`. -/
structure StorageCall where
  backend : LandingBackend
  sourceFileId : Nat
  inspected : Option SourceFileMetadata
  landing : Landing

/-- The columns that an `UPDATE` sets: those whose attributes differ from the loaded row. -/
structure StorageChange where
  backend : Option String
  uri : Option (Option String)
  versionId : Option (Option String)
  storedAt : Option (Option Timestamp)
  deriving DecidableEq

def StorageChange.none : StorageChange := ⟨.none, .none, .none, .none⟩

def StorageChange.apply (change : StorageChange) (row : SourceFile) : SourceFile :=
  { row with
    storageBackend := change.backend.getD row.storageBackend
    storageUri := change.uri.getD row.storageUri
    storageVersionId := change.versionId.getD row.storageVersionId
    storedAt := change.storedAt.getD row.storedAt }

def differing {α : Type} [DecidableEq α] (loaded merged : α) : Option α :=
  if merged = loaded then none else some merged

/-- What the flush after `_merge_storage_metadata` finds changed. -/
def SourceFile.flushed (loaded : SourceFile) (storage : StorageResult) : StorageChange :=
  let merged := mergeStorageMetadata storage loaded
  ⟨differing loaded.storageBackend merged.storageBackend, differing loaded.storageUri merged.storageUri,
    differing loaded.storageVersionId merged.storageVersionId, differing loaded.storedAt merged.storedAt⟩

structure StorageWrite where
  sourceFileId : Nat
  change : StorageChange
  deriving DecidableEq

def StorageWrite.apply (db : Database) (w : StorageWrite) : Database :=
  db.updateSourceFile w.sourceFileId w.change.apply

/-- Between two requests of `S3LandingStorage.store`: the key and the content that is uploaded. -/
inductive StorePoint where
  | verify
  | head (key : String) (content : Bytes)
  | put (key : String) (content : Bytes)
  | headAgain (key : String) (versionId : Option String)
  deriving DecidableEq

inductive StoreReply where
  | next (point : StorePoint)
  | stored (result : StorageResult)
  | raise (error : PyException)

/-- The statements of `persist_storage_metadata`. -/
inductive PersistPoint where
  | select
  | flush (loaded : SourceFile)
  | commit
  deriving DecidableEq

inductive StoragePhase where
  | idle
  | reading
  | storing (metadata : SourceFileMetadata) (point : StorePoint)
  | persisting (storage : StorageResult) (point : PersistPoint)
  | finished (result : Except PyException StorageResult)
  | crashed

/-- What a statement meets: its turn with the clock, or a fault. An upload or a commit may also
    take effect and raise all the same. -/
inductive StorageEvent where
  | next (now : Timestamp)
  | raise (error : PyException)
  | putRaises (error : PyException)
  | commitRaises (error : PyException)
  | crash

/-- The head that an upload is checked against, or the one that makes it needless. -/
def StorageSetup.accept (setup : StorageSetup) (metadata : SourceFileMetadata) (key : String)
    (head : S3Object) (versionId : Option String) (now : Timestamp) : StoreReply :=
  match verifyHead head metadata with
  | .ok () => .stored (setup.result key versionId now)
  | .error error => .raise error

/-- The file check of both storages; the local one ends with it. -/
def StorageCall.verify (call : StorageCall) (setup : StorageSetup) (metadata : SourceFileMetadata)
    (now : Timestamp) : StoreReply :=
  match call.landing.file metadata.landingPath with
  | .error error => .raise error
  | .ok file =>
    match verifyLocal setup.readers file metadata.checksumSha256 with
    | .error error => .raise error
    | .ok content =>
      match call.backend with
      | .localLanding => .stored (localResult now)
      | .s3Landing =>
        match s3Key metadata with
        | .error error => .raise error
        | .ok key => .next (.head key content)

/-- One request of `store`, and the bucket after it. -/
def StorageCall.store (call : StorageCall) (setup : StorageSetup) (metadata : SourceFileMetadata)
    (bucket : S3Bucket) (now : Timestamp) : StorePoint → StoreReply × S3Bucket
  | .verify => (call.verify setup metadata now, bucket)
  | .head key content =>
    match bucket.latest key with
    | none => (.next (.put key content), bucket)
    | some existing => (setup.accept metadata key existing existing.id now, bucket)
  | .put key content =>
    (.next (.headAgain key (setup.versionIds bucket.length)),
      bucket.put setup.versionIds key content (objectMetadata metadata))
  | .headAgain key versionId =>
    match bucket.latest key with
    | none => (.raise objectNotFound, bucket)
    | some stored => (setup.accept metadata key stored versionId now, bucket)

def StoreReply.phase (metadata : SourceFileMetadata) : StoreReply → StoragePhase
  | .next point => .storing metadata point
  | .stored result => .persisting result .select
  | .raise error => .finished (.error error)

def PersistPoint.exec (sourceFileId : Nat) (storage : StorageResult) (db : Database) :
    PersistPoint → Effect StorageWrite × StoragePhase
  | .select =>
    match db.getSourceFile sourceFileId with
    | none => (.rollback, .finished (.error (unknownSource sourceFileId)))
    | some source => (.read, .persisting storage (.flush source))
  | .flush loaded =>
    let change := loaded.flushed storage
    if change = .none then (.read, .persisting storage .commit)
    else if (mergeStorageMetadata storage loaded).storageFits then
      (.write ⟨sourceFileId, change⟩, .persisting storage .commit)
    else (.rollback, .finished (.error (dataError "value out of range for a column of source_files")))
  | .commit => (.commit, .finished (.ok storage))

/-- The start of the call; `sync_source` goes on only with the S3 storage. -/
def StorageCall.begin (call : StorageCall) : StoragePhase :=
  match call.inspected with
  | some metadata => .storing metadata .verify
  | none =>
    match call.backend with
    | .s3Landing => .reading
    | .localLanding => .finished (.error (valueError "storage sync requires LANDING_BACKEND=s3"))

/-- The row that `sync_source` reads in a session of its own. -/
def StorageCall.read (call : StorageCall) (db : Database) : StoragePhase :=
  match db.getSourceFile call.sourceFileId with
  | none => .finished (.error (unknownSource call.sourceFileId))
  | some source => .storing (metadataFromRecord source) .verify

def StorageCall.advance (call : StorageCall) (setup : StorageSetup) (db : Database) (bucket : S3Bucket)
    (now : Timestamp) : StoragePhase → Option (Effect StorageWrite × StoragePhase × S3Bucket)
  | .idle => some (.read, call.begin, bucket)
  | .reading => some (.read, call.read db, bucket)
  | .storing metadata point =>
    let (reply, bucket') := call.store setup metadata bucket now point
    some (.read, reply.phase metadata, bucket')
  | .persisting storage point =>
    let (effect, phase) := point.exec call.sourceFileId storage db
    some (effect, phase, bucket)
  | .finished _ | .crashed => none

def StoragePhase.isRunning : StoragePhase → Bool
  | .finished _ | .crashed => false
  | _ => true

def StorageCall.exec (call : StorageCall) (setup : StorageSetup) (phase : StoragePhase) (db : Database)
    (bucket : S3Bucket) : StorageEvent → Option (Effect StorageWrite × StoragePhase × S3Bucket)
  | .next now => call.advance setup db bucket now phase
  | .raise error => if phase.isRunning then some (.rollback, .finished (.error error), bucket) else none
  | .putRaises error =>
    match phase with
    | .storing metadata (.put key content) =>
      some (.rollback, .finished (.error error),
        bucket.put setup.versionIds key content (objectMetadata metadata))
    | _ => none
  | .commitRaises error =>
    match phase with
    | .persisting _ .commit => some (.commit, .finished (.error error), bucket)
    | _ => none
  | .crash => if phase.isRunning then some (.rollback, .crashed, bucket) else none

/-- Any number of storage calls over one database and one bucket. -/
def storing {Client : Type} (setup : StorageSetup) (calls : Client → StorageCall) :
    Program Client StoragePhase StorageEvent Database S3Bucket StorageWrite IndexKey where
  apply := StorageWrite.apply
  locks := fun w => [.sourceFile w.sourceFileId]
  exec := fun i => (calls i).exec setup

/-- The storage calls before any of them begins. -/
def storageStart {Client : Type} (db : Database) (bucket : S3Bucket) :
    State Client StoragePhase Database S3Bucket StorageWrite :=
  State.initial db bucket .idle

end TaxiPipeline
