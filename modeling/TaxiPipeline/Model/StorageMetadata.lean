import TaxiPipeline.Model.Registry

namespace TaxiPipeline

open Stateful

/-- What a landing storage answers about one stored file. -/
structure StorageResult where
  backend : String
  uri : Option String
  versionId : Option String
  storedAt : Timestamp
  deriving DecidableEq, Repr

/-- The test of `_merge_storage_metadata` that keeps recorded durable storage. -/
def SourceFile.keepsDurable (source : SourceFile) (storage : StorageResult) : Bool :=
  storage.backend == "local" && source.storageBackend == "s3" && source.storageUri.any (· ≠ "")

def SourceFile.withStorage (source : SourceFile) (storage : StorageResult) : SourceFile :=
  { source with
    storageBackend := storage.backend
    storageUri := storage.uri
    storageVersionId := storage.versionId
    storedAt := some storage.storedAt }

/-- `_merge_storage_metadata`. -/
def mergeStorageMetadata (storage : StorageResult) (source : SourceFile) : SourceFile :=
  if source.keepsDurable storage then source else source.withStorage storage

/-- The values that the storage columns of `ops.source_files` hold. -/
def SourceFile.storageFits (source : SourceFile) : Bool :=
  storable source.storageBackend && source.storageUri.all storable && source.storageVersionId.all storable

def persistStorageMetadata (sourceFileId : Nat) (storage : StorageResult) : Transaction Unit := do
  match (← Transaction.database).getSourceFile sourceFileId with
  | none => Attempt.raise (valueError s!"Unknown source file ID: {sourceFileId}")
  | some source =>
    if (mergeStorageMetadata storage source).storageFits then
      Transaction.update (·.updateSourceFile sourceFileId (mergeStorageMetadata storage))
    else Attempt.raise (dataError "value out of range for a column of source_files")

theorem mergeStorageMetadata_s3 {storage : StorageResult} (backend : storage.backend = "s3") (source : SourceFile) :
    mergeStorageMetadata storage source = source.withStorage storage := by
  simp [mergeStorageMetadata, SourceFile.keepsDurable, backend]

theorem mergeStorageMetadata_same (storage : StorageResult) (source : SourceFile) :
    (mergeStorageMetadata storage source).sourceFileId = source.sourceFileId ∧
      (mergeStorageMetadata storage source).partitionKey = source.partitionKey ∧
      (mergeStorageMetadata storage source).checksumSha256 = source.checksumSha256 ∧
      (mergeStorageMetadata storage source).status = source.status ∧
      (mergeStorageMetadata storage source).fits = source.fits ∧
      (mergeStorageMetadata storage source).meetsChecks = source.meetsChecks := by
  unfold mergeStorageMetadata
  split <;> exact ⟨rfl, rfl, rfl, rfl, rfl, rfl⟩

theorem persistStorageMetadata_meets (s : Session) (sourceFileId : Nat) (storage : StorageResult) :
    (persistStorageMetadata sourceFileId storage).Meets s
      (fun _ s' => s' = { s with db := s.db.updateSourceFile sourceFileId (mergeStorageMetadata storage) })
      fun _ s' => s' = s := by
  refine Transaction.meets_database ?_
  split
  · exact rfl
  · split
    · exact rfl
    · exact rfl

end TaxiPipeline
