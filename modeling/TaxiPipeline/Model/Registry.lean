import TaxiPipeline.Model.Transaction

namespace TaxiPipeline

open Stateful

def newSourceFile (sourceFileId : Nat) (status : SourceStatus) (now : Timestamp)
    (metadata : SourceFileMetadata) : SourceFile where
  sourceFileId := sourceFileId
  datasetName := metadata.datasetName
  serviceType := metadata.serviceType
  sourceYear := metadata.year
  sourceMonth := metadata.month
  partitionKey := metadata.partitionKey
  sourceUrl := metadata.sourceUrl
  landingPath := metadata.landingPath
  checksumSha256 := metadata.checksumSha256
  fileSizeBytes := metadata.fileSizeBytes
  rowCount := metadata.rowCount
  schemaFingerprint := metadata.schemaFingerprint
  status := status
  validatedAt := some now
  loadedAt := none
  storageBackend := "local"
  storageUri := none
  storageVersionId := none
  storedAt := none

namespace Database

/-- `_find_exact_version`. -/
def findExactVersion (db : Database) (metadata : SourceFileMetadata) : Option SourceFile :=
  db.sourceFiles.find? fun row =>
    row.partitionKey == metadata.partitionKey && row.checksumSha256 == metadata.checksumSha256

/-- `select(SourceFile.source_file_id).where(partition_key == ...).limit(1)`. -/
def findPartition (db : Database) (partitionKey : String) : Option Nat :=
  (db.sourceFiles.find? (·.partitionKey == partitionKey)).map (·.sourceFileId)

/-- The exception of `INSERT INTO ops.source_files`, if it fails. -/
def sourceFileInsertError (db : Database) (row : SourceFile) : Option PyException :=
  if !row.fits then some (dataError "value out of range for a column of source_files")
  else if !row.meetsChecks then some checkViolation
  else if db.conflicts row.keys then some uniqueViolation
  else none

/-- `get_source_file`. -/
def requireSourceFile (db : Database) (sourceFileId : Nat) : Except PyException SourceFile :=
  match db.getSourceFile sourceFileId with
  | some row => .ok row
  | none => .error (metadataStateError s!"Unknown source file ID: {sourceFileId}")

end Database

/-- `SourceStatus.REVISION_DETECTED if partition_exists else SourceStatus.READY`; the test is
    Python's truth value of an id. -/
def registrationStatus : Option Nat → SourceStatus
  | some sourceFileId => if sourceFileId ≠ 0 then .revisionDetected else .ready
  | none => .ready

def registrationResult (row : SourceFile) (isNew : Bool) : SourceRegistrationResult where
  sourceFileId := row.sourceFileId
  sourceStatus := row.status
  decision := decisionForSourceStatus row.status
  isNewRegistration := isNew

/-- `session.add(source_file); session.flush()`. -/
def insertSourceFile (now : Timestamp) (status : SourceStatus) (metadata : SourceFileMetadata) :
    Transaction SourceFile := do
  let sourceFileId ← Transaction.drawSourceFileId
  let row := newSourceFile sourceFileId status now metadata
  match (← Transaction.database).sourceFileInsertError row with
  | some error => Attempt.raise error
  | none =>
    Transaction.update (·.addSourceFile row)
    return row

/-- The `except IntegrityError` branch of `register_source_file`. -/
def recoverRacedVersion (metadata : SourceFileMetadata) (error : PyException) :
    Transaction SourceRegistrationResult := do
  if error.kind ≠ .integrityError then Attempt.raise error
  else match (← Transaction.database).findExactVersion metadata with
    | some raced => return registrationResult raced false
    | none => Attempt.raise error

def registerSourceFile (now : Timestamp) (metadata : SourceFileMetadata) :
    Transaction SourceRegistrationResult := do
  let db ← Transaction.database
  match db.findExactVersion metadata with
  | some existing => return registrationResult existing false
  | none =>
    let status := registrationStatus (db.findPartition metadata.partitionKey)
    Attempt.tryCatch
      (do
        let row ← Transaction.atomically (insertSourceFile now status metadata)
        return registrationResult row true)
      (recoverRacedVersion metadata)

def prepareIngestion (now : Timestamp) (metadata : SourceFileMetadata) :
    Transaction SourceRegistrationResult :=
  registerSourceFile now metadata

def SourceFile.markLoaded (row : SourceFile) (loadedAt : Timestamp) : SourceFile :=
  { row with status := .loaded, loadedAt := some loadedAt }

/-- The guard of `mark_source_loaded`. -/
def requireLoadable (row : SourceFile) : Except PyException Unit :=
  if row.status ≠ .ready then
    .error (metadataStateError
      s!"Cannot mark source {row.sourceFileId} loaded from status {row.status.value}")
  else .ok ()

def markSourceLoaded (now : Timestamp) (sourceFileId : Nat) (loadedAt : Option Timestamp) :
    Transaction SourceFile := do
  let row ← Attempt.lift ((← Transaction.database).requireSourceFile sourceFileId)
  Attempt.lift (requireLoadable row)
  let moment := loadedAt.getD now
  Transaction.update (·.updateSourceFile sourceFileId (·.markLoaded moment))
  return row.markLoaded moment

theorem findExactVersion_some {db : Database} {metadata : SourceFileMetadata} {row : SourceFile}
    (found : db.findExactVersion metadata = some row) :
    row ∈ db.sourceFiles ∧ row.partitionKey = metadata.partitionKey ∧
      row.checksumSha256 = metadata.checksumSha256 := by
  have member := List.mem_of_find?_eq_some found
  have same := List.find?_some found
  simp only [Bool.and_eq_true, beq_iff_eq] at same
  exact ⟨member, same.1, same.2⟩

theorem findExactVersion_none {db : Database} {metadata : SourceFileMetadata} :
    db.findExactVersion metadata = none ↔ ∀ row ∈ db.sourceFiles,
      row.partitionKey = metadata.partitionKey → row.checksumSha256 ≠ metadata.checksumSha256 := by
  simp [Database.findExactVersion]

theorem findPartition_some {db : Database} {partitionKey : String} {sourceFileId : Nat}
    (found : db.findPartition partitionKey = some sourceFileId) :
    ∃ row ∈ db.sourceFiles, row.partitionKey = partitionKey ∧ row.sourceFileId = sourceFileId := by
  simp only [Database.findPartition, Option.map_eq_some_iff] at found
  obtain ⟨row, found, rfl⟩ := found
  exact ⟨row, List.mem_of_find?_eq_some found, by simpa using List.find?_some found, rfl⟩

theorem findPartition_none {db : Database} {partitionKey : String} :
    db.findPartition partitionKey = none ↔
      ∀ row ∈ db.sourceFiles, row.partitionKey ≠ partitionKey := by
  simp [Database.findPartition]

theorem registrationStatus_ne_loaded (found : Option Nat) : registrationStatus found ≠ .loaded := by
  unfold registrationStatus
  split
  · split <;> nofun
  · nofun

theorem getSourceFile_some {db : Database} {sourceFileId : Nat} {row : SourceFile}
    (found : db.getSourceFile sourceFileId = some row) :
    row ∈ db.sourceFiles ∧ row.sourceFileId = sourceFileId :=
  ⟨List.mem_of_find?_eq_some found, by simpa using List.find?_some found⟩

theorem requireSourceFile_ok {db : Database} {sourceFileId : Nat} {row : SourceFile}
    (found : db.requireSourceFile sourceFileId = .ok row) :
    db.getSourceFile sourceFileId = some row := by
  unfold Database.requireSourceFile at found
  split at found
  · rename_i got
    cases found
    exact got
  · cases found

theorem requireSourceFile_got {db : Database} {sourceFileId : Nat} {source : SourceFile}
    (got : db.getSourceFile sourceFileId = some source) : db.requireSourceFile sourceFileId = .ok source := by
  simp [Database.requireSourceFile, got]

theorem requireLoadable_ok {row : SourceFile} : requireLoadable row = .ok () ↔ row.status = .ready := by
  unfold requireLoadable
  split <;> simp_all

end TaxiPipeline
