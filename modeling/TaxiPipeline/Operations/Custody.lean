import TaxiPipeline.Lifecycle.SourceRows
import TaxiPipeline.Operations.Commands
import TaxiPipeline.Orchestration.Loads
import TaxiPipeline.Storage.Recovery

namespace TaxiPipeline

open ObjectStore ReadCommitted Stateful StorageAction Transaction

/-- What a store does to the bucket: nothing, or one upload of a verified file under a free key. -/
inductive Stored (setup : StorageSetup) (metadata : SourceFileMetadata) (file : Option Bytes) (bucket : S3Bucket) :
    S3Bucket → Prop where
  | kept : Stored setup metadata file bucket bucket
  | uploaded {key : String} {content : Bytes} (is_file : file = some content)
      (hashed : setup.readers.sha256 content = metadata.checksumSha256) (keyed : s3Key metadata = .ok key)
      (free : bucket.latest key = none) :
      Stored setup metadata file bucket (bucket.put setup.versionIds key content (objectMetadata metadata))

/-- No key loses or changes its object. -/
def KeepsObjects (bucket bucket' : S3Bucket) : Prop :=
  ∀ key object, bucket.latest key = some object → bucket'.latest key = some object

/-- The object of the version of the metadata, as its upload has put it there. -/
structure S3Bucket.Has (bucket : S3Bucket) (metadata : SourceFileMetadata) (key : String) (object : S3Object) : Prop where
  keyed : s3Key metadata = .ok key
  found : bucket.latest key = some object
  matched : object.Matches metadata

/-- A result of the local storage, or one that names the object of the version. -/
inductive StorageResult.Located (setup : StorageSetup) (metadata : SourceFileMetadata) (bucket : S3Bucket) :
    StorageResult → Prop where
  | onDisk (now : Timestamp) : Located setup metadata bucket (localResult now)
  | inBucket {key : String} {object : S3Object} (has : bucket.Has metadata key object) (now : Timestamp) :
      Located setup metadata bucket (setup.result key object.id now)

section Stores

variable {setup : StorageSetup} {metadata : SourceFileMetadata} {file : Option Bytes} {bucket bucket' bucket'' : S3Bucket}
  {now : Timestamp} {contents : Set Bytes} {storage : StorageResult} {d : Deployment}

theorem KeepsObjects.refl (bucket : S3Bucket) : KeepsObjects bucket bucket := fun _ _ found => found

theorem KeepsObjects.trans (first : KeepsObjects bucket bucket') (second : KeepsObjects bucket' bucket'') :
    KeepsObjects bucket bucket'' :=
  fun key object found => second key object (first key object found)

theorem Stored.keepsObjects (stored : Stored setup metadata file bucket bucket') : KeepsObjects bucket bucket' := by
  cases stored with
  | kept => exact .refl bucket
  | @uploaded uploadedKey content is_file hashed keyed free =>
    intro key object found
    have apart : uploadedKey ≠ key := by
      intro same
      rw [same, found] at free
      cases free
    rwa [Bucket.latest_put_other apart]

theorem Stored.supplied (stored : Stored setup metadata file bucket bucket')
    (known : metadata.Known setup.readers contents) (within : ∀ content, file = some content → content ∈ contents)
    (supplied : Supplied setup contents bucket) : Supplied setup contents bucket' := by
  cases stored with
  | kept => exact supplied
  | uploaded is_file hashed keyed free =>
    intro object member landed
    rcases Bucket.mem_put.mp member with rfl | old
    · exact ⟨metadata, known, within _ is_file, hashed, keyed⟩
    · exact supplied object old landed

theorem S3Bucket.Has.keeps {key : String} {object : S3Object} (has : bucket.Has metadata key object)
    (keeps : KeepsObjects bucket bucket') : bucket'.Has metadata key object :=
  ⟨has.keyed, keeps key object has.found, has.matched⟩

theorem StorageResult.Located.keeps (located : storage.Located setup metadata bucket)
    (keeps : KeepsObjects bucket bucket') : storage.Located setup metadata bucket' := by
  cases located with
  | onDisk now => exact .onDisk now
  | inBucket has now => exact .inBucket (has.keeps keeps) now

theorem headObject_found {key : String} {object : S3Object} (found : bucket.latest key = some object) :
    headObject key bucket = (.ok object, bucket) := by
  unfold headObject
  rw [found]

theorem store_meets : (setup.store now metadata file).Meets bucket
    (fun storage bucket' => Stored setup metadata file bucket bucket' ∧ storage.Located setup metadata bucket' ∧
      storage.backend = "s3")
    fun _ bucket' => Stored setup metadata file bucket bucket' := by
  unfold StorageSetup.store
  refine .bind (Attempt.meets_lift (fun content verified => ?_) fun _ _ => .kept)
  obtain ⟨is_file, hashed⟩ := verifyLocal_ok.mp verified
  refine .bind (Attempt.meets_lift (fun key keyed => ?_) fun _ _ => .kept)
  refine .bind (.of_ok rfl ?_)
  cases found : bucket.latest key with
  | some existing =>
    refine .bind (Attempt.meets_lift (fun _ checked => ?_) fun _ _ => .kept)
    exact ⟨.kept, .inBucket ⟨keyed, found, verifyHead_ok.mp checked⟩ now, rfl⟩
  | none =>
    have stored : Stored setup metadata file bucket
        (bucket.put setup.versionIds key content (objectMetadata metadata)) := .uploaded is_file hashed keyed found
    have latest : (bucket.put setup.versionIds key content (objectMetadata metadata)).latest key =
        some ⟨key, content, objectMetadata metadata, setup.versionIds bucket.length⟩ := Bucket.latest_put_self
    refine .bind (.of_ok rfl (.bind (.of_ok (headObject_found latest) ?_)))
    refine .bind (Attempt.meets_lift (fun _ checked => ?_) fun _ _ => stored)
    exact ⟨stored, .inBucket ⟨keyed, latest, verifyHead_ok.mp checked⟩ now, rfl⟩

/-- A store of either backend changes nothing but the bucket. -/
theorem backend_store_meets (backend : LandingBackend) : (backend.store setup now metadata file).Meets d
    (fun storage d' => (d' = { d with bucket := d'.bucket } ∧ Stored setup metadata file d.bucket d'.bucket) ∧
      storage.Located setup metadata d'.bucket)
    fun _ d' => d' = { d with bucket := d'.bucket } ∧ Stored setup metadata file d.bucket d'.bucket := by
  cases backend with
  | s3Landing =>
    have meets := @store_meets setup metadata file d.bucket now
    rcases ran : setup.store now metadata file d.bucket with ⟨result, bucket'⟩
    have called : LandingBackend.s3Landing.store setup now metadata file d = (result, { d with bucket := bucket' }) := by
      simp only [LandingBackend.store, onBucket_apply, ran]
    cases result with
    | ok storage => exact .of_ok called ⟨⟨rfl, (meets.ok ran).1⟩, (meets.ok ran).2.1⟩
    | error error => exact .of_error called ⟨rfl, meets.error ran⟩
  | localLanding =>
    refine .bind (Attempt.meets_lift (fun _ _ => ?_) fun _ _ => ⟨rfl, .kept⟩)
    exact ⟨⟨rfl, .kept⟩, .onDisk now⟩

end Stores

/-- Nothing but files has changed. -/
structure Workspace.FilesOnly (w w' : Workspace) : Prop where
  session : w'.deployment.session = w.deployment.session
  root : w'.deployment.landing.root = w.deployment.landing.root
  bucket : w'.deployment.bucket = w.deployment.bucket

/-- Nothing but files has changed and what a store of a file of the source has uploaded. -/
structure Workspace.Fetched (w : Workspace) (setup : StorageSetup) (source : SourcePartition) (w' : Workspace) :
    Prop where
  session : w'.deployment.session = w.deployment.session
  bucket : w'.deployment.bucket = w.deployment.bucket ∨ ∃ path content metadata,
    w'.deployment.landing.files path = some content ∧ inspectSource setup.readers source content = .ok metadata ∧
      Stored setup metadata (some content) w.deployment.bucket w'.deployment.bucket

section Preparing

variable {w w' w'' : Workspace} {setup : StorageSetup} {backend : LandingBackend} {around : Surroundings}
  {now : Timestamp} {source : SourcePartition} {storage : StorageResult}

theorem Workspace.FilesOnly.trans (first : w.FilesOnly w') (second : w'.FilesOnly w'') : w.FilesOnly w'' :=
  ⟨second.session.trans first.session, second.root.trans first.root, second.bucket.trans first.bucket⟩

theorem Workspace.FilesOnly.fetched (filesOnly : w.FilesOnly w') : w.Fetched setup source w' :=
  ⟨filesOnly.session, .inl filesOnly.bucket⟩

theorem onFiles_filesOnly {α : Type} (script : FileScript α) :
    (onFiles around script).Meets w (fun _ w' => w.FilesOnly w') fun _ w' => w.FilesOnly w' := by
  rcases ran : onFiles around script w with ⟨result, w'⟩
  have same : w.FilesOnly w' := by
    cases congrArg Prod.snd ran
    exact ⟨rfl, rfl, rfl⟩
  cases result with
  | ok a => exact .of_ok ran same
  | error error => exact .of_error ran same

theorem recoverPartitionIfKnown_filesOnly (partitionKey : String) :
    (recoverPartitionIfKnown setup around partitionKey).Meets w (fun _ w' => w.FilesOnly w')
      fun _ w' => w.FilesOnly w' := by
  unfold recoverPartitionIfKnown
  split
  · exact ⟨rfl, rfl, rfl⟩
  · refine .bind (.of_ok rfl ?_)
    split
    · exact ⟨rfl, rfl, rfl⟩
    · refine .bind (Attempt.meets_lift (fun destination _ => ?_) fun _ _ => ⟨rfl, rfl, rfl⟩)
      exact .bind ((onFiles_filesOnly _).mono (fun _ _ same => same) fun _ _ same => same)

/-- A prepared source comes with the object of its version, or stays on disk. -/
theorem prepareSource_fetches :
    (prepareSource setup backend around now source).Meets w
      (fun prepared w' => w.Fetched setup source w' ∧ prepared.storage.Located setup prepared.metadata w'.deployment.bucket)
      fun _ w' => w.Fetched setup source w' := by
  unfold prepareSource
  refine .bind (.of_ok rfl (.bind (Attempt.meets_lift (fun path destination => ?_) fun _ _ =>
    Workspace.FilesOnly.fetched ⟨rfl, rfl, rfl⟩)))
  have rest : ∀ w' : Workspace, w.FilesOnly w' → Attempt.Meets (do
      let _ ← onFiles around (ensureLocal source w.deployment.landing.root)
      let file := (← onDeployment deployment).landing.files path
      let metadata ← Attempt.lift (inspectFile setup.readers source path file)
      let stored ← onDeployment (backend.store setup now metadata file)
      return (⟨metadata, stored⟩ : PreparedSource)) w'
      (fun prepared w' => w.Fetched setup source w' ∧
        prepared.storage.Located setup prepared.metadata w'.deployment.bucket)
      fun _ w' => w.Fetched setup source w' := by
    intro w' before
    refine .bind ((onFiles_filesOnly _).mono (fun _ w₁ same => ?_) fun _ _ same => (before.trans same).fetched)
    have filesOnly := before.trans same
    refine .bind (.of_ok rfl ?_)
    refine .bind (Attempt.meets_lift (fun metadata inspected => ?_) fun _ _ => filesOnly.fetched)
    cases there : w₁.deployment.landing.files path with
    | none =>
      rw [there] at inspected
      cases inspected
    | some content =>
      rw [there] at inspected
      have meets := @backend_store_meets setup metadata (some content) now w₁.deployment backend
      rcases stored : backend.store setup now metadata (some content) w₁.deployment with ⟨result, d⟩
      have called : onDeployment (backend.store setup now metadata (some content)) w₁ = (result, ⟨d, w₁.opened⟩) := by
        rw [onDeployment_apply, stored]
      have fetched : ∀ d' : Deployment, d' = { w₁.deployment with bucket := d'.bucket } →
          Stored setup metadata (some content) w₁.deployment.bucket d'.bucket →
          w.Fetched setup source ⟨d', w₁.opened⟩ := by
        intro d' frame uploads
        rw [filesOnly.bucket] at uploads
        refine ⟨(congrArg Deployment.session frame).trans filesOnly.session,
          .inr ⟨path, content, metadata, ?_, inspected, uploads⟩⟩
        exact (congrFun (congrArg (·.landing.files) frame) path).trans there
      cases result with
      | error error =>
        have ended := meets.error stored
        exact .bind (.of_error called (fetched d ended.1 ended.2))
      | ok storage =>
        have ended := meets.ok stored
        exact .bind (.of_ok called ⟨fetched d ended.1.1 ended.1.2, ended.2⟩)
  split
  · exact .bind ((recoverPartitionIfKnown_filesOnly _).mono (fun _ w' same => rest w' same) fun _ _ same => same.fetched)
  · exact rest w ⟨rfl, rfl, rfl⟩

end Preparing

/-- A row that records durable storage names the object of its version. -/
def SourceFile.Held (row : SourceFile) (setup : StorageSetup) (bucket : S3Bucket) : Prop :=
  row.storageBackend = "s3" → ∃ key object, bucket.Has (metadataFromRecord row) key object ∧
    row.storageUri = some (setup.uri key) ∧ row.storageVersionId = object.id

/-- Every row that records durable storage can rely on the bucket. -/
structure Deployment.Custody (d : Deployment) (setup : StorageSetup) (contents : Set Bytes) : Prop where
  orderly : d.session.Orderly
  records : d.session.db.Records setup.readers contents
  supplied : Supplied setup contents d.bucket
  held : d.session.EveryRow (·.Held setup d.bucket)

/-- Rows that record durable storage go on to do so. -/
def Database.KeepsStored (db db' : Database) : Prop :=
  ∀ sourceFileId row, db.getSourceFile sourceFileId = some row → row.storageBackend = "s3" →
    ∃ row', db'.getSourceFile sourceFileId = some row' ∧ row'.storageBackend = "s3"

/-- What every operation keeps. -/
structure Deployment.KeepsCustody (d : Deployment) (setup : StorageSetup) (contents : Set Bytes) (d' : Deployment) :
    Prop where
  custody : d'.Custody setup contents
  records : d.session.db.KeepsRecords d'.session.db
  stored : d.session.db.KeepsStored d'.session.db
  leads : d.session.LeadsWith (·.Inspected setup.readers contents) d'.session

section Custody

variable {setup : StorageSetup} {contents : Set Bytes} {bucket bucket' : S3Bucket} {row : SourceFile}
  {d d' d'' : Deployment} {metadata : SourceFileMetadata} {s s' : Session} {storage : StorageResult}
  {db db' db'' : Database}

theorem SourceFile.Held.keeps (held : row.Held setup bucket) (keeps : KeepsObjects bucket bucket') :
    row.Held setup bucket' := by
  intro s3
  obtain ⟨key, object, has, uri, version⟩ := held s3
  exact ⟨key, object, has.keeps keeps, uri, version⟩

theorem onDisk_apart : "local" ≠ "s3" := by decide

theorem rowRule_held (setup : StorageSetup) (bucket : S3Bucket) (metadata : SourceFileMetadata) :
    RowRule (·.Held setup bucket) metadata where
  new := fun _ _ _ s3 => absurd s3 onDisk_apart
  marked := fun _ _ held => held

theorem Database.KeepsStored.refl (db : Database) : db.KeepsStored db := fun _ row got s3 => ⟨row, got, s3⟩

theorem Database.KeepsStored.trans (first : db.KeepsStored db') (second : db'.KeepsStored db'') :
    db.KeepsStored db'' := by
  intro sourceFileId row got s3
  obtain ⟨row', got', s3'⟩ := first sourceFileId row got s3
  exact second sourceFileId row' got' s3'

theorem Database.KeepsStored.of_same (same : db'.sourceFiles = db.sourceFiles) : db.KeepsStored db' := by
  intro sourceFileId row got s3
  refine ⟨row, ?_, s3⟩
  unfold Database.getSourceFile at got ⊢
  rwa [same]

theorem Database.Extends.keepsStored {owned : Nat → Prop} (extended : db.Extends owned db') : db.KeepsStored db' := by
  intro sourceFileId row got s3
  obtain ⟨row', got', registered, -⟩ := extended.sources got
  exact ⟨row', got', (congrArg SourceFile.storageBackend registered).trans s3⟩

theorem Deployment.Custody.keeps (custody : d.Custody setup contents) : d.KeepsCustody setup contents d :=
  ⟨custody, fun _ row got => ⟨row, got, rfl⟩, .refl _, .refl⟩

theorem Deployment.KeepsCustody.trans (first : d.KeepsCustody setup contents d')
    (second : d'.KeepsCustody setup contents d'') : d.KeepsCustody setup contents d'' :=
  ⟨second.custody, first.records.trans second.records, first.stored.trans second.stored, first.leads.trans second.leads⟩

/-- An upload of a known version changes no object. -/
theorem Deployment.Custody.uploads {file : Option Bytes} (custody : d.Custody setup contents)
    (known : metadata.Known setup.readers contents) (within : ∀ content, file = some content → content ∈ contents)
    (stored : Stored setup metadata file d.bucket bucket) :
    { d with bucket := bucket }.Custody setup contents where
  orderly := custody.orderly
  records := custody.records
  supplied := stored.supplied known within custody.supplied
  held := fun row member => (custody.held row member).keeps stored.keepsObjects

theorem ingestSource_keepsStored {events : List Event} {answer : Except PyException IngestionResult}
    (orderly : s.Orderly) (called : ingestSource metadata events s = some (answer, s')) :
    s.db.KeepsStored s'.db := by
  obtain ⟨t, ran, -, rfl, -⟩ := ingestSource_some called
  have kept := Program.run_preserves
    (I := fun t => s.Calling (.ingest metadata defaultBatchSize) t ∧ s.db.KeepsStored t.committed)
    (fun t i e t' holds stepped => ?_) ⟨calling_start orderly, .refl _⟩ ran
  · exact kept.2
  · have coherent := holds.1.accepting.coherent
    exact ⟨holds.1.step orderly.consistent stepped, holds.2.trans (coherent.extends stepped).keepsStored⟩

theorem Deployment.Custody.ingests {events : List Event} {answer : Except PyException IngestionResult}
    (custody : d.Custody setup contents) (inspected : metadata.Inspected setup.readers contents)
    (called : ingestSource metadata events d.session = some (answer, s')) :
    d.KeepsCustody setup contents { d with session := s' } := by
  have call := ingestSource_calls inspected called
  have kept := call.calls.keeps custody.orderly
  have records := call.keepsRecords custody.orderly custody.records
  obtain ⟨t, ran, -, rfl, -⟩ := ingestSource_some called
  have held := run_everyRow (rowRule_held setup d.bucket metadata) custody.orderly custody.held ran
  exact ⟨⟨kept.orderly, records.records, custody.supplied, held⟩, records.keeps,
    ingestSource_keepsStored custody.orderly called, .single call⟩

theorem registerSourceFile_keepsStored (now : Timestamp) (metadata : SourceFileMetadata) :
    s.db.KeepsStored (atomically (registerSourceFile now metadata) s).2.db := by
  have meets : (registerSourceFile now metadata).Meets s (fun _ s' => s.db.KeepsStored s'.db)
      fun _ s' => s.db.KeepsStored ({ s' with db := s.db } : Session).db := by
    refine (registerSourceFile_meets s now metadata).mono (fun result s' answered => ?_) fun _ _ _ => .refl _
    rcases answered with ⟨row, -, -, rfl⟩ | ⟨absent, written, -, rfl⟩
    · exact .refl _
    · exact (Registration.inserted absent written).extends.keepsStored
  exact (meets_atomically meets).ends

theorem Deployment.Custody.registers (custody : d.Custody setup contents)
    (inspected : metadata.Inspected setup.readers contents) (now : Timestamp) :
    d.KeepsCustody setup contents { d with session := (atomically (registerSourceFile now metadata) d.session).2 } := by
  have call : d.session.CallsWith (·.Inspected setup.readers contents) _ := .registerSourceFile now inspected
  have kept := call.calls.keeps custody.orderly
  have records := call.keepsRecords custody.orderly custody.records
  have held := registerSourceFile_everyRow now (rowRule_held setup d.bucket metadata) custody.orderly custody.held
  exact ⟨⟨kept.orderly, records.records, custody.supplied, held⟩, records.keeps,
    registerSourceFile_keepsStored now metadata, .single call⟩

theorem runQualityChecks_keepsStored (now : Timestamp) (runId : Nat) :
    s.db.KeepsStored (atomically (runQualityChecks now runId) s).2.db := by
  have meets : (runQualityChecks now runId).Meets s (fun _ s' => s.db.KeepsStored s'.db)
      fun _ s' => s.db.KeepsStored ({ s' with db := s.db } : Session).db := by
    refine (runQualityChecks_meets s now runId).mono (fun summary s' evaluated => ?_) fun _ _ _ => .refl _
    obtain ⟨run, warningCount, errorCount, -, -, -, same⟩ := evaluated
    exact .of_same same.sourceFiles
  exact (meets_atomically meets).ends

theorem Deployment.Custody.evaluates (custody : d.Custody setup contents) (now : Timestamp) (runId : Nat) :
    d.KeepsCustody setup contents { d with session := (atomically (runQualityChecks now runId) d.session).2 } := by
  have call : d.session.CallsWith (·.Inspected setup.readers contents) _ := .runQualityChecks now runId
  have kept := call.calls.keeps custody.orderly
  have records := call.keepsRecords custody.orderly custody.records
  exact ⟨⟨kept.orderly, records.records, custody.supplied, runQualityChecks_everyRow now runId custody.held⟩,
    records.keeps, runQualityChecks_keepsStored now runId, .single call⟩

/-- Durable storage is recorded in place of local storage, and never the other way round. -/
theorem mergeStorageMetadata_keepsS3 (held : row.Held setup bucket) (s3 : row.storageBackend = "s3")
    (located : storage.Located setup metadata bucket) : (mergeStorageMetadata storage row).storageBackend = "s3" := by
  cases located with
  | onDisk now =>
    obtain ⟨key, object, has, uri, -⟩ := held s3
    have located : setup.Locates row row.storageUri := ⟨key, has.keyed, uri⟩
    have durable : row.keepsDurable (localResult now) = true := by
      have named := located.not_empty
      simp only [SourceFile.keepsDurable, localResult, s3, beq_self_eq_true, Bool.and_true, named]
    rw [mergeStorageMetadata, if_pos durable]
    exact s3
  | inBucket has now =>
    rw [mergeStorageMetadata_s3 rfl]
    rfl

theorem mergeStorageMetadata_held (held : row.Held setup bucket)
    (located : storage.Located setup (metadataFromRecord row) bucket) :
    (mergeStorageMetadata storage row).Held setup bucket := by
  unfold mergeStorageMetadata
  split
  · exact held
  · cases located with
    | onDisk now => exact fun s3 => absurd s3 onDisk_apart
    | inBucket has now => exact fun _ => ⟨_, _, has, rfl, rfl⟩

theorem Deployment.Custody.persists (custody : d.Custody setup contents) {sourceFileId : Nat}
    (located : ∀ row, d.session.db.getSourceFile sourceFileId = some row →
      storage.Located setup (metadataFromRecord row) d.bucket) :
    d.KeepsCustody setup contents { d with session := d.session.persisted sourceFileId storage } := by
  have call : d.session.CallsWith (·.Inspected setup.readers contents) (d.session.persisted sourceFileId storage) :=
    .persistStorageMetadata sourceFileId storage
  have kept := call.calls.keeps custody.orderly
  have records := call.keepsRecords custody.orderly custody.records
  have held : (d.session.persisted sourceFileId storage).EveryRow (·.Held setup d.bucket) :=
    persistStorageMetadata_everyRow custody.orderly.consistent sourceFileId
      (fun row got _ => mergeStorageMetadata_held (custody.held row (getSourceFile_some got).1) (located row got))
      custody.held
  refine ⟨⟨kept.orderly, records.records, custody.supplied, held⟩, records.keeps, ?_, .single call⟩
  have meets : (persistStorageMetadata sourceFileId storage).Meets d.session
      (fun _ s' => d.session.db.KeepsStored s'.db)
      fun _ s' => d.session.db.KeepsStored ({ s' with db := d.session.db } : Session).db := by
    refine (persistStorageMetadata_meets d.session sourceFileId storage).mono (fun _ s' persisted => ?_) fun _ _ _ => .refl _
    subst persisted
    intro other row got s3
    refine ⟨_, (Database.getSourceFile_updateSourceFile fun row => (mergeStorageMetadata_same storage row).1).trans
      (by rw [got]; rfl), ?_⟩
    dsimp only
    split
    · rename_i same
      have sameId := (getSourceFile_some got).2
      rw [← same, sameId] at located
      exact mergeStorageMetadata_keepsS3 (custody.held row (getSourceFile_some got).1) s3 (located row got)
    · exact s3
  exact (meets_atomically meets).ends

end Custody

end TaxiPipeline
