import Mathlib.Data.List.Sort
import Mathlib.Data.Set.Function
import TaxiPipeline.Model.StorageService
import TaxiPipeline.Storage.Durable

namespace TaxiPipeline

open ObjectStore Stateful StorageAction

/-- What a `store` that may succeed finds: the registered file, its key and no object in its way. -/
structure StorageSetup.Stores (setup : StorageSetup) (bucket : S3Bucket) (metadata : SourceFileMetadata)
    (content : Bytes) (key : String) : Prop where
  hashed : setup.readers.sha256 content = metadata.checksumSha256
  size : (content.length : Int) = metadata.fileSizeBytes
  keyed : s3Key metadata = .ok key
  free : ∀ object : S3Object, bucket.latest key = some object → object.Matches metadata

section Store

variable {setup : StorageSetup} {bucket : S3Bucket} {metadata : SourceFileMetadata} {content : Bytes}
  {file : Option Bytes} {key : String} {now : Timestamp}

theorem StorageSetup.Stores.store (stores : setup.Stores bucket metadata content key) (now : Timestamp) :
    ∃ (object : S3Object) (bucket' : S3Bucket),
      setup.store now metadata (some content) bucket = (.ok (setup.result key object.id now), bucket') ∧
        bucket'.latest key = some object ∧ object.Matches metadata ∧
        ((bucket' = bucket ∧ bucket.latest key = some object) ∨
          bucket' = bucket.put setup.versionIds key content (objectMetadata metadata) ∧
            object.body = content ∧ object.id = setup.versionIds bucket.length) := by
  cases found : bucket.latest key with
  | some object =>
    have matched := stores.free object found
    exact ⟨object, bucket, store_found setup now stores.hashed stores.keyed found matched, found, matched,
      .inl ⟨rfl, rfl⟩⟩
  | none =>
    have verified : verifyLocal setup.readers (some content) metadata.checksumSha256 = .ok content :=
      verifyLocal_ok.mpr ⟨rfl, stores.hashed⟩
    have uploaded : S3Object.Matches ⟨key, content, objectMetadata metadata, setup.versionIds bucket.length⟩
        metadata := ⟨stores.size, objectMetadata_lookup metadata⟩
    refine ⟨_, _, ?_, Bucket.latest_put_self, uploaded, .inr ⟨rfl, rfl, rfl⟩⟩
    simp only [StorageSetup.store, Attempt.bind_apply, Attempt.lift_apply, verified, stores.keyed, headOrNone,
      found, StorageSetup.putObject, headObject, Bucket.latest_put_self, verifyHead_ok.mpr uploaded,
      Attempt.pure_apply]

end Store

/-- The registered versions of resolved sources and the landing files, whose contents do not collide. -/
structure Deployment.Registers (d : Deployment) (setup : StorageSetup) (contents : Set Bytes) : Prop where
  versions : ∀ row ∈ d.session.db.sourceFiles, ∃ source content, Resolved source ∧ content ∈ contents ∧
    (metadataFromRecord row).Describes source ∧ row.checksumSha256 = setup.readers.sha256 content ∧
    row.fileSizeBytes = content.length
  distinct : d.session.db.index.Nodup
  files : ∀ path content, d.landing.files path = some content → content ∈ contents
  collisionFree : Set.InjOn setup.readers.sha256 contents

/-- The bucket name and the version ids are texts that the database stores. -/
structure Deployment.Available (d : Deployment) (setup : StorageSetup) : Prop where
  named : storable setup.bucket = true
  assigned : ∀ n, (setup.versionIds n).all storable = true
  existing : ∀ object ∈ d.bucket, object.id.all storable = true

/-- The object is the upload of the row's version. -/
def S3Object.Holds (object : S3Object) (setup : StorageSetup) (row : SourceFile) : Prop :=
  object.Matches (metadataFromRecord row) ∧ setup.readers.sha256 object.body = row.checksumSha256

/-- No object under the key of a row is another than its version's. -/
def Deployment.NoConflict (d : Deployment) (setup : StorageSetup) (rows : List SourceFile) : Prop :=
  ∀ row ∈ rows, ∀ key object, s3Key (metadataFromRecord row) = .ok key → d.bucket.latest key = some object →
    S3Object.Holds object setup row

/-- What the landing path of a row holds. -/
def Deployment.LandingHolds (d : Deployment) (row : SourceFile) (content : Bytes) : Prop :=
  d.landing.file row.landingPath = .ok (some content)

/-- After a result has been persisted. -/
def Deployment.recording (d : Deployment) (sourceFileId : Nat) (storage : StorageResult) : Deployment :=
  { d with session.db := d.session.db.updateSourceFile sourceFileId (mergeStorageMetadata storage) }

/-- The row records its URI, and something is stored there. -/
def Deployment.Records (d : Deployment) (setup : StorageSetup) (row : SourceFile) : Prop :=
  ∃ key recorded, s3Key (metadataFromRecord row) = .ok key ∧
    d.session.db.getSourceFile row.sourceFileId = some recorded ∧ recorded.storageBackend = "s3" ∧
    recorded.storageUri = some (setup.uri key) ∧ (d.bucket.latest key).isSome

/-- The version's object is stored, and its row records it. -/
def Deployment.Synced (d : Deployment) (setup : StorageSetup) (row : SourceFile) : Prop :=
  ∃ key recorded object, s3Key (metadataFromRecord row) = .ok key ∧
    d.session.db.getSourceFile row.sourceFileId = some recorded ∧ recorded.storageBackend = "s3" ∧
    recorded.storageUri = some (setup.uri key) ∧ d.bucket.latest key = some object ∧ S3Object.Holds object setup row

section Sync

variable {setup : StorageSetup} {d d' : Deployment} {contents : Set Bytes} {row : SourceFile} {now : Timestamp}

theorem persist_fits {storage : StorageResult} (got : d.session.db.getSourceFile row.sourceFileId = some row)
    (fits : (mergeStorageMetadata storage row).storageFits = true) :
    inTransaction (persistStorageMetadata row.sourceFileId storage) d =
      (.ok (), d.recording row.sourceFileId storage) := by
  have persisted : persistStorageMetadata row.sourceFileId storage d.session =
      (.ok (), (d.recording row.sourceFileId storage).session) := by
    simp only [persistStorageMetadata, Attempt.bind_apply, Transaction.database, got, fits, if_true,
      Transaction.update, Deployment.recording]
  simp only [inTransaction, Transaction.atomically, persisted]
  rfl

theorem S3Object.storable_result (row : SourceFile) (now : Timestamp) {object : S3Object} {key : String}
    (named : storable setup.bucket = true) (keyStorable : storable key = true) (version : object.id.all storable = true) :
    (mergeStorageMetadata (setup.result key object.id now) row).storageFits = true := by
  have texts : storable "s3://" = true ∧ storable "/" = true ∧ storable "s3" = true := by decide
  rw [mergeStorageMetadata_s3 rfl]
  simp only [SourceFile.storageFits, SourceFile.withStorage, StorageSetup.result, Option.all_some,
    StorageSetup.uri, storable_append, texts, named, keyStorable, version, Bool.and_self]

theorem syncSource_synced (now : Timestamp) {content : Bytes} {key : String}
    (got : d.session.db.getSourceFile row.sourceFileId = some row) (holds : d.LandingHolds row content)
    (stores : setup.Stores d.bucket (metadataFromRecord row) content key) (available : d.Available setup)
    (keyStorable : storable key = true) :
    ∃ (result : StorageResult) (object : S3Object) (bucket : S3Bucket),
      syncSource setup .s3Landing now row.sourceFileId d =
        (.ok result, ({ d with bucket := bucket } : Deployment).recording row.sourceFileId result) ∧
      result = setup.result key object.id now ∧ bucket.latest key = some object ∧
      (bucket = d.bucket ∨ bucket =
        d.bucket.put setup.versionIds key content (objectMetadata (metadataFromRecord row))) ∧
      ∀ version ∈ bucket, version.id.all storable = true := by
  obtain ⟨object, bucket, stored, found, matched, before⟩ := stores.store now
  have ids : ∀ version ∈ bucket, version.id.all storable = true := by
    rcases before with ⟨rfl, -⟩ | ⟨rfl, -⟩
    · exact available.existing
    · intro version member
      rcases Bucket.mem_put.mp member with rfl | old
      · exact available.assigned _
      · exact available.existing version old
  have fits := S3Object.storable_result row now available.named keyStorable
    (ids object (Bucket.latest_some found).1)
  refine ⟨_, object, bucket, ?_, rfl, found, before.imp (·.1) (·.1), ids⟩
  have file : d.landing.file (metadataFromRecord row).landingPath = .ok (some content) := holds
  have persisted := persist_fits (d := { d with bucket := bucket }) got fits
  simp only [syncSource, Attempt.bind_apply, requireS3_s3, getSource_got got, deployment, Attempt.lift_apply, file,
    onBucket_apply, stored, persisted, Attempt.pure_apply]

theorem recording_got {storage : StorageResult} (backend : storage.backend = "s3") (sourceFileId other : Nat) :
    (d.recording other storage).session.db.getSourceFile sourceFileId =
      (d.session.db.getSourceFile sourceFileId).map fun row =>
        if sourceFileId = other then row.withStorage storage else row := by
  have keeps : ∀ row, (mergeStorageMetadata storage row).sourceFileId = row.sourceFileId :=
    fun row => (mergeStorageMetadata_same storage row).1
  unfold Deployment.recording
  rw [Database.getSourceFile_updateSourceFile keeps]
  cases found : d.session.db.getSourceFile sourceFileId with
  | none => rfl
  | some row => rw [Option.map_some, Option.map_some, (getSourceFile_some found).2, mergeStorageMetadata_s3 backend]

end Sync

/-- What syncs leave of the deployment that they began with. -/
structure Deployment.Progress (d₀ d : Deployment) (setup : StorageSetup) : Prop where
  landing : d.landing = d₀.landing
  rows : ∀ row ∈ d₀.session.db.sourceFiles, ∃ current,
    d.session.db.getSourceFile row.sourceFileId = some current ∧ current.withoutStorage = row.withoutStorage
  free : d.NoConflict setup d₀.session.db.sourceFiles
  available : d.Available setup

section Loop

variable {setup : StorageSetup} {d₀ d : Deployment} {contents : Set Bytes} {row : SourceFile} {content : Bytes}
  {now : Timestamp} {clock : Nat → Timestamp}

theorem Deployment.Registers.got (registers : d.Registers setup contents) (member : row ∈ d.session.db.sourceFiles) :
    d.session.db.getSourceFile row.sourceFileId = some row :=
  Database.getSourceFile_of_mem registers.distinct member

theorem Deployment.Registers.start (registers : d.Registers setup contents) (available : d.Available setup)
    (free : d.NoConflict setup d.session.db.sourceFiles) : d.Progress d setup where
  landing := rfl
  rows := fun row member => ⟨row, registers.got member, rfl⟩
  free := free
  available := available

theorem Deployment.Registers.version (registers : d.Registers setup contents)
    (member : row ∈ d.session.db.sourceFiles) (holds : d.LandingHolds row content)
    (hashed : setup.readers.sha256 content = row.checksumSha256) :
    ∃ source, Resolved source ∧ content ∈ contents ∧ (metadataFromRecord row).Describes source ∧
      row.fileSizeBytes = content.length ∧
      s3Key (metadataFromRecord row) = .ok (source.versionKey row.checksumSha256) := by
  obtain ⟨source, registered, resolved, known, described, checksum, size⟩ := registers.versions row member
  have file := Landing.file_resolved resolved d.landing
  rw [← described.landing] at file
  have there : content ∈ contents := registers.files _ _ (Except.ok.inj (file.symm.trans holds))
  have same := registers.collisionFree known there (checksum.symm.trans hashed.symm)
  subst same
  exact ⟨source, resolved, known, described, size, s3Key_resolved resolved described⟩

theorem Deployment.Registers.uploads (registers : d.Registers setup contents)
    (member : row ∈ d.session.db.sourceFiles) (holds : d.LandingHolds row content)
    (hashed : setup.readers.sha256 content = row.checksumSha256) {other : SourceFile}
    (otherMember : other ∈ d.session.db.sourceFiles) {key : String}
    (keyed : s3Key (metadataFromRecord row) = .ok key) (otherKeyed : s3Key (metadataFromRecord other) = .ok key)
    (versionId : Option String) :
    S3Object.Holds ⟨key, content, objectMetadata (metadataFromRecord row), versionId⟩ setup other := by
  obtain ⟨source, resolved, known, described, size, ownKey⟩ := registers.version member holds hashed
  obtain ⟨source', registered, resolved', known', described', checksum', size'⟩ :=
    registers.versions other otherMember
  have otherKey := s3Key_resolved resolved' described'
  have keys : source.versionKey row.checksumSha256 = source'.versionKey other.checksumSha256 :=
    Except.ok.inj ((ownKey.symm.trans keyed).trans (otherKeyed.symm.trans otherKey))
  obtain ⟨partition, checksum⟩ := versionKey_injective resolved resolved' keys
  have same := registers.collisionFree known known' (hashed.trans (checksum.trans checksum'))
  obtain ⟨dataset, -⟩ := resolved.dataset_of_partition resolved' partition
  obtain ⟨hash, key', name⟩ := objectMetadata_lookup (metadataFromRecord row)
  refine ⟨⟨?_, ?_, ?_, ?_⟩, hashed.trans checksum⟩
  · show (content.length : Int) = other.fileSizeBytes
    rw [size', same]
  · rw [hash]
    exact congrArg (fun digest => some (hexdigest digest)) checksum
  · rw [key', described.partition, described'.partition, partition]
  · rw [name, described.dataset, described'.dataset, dataset]

/-- A sync of a version whose file is there goes through, and takes nothing back. -/
theorem Deployment.Progress.sync (progress : d₀.Progress d setup) (registers : d₀.Registers setup contents)
    (member : row ∈ d₀.session.db.sourceFiles) (holds : d₀.LandingHolds row content)
    (hashed : setup.readers.sha256 content = row.checksumSha256) (now : Timestamp) :
    ∃ result d', syncSource setup .s3Landing now row.sourceFileId d = (.ok result, d') ∧
      d₀.Progress d' setup ∧ d'.Records setup row ∧
      ∀ other ∈ d₀.session.db.sourceFiles, d.Records setup other → d'.Records setup other := by
  obtain ⟨source, resolved, known, described, size, keyed⟩ := registers.version member holds hashed
  obtain ⟨current, got, same⟩ := progress.rows row member
  have record := metadataFromRecord_same same
  obtain ⟨currentId, currentLanding, -⟩ := sameVersion same
  have stores : setup.Stores d.bucket (metadataFromRecord current) content (source.versionKey row.checksumSha256) := by
    rw [record]
    exact ⟨hashed, size.symm, keyed, fun object found => (progress.free row member _ object keyed found).1⟩
  have file : d.LandingHolds current content := by
    unfold Deployment.LandingHolds
    rw [progress.landing, currentLanding]
    exact holds
  obtain ⟨result, object, bucket, synced, rfl, found, before, ids⟩ := syncSource_synced now
    (currentId ▸ got) file stores progress.available (versionKey_storable resolved _)
  rw [currentId] at synced
  refine ⟨_, _, synced, ⟨progress.landing, fun other inRows => ?_, fun other inRows key' object' keyed' found' => ?_,
    ⟨progress.available.named, progress.available.assigned, ids⟩⟩, ?_, fun other inRows recorded => ?_⟩
  · obtain ⟨before', gotOther, sameOther⟩ := progress.rows other inRows
    refine ⟨_, (recording_got rfl _ _).trans (congrArg _ gotOther), ?_⟩
    split
    · exact sameOther
    · exact sameOther
  · have foundIn : bucket.latest key' = some object' := found'
    rcases before with rfl | uploaded
    · exact progress.free other inRows key' object' keyed' foundIn
    · rw [uploaded] at foundIn
      by_cases there : source.versionKey row.checksumSha256 = key'
      · subst there
        rw [Bucket.latest_put_self] at foundIn
        cases foundIn
        rw [record]
        exact registers.uploads member holds hashed inRows keyed keyed' _
      · rw [Bucket.latest_put_other there] at foundIn
        exact progress.free other inRows key' object' keyed' foundIn
  · refine ⟨_, _, keyed, (recording_got rfl _ _).trans (congrArg _ got), ?_, ?_, ?_⟩
    · dsimp only
      rw [if_pos rfl]
      rfl
    · dsimp only
      rw [if_pos rfl]
      rfl
    · exact Option.isSome_iff_exists.mpr ⟨object, found⟩
  · obtain ⟨key', before', keyed', gotOther, backend, uri, there⟩ := recorded
    refine ⟨key', _, keyed', (recording_got rfl _ _).trans (congrArg _ gotOther), ?_, ?_, ?_⟩
    · dsimp only
      split
      · rfl
      · exact backend
    · dsimp only
      split
      · rename_i again
        -- the row itself, which has one key
        have gotRow := registers.got member
        rw [← again, registers.got inRows] at gotRow
        cases gotRow
        rw [Except.ok.inj (keyed'.symm.trans keyed)]
        rfl
      · exact uri
    · rcases before with rfl | uploaded
      · exact there
      · show (bucket.latest key').isSome = true
        rw [uploaded]
        exact Bucket.latest_put_isSome there

theorem Deployment.Progress.sync_stops (progress : d₀.Progress d setup)
    (member : row ∈ d₀.session.db.sourceFiles) (holds : d₀.LandingHolds row content)
    (apart : setup.readers.sha256 content ≠ row.checksumSha256) (now : Timestamp) :
    syncSource setup .s3Landing now row.sourceFileId d = (.error localMismatch, d) := by
  obtain ⟨current, got, same⟩ := progress.rows row member
  have record := metadataFromRecord_same same
  have file : d.landing.file (metadataFromRecord current).landingPath = .ok (some content) := by
    rw [record, progress.landing]
    exact holds
  have refused : verifyLocal setup.readers (some content) (metadataFromRecord current).checksumSha256 =
      .error localMismatch := by
    rw [record]
    exact if_neg apart
  simp only [syncSource, Attempt.bind_apply, requireS3_s3, getSource_got got, deployment, Attempt.lift_apply, file,
    onBucket_apply, StorageSetup.store, refused]

theorem Deployment.Progress.synced (progress : d₀.Progress d setup) (member : row ∈ d₀.session.db.sourceFiles)
    (recorded : d.Records setup row) : d.Synced setup row := by
  obtain ⟨key, current, keyed, got, backend, uri, there⟩ := recorded
  obtain ⟨object, found⟩ := Option.isSome_iff_exists.mp there
  exact ⟨key, current, object, keyed, got, backend, uri, found, progress.free row member key object keyed found⟩

/-- The landing path of the row holds no file of another version. -/
def Deployment.Current (d : Deployment) (setup : StorageSetup) (row : SourceFile) : Prop :=
  ∀ content, d.LandingHolds row content → setup.readers.sha256 content = row.checksumSha256

/-- What the loop of `sync_all_sources` has done for the rows behind it. -/
structure Deployment.SyncedUpTo (d₀ d : Deployment) (setup : StorageSetup) (done : List SourceFile) : Prop where
  registered : ∀ row ∈ done, row ∈ d₀.session.db.sourceFiles
  progress : d₀.Progress d setup
  current : ∀ row ∈ done, d₀.Current setup row
  records : ∀ row ∈ done, ∀ content, d₀.LandingHolds row content → d.Records setup row

/-- One turn of the loop adds its row, or stops at a file of another version. -/
theorem Deployment.SyncedUpTo.turn {done : List SourceFile} {results : List (Nat × StorageResult)}
    (syncedUpTo : d₀.SyncedUpTo d setup done) (registers : d₀.Registers setup contents)
    (member : row ∈ d₀.session.db.sourceFiles) :
    (syncIfPresent setup .s3Landing clock results row).Meets d (fun _ d' => d₀.SyncedUpTo d' setup (done ++ [row]))
      fun _ _ => ¬ d₀.Current setup row := by
  obtain ⟨source, -, resolved, -, described, -⟩ := registers.versions row member
  have path : d₀.landing.file row.landingPath =
      .ok (d₀.landing.files (resolvePath d₀.landing.root source.landingPath)) := by
    rw [← Landing.file_resolved resolved, ← described.landing]
    rfl
  have landing := syncedUpTo.progress.landing
  have registered : ∀ other ∈ done ++ [row], other ∈ d₀.session.db.sourceFiles := by
    intro other inDone
    rcases List.mem_append.mp inDone with old | new
    · exact syncedUpTo.registered other old
    · cases List.mem_singleton.mp new
      exact member
  cases there : d₀.landing.files (resolvePath d₀.landing.root source.landingPath) with
  | none =>
    rw [there] at path
    have absent : ∀ content, ¬ d₀.LandingHolds row content := fun content holds => by
      cases path.symm.trans holds
    have passes : syncIfPresent setup .s3Landing clock results row d = (.ok results, d) := by
      simp only [syncIfPresent, Attempt.bind_apply, deployment, Attempt.lift_apply, landing, path, Attempt.pure_apply]
    refine .of_ok passes ⟨registered, syncedUpTo.progress, fun other inDone => ?_, fun other inDone content holds => ?_⟩
    · rcases List.mem_append.mp inDone with old | new
      · exact syncedUpTo.current other old
      · cases List.mem_singleton.mp new
        exact fun content holds => absurd holds (absent content)
    · rcases List.mem_append.mp inDone with old | new
      · exact syncedUpTo.records other old content holds
      · cases List.mem_singleton.mp new
        exact absurd holds (absent content)
  | some content =>
    rw [there] at path
    by_cases hashed : setup.readers.sha256 content = row.checksumSha256
    · obtain ⟨result, d', synced, progress, recorded, kept⟩ :=
        syncedUpTo.progress.sync registers member path hashed (clock row.sourceFileId)
      have turns : syncIfPresent setup .s3Landing clock results row d =
          (.ok (results ++ [(row.sourceFileId, result)]), d') := by
        simp only [syncIfPresent, Attempt.bind_apply, deployment, Attempt.lift_apply, landing, path, synced,
          Attempt.pure_apply]
      refine .of_ok turns ⟨registered, progress, fun other inDone => ?_, fun other inDone found holds => ?_⟩
      · rcases List.mem_append.mp inDone with old | new
        · exact syncedUpTo.current other old
        · cases List.mem_singleton.mp new
          intro found holds
          cases path.symm.trans holds
          exact hashed
      · rcases List.mem_append.mp inDone with old | new
        · exact kept other (syncedUpTo.registered other old) (syncedUpTo.records other old found holds)
        · cases List.mem_singleton.mp new
          exact recorded
    · have stops : syncIfPresent setup .s3Landing clock results row d = (.error localMismatch, d) := by
        simp only [syncIfPresent, Attempt.bind_apply, deployment, Attempt.lift_apply, landing, path,
          syncedUpTo.progress.sync_stops member path hashed]
      exact .of_error stops fun current => hashed (current content path)

theorem Deployment.Registers.syncAll (registers : d.Registers setup contents) (clock : Nat → Timestamp)
    (available : d.Available setup)
    (free : d.NoConflict setup d.session.db.sourceFiles) :
    (syncAllSources setup .s3Landing clock).Meets d
      (fun _ d' => d.SyncedUpTo d' setup d.session.db.sourcesById)
      fun _ _ => ¬ ∀ row ∈ d.session.db.sourceFiles, d.Current setup row := by
  have start : d.SyncedUpTo d setup [] := ⟨by simp, registers.start available free, by simp, by simp⟩
  have turns : ∀ done row results d', row ∈ d.session.db.sourcesById → d.SyncedUpTo d' setup done →
      (syncIfPresent setup .s3Landing clock results row).Meets d'
        (fun _ after => d.SyncedUpTo after setup (done ++ [row]))
        fun _ _ => ¬ ∀ row ∈ d.session.db.sourceFiles, d.Current setup row := by
    intro done row results d' member syncedUpTo
    have inRows := List.mem_mergeSort.mp member
    refine (syncedUpTo.turn registers inRows).mono (fun _ _ => id) fun _ _ apart all => ?_
    exact apart (all row inRows)
  exact .bind (Attempt.Meets.foldlM turns start)

/-- `sync_all_sources` syncs every version whose file is there if and only if no file is another version's. -/
theorem syncAllSources_syncs_iff (clock : Nat → Timestamp) (registers : d.Registers setup contents)
    (available : d.Available setup) (free : d.NoConflict setup d.session.db.sourceFiles) :
    (∃ results d', syncAllSources setup .s3Landing clock d = (.ok results, d') ∧
      ∀ row ∈ d.session.db.sourceFiles, ∀ content, d.LandingHolds row content →
        setup.readers.sha256 content = row.checksumSha256 → d'.Synced setup row) ↔
      ∀ row ∈ d.session.db.sourceFiles, d.Current setup row := by
  have run := registers.syncAll clock available free
  have listed : ∀ row ∈ d.session.db.sourceFiles, row ∈ d.session.db.sourcesById :=
    fun row => List.mem_mergeSort.mpr
  constructor
  · rintro ⟨results, d', finished, -⟩ row member
    exact (run.ok finished).current row (listed row member)
  · intro current
    rcases finished : syncAllSources setup .s3Landing clock d with ⟨result, d'⟩
    cases result with
    | error error => exact absurd current (run.error finished)
    | ok results =>
      have syncedUpTo := run.ok finished
      refine ⟨results, d', rfl, fun row member content holds hashed => ?_⟩
      exact syncedUpTo.progress.synced member (syncedUpTo.records row (listed row member) content holds)

end Loop

def earlierZones : SourceFile :=
  newSourceFile 1 .loaded 0 { zoneMetadata with checksumSha256 := 2, fileSizeBytes := 2 }

def laterZones : SourceFile := newSourceFile 2 .revisionDetected 0 zoneMetadata

/-- The zone lookup after its file was replaced, with the replaced version in the registry or without. -/
def replacedZones (withEarlier : Bool) : Deployment where
  session := ⟨{ Database.empty with
    sourceFiles := (if withEarlier then [earlierZones] else []) ++ [laterZones] }, Sequences.start⟩
  bucket := []
  landing := zoneLanding

def zoneContents : Set Bytes := {[1, 2], [1, 2, 3]}

theorem replacedZones_registers (withEarlier : Bool) :
    (replacedZones withEarlier).Registers zoneStorage zoneContents where
  versions := by
    intro row member
    have resolved : Resolved taxiZoneSource := .zones
    have cases : row = earlierZones ∨ row = laterZones := by
      cases withEarlier
      · exact .inr (List.mem_singleton.mp member)
      · exact List.mem_pair.mp member
    rcases cases with rfl | rfl
    · exact ⟨_, [1, 2], resolved, .inl rfl, ⟨rfl, rfl, rfl, rfl, rfl, rfl⟩, rfl, rfl⟩
    · exact ⟨_, [1, 2, 3], resolved, .inr rfl, ⟨rfl, rfl, rfl, rfl, rfl, rfl⟩, rfl, rfl⟩
  distinct := by cases withEarlier <;> decide
  files := by
    intro path content found
    simp only [replacedZones, zoneLanding] at found
    split at found
    · cases found
      exact .inr rfl
    · cases found
  collisionFree := by
    intro left inLeft right inRight same
    rcases inLeft with rfl | rfl <;> rcases inRight with rfl | rfl
    · rfl
    · exact absurd same (by decide)
    · exact absurd same (by decide)
    · rfl

theorem replacedZones_available (withEarlier : Bool) : (replacedZones withEarlier).Available zoneStorage where
  named := by decide
  assigned := by
    intro n
    have digits := padded_storable 0 n
    rw [padded, Nat.zero_sub, List.replicate_zero, List.nil_append, String.ofList_toList] at digits
    exact digits
  existing := by simp [replacedZones]

theorem replacedZones_noConflict (withEarlier : Bool) (rows : List SourceFile) :
    (replacedZones withEarlier).NoConflict zoneStorage rows := by
  intro row member key object keyed found
  cases found

theorem zoneLookup_synced :
    ∃ results d', syncAllSources zoneStorage .s3Landing (fun _ => 0) (replacedZones false) = (.ok results, d') ∧
      d'.Synced zoneStorage laterZones := by
  have current : ∀ row ∈ (replacedZones false).session.db.sourceFiles,
      (replacedZones false).Current zoneStorage row := by
    intro row member content holds
    cases List.mem_singleton.mp member
    cases holds
    rfl
  obtain ⟨results, d', finished, synced⟩ := (syncAllSources_syncs_iff (fun _ => 0) (replacedZones_registers false)
    (replacedZones_available false) (replacedZones_noConflict false _)).mpr current
  exact ⟨results, d', finished, synced _ (List.mem_singleton.mpr rfl) [1, 2, 3] rfl rfl⟩

/-- The file of the later version stops the loop at the earlier one. -/
theorem replacedZones_not_synced :
    (replacedZones true).Registers zoneStorage zoneContents ∧ (replacedZones true).Available zoneStorage ∧
      (replacedZones true).NoConflict zoneStorage (replacedZones true).session.db.sourceFiles ∧
      ∃ row ∈ (replacedZones true).session.db.sourceFiles, ∃ content, (replacedZones true).LandingHolds row content ∧
        zoneStorage.readers.sha256 content = row.checksumSha256 ∧
        (syncAllSources zoneStorage .s3Landing (fun _ => 0) (replacedZones true)).1 = .error localMismatch ∧
        ¬ (syncAllSources zoneStorage .s3Landing (fun _ => 0) (replacedZones true)).2.Synced zoneStorage row := by
  have listed : (replacedZones true).session.db.sourcesById = [earlierZones, laterZones] :=
    List.mergeSort_of_pairwise (by decide)
  have holds : (replacedZones true).LandingHolds earlierZones [1, 2, 3] := rfl
  have start := (replacedZones_registers true).start (replacedZones_available true) (replacedZones_noConflict true _)
  have stops : syncSource zoneStorage .s3Landing 0 earlierZones.sourceFileId (replacedZones true) =
      (.error localMismatch, replacedZones true) :=
    start.sync_stops List.mem_cons_self holds (by decide) 0
  have path : (replacedZones true).landing.file earlierZones.landingPath = .ok (some [1, 2, 3]) := holds
  have run : syncAllSources zoneStorage .s3Landing (fun _ => 0) (replacedZones true) =
      (.error localMismatch, replacedZones true) := by
    simp only [syncAllSources, Attempt.bind_apply, deployment, listed, List.foldlM_cons, syncIfPresent,
      Attempt.lift_apply, path, stops]
  rw [run]
  refine ⟨replacedZones_registers true, replacedZones_available true, replacedZones_noConflict true _,
    laterZones, by simp [replacedZones], [1, 2, 3], rfl, rfl, rfl, ?_⟩
  rintro ⟨key, recorded, object, -, got, backend, -⟩
  cases got
  exact absurd backend (by decide)

end TaxiPipeline
