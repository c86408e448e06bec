import TaxiPipeline.Lifecycle.KnownVersions
import TaxiPipeline.Storage.Preparation
import TaxiPipeline.Storage.Restored
import TaxiPipeline.Storage.SyncAll

namespace TaxiPipeline

open ObjectStore ReadCommitted Stateful Transaction

/-- What happens to a registry: `prepare_ingestion` and `ingest_source` calls on inspected metadata, which may
    overlap and meet faults, or one `persist_storage_metadata` of a result for its row. -/
inductive Session.RegistersWith (setup : StorageSetup) (contents : Set Bytes) (s : Session) : Session → Prop
  | ingestion {Client : Type} [Fintype Client] [DecidableEq Client] {requests : Client → Request}
      {schedule : List (Client × Event)} {t : Platform Client}
      (inspected : ∀ i, (requests i).metadata.Inspected setup.readers contents)
      (ran : (ingestion requests).run (.initial s.db s.sequences .idle) schedule = some t)
      (ended : ∀ i, (t.phase i).ended = true) : s.RegistersWith setup contents ⟨t.committed, t.external⟩
  | persistStorageMetadata (sourceFileId : Nat) {storage : StorageResult}
      (concerns : ∀ row, s.db.getSourceFile sourceFileId = some row → storage.Concerns setup row) :
      s.RegistersWith setup contents (atomically (persistStorageMetadata sourceFileId storage) s).2

/-- A registry that has come of any such calls, one after another. -/
abbrev Session.Registers (setup : StorageSetup) (contents : Set Bytes) : Session → Session → Prop :=
  Relation.ReflTransGen (Session.RegistersWith setup contents)

/-- What holds of every such registry. -/
structure Session.Registered (s : Session) (setup : StorageSetup) (contents : Set Bytes) : Prop where
  consistent : s.Consistent
  records : s.db.Records setup.readers contents
  recorded : ∀ row ∈ s.db.sourceFiles, row.Recorded setup

section Registry

variable {setup : StorageSetup} {contents : Set Bytes} {s s' : Session} {db db' : Database}
  {metadata : SourceFileMetadata} {row : SourceFile} {storage : StorageResult}

theorem registered_start : Session.start.Registered setup contents where
  consistent := consistent_start
  records := fun _ member => nomatch member
  recorded := fun _ member => nomatch member

theorem CommitStep.recorded (step : CommitStep metadata db db')
    (recorded : ∀ row ∈ db.sourceFiles, row.Recorded setup) : ∀ row ∈ db'.sourceFiles, row.Recorded setup := by
  cases step with
  | nothing => exact recorded
  | registered fits checks chosen =>
    intro row member
    rcases List.mem_append.mp member with old | new
    · exact recorded row old
    · rw [List.mem_singleton.mp new]
      exact .inl ⟨rfl, rfl, rfl⟩
  | started held shown => exact recorded
  | skipped held shown => exact recorded
  | loaded held got ofSource running counted =>
    intro row' member
    obtain ⟨row, inFiles, rfl⟩ := List.mem_map.mp member
    split
    · exact recorded row inFiles
    · exact recorded row inFiles
  | failed got running => exact recorded

theorem mergeStorageMetadata_recorded (recorded : row.Recorded setup) (concerns : storage.Concerns setup row) :
    (mergeStorageMetadata storage row).Recorded setup := by
  unfold mergeStorageMetadata
  split
  · exact recorded
  · exact concerns

theorem ingestion_registered {Client : Type} [Fintype Client] [DecidableEq Client] {requests : Client → Request}
    {schedule : List (Client × Event)} {t : Platform Client} (registered : s.Registered setup contents)
    (inspected : ∀ i, (requests i).metadata.Inspected setup.readers contents)
    (ran : (ingestion requests).run (.initial s.db s.sequences .idle) schedule = some t) :
    Session.Registered ⟨t.committed, t.external⟩ setup contents := by
  have kept : Coherent requests t ∧ ∀ row ∈ t.committed.sourceFiles, row.Recorded setup := by
    refine Program.run_preserves (I := fun t => Coherent requests t ∧
      ∀ row ∈ t.committed.sourceFiles, row.Recorded setup) ?_
      ⟨coherent_initial registered.consistent, registered.recorded⟩ ran
    rintro t i e t' ⟨coherent, recorded⟩ stepped
    exact ⟨coherent.step stepped, (coherent.commitStep stepped).recorded recorded⟩
  obtain ⟨coherent, recorded⟩ := kept
  exact ⟨⟨coherent.distinct.committed, coherent.ranged.committed, coherent.positive⟩,
    (ingestion_keepsRecords registered.consistent registered.records inspected ran).records, recorded⟩

theorem persistStorageMetadata_registered (registered : s.Registered setup contents) (sourceFileId : Nat)
    (concerns : ∀ row, s.db.getSourceFile sourceFileId = some row → storage.Concerns setup row) :
    (atomically (persistStorageMetadata sourceFileId storage) s).2.Registered setup contents := by
  have records := (persistStorageMetadata_keepsRecords sourceFileId storage registered.records).records
  have rest : (atomically (persistStorageMetadata sourceFileId storage) s).2.Consistent ∧
      ∀ row ∈ (atomically (persistStorageMetadata sourceFileId storage) s).2.db.sourceFiles, row.Recorded setup := by
    refine @Attempt.Meets.ends _ _ _ _ _ (fun s' => s'.Consistent ∧ ∀ row ∈ s'.db.sourceFiles, row.Recorded setup)
      (meets_atomically ((persistStorageMetadata_meets s sourceFileId storage).mono
        (fun _ s' persisted => ?_) fun _ s' same => ?_))
    · subst persisted
      have index := s.db.updateSourceFile_index sourceFileId (mergeStorageMetadata_keys storage)
      refine ⟨registered.consistent.grown index (.refl _), fun row' member => ?_⟩
      obtain ⟨row, inFiles, rfl⟩ := List.mem_map.mp member
      split
      · rename_i same
        have got := Database.getSourceFile_of_mem registered.consistent.nodup inFiles
        exact mergeStorageMetadata_recorded (registered.recorded row inFiles) (concerns row (same ▸ got))
      · exact registered.recorded row inFiles
    · subst same
      exact ⟨registered.consistent, registered.recorded⟩
  exact ⟨rest.1, records, rest.2⟩

theorem Session.RegistersWith.registered (calls : s.RegistersWith setup contents s')
    (registered : s.Registered setup contents) : s'.Registered setup contents ∧ s.db.KeepsRecords s'.db := by
  cases calls with
  | ingestion inspected ran ended =>
    exact ⟨ingestion_registered registered inspected ran,
      (ingestion_keepsRecords registered.consistent registered.records inspected ran).keeps⟩
  | persistStorageMetadata sourceFileId concerns =>
    exact ⟨persistStorageMetadata_registered registered sourceFileId concerns,
      (persistStorageMetadata_keepsRecords sourceFileId _ registered.records).keeps⟩

/-- Whatever the calls, the registry stays in order and its rows go on to record the same versions. -/
theorem Session.Registers.registered (calls : Session.Registers setup contents s s')
    (registered : s.Registered setup contents) : s'.Registered setup contents ∧ s.db.KeepsRecords s'.db := by
  induction calls with
  | refl => exact ⟨registered, .refl _⟩
  | tail before next ih =>
    have after := Session.RegistersWith.registered next ih.1
    exact ⟨after.1, ih.2.trans after.2⟩

end Registry

/-- The object of every version that is recorded as stored is in the bucket as it was uploaded. -/
def Deployment.Intact (d : Deployment) (setup : StorageSetup) (contents : Set Bytes) : Prop :=
  ∀ row ∈ d.session.db.sourceFiles, row.storageBackend = "s3" → ∀ key, s3Key (metadataFromRecord row) = .ok key →
    ∃ object, d.bucket.latest key = some object ∧ S3Object.Holds object setup row ∧ object.body ∈ contents

section Recovery

variable {setup : StorageSetup} {contents : Set Bytes} {s later : Session} {source : SourcePartition} {row : SourceFile}
  {metadata : SourceFileMetadata}

/-- A row of a partition is the record of what an inspection of its source found. -/
theorem Session.Registered.inspected (registered : s.Registered setup contents) (resolved : Resolved source)
    (member : row ∈ s.db.sourceFiles) (partition : row.partitionKey = source.partitionKey) :
    ∃ content metadata, content ∈ contents ∧ inspectSource setup.readers source content = .ok metadata ∧
      metadataFromRecord row = metadata.recorded := by
  obtain ⟨metadata, ⟨origin, content, ofOrigin, within, inspected⟩, record⟩ := registered.records row member
  have described := (inspectSource_describes inspected).1
  have samePartition : row.partitionKey = metadata.partitionKey := congrArg SourceFileMetadata.partitionKey record
  have one : origin = source :=
    ofOrigin.eq_of_partition resolved (described.partition.symm.trans (samePartition.symm.trans partition))
  exact ⟨content, metadata, within, one ▸ inspected, record⟩

theorem Session.Registered.findExactVersion (registered : later.Registered setup contents)
    (keeps : s.db.KeepsRecords later.db) (got : s.db.getSourceFile row.sourceFileId = some row)
    (record : metadataFromRecord row = metadata.recorded) :
    ∃ version, later.db.getSourceFile row.sourceFileId = some version ∧
      metadataFromRecord version = metadata.recorded ∧ later.db.findExactVersion metadata = some version := by
  obtain ⟨version, gotVersion, same⟩ := keeps _ row got
  have isVersion := same.trans record
  have partition : version.partitionKey = metadata.partitionKey :=
    congrArg SourceFileMetadata.partitionKey isVersion
  have checksum : version.checksumSha256 = metadata.checksumSha256 :=
    congrArg SourceFileMetadata.checksumSha256 isVersion
  have member := (getSourceFile_some gotVersion).1
  refine ⟨version, gotVersion, isVersion, ?_⟩
  cases found : later.db.findExactVersion metadata with
  | none => exact absurd checksum (findExactVersion_none.mp found version member partition)
  | some other =>
    obtain ⟨inFiles, samePartition, sameChecksum⟩ := findExactVersion_some found
    rw [Database.unique_version registered.consistent.nodup inFiles member (samePartition.trans partition.symm)
      (sameChecksum.trans checksum.symm)]

theorem Session.Registered.locates (registered : s.Registered setup contents) (member : row ∈ s.db.sourceFiles)
    (backed : row.storageBackend = "s3") : setup.Locates row row.storageUri := by
  rcases registered.recorded row member with ⟨isLocal, -⟩ | ⟨-, located⟩
  · exact absurd (isLocal.symm.trans backed) (by decide)
  · exact located

theorem StorageSetup.Locates.isSome {uri : Option String} (located : setup.Locates row uri) : uri.isSome = true := by
  obtain ⟨key, -, rfl⟩ := located
  rfl

variable {around : Surroundings} {w : Workspace} {url : String} {path : Path}

/-- From the bucket comes a version that is registered in its partition, and its inspection finds what was
    registered. -/
theorem prepareSource_recovers (now : Timestamp) (named : IsBucketName setup.bucket)
    (collisionFree : Set.InjOn setup.readers.sha256 contents)
    (registered : w.deployment.session.Registered setup contents) (intact : w.deployment.Intact setup contents)
    (resolved : Resolved source) (inFiles : row ∈ w.deployment.session.db.sourceFiles)
    (ofPartition : row.partitionKey = source.partitionKey) (backed : row.storageBackend = "s3")
    (is_path : resolvePath w.deployment.landing.root source.landingPath = path)
    (missing : w.deployment.landing.files path = none) (chunked : IsChunking around.chunks)
    (unused : w.deployment.landing.files (partialPath path around.token) = none)
    (configured : around.databaseUrl = some url) (nonempty : url ≠ "") :
    ∃ version content metadata storage, version ∈ w.deployment.session.db.sourceFiles ∧
      version.partitionKey = source.partitionKey ∧ version.checksumSha256 = setup.readers.sha256 content ∧
      metadataFromRecord version = metadata.recorded ∧
      prepareSource setup .s3Landing around now source w = (.ok ⟨metadata, storage⟩, w.placed path content) := by
  have hasUri := (registered.locates inFiles backed).isSome
  obtain ⟨version, chosen, member, partition, stored⟩ := Database.recoverable_of_backed inFiles backed hasUri
  rw [ofPartition] at chosen partition
  obtain ⟨content, metadata, within, inspected, record⟩ := registered.inspected resolved member partition
  obtain ⟨described, hashed, sized⟩ := inspectSource_describes inspected
  obtain ⟨key, keyedRow, uri⟩ := registered.locates member stored
  obtain ⟨object, found, ⟨matched, bodyHashed⟩, bodyWithin⟩ := intact version member stored key keyedRow
  rw [record] at keyedRow matched
  have keyed : s3Key metadata = .ok key := keyedRow
  have checksum : version.checksumSha256 = metadata.checksumSha256 := congrArg SourceFileMetadata.checksumSha256 record
  have size : version.fileSizeBytes = metadata.fileSizeBytes := congrArg SourceFileMetadata.fileSizeBytes record
  have landing : version.landingPath = metadata.landingPath := congrArg SourceFileMetadata.landingPath record
  obtain rfl : object.body = content := by
    refine collisionFree bodyWithin within ?_
    rw [bodyHashed, checksum, hashed]
  obtain rfl : key = source.versionKey metadata.checksumSha256 :=
    Except.ok.inj (keyed.symm.trans (s3Key_resolved resolved described))
  have parsed : parseS3Uri version.storageUri = .ok (setup.bucket, source.versionKey metadata.checksumSha256) := by
    rw [uri]
    exact parseS3Uri_version named resolved _
  exact ⟨version, object.body, metadata, _, member, partition, bodyHashed.symm, record,
    prepareSource_restores chunked configured nonempty resolved chosen (landing.trans described.landing) parsed found
      (matched.1.trans size.symm) bodyHashed inspected keyed matched is_path missing unused⟩

end Recovery

/-- Recovery keeps source identity: when the file of a partition is missing that has a version in the bucket,
    `prepare_source` opens no URL and restores the bytes of a registered version; then, whatever is registered in
    between, ingesting its metadata adds no row and follows the decision for the version's status. -/
theorem recovery_keeps_identity {setup : StorageSetup} {contents : Set Bytes} {around : Surroundings} {w : Workspace}
    {source : SourcePartition} {url : String} {path : Path} (now : Timestamp) (named : IsBucketName setup.bucket)
    (collisionFree : Set.InjOn setup.readers.sha256 contents)
    (history : Session.Registers setup contents .start w.deployment.session)
    (intact : w.deployment.Intact setup contents) (resolved : Resolved source)
    (backed : ∃ row ∈ w.deployment.session.db.sourceFiles, row.partitionKey = source.partitionKey ∧
      row.storageBackend = "s3")
    (is_path : resolvePath w.deployment.landing.root source.landingPath = path)
    (missing : w.deployment.landing.files path = none) (chunked : IsChunking around.chunks)
    (unused : w.deployment.landing.files (partialPath path around.token) = none)
    (configured : around.databaseUrl = some url) (nonempty : url ≠ "") :
    ∃ row content metadata storage, row ∈ w.deployment.session.db.sourceFiles ∧
      row.partitionKey = source.partitionKey ∧ row.checksumSha256 = setup.readers.sha256 content ∧
      prepareSource setup .s3Landing around now source w = (.ok ⟨metadata, storage⟩, w.placed path content) ∧
      metadata.partitionKey = row.partitionKey ∧ metadata.checksumSha256 = row.checksumSha256 ∧
      ∀ later, Session.Registers setup contents w.deployment.session later →
        ∃ version, later.db.getSourceFile row.sourceFileId = some version ∧
          version.partitionKey = row.partitionKey ∧ version.checksumSha256 = row.checksumSha256 ∧
          (∀ file batchSize, 0 < batchSize → (Request.ingest metadata batchSize).Comes file
            (fun t => t = .alone later.db later.sequences
              ((Request.ingest metadata batchSize).afterRegistration (registrationResult version false)) [])
            (.alone later.db later.sequences .idle [])) ∧
          ∀ batchSize events t, (Request.ingest metadata batchSize).program.run
              (.alone later.db later.sequences .idle []) events = some t →
            t.committed.sourceFiles.map (·.sourceFileId) = later.db.sourceFiles.map (·.sourceFileId) ∧
              ∀ result recorded, t.phase () = .finished (.returned result) recorded →
                result.sourceFileId = version.sourceFileId ∧
                  result.statusReason = (decisionForSourceStatus version.status).skipReason := by
  obtain ⟨registered, -⟩ := Session.Registers.registered history registered_start
  obtain ⟨stored, inFiles, ofPartition, isStored⟩ := backed
  obtain ⟨row, content, metadata, storage, member, partition, hashed, record, prepared⟩ :=
    prepareSource_recovers now named collisionFree registered intact resolved inFiles ofPartition isStored is_path
      missing chunked unused configured nonempty
  refine ⟨row, content, metadata, storage, member, partition, hashed, prepared,
    (congrArg SourceFileMetadata.partitionKey record).symm,
    (congrArg SourceFileMetadata.checksumSha256 record).symm, ?_⟩
  intro later calls
  obtain ⟨laterRegistered, keeps⟩ := Session.Registers.registered calls registered
  have got := Database.getSourceFile_of_mem registered.consistent.nodup member
  obtain ⟨version, gotVersion, isVersion, known⟩ := laterRegistered.findExactVersion keeps got record
  have same : metadataFromRecord version = metadataFromRecord row := isVersion.trans record.symm
  refine ⟨version, gotVersion, congrArg SourceFileMetadata.partitionKey same,
    congrArg SourceFileMetadata.checksumSha256 same, fun file batchSize positive => comes_taking known positive, ?_⟩
  intro batchSize events t ran
  have knownRequest : later.db.findExactVersion (Request.ingest metadata batchSize).metadata = some version := known
  have taking := run_taking laterRegistered.consistent knownRequest ran
  refine ⟨taking.sources, fun result recorded ended => ?_⟩
  have takes := taking.takes
  rw [ended] at takes
  exact takes

/-- The result of the upload of the zone lookup. -/
def zoneUpload : StorageResult := zoneStorage.result (taxiZoneSource.versionKey 3) (some "0") 1

/-- The zone lookup is registered and stored, and its file is gone. -/
def lostZones (s : Session) : Workspace where
  deployment := {
    session := s
    bucket := [⟨taxiZoneSource.versionKey 3, [1, 2, 3], objectMetadata zoneMetadata, some "0"⟩]
    landing := ⟨[], fun _ => none⟩ }
  opened := []

def offline : Surroundings where
  databaseUrl := some "postgresql://taxi"
  chunks := (·.map ([·]))
  token := "x".toList
  upstream := fun _ => .error ⟨.other "URLError", "offline"⟩

theorem lostZones_intact {s : Session}
    (files : s.db.sourceFiles = [(newSourceFile 1 .ready 0 zoneMetadata).withStorage zoneUpload]) :
    (lostZones s).deployment.Intact zoneStorage {[1, 2, 3]} := by
  intro row member backend key keyed
  have isRow : row = (newSourceFile 1 .ready 0 zoneMetadata).withStorage zoneUpload :=
    List.mem_singleton.mp (files ▸ member)
  subst isRow
  obtain rfl : key = taxiZoneSource.versionKey 3 :=
    Except.ok.inj (keyed.symm.trans (s3Key_resolved .zones ⟨rfl, rfl, rfl, rfl, rfl, rfl⟩))
  have found : (lostZones s).deployment.bucket.latest (taxiZoneSource.versionKey 3) =
      some ⟨taxiZoneSource.versionKey 3, [1, 2, 3], objectMetadata zoneMetadata, some "0"⟩ :=
    List.find?_cons_of_pos (by simp)
  exact ⟨_, found, ⟨⟨rfl, objectMetadata_lookup zoneMetadata⟩, rfl⟩, rfl⟩

set_option maxRecDepth 10000 in
theorem lostZones_recovered :
    ∃ s row content metadata storage, Session.Registers zoneStorage {[1, 2, 3]} .start s ∧ row ∈ s.db.sourceFiles ∧
      row.checksumSha256 = zoneStorage.readers.sha256 content ∧
      prepareSource zoneStorage .s3Landing offline 2 taxiZoneSource (lostZones s) =
        (.ok ⟨metadata, storage⟩, (lostZones s).placed (resolvePath [] taxiZoneSource.landingPath) content) := by
  have registers : ((ingestion fun _ : Unit => .register zoneMetadata).run
      (.initial Session.start.db Session.start.sequences .idle) (List.replicate 5 ((), .next 0))).map (fun t =>
        ((t.phase ()).ended, t.committed.sourceFiles,
          (atomically (persistStorageMetadata 1 zoneUpload) ⟨t.committed, t.external⟩).2.db.sourceFiles)) =
      some (true, [newSourceFile 1 .ready 0 zoneMetadata],
        [(newSourceFile 1 .ready 0 zoneMetadata).withStorage zoneUpload]) := by decide +kernel
  obtain ⟨t, ran, same⟩ := Option.map_eq_some_iff.mp registers
  have ended : (t.phase ()).ended = true := congrArg Prod.fst same
  have first : t.committed.sourceFiles = [newSourceFile 1 .ready 0 zoneMetadata] :=
    congrArg (fun facts => facts.2.1) same
  have files := congrArg (fun facts => facts.2.2) same
  dsimp only at files
  have inspected : ∀ _ : Unit, (Request.register zoneMetadata).metadata.Inspected zoneStorage.readers {[1, 2, 3]} :=
    fun _ => ⟨taxiZoneSource, [1, 2, 3], .zones, rfl, rfl⟩
  have concerns : ∀ row, t.committed.getSourceFile 1 = some row → zoneUpload.Concerns zoneStorage row := by
    intro row got
    rw [Database.getSourceFile, first] at got
    cases got
    exact .inr ⟨rfl, _, s3Key_resolved .zones ⟨rfl, rfl, rfl, rfl, rfl, rfl⟩, rfl⟩
  have history : Session.Registers zoneStorage {[1, 2, 3]} .start
      (atomically (persistStorageMetadata 1 zoneUpload) ⟨t.committed, t.external⟩).2 :=
    (Relation.ReflTransGen.single (.ingestion inspected ran fun _ => ended)).tail
      (.persistStorageMetadata 1 concerns)
  have named : IsBucketName zoneStorage.bucket := ⟨by decide, by decide⟩
  have backed := List.mem_singleton_self ((newSourceFile 1 .ready 0 zoneMetadata).withStorage zoneUpload)
  obtain ⟨row, content, metadata, storage, member, -, hashed, prepared, -⟩ :=
    @recovery_keeps_identity zoneStorage {[1, 2, 3]} offline (lostZones _) taxiZoneSource "postgresql://taxi" _ 2 named
      (Set.injOn_singleton _ _) history (lostZones_intact files) .zones ⟨_, files ▸ backed, rfl, rfl⟩ rfl rfl
      isChunking_bytes rfl rfl (by decide)
  exact ⟨_, row, content, metadata, storage, history, member, hashed, prepared⟩

end TaxiPipeline
