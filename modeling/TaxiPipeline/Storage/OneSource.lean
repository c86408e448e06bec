import TaxiPipeline.Storage.Durable

namespace TaxiPipeline

open ObjectStore ReadCommitted

/-- One content of a registered source, and the storage that the calls on it share. -/
structure SyncTarget where
  setup : StorageSetup
  source : SourcePartition
  content : Bytes
  sourceFileId : Nat

namespace SyncTarget

variable (target : SyncTarget)

def checksum : Digest := target.setup.readers.sha256 target.content

def key : String := target.source.versionKey target.checksum

/-- The metadata of the content, inspected or read from its row. -/
structure Identifies (metadata : SourceFileMetadata) : Prop where
  describes : metadata.Describes target.source
  checksum : metadata.checksumSha256 = target.checksum
  size : metadata.fileSizeBytes = target.content.length

/-- A result of the S3 storage with the id of some version. -/
structure IsResult (storage : StorageResult) : Prop where
  backend : storage.backend = "s3"
  uri : storage.uri = some (target.setup.uri target.key)
  version : ∃ version, storage.versionId = some version ∧ storable version = true

/-- The row of the content, before any storage is recorded or with some version of the object. -/
structure IsRow (row : SourceFile) : Prop where
  identifies : target.Identifies (metadataFromRecord row)
  recorded : (row.storageBackend = "local" ∧ row.storageUri = none ∧ row.storageVersionId = none) ∨
    (row.storageBackend = "s3" ∧ row.storageUri = some (target.setup.uri target.key) ∧
      ∃ version, row.storageVersionId = some version)

/-- A version of the object that passes the check of every call, and its id. -/
structure IsObject (object : S3Object) : Prop where
  matches_all : ∀ metadata, target.Identifies metadata → object.Matches metadata
  version : ∃ version, object.id = some version ∧ storable version = true

end SyncTarget

/-- The calls store and record one content of one source in a versioned bucket. -/
structure SyncsOneSource {Client : Type} (target : SyncTarget) (calls : Client → StorageCall) : Prop where
  resolved : Resolved target.source
  versioned : ∀ n, ∃ version, target.setup.versionIds n = some version ∧ storable version = true
  named : storable target.setup.bucket = true
  backend : ∀ i, (calls i).backend = .s3Landing
  sourceFileId : ∀ i, (calls i).sourceFileId = target.sourceFileId
  inspected : ∀ i metadata, (calls i).inspected = some metadata →
    inspectSource target.setup.readers target.source target.content = .ok metadata
  files : ∀ i, (calls i).landing.files (resolvePath (calls i).landing.root target.source.landingPath) =
    some target.content

section Target

variable {target : SyncTarget} {metadata metadata' : SourceFileMetadata} {storage : StorageResult}
  {loaded row row' : SourceFile}

theorem SyncTarget.Identifies.key (identifies : target.Identifies metadata) (resolved : Resolved target.source) :
    s3Key metadata = .ok target.key := by
  rw [s3Key_resolved resolved identifies.describes, identifies.checksum]
  rfl

theorem SyncTarget.Identifies.uploads (identifies : target.Identifies metadata) {key : String}
    {versionId : Option String} (known : ∃ version, versionId = some version ∧ storable version = true) :
    target.IsObject ⟨key, target.content, objectMetadata metadata, versionId⟩ := by
  refine ⟨fun metadata' other => ?_, known⟩
  obtain ⟨hash, partition, dataset⟩ := objectMetadata_lookup metadata
  refine ⟨other.size.symm, ?_, ?_, ?_⟩
  · rw [hash, identifies.checksum, other.checksum]
  · rw [partition, identifies.describes.partition, other.describes.partition]
  · rw [dataset, identifies.describes.dataset, other.describes.dataset]

theorem SyncTarget.IsRow.flushed (isLoaded : target.IsRow loaded) (result : target.IsResult storage)
    (isRow : target.IsRow row) (durable : loaded.storageBackend = "s3" → row.storageBackend = "s3") :
    target.IsRow ((loaded.flushed storage).apply row) ∧
      ((loaded.flushed storage).apply row).storageBackend = "s3" := by
  obtain ⟨version, isVersion, -⟩ := result.version
  have applied : ((loaded.flushed storage).apply row).storageBackend = "s3" ∧
      ((loaded.flushed storage).apply row).storageUri = some (target.setup.uri target.key) ∧
      ∃ version, ((loaded.flushed storage).apply row).storageVersionId = some version := by
    rw [flushed_s3 result.backend]
    simp only [StorageChange.apply, differing_getD, result.uri, isVersion]
    rcases isLoaded.recorded with ⟨isLocal, noUri, noVersion⟩ | ⟨isS3, uri, loadedVersion, hasVersion⟩
    · simp [isLocal, noUri, noVersion]
    · have rowS3 := durable isS3
      rcases isRow.recorded with ⟨rowLocal, -⟩ | ⟨-, rowUri, rowVersion, rowHas⟩
      · exact absurd (rowLocal.symm.trans rowS3) (by decide)
      · refine ⟨?_, ?_, ?_⟩
        · simp [isS3, rowS3]
        · simp [uri, rowUri]
        · split
          · exact ⟨rowVersion, rowHas⟩
          · exact ⟨version, rfl⟩
  exact ⟨⟨isRow.identifies, .inr applied⟩, applied.1⟩

theorem StorageSetup.uri_storable {setup : StorageSetup} (named : storable setup.bucket = true) {key : String}
    (keyStorable : storable key = true) : storable (setup.uri key) = true := by
  have fixed : storable "s3://" = true ∧ storable "/" = true := by decide
  simp only [StorageSetup.uri, storable_append, fixed, named, keyStorable, Bool.and_self]

theorem SyncTarget.IsResult.fits (result : target.IsResult storage) (resolved : Resolved target.source)
    (named : storable target.setup.bucket = true) : (mergeStorageMetadata storage loaded).storageFits = true := by
  obtain ⟨version, isVersion, versionStorable⟩ := result.version
  have backend : storable "s3" = true := by decide
  have uri := StorageSetup.uri_storable named (versionKey_storable resolved target.checksum)
  simp only [mergeStorageMetadata_s3 result.backend, SourceFile.storageFits, SourceFile.withStorage, result.backend,
    result.uri, isVersion, Option.all_some, backend, versionStorable, Bool.and_true, Bool.true_and]
  exact uri

end Target

/-- A call that has not yet learnt of a version: it is still to find or to upload the newest. -/
def StoragePhase.isEarly : StoragePhase → Bool
  | .idle | .reading | .storing _ .verify | .storing _ (.head _ _) | .storing _ (.put _ _) => true
  | _ => false

def StorePoint.Syncs (target : SyncTarget) (bucket : S3Bucket) : StorePoint → Prop
  | .verify => True
  | .head key content | .put key content => key = target.key ∧ content = target.content
  | .headAgain key versionId => key = target.key ∧ (bucket.latest target.key).isSome ∧
      ∃ version, versionId = some version ∧ storable version = true

def PersistPoint.Syncs (target : SyncTarget) (row : SourceFile) (pending : List StorageWrite)
    (storage : StorageResult) : PersistPoint → Prop
  | .select => pending = []
  | .flush loaded => pending = [] ∧ target.IsRow loaded ∧
      (loaded.storageBackend = "s3" → row.storageBackend = "s3")
  | .commit => pending = [] ∨ ∃ loaded, pending = [⟨target.sourceFileId, loaded.flushed storage⟩] ∧
      target.IsRow loaded ∧ (loaded.storageBackend = "s3" → row.storageBackend = "s3")

/-- What a call knows of the object and of the committed row; without faults it never fails. -/
def StoragePhase.Syncs (target : SyncTarget) (bucket : S3Bucket) (row : SourceFile)
    (pending : List StorageWrite) : StoragePhase → Prop
  | .idle | .reading | .finished (.ok _) => pending = []
  | .storing metadata point => pending = [] ∧ target.Identifies metadata ∧ point.Syncs target bucket
  | .persisting storage point => target.IsResult storage ∧ point.Syncs target row pending storage
  | .finished (.error _) | .crashed => False

/-- The turns of a call on the target that meets no fault. -/
inductive SyncTurn (target : SyncTarget) (bucket : S3Bucket) (row : SourceFile) :
    StoragePhase → Effect StorageWrite → StoragePhase → S3Bucket → Prop where
  | waits {phase next : StoragePhase} (before : phase.isEarly = true) (after : next.isEarly = true)
      (syncs : next.Syncs target bucket row []) : SyncTurn target bucket row phase .read next bucket
  | finds {metadata : SourceFileMetadata} {key : String} {content : Bytes} {object : S3Object}
      {storage : StorageResult} (found : bucket.latest target.key = some object)
      (result : target.IsResult storage) (version : storage.versionId = object.id) :
      SyncTurn target bucket row (.storing metadata (.head key content)) .read (.persisting storage .select) bucket
  | uploads {metadata : SourceFileMetadata} {key : String} {content : Bytes}
      (identifies : target.Identifies metadata) :
      SyncTurn target bucket row (.storing metadata (.put key content)) .read
        (.storing metadata (.headAgain target.key (target.setup.versionIds bucket.length)))
        (bucket.put target.setup.versionIds target.key target.content (objectMetadata metadata))
  | accepts {metadata : SourceFileMetadata} {key : String} {versionId : Option String} {storage : StorageResult}
      (result : target.IsResult storage) (version : storage.versionId = versionId) :
      SyncTurn target bucket row (.storing metadata (.headAgain key versionId)) .read
        (.persisting storage .select) bucket
  | selects {storage : StorageResult} (result : target.IsResult storage) :
      SyncTurn target bucket row (.persisting storage .select) .read (.persisting storage (.flush row)) bucket
  | unchanged {storage : StorageResult} {loaded : SourceFile} (result : target.IsResult storage)
      (same : loaded.flushed storage = .none) :
      SyncTurn target bucket row (.persisting storage (.flush loaded)) .read (.persisting storage .commit) bucket
  | flushes {storage : StorageResult} {loaded : SourceFile} (result : target.IsResult storage)
      (isLoaded : target.IsRow loaded) (durable : loaded.storageBackend = "s3" → row.storageBackend = "s3") :
      SyncTurn target bucket row (.persisting storage (.flush loaded))
        (.write ⟨target.sourceFileId, loaded.flushed storage⟩) (.persisting storage .commit) bucket
  | commits {storage : StorageResult} :
      SyncTurn target bucket row (.persisting storage .commit) .commit (.finished (.ok storage)) bucket

section Turns

variable {Client : Type} {target : SyncTarget} {calls : Client → StorageCall} {bucket bucket' : S3Bucket}
  {row : SourceFile} {pending : List StorageWrite} {phase next : StoragePhase} {effect : Effect StorageWrite}
  {metadata : SourceFileMetadata} {db : Database}

theorem SyncTarget.isResult (target : SyncTarget) {versionId : Option String}
    (known : ∃ version, versionId = some version ∧ storable version = true) (now : Timestamp) :
    target.IsResult (target.setup.result target.key versionId now) :=
  ⟨rfl, rfl, known⟩

theorem SyncsOneSource.verify (syncs : SyncsOneSource target calls) (i : Client)
    (identifies : target.Identifies metadata) (now : Timestamp) :
    (calls i).verify target.setup metadata now = .next (.head target.key target.content) := by
  have found := Landing.file_resolved syncs.resolved (calls i).landing
  rw [syncs.files i, ← identifies.describes.landing] at found
  have verified : verifyLocal target.setup.readers (some target.content) metadata.checksumSha256 =
      .ok target.content := verifyLocal_ok.mpr ⟨rfl, identifies.checksum.symm⟩
  simp only [StorageCall.verify, found, verified, syncs.backend i, identifies.key syncs.resolved]

theorem SyncTarget.IsObject.accepted {object : S3Object} (isObject : target.IsObject object)
    (identifies : target.Identifies metadata) {key : String} {versionId : Option String} (now : Timestamp) :
    target.setup.accept metadata key object versionId now = .stored (target.setup.result key versionId now) := by
  unfold StorageSetup.accept
  rw [verifyHead_ok.mpr (isObject.matches_all metadata identifies)]

/-- Without a fault a call on the target takes one of its turns. -/
theorem SyncsOneSource.turn (syncs : SyncsOneSource target calls) (i : Client) {now : Timestamp}
    (isRow : target.IsRow row) (sees : pending = [] → db.getSourceFile target.sourceFileId = some row)
    (objects : ∀ object, bucket.latest target.key = some object → target.IsObject object)
    (session : phase.Syncs target bucket row pending)
    (executed : (calls i).advance target.setup db bucket now phase = some (effect, next, bucket')) :
    SyncTurn target bucket row phase effect next bucket' := by
  cases phase with
  | idle =>
    cases executed
    unfold StorageCall.begin
    split
    · rename_i metadata inspected
      obtain ⟨describes, checksum, size⟩ := inspectSource_describes (syncs.inspected i metadata inspected)
      exact .waits rfl rfl ⟨rfl, ⟨describes, checksum, size⟩, True.intro⟩
    · rw [syncs.backend i]
      exact .waits rfl rfl rfl
  | reading =>
    simp only [StorageCall.advance, StorageCall.read, syncs.sourceFileId i, sees session] at executed
    cases executed
    exact .waits rfl rfl ⟨rfl, isRow.identifies, True.intro⟩
  | storing metadata point =>
    obtain ⟨empty, identifies, at_point⟩ := session
    cases point with
    | verify =>
      simp only [StorageCall.advance, StorageCall.store, syncs.verify i identifies] at executed
      cases executed
      exact .waits rfl rfl ⟨rfl, identifies, rfl, rfl⟩
    | head key content =>
      obtain ⟨rfl, rfl⟩ := at_point
      cases found : bucket.latest target.key with
      | none =>
        simp only [StorageCall.advance, StorageCall.store, found] at executed
        cases executed
        exact .waits rfl rfl ⟨rfl, identifies, rfl, rfl⟩
      | some object =>
        have isObject := objects object found
        simp only [StorageCall.advance, StorageCall.store, found, isObject.accepted identifies] at executed
        cases executed
        exact .finds found (target.isResult isObject.version now) rfl
    | put key content =>
      obtain ⟨rfl, rfl⟩ := at_point
      cases executed
      exact .uploads identifies
    | headAgain key versionId =>
      obtain ⟨rfl, there, known⟩ := at_point
      obtain ⟨object, found⟩ := Option.isSome_iff_exists.mp there
      simp only [StorageCall.advance, StorageCall.store, found,
        (objects object found).accepted identifies] at executed
      cases executed
      exact .accepts (target.isResult known now) rfl
  | persisting storage point =>
    obtain ⟨result, at_point⟩ := session
    cases point with
    | select =>
      simp only [StorageCall.advance, PersistPoint.exec, syncs.sourceFileId i, sees at_point] at executed
      cases executed
      exact .selects result
    | flush loaded =>
      obtain ⟨-, isLoaded, durable⟩ := at_point
      simp only [StorageCall.advance, PersistPoint.exec, result.fits syncs.resolved syncs.named, if_true,
        syncs.sourceFileId i] at executed
      split at executed
      · rename_i same
        cases executed
        exact .unchanged result same
      · cases executed
        exact .flushes result isLoaded durable
    | commit =>
      cases executed
      exact .commits
  | finished result => cases executed
  | crashed => cases executed

theorem StoragePhase.Syncs.stable {row' : SourceFile} (session : phase.Syncs target bucket row pending)
    (grows : (bucket.latest target.key).isSome → (bucket'.latest target.key).isSome)
    (durable : row.storageBackend = "s3" → row'.storageBackend = "s3") :
    phase.Syncs target bucket' row' pending := by
  cases phase with
  | idle => exact session
  | reading => exact session
  | storing metadata point =>
    refine ⟨session.1, session.2.1, ?_⟩
    cases point with
    | verify => exact True.intro
    | head key content => exact session.2.2
    | put key content => exact session.2.2
    | headAgain key versionId => exact ⟨session.2.2.1, grows session.2.2.2.1, session.2.2.2.2⟩
  | persisting storage point =>
    refine ⟨session.1, ?_⟩
    cases point with
    | select => exact session.2
    | flush loaded => exact ⟨session.2.1, session.2.2.1, durable ∘ session.2.2.2⟩
    | commit =>
      rcases session.2 with empty | ⟨loaded, written, isLoaded, came⟩
      · exact .inl empty
      · exact .inr ⟨loaded, written, isLoaded, durable ∘ came⟩
  | finished result =>
    cases result with
    | ok storage => exact session
    | error error => exact session
  | crashed => exact session

/-- What a turn leaves: the session that goes on, with the writes that the effect makes pending. -/
def StoragePhase.Continues (target : SyncTarget) (bucket : S3Bucket) (row : SourceFile)
    (pending : List StorageWrite) (next : StoragePhase) : Effect StorageWrite → Prop
  | .read => next.Syncs target bucket row pending
  | .write w => next.Syncs target bucket row (pending ++ [w])
  | .commit | .rollback => ∃ storage, next = .finished (.ok storage)

theorem SyncTurn.continues (turn : SyncTurn target bucket row phase effect next bucket')
    (versioned : ∀ n, ∃ version, target.setup.versionIds n = some version ∧ storable version = true)
    (isRow : target.IsRow row) (session : phase.Syncs target bucket row pending) :
    next.Continues target bucket' row pending effect := by
  have early_empty : phase.isEarly = true → pending = [] := by
    intro before
    cases phase with
    | idle => exact session
    | reading => exact session
    | storing metadata point => exact session.1
    | persisting storage point => cases before
    | finished result => cases before
    | crashed => cases before
  cases turn with
  | waits before after syncs =>
    rw [early_empty before]
    exact syncs
  | finds found result version => exact ⟨result, session.1⟩
  | uploads identifies =>
    refine ⟨session.1, identifies, rfl, ?_, versioned _⟩
    rw [Bucket.latest_put_self]
    rfl
  | accepts result version => exact ⟨result, session.1⟩
  | selects result => exact ⟨result, session.2, isRow, id⟩
  | unchanged result same => exact ⟨result, .inl session.2.1⟩
  | flushes result isLoaded durable =>
    rw [session.2.1]
    exact ⟨result, .inr ⟨_, rfl, isLoaded, durable⟩⟩
  | commits => exact ⟨_, rfl⟩

theorem SyncTurn.objects (turn : SyncTurn target bucket row phase effect next bucket')
    (versioned : ∀ n, ∃ version, target.setup.versionIds n = some version ∧ storable version = true)
    (objects : ∀ object, bucket.latest target.key = some object → target.IsObject object) :
    ((bucket.latest target.key).isSome → (bucket'.latest target.key).isSome) ∧
      ∀ object, bucket'.latest target.key = some object → target.IsObject object := by
  cases turn with
  | uploads identifies =>
    refine ⟨Bucket.latest_put_isSome, fun object found => ?_⟩
    rw [Bucket.latest_put_self] at found
    cases found
    exact identifies.uploads (versioned _)
  | waits before after syncs => exact ⟨id, objects⟩
  | finds found result version => exact ⟨id, objects⟩
  | accepts result version => exact ⟨id, objects⟩
  | selects result => exact ⟨id, objects⟩
  | unchanged result same => exact ⟨id, objects⟩
  | flushes result isLoaded durable => exact ⟨id, objects⟩
  | commits => exact ⟨id, objects⟩

end Turns

/-- What holds while calls on the target run without faults. -/
structure Syncing {Client : Type} (target : SyncTarget) (s : StorageState Client) : Prop where
  row : ∃ row, s.committed.getSourceFile target.sourceFileId = some row ∧ target.IsRow row
  objects : ∀ object, s.external.latest target.key = some object → target.IsObject object
  calls : ∀ i row, s.committed.getSourceFile target.sourceFileId = some row →
    (s.phase i).Syncs target s.external row (s.pending i)

section Runs

variable {Client : Type} {target : SyncTarget} {calls : Client → StorageCall} {s s' : StorageState Client}
  {i : Client} {now : Timestamp}

theorem syncing_start {db : Database} {bucket : S3Bucket} {row : SourceFile}
    (got : db.getSourceFile target.sourceFileId = some row) (isRow : target.IsRow row)
    (objects : ∀ object, bucket.latest target.key = some object → target.IsObject object) :
    Syncing target (storageStart db bucket : StorageState Client) :=
  ⟨⟨row, got, isRow⟩, objects, fun _ _ _ => rfl⟩

theorem Syncing.committed_row (syncing : Syncing target s) {row : SourceFile} {storage : StorageResult}
    (got : s.committed.getSourceFile target.sourceFileId = some row) (isRow : target.IsRow row)
    (at_commit : s.phase i = .persisting storage .commit) :
    ∃ row', ((storing target.setup calls).visible s i).getSourceFile target.sourceFileId = some row' ∧
      target.IsRow row' ∧ (row.storageBackend = "s3" → row'.storageBackend = "s3") ∧
      row' = (s.pending i).foldl (fun row w => w.change.apply row) row := by
  have session := syncing.calls i row got
  rw [at_commit] at session
  obtain ⟨result, at_point⟩ := session
  have targets : ∀ w ∈ s.pending i, w.sourceFileId = target.sourceFileId := by
    rcases at_point with empty | ⟨loaded, written, -⟩
    · rw [empty]
      exact fun _ member => (List.not_mem_nil member).elim
    · rw [written]
      intro w member
      rw [List.mem_singleton.mp member]
  have moved := getSourceFile_storageWrites s.committed targets target.sourceFileId
  rw [got, Option.map_some, if_pos rfl] at moved
  refine ⟨_, moved, ?_, ?_, rfl⟩
  · rcases at_point with empty | ⟨loaded, written, isLoaded, came⟩
    · rw [empty]
      exact isRow
    · rw [written]
      exact (isLoaded.flushed result isRow came).1
  · rcases at_point with empty | ⟨loaded, written, isLoaded, came⟩
    · rw [empty]
      exact id
    · rw [written]
      exact fun _ => (isLoaded.flushed result isRow came).2

theorem SyncTurn.of_commit {bucket bucket' : S3Bucket} {row : SourceFile} {phase next : StoragePhase}
    (turn : SyncTurn target bucket row phase .commit next bucket') :
    ∃ storage, phase = .persisting storage .commit ∧ next = .finished (.ok storage) ∧ bucket' = bucket := by
  cases turn with
  | commits => exact ⟨_, rfl, rfl, rfl⟩

variable [Fintype Client] [DecidableEq Client]

theorem Syncing.turn (syncing : Syncing target s) (syncs : SyncsOneSource target calls) {row : SourceFile}
    (got : s.committed.getSourceFile target.sourceFileId = some row) (isRow : target.IsRow row)
    (stepped : (storing target.setup calls).step s i (.next now) = some s') :
    ∃ effect next bucket, SyncTurn target s.external row (s.phase i) effect next bucket ∧
      s' = (storing target.setup calls).perform s i effect next bucket := by
  obtain ⟨effect, next, bucket, executed, -, rfl⟩ := (storing target.setup calls).step_some stepped
  refine ⟨effect, next, bucket, syncs.turn i isRow (fun empty => ?_) syncing.objects
    (syncing.calls i row got) executed, rfl⟩
  rw [Program.visible, empty]
  exact got

omit [Fintype Client] in
theorem Syncing.row_after (syncing : Syncing target s) (calls : Client → StorageCall) {row : SourceFile}
    {effect : Effect StorageWrite} {next : StoragePhase} {bucket : S3Bucket}
    (got : s.committed.getSourceFile target.sourceFileId = some row) (isRow : target.IsRow row)
    (turn : SyncTurn target s.external row (s.phase i) effect next bucket) :
    ∃ row', ((storing target.setup calls).perform s i effect next bucket).committed.getSourceFile
        target.sourceFileId = some row' ∧
      target.IsRow row' ∧ (row.storageBackend = "s3" → row'.storageBackend = "s3") ∧
      row' = match effect with
        | .commit => (s.pending i).foldl (fun row w => w.change.apply row) row
        | _ => row := by
  cases effect with
  | commit =>
    obtain ⟨storage, at_commit, -, -⟩ := turn.of_commit
    exact syncing.committed_row got isRow at_commit
  | read => exact ⟨row, got, isRow, id, rfl⟩
  | write w => exact ⟨row, got, isRow, id, rfl⟩
  | rollback => exact ⟨row, got, isRow, id, rfl⟩

theorem Syncing.step (syncing : Syncing target s) (syncs : SyncsOneSource target calls)
    (stepped : (storing target.setup calls).step s i (.next now) = some s') : Syncing target s' := by
  obtain ⟨row, got, isRow⟩ := syncing.row
  obtain ⟨effect, next, bucket, turn, rfl⟩ := syncing.turn syncs got isRow stepped
  obtain ⟨row', got', isRow', durable, -⟩ := syncing.row_after calls got isRow turn
  obtain ⟨grows, objects⟩ := turn.objects syncs.versioned syncing.objects
  refine ⟨⟨row', got', isRow'⟩, objects, fun j row'' got'' => ?_⟩
  cases got'.symm.trans got''
  by_cases same : j = i
  · subst same
    have continues := turn.continues syncs.versioned isRow (syncing.calls j row got)
    rw [Program.perform_phase_self, Program.perform_external]
    cases effect with
    | read => exact StoragePhase.Syncs.stable continues id durable
    | write w =>
      rw [Program.perform_write_pending]
      exact StoragePhase.Syncs.stable continues id durable
    | commit =>
      obtain ⟨storage, rfl⟩ := continues
      exact Program.perform_commit_pending _
    | rollback =>
      obtain ⟨storage, rfl⟩ := continues
      exact Program.perform_rollback_pending _
  · rw [Program.perform_phase_other _ same, Program.perform_pending_other _ same, Program.perform_external]
    exact (syncing.calls j row got).stable grows durable

end Runs

end TaxiPipeline
