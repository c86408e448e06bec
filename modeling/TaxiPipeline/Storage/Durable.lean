import TaxiPipeline.Model.Rows
import TaxiPipeline.Storage.Steps

namespace TaxiPipeline

open ReadCommitted

/-- A row without its storage columns. -/
def SourceFile.withoutStorage (row : SourceFile) : SourceFile :=
  { row with storageBackend := "local", storageUri := none, storageVersionId := none, storedAt := none }

/-- The URI is the one of the row's version in the bucket. -/
def StorageSetup.Locates (setup : StorageSetup) (row : SourceFile) (uri : Option String) : Prop :=
  ∃ key, s3Key (metadataFromRecord row) = .ok key ∧ uri = some (setup.uri key)

/-- The two ways in which storage columns are filled. -/
def SourceFile.Recorded (setup : StorageSetup) (row : SourceFile) : Prop :=
  (row.storageBackend = "local" ∧ row.storageUri = none ∧ row.storageVersionId = none) ∨
    (row.storageBackend = "s3" ∧ setup.Locates row row.storageUri)

/-- What persisting may do to a row: only the storage columns change, and durable storage stays. -/
structure SourceFile.Keeps (setup : StorageSetup) (row row' : SourceFile) : Prop where
  same : row'.withoutStorage = row.withoutStorage
  recorded : row'.Recorded setup
  durable : row.storageBackend = "s3" → row'.storageBackend = "s3"

/-- A result of one of the two storages for the version of the row. -/
def StorageResult.Concerns (setup : StorageSetup) (row : SourceFile) (storage : StorageResult) : Prop :=
  (storage.backend = "local" ∧ storage.uri = none ∧ storage.versionId = none) ∨
    (storage.backend = "s3" ∧ setup.Locates row storage.uri)

section Rows

variable {setup : StorageSetup} {row row' row'' : SourceFile} {storage : StorageResult}

theorem metadataFromRecord_same (same : row'.withoutStorage = row.withoutStorage) :
    metadataFromRecord row' = metadataFromRecord row := by
  have left : metadataFromRecord row'.withoutStorage = metadataFromRecord row' := rfl
  have right : metadataFromRecord row.withoutStorage = metadataFromRecord row := rfl
  rw [← left, ← right, same]

theorem sameVersion (same : row'.withoutStorage = row.withoutStorage) :
    row'.sourceFileId = row.sourceFileId ∧ row'.landingPath = row.landingPath ∧
      row'.checksumSha256 = row.checksumSha256 := by
  have id : row'.withoutStorage.sourceFileId = row.withoutStorage.sourceFileId := by rw [same]
  have landing : row'.withoutStorage.landingPath = row.withoutStorage.landingPath := by rw [same]
  have checksum : row'.withoutStorage.checksumSha256 = row.withoutStorage.checksumSha256 := by rw [same]
  exact ⟨id, landing, checksum⟩

theorem StorageSetup.Locates.same {uri : Option String} (located : setup.Locates row uri)
    (same : row'.withoutStorage = row.withoutStorage) : setup.Locates row' uri := by
  unfold Locates
  rw [metadataFromRecord_same same]
  exact located

theorem StorageSetup.Locates.unique {uri uri' : Option String} (first : setup.Locates row uri)
    (second : setup.Locates row uri') : uri = uri' := by
  obtain ⟨key, keyed, rfl⟩ := first
  obtain ⟨key', keyed', rfl⟩ := second
  cases keyed.symm.trans keyed'
  rfl

theorem StorageSetup.Locates.not_empty {uri : Option String} (located : setup.Locates row uri) :
    uri.any (· ≠ "") = true := by
  obtain ⟨key, -, rfl⟩ := located
  simp [StorageSetup.uri]

theorem SourceFile.Recorded.keeps (recorded : row.Recorded setup) : row.Keeps setup row := ⟨rfl, recorded, id⟩

theorem SourceFile.Keeps.trans (first : row.Keeps setup row') (second : row'.Keeps setup row'') :
    row.Keeps setup row'' :=
  ⟨second.same.trans first.same, second.recorded, second.durable ∘ first.durable⟩

theorem StorageResult.Concerns.same (concerns : storage.Concerns setup row)
    (same : row'.withoutStorage = row.withoutStorage) : storage.Concerns setup row' :=
  concerns.imp id fun ⟨backend, located⟩ => ⟨backend, located.same same⟩

theorem SourceFile.Keeps.uri (keeps : row.Keeps setup row') (recorded : row.Recorded setup)
    (durable : row.storageBackend = "s3") : row'.storageUri = row.storageUri := by
  have located : setup.Locates row row.storageUri := by
    rcases recorded with ⟨isLocal, -, -⟩ | ⟨-, located⟩
    · exact absurd (isLocal.symm.trans durable) (by decide)
    · exact located
  rcases keeps.recorded with ⟨isLocal, -, -⟩ | ⟨-, located'⟩
  · exact absurd (isLocal.symm.trans (keeps.durable durable)) (by decide)
  · exact (located'.same keeps.same.symm).unique located

@[simp] theorem StorageChange.apply_id (change : StorageChange) (row : SourceFile) :
    (change.apply row).sourceFileId = row.sourceFileId := rfl

@[simp] theorem StorageChange.apply_withoutStorage (change : StorageChange) (row : SourceFile) :
    (change.apply row).withoutStorage = row.withoutStorage := rfl

theorem differing_self {α : Type} [DecidableEq α] (a : α) : differing a a = none := if_pos rfl

theorem flushed_local (isLocal : row.storageBackend = "local" ∧ row.storageUri = none ∧
    row.storageVersionId = none) (result : storage.backend = "local" ∧ storage.uri = none ∧
    storage.versionId = none) :
    row.flushed storage = ⟨none, none, none, differing row.storedAt (some storage.storedAt)⟩ := by
  obtain ⟨backend, uri, versionId⟩ := isLocal
  have merged : mergeStorageMetadata storage row = row.withStorage storage := by
    simp [mergeStorageMetadata, SourceFile.keepsDurable, backend]
  simp [SourceFile.flushed, merged, SourceFile.withStorage, backend, uri, versionId, result, differing_self]

theorem flushed_kept (durable : row.storageBackend = "s3") (located : setup.Locates row row.storageUri)
    (result : storage.backend = "local") : row.flushed storage = .none := by
  have merged : mergeStorageMetadata storage row = row := by
    simp only [mergeStorageMetadata, SourceFile.keepsDurable, durable, result, located.not_empty]
    rfl
  simp only [SourceFile.flushed, merged, differing_self]
  rfl

theorem flushed_s3 (result : storage.backend = "s3") :
    row.flushed storage = ⟨differing row.storageBackend "s3", differing row.storageUri storage.uri,
      differing row.storageVersionId storage.versionId, differing row.storedAt (some storage.storedAt)⟩ := by
  simp only [SourceFile.flushed, mergeStorageMetadata_s3 result, SourceFile.withStorage, result]

theorem differing_getD {α : Type} [DecidableEq α] (loaded merged current : α) :
    (differing loaded merged).getD current = if merged = loaded then current else merged := by
  unfold differing
  split <;> rfl

theorem flushed_s3_recorded (loaded : row.Recorded setup) (result : storage.backend = "s3")
    (located : setup.Locates row storage.uri) (keeps : row.Keeps setup row') :
    ((row.flushed storage).apply row').storageBackend = "s3" ∧
      ((row.flushed storage).apply row').storageUri = storage.uri := by
  rw [flushed_s3 result]
  simp only [StorageChange.apply, differing_getD]
  constructor
  · split
    · rename_i same
      exact keeps.durable same.symm
    · rfl
  · split
    · rename_i same
      have durable : row.storageBackend = "s3" := by
        rcases loaded with ⟨-, noUri, -⟩ | ⟨durable, -⟩
        · obtain ⟨key, -, some_uri⟩ := located
          rw [same, noUri] at some_uri
          cases some_uri
        · exact durable
      rw [same]
      exact keeps.uri loaded durable
    · rfl

theorem flushed_keeps (loaded : row.Recorded setup) (concerns : storage.Concerns setup row)
    (keeps : row.Keeps setup row') : row'.Keeps setup ((row.flushed storage).apply row') := by
  rcases concerns with result | ⟨result, located⟩
  · rcases loaded with isLocal | ⟨durable, located⟩
    · rw [flushed_local isLocal result]
      exact ⟨rfl, keeps.recorded, id⟩
    · rw [flushed_kept durable located result.1]
      exact keeps.recorded.keeps
  · obtain ⟨backend, uri⟩ := flushed_s3_recorded loaded result located keeps
    refine ⟨rfl, .inr ⟨backend, ?_⟩, fun _ => backend⟩
    rw [uri]
    exact (located.same keeps.same).same rfl

end Rows

/-- The metadata is that of the version that the row registers. -/
structure SourceFileMetadata.IsVersion (metadata : SourceFileMetadata) (row : SourceFile) : Prop where
  dataset : metadata.datasetName = row.datasetName
  service : metadata.serviceType = row.serviceType
  year : metadata.year = row.sourceYear
  month : metadata.month = row.sourceMonth
  partition : metadata.partitionKey = row.partitionKey
  checksum : metadata.checksumSha256 = row.checksumSha256

theorem SourceFileMetadata.IsVersion.key {metadata : SourceFileMetadata} {row : SourceFile}
    (version : metadata.IsVersion row) : s3Key metadata = s3Key (metadataFromRecord row) := by
  unfold s3Key
  rw [version.dataset, version.service, version.year, version.month, version.checksum]
  rfl

/-- A key that a store has computed is that of its metadata. -/
def StorePoint.Keyed (metadata : SourceFileMetadata) : StorePoint → Prop
  | .verify => True
  | .head key _ | .put key _ | .headAgain key _ => s3Key metadata = .ok key

def PersistPoint.Session (setup : StorageSetup) (row : SourceFile) (pending : List StorageWrite) :
    PersistPoint → Prop
  | .select => pending = []
  | .flush loaded => pending = [] ∧ loaded.Recorded setup ∧ loaded.Keeps setup row
  | .commit => ∀ row', row.Keeps setup row' →
      row'.Keeps setup (pending.foldl (fun row w => w.change.apply row) row')

/-- What a call knows of the committed row that it is about, and what it has written to it. -/
def StoragePhase.Session (setup : StorageSetup) (row : SourceFile) (pending : List StorageWrite) :
    StoragePhase → Prop
  | .storing metadata point =>
      pending = [] ∧ s3Key metadata = s3Key (metadataFromRecord row) ∧ point.Keyed metadata
  | .persisting storage point => storage.Concerns setup row ∧ point.Session setup row pending
  | .idle | .reading | .finished _ | .crashed => pending = []

section Sessions

variable {call : StorageCall} {setup : StorageSetup} {db : Database} {bucket bucket' : S3Bucket}
  {row row' : SourceFile} {pending : List StorageWrite} {phase next : StoragePhase}
  {effect : Effect StorageWrite}

theorem StoragePhase.Session.stable (session : phase.Session setup row pending)
    (keeps : row.Keeps setup row') : phase.Session setup row' pending := by
  cases phase with
  | idle => exact session
  | reading => exact session
  | storing metadata point =>
    refine ⟨session.1, ?_, session.2.2⟩
    rw [metadataFromRecord_same keeps.same]
    exact session.2.1
  | persisting storage point =>
    refine ⟨session.1.same keeps.same, ?_⟩
    cases point with
    | select => exact session.2
    | flush loaded => exact ⟨session.2.1, session.2.2.1, session.2.2.2.trans keeps⟩
    | commit => exact fun row'' further => session.2 row'' (keeps.trans further)
  | finished result => exact session
  | crashed => exact session

/-- A result that a store comes to concerns the version that it is given. -/
theorem StorageCall.store_concerns {metadata : SourceFileMetadata} {point : StorePoint} {now : Timestamp}
    {storage : StorageResult} (same : s3Key metadata = s3Key (metadataFromRecord row))
    (keyed : point.Keyed metadata) (replied : (call.store setup metadata bucket now point).1 = .stored storage) :
    storage.Concerns setup row := by
  have located : ∀ key, s3Key metadata = .ok key → setup.Locates row (some (setup.uri key)) :=
    fun key keyed => ⟨key, same.symm.trans keyed, rfl⟩
  cases point with
  | verify =>
    rw [verify_stored replied]
    exact .inl ⟨rfl, rfl, rfl⟩
  | head key content =>
    simp only [store] at replied
    split at replied
    · cases replied
    · rw [(StorageSetup.accept_stored replied).1]
      exact .inr ⟨rfl, located key keyed⟩
  | put key content => cases replied
  | headAgain key versionId =>
    simp only [store] at replied
    split at replied
    · cases replied
    · rw [(StorageSetup.accept_stored replied).1]
      exact .inr ⟨rfl, located key keyed⟩

theorem StorageCall.store_keyed {metadata : SourceFileMetadata} {point point' : StorePoint} {now : Timestamp}
    (keyed : point.Keyed metadata) (replied : (call.store setup metadata bucket now point).1 = .next point') :
    point'.Keyed metadata := by
  cases point with
  | verify =>
    obtain ⟨key, content, rfl, -, -, isKey⟩ := verify_next replied
    exact isKey
  | head key content =>
    simp only [store] at replied
    split at replied
    · cases replied
      exact keyed
    · exact absurd replied StorageSetup.accept_not_next
  | put key content =>
    cases replied
    exact keyed
  | headAgain key versionId =>
    simp only [store] at replied
    split at replied
    · cases replied
    · exact absurd replied StorageSetup.accept_not_next

/-- What a statement leaves of the session: a new one, or at its end a row that has come of the old. -/
def StoragePhase.Settled (setup : StorageSetup) (row : SourceFile) (pending : List StorageWrite)
    (next : StoragePhase) : Effect StorageWrite → Prop
  | .read => next.Session setup row pending
  | .write w => next.Session setup row (pending ++ [w])
  | .commit => next.isRunning = false ∧
      row.Keeps setup (pending.foldl (fun row w => w.change.apply row) row)
  | .rollback => next.isRunning = false

theorem StoragePhase.session_ended (ended : phase.isRunning = false) : phase.Session setup row [] := by
  cases phase <;> first | rfl | cases ended

theorem StorageCall.Steps.session (steps : call.Steps setup db bucket phase effect next bucket')
    (about : ∀ metadata, call.inspected = some metadata → metadata.IsVersion row)
    (recorded : row.Recorded setup) (sees : pending = [] → db.getSourceFile call.sourceFileId = some row)
    (session : phase.Session setup row pending) : next.Settled setup row pending effect := by
  cases steps with
  | begins =>
    unfold begin
    split
    · rename_i metadata inspected
      exact ⟨session, (about metadata inspected).key, True.intro⟩
    · split <;> exact session
  | reads =>
    unfold read
    rw [sees session]
    exact ⟨session, rfl, True.intro⟩
  | @stores metadata point now =>
    obtain ⟨empty, same, keyed⟩ := session
    cases replied : (call.store setup metadata bucket now point).1 with
    | next point' => exact ⟨empty, same, store_keyed keyed replied⟩
    | stored storage => exact ⟨store_concerns same keyed replied, empty⟩
    | raise error => exact empty
  | selects got =>
    have same := Option.some.inj (got.symm.trans (sees session.2))
    subst same
    exact ⟨session.1, session.2, recorded, recorded.keeps⟩
  | unchanged same =>
    obtain ⟨concerns, empty, -, -⟩ := session
    refine ⟨concerns, fun row' keeps => ?_⟩
    rw [empty]
    exact keeps.recorded.keeps
  | flushes changed =>
    obtain ⟨concerns, empty, loaded, came⟩ := session
    refine ⟨concerns, fun row' keeps => ?_⟩
    rw [empty]
    exact flushed_keeps loaded (concerns.same came.same.symm) (came.trans keeps)
  | commits result => exact ⟨rfl, session.2 row recorded.keeps⟩
  | stops aborted => exact aborted.not_running
  | putRaises error => rfl

end Sessions

theorem getSourceFile_storageWrites {writes : List StorageWrite} {sourceFileId : Nat} (db : Database)
    (targets : ∀ w ∈ writes, w.sourceFileId = sourceFileId) (other : Nat) :
    (writes.foldl StorageWrite.apply db).getSourceFile other = (db.getSourceFile other).map fun row =>
      if other = sourceFileId then writes.foldl (fun row w => w.change.apply row) row else row := by
  induction writes generalizing db with
  | nil => simp
  | cons w rest ih =>
    have here := targets w List.mem_cons_self
    rw [List.foldl_cons, ih _ fun v member => targets v (List.mem_cons_of_mem _ member), StorageWrite.apply,
      Database.getSourceFile_updateSourceFile fun row => w.change.apply_id row]
    cases found : db.getSourceFile other with
    | none => rfl
    | some row =>
      simp only [Option.map_some, (getSourceFile_some found).2, here, List.foldl_cons]
      split <;> rfl

/-- Every row of a database has come of the row with its id in an earlier one. -/
structure Database.Persists (setup : StorageSetup) (db db' : Database) : Prop where
  rows : ∀ {sourceFileId row}, db.getSourceFile sourceFileId = some row →
    ∃ row', db'.getSourceFile sourceFileId = some row' ∧ row.Keeps setup row'
  absent : ∀ {sourceFileId}, db.getSourceFile sourceFileId = none → db'.getSourceFile sourceFileId = none

theorem Database.Persists.got {setup : StorageSetup} {db db' : Database} (persists : db.Persists setup db')
    {sourceFileId : Nat} {row' : SourceFile} (got : db'.getSourceFile sourceFileId = some row') :
    ∃ row, db.getSourceFile sourceFileId = some row ∧ row.Keeps setup row' := by
  cases before : db.getSourceFile sourceFileId with
  | none => cases (persists.absent before).symm.trans got
  | some row =>
    obtain ⟨row'', got', keeps⟩ := persists.rows before
    cases got.symm.trans got'
    exact ⟨row, rfl, keeps⟩

theorem Database.Persists.trans {setup : StorageSetup} {db db' db'' : Database}
    (first : db.Persists setup db') (second : db'.Persists setup db'') : db.Persists setup db'' where
  rows := fun got => by
    obtain ⟨row', got', keeps⟩ := first.rows got
    obtain ⟨row'', got'', further⟩ := second.rows got'
    exact ⟨row'', got'', keeps.trans further⟩
  absent := fun missing => second.absent (first.absent missing)

theorem Database.Persists.refl {setup : StorageSetup} {db : Database}
    (recorded : ∀ sourceFileId row, db.getSourceFile sourceFileId = some row → row.Recorded setup) :
    db.Persists setup db :=
  ⟨fun got => ⟨_, got, (recorded _ _ got).keeps⟩, id⟩

theorem SourceFileMetadata.IsVersion.same {metadata : SourceFileMetadata} {row row' : SourceFile}
    (version : metadata.IsVersion row) (same : row'.withoutStorage = row.withoutStorage) :
    metadata.IsVersion row' where
  dataset := version.dataset.trans (congrArg SourceFile.datasetName same).symm
  service := version.service.trans (congrArg SourceFile.serviceType same).symm
  year := version.year.trans (congrArg SourceFile.sourceYear same).symm
  month := version.month.trans (congrArg SourceFile.sourceMonth same).symm
  partition := version.partition.trans (congrArg SourceFile.partitionKey same).symm
  checksum := version.checksum.trans (congrArg SourceFile.checksumSha256 same).symm

abbrev StorageState (Client : Type) : Type := State Client StoragePhase Database S3Bucket StorageWrite

section Runs

variable {Client : Type} {setup : StorageSetup} {calls : Client → StorageCall} {base db : Database}
  {s s' : StorageState Client} {i : Client}

/-- The results that the calls persist are results for the versions of their rows. -/
def ForVersions (calls : Client → StorageCall) (db : Database) : Prop :=
  ∀ i metadata row, (calls i).inspected = some metadata →
    db.getSourceFile (calls i).sourceFileId = some row → metadata.IsVersion row

/-- What holds while storage calls run: the rows have come of those at some earlier time. -/
structure Durable (setup : StorageSetup) (calls : Client → StorageCall) (base : Database)
    (s : StorageState Client) : Prop where
  persists : base.Persists setup s.committed
  versions : ForVersions calls s.committed
  sessions : ∀ i row, s.committed.getSourceFile (calls i).sourceFileId = some row →
    (s.phase i).Session setup row (s.pending i)
  targets : ∀ i, ∀ w ∈ s.pending i, w.sourceFileId = (calls i).sourceFileId

theorem durable_start (recorded : ∀ row ∈ db.sourceFiles, row.Recorded setup)
    (versions : ForVersions calls db) (bucket : S3Bucket) :
    Durable setup calls db (storageStart db bucket) where
  persists := .refl fun _ _ got => recorded _ (getSourceFile_some got).1
  versions := versions
  sessions := fun _ _ _ => rfl
  targets := fun _ _ member => (List.not_mem_nil member).elim

theorem Durable.recorded (durable : Durable setup calls base s) {sourceFileId : Nat} {row : SourceFile}
    (got : s.committed.getSourceFile sourceFileId = some row) : row.Recorded setup := by
  obtain ⟨before, -, keeps⟩ := durable.persists.got got
  exact keeps.recorded

theorem Durable.rebase (durable : Durable setup calls base s) : Durable setup calls s.committed s :=
  { durable with persists := .refl fun _ _ got => durable.recorded got }

/-- A commit moves the row of its call on, and no other. -/
theorem Durable.commit_persists (durable : Durable setup calls base s)
    (committed : ∀ row, s.committed.getSourceFile (calls i).sourceFileId = some row →
      row.Keeps setup ((s.pending i).foldl (fun row w => w.change.apply row) row)) :
    s.committed.Persists setup ((storing setup calls).visible s i) where
  rows := fun {sourceFileId row} got => by
    refine ⟨_, (getSourceFile_storageWrites _ (durable.targets i) _).trans (by rw [got]; rfl), ?_⟩
    split
    · rename_i same
      exact committed row (same ▸ got)
    · exact (durable.recorded got).keeps
  absent := fun missing => by
    refine (getSourceFile_storageWrites _ (durable.targets i) _).trans ?_
    rw [missing]
    rfl

variable [Fintype Client] [DecidableEq Client]

theorem Durable.step {e : StorageEvent} (durable : Durable setup calls base s)
    (stepped : (storing setup calls).step s i e = some s') : Durable setup calls base s' := by
  obtain ⟨effect, phase, external, executed, -, rfl⟩ := (storing setup calls).step_some stepped
  have steps := StorageCall.exec_steps executed
  have settled : ∀ row, s.committed.getSourceFile (calls i).sourceFileId = some row →
      phase.Settled setup row (s.pending i) effect := by
    intro row got
    refine steps.session (fun metadata inspected => durable.versions i metadata row inspected got)
      (durable.recorded got) (fun empty => ?_) (durable.sessions i row got)
    rw [Program.visible, empty]
    exact got
  have moved : s.committed.Persists setup ((storing setup calls).perform s i effect phase external).committed := by
    by_cases commits : effect = .commit
    · subst commits
      exact durable.commit_persists fun row got => (settled row got).2
    · rw [Program.perform_committed _ commits]
      exact .refl fun _ _ got => durable.recorded got
  refine ⟨durable.persists.trans moved, fun j metadata row' inspected got => ?_, fun j row' got => ?_,
    fun j w member => ?_⟩
  · obtain ⟨row, before, keeps⟩ := moved.got got
    exact (durable.versions j metadata row inspected before).same keeps.same
  · obtain ⟨row, before, keeps⟩ := moved.got got
    by_cases same : j = i
    · subst same
      have ends := settled row before
      rw [Program.perform_phase_self]
      cases effect with
      | read => exact StoragePhase.Session.stable ends keeps
      | write w =>
        rw [Program.perform_write_pending]
        exact StoragePhase.Session.stable ends keeps
      | commit =>
        rw [Program.perform_commit_pending]
        exact StoragePhase.session_ended ends.1
      | rollback =>
        rw [Program.perform_rollback_pending]
        exact StoragePhase.session_ended ends
    · rw [Program.perform_phase_other _ same, Program.perform_pending_other _ same]
      exact (durable.sessions j row before).stable keeps
  · by_cases same : j = i
    · subst same
      cases effect with
      | read => exact durable.targets j w member
      | write added =>
        rw [Program.perform_write_pending] at member
        rcases List.mem_append.mp member with member | member
        · exact durable.targets j w member
        · rw [List.mem_singleton.mp member]
          exact steps.target
      | commit =>
        rw [Program.perform_commit_pending] at member
        exact (List.not_mem_nil member).elim
      | rollback =>
        rw [Program.perform_rollback_pending] at member
        exact (List.not_mem_nil member).elim
    · rw [Program.perform_pending_other _ same] at member
      exact durable.targets j w member

theorem run_durable {schedule : List (Client × StorageEvent)} (durable : Durable setup calls base s)
    (ran : (storing setup calls).run s schedule = some s') : Durable setup calls base s' :=
  Program.run_preserves (fun _ _ _ _ holds stepped => holds.step stepped) durable ran

/-- Durable storage metadata is never lost: whatever storage calls do from then on, a row keeps its
    other columns, and its S3 backend with the URI of its version. -/
theorem durable_storage_kept {bucket : S3Bucket} {schedule later : List (Client × StorageEvent)}
    (versions : ForVersions calls db) (recorded : ∀ row ∈ db.sourceFiles, row.Recorded setup)
    (ran : (storing setup calls).run (storageStart db bucket) schedule = some s)
    (ranOn : (storing setup calls).run s later = some s') {sourceFileId : Nat} {row : SourceFile}
    (got : s.committed.getSourceFile sourceFileId = some row) :
    ∃ row', s'.committed.getSourceFile sourceFileId = some row' ∧
      row'.withoutStorage = row.withoutStorage ∧
      (row.storageBackend = "s3" → row.storageUri.isSome →
        row'.storageBackend = "s3" ∧ row'.storageUri = row.storageUri ∧
          ∃ key, s3Key (metadataFromRecord row) = .ok key ∧
            row.storageUri = some ("s3://" ++ setup.bucket ++ "/" ++ key)) := by
  have durable := (run_durable (durable_start recorded versions bucket) ran).rebase
  obtain ⟨row', got', keeps⟩ := (run_durable durable ranOn).persists.rows got
  have rowRecorded := durable.recorded got
  refine ⟨row', got', keeps.same, fun backend _ => ⟨keeps.durable backend, keeps.uri rowRecorded backend, ?_⟩⟩
  rcases rowRecorded with ⟨isLocal, -⟩ | ⟨-, located⟩
  · exact absurd (isLocal.symm.trans backend) (by decide)
  · exact located

end Runs

/-- A repository with the zone lookup alone. -/
def zoneLanding : Landing where
  root := []
  files := fun path =>
    if path = landingRoot [] ++ ["reference".toList, "taxi_zone_lookup.csv".toList] then some [1, 2, 3] else none

def zoneStorage : StorageSetup where
  readers := zoneReaders
  bucket := "tlc"
  versionIds := fun n => some (toString n)

/-- A local and an S3 call for the zone lookup. -/
def zoneCalls (s3 : Bool) : StorageCall where
  backend := if s3 then .s3Landing else .localLanding
  sourceFileId := 1
  inspected := some zoneMetadata
  landing := zoneLanding

/-- Two S3 calls for the zone lookup. -/
def racingCalls (_ : Bool) : StorageCall := zoneCalls true

def registeredZones : Database :=
  { Database.empty with sourceFiles := [newSourceFile 1 .ready 0 zoneMetadata] }

/-- The local call has read the row before the S3 call commits. -/
def staleLocal : List (Bool × StorageEvent) :=
  List.replicate 3 (false, .next 1) ++ List.replicate 8 (true, .next 2)

theorem zoneCalls_forVersions : ForVersions zoneCalls registeredZones := by
  intro i metadata row inspected got
  cases inspected
  cases got
  exact ⟨rfl, rfl, rfl, rfl, rfl, rfl⟩

theorem registeredZones_recorded : ∀ row ∈ registeredZones.sourceFiles, row.Recorded zoneStorage := by
  intro row member
  rw [List.mem_singleton.mp member]
  exact .inl ⟨rfl, rfl, rfl⟩

set_option maxRecDepth 10000 in
theorem staleLocal_keeps_s3 :
    ∃ s s' row row', (storing zoneStorage zoneCalls).run (storageStart registeredZones []) staleLocal = some s ∧
      (storing zoneStorage zoneCalls).run s (List.replicate 2 (false, .next 3)) = some s' ∧
      s.committed.getSourceFile 1 = some row ∧ row.storageBackend = "s3" ∧
      s'.committed.getSourceFile 1 = some row' ∧ row'.storageBackend = "s3" ∧
      row'.storageUri = row.storageUri := by
  have first : ((storing zoneStorage zoneCalls).run (storageStart registeredZones []) staleLocal).map (fun s =>
      ((s.committed.getSourceFile 1).map fun row => (row.storageBackend, row.storageUri.isSome),
        ((storing zoneStorage zoneCalls).run s (List.replicate 2 (false, .next 3))).isSome)) =
      some (some ("s3", true), true) := by decide +kernel
  obtain ⟨s, ran, both⟩ := Option.map_eq_some_iff.mp first
  obtain ⟨row, got, columns⟩ := Option.map_eq_some_iff.mp (congrArg Prod.fst both)
  obtain ⟨s', ranOn⟩ := Option.isSome_iff_exists.mp (congrArg Prod.snd both)
  have backend : row.storageBackend = "s3" := congrArg Prod.fst columns
  obtain ⟨row', got', -, kept⟩ := durable_storage_kept zoneCalls_forVersions registeredZones_recorded ran ranOn got
  obtain ⟨backend', uri, -⟩ := kept backend (congrArg Prod.snd columns)
  exact ⟨s, s', row, row', ran, ranOn, got, backend, got', backend', uri⟩

end TaxiPipeline
