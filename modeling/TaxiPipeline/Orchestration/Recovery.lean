import TaxiPipeline.Ingestion.OpenedFiles
import TaxiPipeline.Lifecycle.Failures
import TaxiPipeline.Lifecycle.SourceRows
import TaxiPipeline.Lifecycle.ZoneLoads
import TaxiPipeline.Orchestration.Reruns

namespace TaxiPipeline

open ReadCommitted Stateful StorageAction Transaction

/-- The status that the version of an inspected file has, once it is registered. -/
def Database.versionStatus (db : Database) (metadata : SourceFileMetadata) : SourceStatus :=
  match db.findExactVersion metadata with
  | some row => row.status
  | none => registrationStatus (db.findPartition metadata.partitionKey)

/-- What a call comes to that meets no fault, by the status of its version. -/
def IngestionResult.Decided (result : IngestionResult) (rows : Nat) : SourceStatus → Prop
  | .ready => result.status = .succeeded ∧ result.rowsLoaded = rows
  | .loaded => result.statusReason = some .alreadyLoaded
  | .revisionDetected => result.statusReason = some .sourceRevisionDetected

/-- The raw tables gain rows of the file at most, and in its own table. -/
structure Database.Gains (db : Database) (file : LandingFile) (table : RawTable) (db' : Database) : Prop where
  others : ∀ other, other ≠ table → db'.raw other = db.raw other
  rows : ∀ row ∈ db'.raw table, row ∈ db.raw table ∨ row.values ∈ (file table).flatten

section Gains

variable {db db' : Database} {file : LandingFile} {table : RawTable} {rows : List (RawRow table)}

theorem Database.Gains.of_same (same : db'.raw = db.raw) : db.Gains file table db' :=
  ⟨fun other _ => congrFun same other, fun _ member => .inl (congrFun same table ▸ member)⟩

theorem Database.Gains.of_added (added : db'.raw = Function.update db.raw table (db.raw table ++ rows))
    (values : rows.map (·.values) = (file table).flatten) : db.Gains file table db' := by
  constructor
  · intro other apart
    rw [added, Function.update_of_ne apart]
  · intro row member
    rw [added, Function.update_self] at member
    rcases List.mem_append.mp member with old | new
    · exact .inl old
    · exact .inr (values ▸ List.mem_map_of_mem new)

end Gains

section Decisions

variable {s base : Session} {metadata : SourceFileMetadata} {source : SourceFile} {pending : List Write}
  {batchSize : Int} {file : LandingFile} {table : RawTable}

theorem Registration.status (registered : Registration s metadata source base pending) :
    source.status = s.db.versionStatus metadata := by
  unfold Database.versionStatus
  cases registered with
  | found found => rw [found]
  | inserted absent written =>
    rw [absent]
    rfl

theorem Registration.raw (registered : Registration s metadata source base pending) : base.db.raw = s.db.raw := by
  cases registered with
  | found found => rfl
  | inserted absent written => rfl

/-- A call that meets no fault does what the status of its version asks for. -/
theorem Session.Orderly.comes_decided (orderly : s.Orderly) (fits : metadata.fits = true)
    (checks : metadata.meetsChecks = true) (positive : 0 < batchSize) (matching : file.Matches metadata table) :
    (Request.ingest metadata batchSize).Comes file
      (fun t => ∃ result recorded, t.phase () = .finished (.returned result) recorded ∧
        result.Decided (file table).flatten.length (s.db.versionStatus metadata) ∧ s.db.Gains file table t.committed)
      (.alone s.db s.sequences .idle []) := by
  refine ingesting_comes positive fun now => ?_
  obtain ⟨source, base, pending, isNew, registered, returned⟩ :=
    prepareIngestion_alone orderly.consistent fits checks now
  rw [returned, ← registered.status]
  have sameRaw := registered.raw
  have after := registered.orderly orderly
  have got := registered.getSourceFile orderly.consistent
  obtain ⟨sourceFits, sourceChecks⟩ := after.valid got
  have skipped : ∀ reason : SkipReason, reason.requiredStatus = source.status →
      (Request.ingest metadata batchSize).Comes file (fun t => ∃ result recorded,
        t.phase () = .finished (.returned result) recorded ∧ result.statusReason = some reason ∧
          s.db.Gains file table t.committed)
        (.alone base.db base.sequences (.skipping source.sourceFileId reason .select) []) := by
    intro reason required
    refine (skipping_comes _ _).bind fun t recorded => .here ?_
    obtain ⟨later, rfl⟩ := recorded
    rw [createSkippedRun_alone got required.symm sourceFits sourceChecks later]
    exact ⟨_, _, rfl, rfl, .of_same sameRaw⟩
  simp only [landed, Request.afterRegistration, registrationResult]
  cases is_status : source.status with
  | ready =>
    refine (starting_version_loads after.consistent after.valid after.loaded got is_status matching).mono
      fun t loadedBy => ?_
    obtain ⟨result, rows, ended, -, succeeded, -, -, count, copied, added, -⟩ := loadedBy
    rw [sameRaw] at added
    exact ⟨result, _, ended, ⟨succeeded, count⟩, .of_added added copied.values⟩
  | loaded => exact skipped .alreadyLoaded is_status.symm
  | revisionDetected => exact skipped .sourceRevisionDetected is_status.symm

end Decisions

/-- The event that a statement meets when nothing goes wrong. -/
def Event.Undisturbed (file : LandingFile) (e : Event) : Prop := ∃ phase now, e = file.turn phase now

/-- The values that the storage columns take. -/
def StorageResult.fits (storage : StorageResult) : Bool :=
  storable storage.backend && storage.uri.all storable && storage.versionId.all storable

/-- The storage columns hold what they can. -/
def Database.StorageFits (db : Database) : Prop := ∀ row ∈ db.sourceFiles, row.storageFits = true

/-- The row records where the file is stored, or durable storage that a local file does not replace. -/
def SourceFile.StoredAs (row : SourceFile) (storage : StorageResult) : Prop :=
  row.keepsDurable storage = true ∨ row.storageBackend = storage.backend ∧ row.storageUri = storage.uri ∧
    row.storageVersionId = storage.versionId ∧ row.storedAt = some storage.storedAt

section Storage

variable {s s' : Session} {row : SourceFile} {storage : StorageResult}

theorem mergeStorageMetadata_fits (fits : row.storageFits = true) (storageFits : storage.fits = true) :
    (mergeStorageMetadata storage row).storageFits = true := by
  unfold mergeStorageMetadata
  split
  · exact fits
  · exact storageFits

theorem mergeStorageMetadata_stored : (mergeStorageMetadata storage row).StoredAs storage := by
  unfold mergeStorageMetadata
  split
  · rename_i keeps
    exact .inl keeps
  · exact .inr ⟨rfl, rfl, rfl, rfl⟩

theorem rowRule_storageFits (metadata : SourceFileMetadata) : RowRule (·.storageFits = true) metadata where
  new := fun sourceFileId status now => by
    have local_fits : storable "local" = true := by decide
    simp [SourceFile.storageFits, newSourceFile, local_fits]
  marked := fun _ _ fits => fits

theorem Session.Calls.storageFits (calls : s.Calls s') (orderly : s.Orderly) (fits : s.db.StorageFits) :
    s'.db.StorageFits := by
  cases calls with
  | registerSourceFile now metadata => exact registerSourceFile_everyRow now (rowRule_storageFits metadata) orderly fits
  | @ingestSource metadata batchSize events t ran ended => exact run_everyRow (rowRule_storageFits metadata) orderly fits ran
  | runQualityChecks now runId => exact @runQualityChecks_everyRow (·.storageFits = true) s now runId fits
  | persistStorageMetadata sourceFileId storage =>
    exact @persistStorageMetadata_everyRow (·.storageFits = true) s storage orderly.consistent sourceFileId
      (fun _ _ merged => merged) fits

theorem Session.Leads.storageFits (leads : Session.start.Leads s) : s.db.StorageFits := by
  have kept : s.Orderly ∧ s.db.StorageFits := by
    induction leads with
    | refl => exact ⟨orderly_start, fun row member => (List.not_mem_nil member).elim⟩
    | tail _ calls ih => exact ⟨(calls.keeps ih.1).orderly, calls.storageFits ih.1 ih.2⟩
  exact kept.2

end Storage

/-- What a try of `_ensure_loaded` that meets no fault answers, by the status of its version. -/
def LoadDecided (partitionKey : String) (rows : Nat) (sourceFileId runId : Nat) :
    SourceStatus → Except PyException LoadedPartition
  | .ready => .ok ⟨partitionKey, sourceFileId, runId, .loaded, .succeeded, rows⟩
  | .loaded => .ok ⟨partitionKey, sourceFileId, runId, .alreadyLoaded, .skipped, 0⟩
  | .revisionDetected => .error (sourceRevisionError (s!"Source revision requires review for {partitionKey} " ++
      s!"(source_file_id={sourceFileId}, run_id={runId})"))

section Tries

variable {s : Session} {metadata : SourceFileMetadata} {row : SourceFile} {storage : StorageResult}
  {file : LandingFile} {table : RawTable} {result : IngestionResult} {rows : Nat} {status : SourceStatus}

theorem persistStorageMetadata_stores (fits : s.db.StorageFits)
    (got : s.db.getSourceFile row.sourceFileId = some row) (storageFits : storage.fits = true) :
    atomically (persistStorageMetadata row.sourceFileId storage) s =
      (.ok (), ⟨s.db.updateSourceFile row.sourceFileId (mergeStorageMetadata storage), s.sequences⟩) := by
  have merged := mergeStorageMetadata_fits (fits row (getSourceFile_some got).1) storageFits
  have ran : persistStorageMetadata row.sourceFileId storage s =
      (.ok (), ⟨s.db.updateSourceFile row.sourceFileId (mergeStorageMetadata storage), s.sequences⟩) := by
    unfold persistStorageMetadata
    simp only [Attempt.bind_apply, Transaction.database, got, if_pos merged]
    rfl
  unfold atomically
  rw [ran]

/-- A call on inspected metadata that meets no fault comes to its end. -/
theorem ingestSource_decided (orderly : s.Orderly) (fits : metadata.fits = true)
    (checks : metadata.meetsChecks = true) (matching : file.Matches metadata table) :
    ∃ events, (∀ e ∈ events, e.Undisturbed file) ∧ ∃ result s', ingestSource metadata events s = some (.ok result, s') ∧
      result.Decided (file table).flatten.length (s.db.versionStatus metadata) ∧ s.db.Gains file table s'.db := by
  have comes := orderly.comes_decided fits checks (by decide : 0 < defaultBatchSize) matching
  obtain ⟨events, undisturbed, t, ran, result, recorded, ended, decided, gains⟩ := comes.exists_run
  refine ⟨events, undisturbed, result, ⟨t.committed, t.external⟩, ?_, decided, gains⟩
  unfold ingestSource
  rw [ran, Option.bind_some, ended]

theorem IngestionResult.Decided.answer {s' : Session} (decided : result.Decided rows status)
    (backed : result.Backed metadata s'.db) :
    ((raiseForSourceRevision result).map fun _ => LoadedPartition.of result) =
      LoadDecided metadata.partitionKey rows result.sourceFileId result.runId status := by
  have is_status := backed.status
  have loaded := backed.rowsLoaded
  unfold raiseForSourceRevision LoadedPartition.of
  cases status with
  | ready =>
    obtain ⟨succeeded, count⟩ := decided
    have reason : result.statusReason = none := by
      by_contra skipped
      rw [if_neg skipped, succeeded] at is_status
      cases is_status
    rw [succeeded, reason, count, backed.partitionKey]
    rfl
  | loaded =>
    have reason : result.statusReason = some .alreadyLoaded := decided
    rw [reason, if_neg (Option.some_ne_none _)] at is_status loaded
    rw [is_status, reason, loaded, backed.partitionKey]
    rfl
  | revisionDetected =>
    have reason : result.statusReason = some .sourceRevisionDetected := decided
    rw [reason, if_neg (Option.some_ne_none _)] at is_status
    rw [is_status, reason, backed.partitionKey]
    rfl

end Tries

section Decided

variable {installed : Installation} {tried : LoadTry} {source : SourcePartition} {w : Workspace} {content : Bytes}
  {metadata : SourceFileMetadata} {storage : StorageResult} {file : LandingFile} {table : RawTable}

/-- A try of `_ensure_loaded` that meets no fault comes to its end: what it answers, and what it has changed. -/
theorem ensureLoaded_undisturbed (orderly : w.session.Orderly) (rowsFit : w.session.db.StorageFits)
    (resolved : Resolved source)
    (there : w.deployment.landing.files (resolvePath w.deployment.landing.root source.landingPath) = some content)
    (inspected : inspectSource installed.setup.readers source content = .ok metadata) (sized : metadata.Sized)
    (stored : (installed.backend.store installed.setup tried.now metadata (some content) w.deployment).1 = .ok storage)
    (storageFits : storage.fits = true) (matching : file.Matches metadata table) :
    ∃ events, (∀ e ∈ events, e.Undisturbed file) ∧ ∃ result s' w',
      ingestSource metadata events w.session = some (.ok result, s') ∧ result.Backed metadata s'.db ∧
      ensureLoaded installed { tried with events := events } source w =
        some (LoadDecided source.partitionKey (file table).flatten.length result.sourceFileId result.runId
          (w.session.db.versionStatus metadata), w') ∧
      w'.session = s'.persisted result.sourceFileId storage ∧ w'.deployment.bucket =
        (installed.backend.store installed.setup tried.now metadata (some content) w.deployment).2.bucket ∧
      w.session.db.Gains file table w'.session.db := by
  obtain ⟨fits, checks⟩ := inspectSource_accepted resolved inspected sized
  obtain ⟨events, undisturbed, result, s', ingested, decided, gains⟩ :=
    ingestSource_decided orderly fits checks matching
  have call : w.session.CallsWith (fun _ => True) s' := ingestSource_calls True.intro ingested
  have backed := ingestSource_backed orderly ingested
  obtain ⟨row, got, -⟩ := backed.version
  have sameId := (getSourceFile_some got).2
  rw [← sameId] at got
  have persisted := persistStorageMetadata_stores (call.calls.storageFits orderly rowsFit) got storageFits
  rw [sameId] at persisted
  have frame := (@store_frame installed.setup tried.now installed.backend metadata (some content) w.deployment).1
  rcases ran : installed.backend.store installed.setup tried.now metadata (some content) w.deployment with ⟨answer, d⟩
  rw [ran] at frame stored
  have prepared : prepareSource installed.setup installed.backend tried.around tried.now source w =
      (.ok ⟨metadata, storage⟩, { w with deployment := d }) := by
    rw [prepareSource_there resolved there, inspected]
    dsimp only
    rw [ran, show answer = .ok storage from stored]
    rfl
  have concluded := concludeLoad_apply storage result (Workspace.withSession { w with deployment := d } s')
  rw [show (Workspace.withSession { w with deployment := d } s').session = s' from rfl, persisted] at concluded
  have answered := decided.answer backed
  rw [inspectSource_partition inspected] at answered
  have ended : ensureLoaded installed { tried with events := events } source w =
      some (LoadDecided source.partitionKey (file table).flatten.length result.sourceFileId result.runId
        (w.session.db.versionStatus metadata),
        (Workspace.withSession { w with deployment := d } s').withSession (s'.persisted result.sourceFileId storage)) := by
    unfold ensureLoaded
    rw [prepared]
    dsimp only
    rw [show d.session = w.session from frame, ingested, Option.map_some]
    dsimp only
    rw [concluded, answered]
  have sameRaw : (s'.persisted result.sourceFileId storage).db.raw = s'.db.raw := by
    unfold Session.persisted
    rw [persisted]
    rfl
  exact ⟨events, undisturbed, result, s', _, ingested, backed, ended, rfl, rfl,
    fun other apart => (congrFun sameRaw other).trans (gains.others other apart),
    fun row member => gains.rows row (congrFun sameRaw table ▸ member)⟩

/-- After any history of calls that do not overlap, a try of `_ensure_loaded` that meets no fault, for a file whose rows
    can be read and loaded, does what the status of its version asks for: it loads a ready version, skips the loaded
    one and alarms of a revision, and records where its file is stored. -/
theorem undisturbed_try_decides {rows : RowReaders} (history : Session.start.Leads w.session)
    (resolved : Resolved source)
    (there : w.deployment.landing.files (resolvePath w.deployment.landing.root source.landingPath) = some content)
    (inspected : inspectSource installed.setup.readers source content = .ok metadata) (sized : metadata.Sized)
    (stored : (installed.backend.store installed.setup tried.now metadata (some content) w.deployment).1 = .ok storage)
    (storageFits : storage.fits = true) (slices : rows.Slices) (agree : rows.AgreeOn installed.setup.readers content)
    (dataset : rawTableOf source.datasetName = .ok table)
    (opened : rows.opened source.datasetName content defaultBatchSize = .ok file) (loadable : file.Loadable table) :
    ∃ events, (∀ e ∈ events, e.Undisturbed file) ∧ ∃ sourceFileId runId w',
      ensureLoaded installed { tried with events := events } source w =
        some (LoadDecided source.partitionKey (file table).flatten.length sourceFileId runId
          (w.session.db.versionStatus metadata), w') ∧
      ∃ row, w'.session.db.getSourceFile sourceFileId = some row ∧ row.partitionKey = source.partitionKey ∧
        row.checksumSha256 = metadata.checksumSha256 ∧ row.StoredAs storage := by
  have matching := opened_matches slices agree resolved inspected sized.2 dataset opened loadable
  have orderly := (Session.Leads.keeps history orderly_start).orderly
  have rowsFit := Session.Leads.storageFits history
  obtain ⟨events, undisturbed, result, s', w', ingested, backed, ended, session, -⟩ :=
    @ensureLoaded_undisturbed installed tried source w content metadata storage file table orderly rowsFit resolved there
      inspected sized stored storageFits matching
  obtain ⟨row, got, partition, checksum, -⟩ := backed.version
  have call : w.session.CallsWith (fun _ => True) s' := ingestSource_calls True.intro ingested
  have sameId := (getSourceFile_some got).2
  rw [← sameId] at got
  have persisted := persistStorageMetadata_stores (call.calls.storageFits orderly rowsFit) got storageFits
  rw [sameId] at persisted got
  refine ⟨events, undisturbed, result.sourceFileId, result.runId, w', ended, mergeStorageMetadata storage row, ?_, ?_⟩
  · rw [session]
    unfold Session.persisted
    rw [persisted, Database.getSourceFile_updateSourceFile fun row => (mergeStorageMetadata_same storage row).1, got,
      Option.map_some, if_pos sameId]
  · obtain ⟨-, keepsPartition, keepsChecksum, -⟩ := mergeStorageMetadata_same storage row
    exact ⟨keepsPartition.trans (partition.trans (inspectSource_partition inspected)), keepsChecksum.trans checksum,
      mergeStorageMetadata_stored⟩

end Decided

/-- A try of the task of the zones whose process is lost in the load. -/
def zonesLost : Option (Except PyException LoadedPartition × Workspace) :=
  ensureTaxiZonesLoaded zonesInstallation (loadTry 0 (List.replicate 8 (.next 0) ++ [.openFile 1 zoneFile, .crash]))
    zonesWorkspace

theorem zonesLost_ends : zonesLost.map (fun ended =>
    (ended.1.toOption, ended.2.session.db.versionStatus zoneMetadata, ended.2.session.db.pipelineRuns.map (·.status))) =
    some (none, .ready, [.running]) := by
  decide +kernel

/-- The lookup file of the two zones. -/
def twoZones : CsvFile where
  header := taxiZoneRequiredFields
  records := [["1", "EWR", "Newark Airport", "EWR"], ["2", "Queens", "Jamaica Bay", "Boro Zone"]]
  distinct := taxiZoneRequiredFields_nodup
  bounded := by decide
  nulFree := by decide
  sized := by decide

/-- Readers of the lookup file. -/
def zonesRows : RowReaders where
  csvFile := fun _ => twoZones
  parquetFile := fun _ => ⟨[], ⟨[], [], 0, rfl, by simp⟩, rfl⟩
  iterBatches := fun file _ => [file.table]

theorem zonesRows_agree : zonesRows.AgreeOn zoneReaders [1, 2, 3] where
  parquet := fun _ opened => by cases opened
  csv := fun _ read => ⟨plainPandas, (Except.ok.inj read).symm⟩

/-- The next try loads the two zones. -/
theorem zonesLost_recovers : ∃ answer w, zonesLost = some (answer, w) ∧ ∃ events, ∃ sourceFileId runId w',
    ensureLoaded zonesInstallation (loadTry 2 events) taxiZoneSource w =
      some (.ok ⟨"reference/taxi_zones", sourceFileId, runId, .loaded, .succeeded, 2⟩, w') := by
  obtain ⟨⟨answer, w⟩, ran, ends⟩ := Option.map_eq_some_iff.mp zonesLost_ends
  simp only [Prod.mk.injEq] at ends
  obtain ⟨-, ready, -⟩ := ends
  have called := ran
  unfold zonesLost at called
  have landing := ensureLoaded_landing .zones rfl called
  have within : w.Within {[1, 2, 3]} := by
    intro path content there
    rw [landing] at there
    exact (Option.some.inj there).symm
  have history := (ensureLoaded_tried called).leads .zones within
  have there : w.deployment.landing.files (resolvePath w.deployment.landing.root taxiZoneSource.landingPath) =
      some [1, 2, 3] := by
    rw [landing]
    rfl
  have sized : zoneMetadata.Sized := ⟨by decide, fun rowCount same => by cases same; decide⟩
  have opened : zonesRows.opened "taxi_zone_lookup" [1, 2, 3] defaultBatchSize =
      .ok (zonesRows.landing "taxi_zone_lookup" [1, 2, 3] defaultBatchSize) := rfl
  obtain ⟨events, -, sourceFileId, runId, w', decided, -⟩ := @undisturbed_try_decides zonesInstallation (loadTry 2 [])
    taxiZoneSource w [1, 2, 3] zoneMetadata (localResult 2) _ .taxiZones zonesRows history.leads .zones there rfl sized rfl
    (by decide) (RowReaders.slices_of_single fun _ _ => rfl) zonesRows_agree rfl opened ⟨by decide, fun _ => by decide⟩
  rw [ready] at decided
  exact ⟨answer, w, ran, events, sourceFileId, runId, w', decided⟩

end TaxiPipeline
