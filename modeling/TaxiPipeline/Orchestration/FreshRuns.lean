import TaxiPipeline.Lifecycle.PartitionVersions
import TaxiPipeline.Operations.Custody
import TaxiPipeline.Orchestration.Availability
import TaxiPipeline.Orchestration.DataTests
import TaxiPipeline.Orchestration.Recovery
import TaxiPipeline.Sources.Validators
import TaxiPipeline.Storage.OneSource
import TaxiPipeline.Storage.SyncAll

namespace TaxiPipeline

open ObjectStore ReadCommitted Stateful StorageAction Transaction

/-- A file that lies ready for a source: its content, its inspection, and its rows for a table. -/
structure SourceOffer where
  content : Bytes
  metadata : SourceFileMetadata
  file : LandingFile
  table : RawTable

/-- Nothing stands in the way of a load of the file: it is there, its rows can be read and loaded, its version is no
    revision, and no object of another lies under its key. -/
structure SourceOffer.Made (offer : SourceOffer) (installed : Installation) (rows : RowReaders) (source : SourcePartition)
    (w : Workspace) : Prop where
  there : w.deployment.landing.files (resolvePath w.deployment.landing.root source.landingPath) = some offer.content
  inspected : inspectSource installed.setup.readers source offer.content = .ok offer.metadata
  sized : offer.metadata.Sized
  dataset : rawTableOf source.datasetName = .ok offer.table
  agree : rows.AgreeOn installed.setup.readers offer.content
  opened : rows.opened source.datasetName offer.content defaultBatchSize = .ok offer.file
  loadable : offer.file.Loadable offer.table
  accepted : w.session.db.versionStatus offer.metadata ≠ .revisionDetected
  free : installed.backend = .s3Landing → ∀ key (object : S3Object), s3Key offer.metadata = .ok key →
    w.deployment.bucket.latest key = some object → object.Matches offer.metadata

/-- No zone has the LocationID of the Unknown member. -/
def Database.NoZeroZone (db : Database) : Prop := ∀ row ∈ db.raw .taxiZones, row.values.locationId ≠ 0

/-- The texts of the bucket can be recorded, if files are stored there. -/
def Workspace.Available (w : Workspace) (installed : Installation) : Prop :=
  installed.backend = .s3Landing → w.deployment.Available installed.setup

section Statuses

variable {db db' : Database} {metadata : SourceFileMetadata}

/-- The status of a version is decided by the versions of its partition. -/
theorem versionStatus_of_versions (same : db'.versionsOf metadata.partitionKey = db.versionsOf metadata.partitionKey) :
    db'.versionStatus metadata = db.versionStatus metadata := by
  have read : ∀ db : Database, db.versionStatus metadata =
      (((db.versionsOf metadata.partitionKey).find? (·.2.1 == metadata.checksumSha256)).map (·.2.2)).getD
        (registrationStatus ((db.versionsOf metadata.partitionKey).head?.map (·.1))) := by
    intro db
    have exact_version : ((db.versionsOf metadata.partitionKey).find? (·.2.1 == metadata.checksumSha256)).map (·.2.2) =
        (db.findExactVersion metadata).map (·.status) := by
      unfold Database.versionsOf Database.findExactVersion
      rw [List.find?_map, List.find?_filter, Option.map_map]
      simp only [Function.comp_def, Bool.decide_and, Bool.decide_eq_true]
    have first : (db.versionsOf metadata.partitionKey).head?.map (·.1) = db.findPartition metadata.partitionKey := by
      unfold Database.versionsOf Database.findPartition
      rw [List.head?_map, List.head?_filter, Option.map_map]
      rfl
    rw [exact_version, first]
    unfold Database.versionStatus
    cases db.findExactVersion metadata with
    | none => rfl
    | some row => rfl
  rw [read db', read db, same]

end Statuses

section Zones

variable {db db' : Database} {file : LandingFile} {table : RawTable}

theorem Database.Gains.noZeroZone (gains : db.Gains file table db') (none_before : db.NoZeroZone)
    (none_added : table = .taxiZones → ∀ zone ∈ (file .taxiZones).flatten, zone.locationId ≠ 0) : db'.NoZeroZone := by
  by_cases zones : table = .taxiZones
  · subst zones
    intro row member
    rcases gains.rows row member with old | new
    · exact none_before row old
    · exact none_added rfl row.values new
  · intro row member
    rw [gains.others .taxiZones fun same => zones same.symm] at member
    exact none_before row member

theorem Database.NoZeroZone.same (none_zero : db.NoZeroZone) (same : db'.raw = db.raw) : db'.NoZeroZone := by
  intro row member
  rw [same] at member
  exact none_zero row member

theorem Database.NoZeroZone.staged (none_zero : db.NoZeroZone) (nodup : db.index.Nodup) :
    ∀ zone ∈ stgTlcTaxiZones db, zone.locationId ≠ 0 := by
  intro zone member isZero
  have staged : zone.locationId ∈ (stgTlcTaxiZones db).map (·.locationId) := List.mem_map_of_mem member
  rw [stagedLocations_eq nodup] at staged
  obtain ⟨raw, inRaw, same⟩ := List.mem_map.mp staged
  exact none_zero raw (List.mem_filter.mp inRaw).1 (same.trans isZero)

end Zones

section Stores

variable {installed : Installation} {rows : RowReaders} {source other : SourcePartition} {offer kept : SourceOffer}
  {w w' : Workspace} {contents : Set Bytes} {now : Timestamp}

/-- Sources of different datasets have different partitions. -/
theorem Resolved.partitions_apart (resolved : Resolved source) (resolved' : Resolved other)
    (differ : source.datasetName ≠ other.datasetName) : source.partitionKey ≠ other.partitionKey := by
  intro same
  exact differ (congrArg SourcePartition.datasetName (resolved.eq_of_partition resolved' same))

theorem SourceOffer.Made.table_eq {datasetName : String} {table : RawTable} (made : offer.Made installed rows source w)
    (named : source.datasetName = datasetName) (known : rawTableOf datasetName = .ok table) : offer.table = table := by
  have dataset := made.dataset
  rw [named, known] at dataset
  exact (Except.ok.inj dataset).symm

theorem SourceOffer.Made.known (made : offer.Made installed rows source w) (resolved : Resolved source)
    (within : w.Within contents) : offer.metadata.Inspected installed.setup.readers contents :=
  ⟨source, offer.content, resolved, within _ _ made.there, made.inspected⟩

/-- The backend takes the file, and what it returns can be recorded. -/
theorem SourceOffer.Made.stores (made : offer.Made installed rows source w) (resolved : Resolved source)
    (available : w.Available installed) (now : Timestamp) : ∃ storage : StorageResult,
      (installed.backend.store installed.setup now offer.metadata (some offer.content) w.deployment).1 = .ok storage ∧
        storage.fits = true := by
  obtain ⟨described, hashed, size⟩ := inspectSource_describes made.inspected
  cases backend : installed.backend with
  | localLanding =>
    have verified := verifyLocal_ok.mpr ⟨rfl, hashed.symm⟩
    have backend_fits : storable "local" = true := by decide
    refine ⟨localResult now, ?_, ?_⟩
    · simp only [LandingBackend.store, Attempt.bind_apply, Attempt.lift_apply, verified, Attempt.pure_apply]
    · simp only [StorageResult.fits, localResult, backend_fits, Option.all_none, Bool.and_self]
  | s3Landing =>
    obtain ⟨named, assigned, existing⟩ := available backend
    have keyed := s3Key_resolved resolved described
    have stores : installed.setup.Stores w.deployment.bucket offer.metadata offer.content
        (source.versionKey offer.metadata.checksumSha256) :=
      ⟨hashed.symm, size.symm, keyed, fun object => made.free backend _ object keyed⟩
    obtain ⟨object, bucket, stored, -, -, before⟩ := stores.store now
    have version : object.id.all storable = true := by
      rcases before with ⟨-, found⟩ | ⟨-, -, assignedId⟩
      · exact existing object (Bucket.latest_some found).1
      · rw [assignedId]
        exact assigned _
    refine ⟨installed.setup.result (source.versionKey offer.metadata.checksumSha256) object.id now, ?_, ?_⟩
    · simp only [LandingBackend.store, onBucket_apply, stored]
    · have uri := StorageSetup.uri_storable named (versionKey_storable resolved offer.metadata.checksumSha256)
      have backend_fits : storable "s3" = true := by decide
      simp only [StorageResult.fits, StorageSetup.result, Option.all_some, backend_fits, uri, version, Bool.and_self]

end Stores

/-- What a load of a source leaves of what other offers rest on. -/
structure Workspace.KeepsOthers (w : Workspace) (installed : Installation) (source : SourcePartition) (w' : Workspace) :
    Prop where
  landing : w'.deployment.landing = w.deployment.landing
  versions : ∀ partitionKey, source.partitionKey ≠ partitionKey →
    w'.session.db.versionsOf partitionKey = w.session.db.versionsOf partitionKey
  bucket : w'.deployment.bucket = w.deployment.bucket ∨ ∃ content metadata,
    inspectSource installed.setup.readers source content = .ok metadata ∧
      Stored installed.setup metadata (some content) w.deployment.bucket w'.deployment.bucket

section Loads

variable {installed : Installation} {rows : RowReaders} {source other : SourcePartition} {offer kept : SourceOffer}
  {w w' : Workspace} {contents : Set Bytes} {serviceType : String} {year month : Int} {now : Timestamp}

theorem Workspace.KeepsOthers.available (keeps : w.KeepsOthers installed source w') (available : w.Available installed) :
    w'.Available installed := by
  intro backend
  obtain ⟨named, assigned, existing⟩ := available backend
  refine ⟨named, assigned, ?_⟩
  rcases keeps.bucket with same | ⟨content, metadata, inspected, stored⟩
  · rwa [same]
  · generalize w'.deployment.bucket = bucket at stored ⊢
    cases stored with
    | kept => exact existing
    | uploaded is_file hashed keyed free =>
      intro version member
      rcases Bucket.mem_put.mp member with rfl | old
      · exact assigned _
      · exact existing version old

/-- An offer for another source stands. -/
theorem SourceOffer.Made.stays (made : kept.Made installed rows other w) (keeps : w.KeepsOthers installed source w')
    (resolved : Resolved source) (resolved' : Resolved other) (apart : source.partitionKey ≠ other.partitionKey) :
    kept.Made installed rows other w' := by
  have described := (inspectSource_describes made.inspected).1
  refine ⟨?_, made.inspected, made.sized, made.dataset, made.agree, made.opened, made.loadable, ?_, ?_⟩
  · rw [keeps.landing]
    exact made.there
  · rw [versionStatus_of_versions (keeps.versions _ (by rwa [described.partition]))]
    exact made.accepted
  · intro backend key object keyed found
    rcases keeps.bucket with same | ⟨content, metadata, inspected, stored⟩
    · rw [same] at found
      exact made.free backend key object keyed found
    · have describes := (inspectSource_describes inspected).1
      have ofSource := s3Key_resolved resolved describes
      have ofOther := s3Key_resolved resolved' described
      generalize w'.deployment.bucket = bucket at stored found
      cases stored with
      | kept => exact made.free backend key object keyed found
      | @uploaded uploadKey content is_file hashed uploadKeyed free =>
        have keysApart : uploadKey ≠ key := by
          rintro rfl
          rw [ofSource] at uploadKeyed
          rw [ofOther] at keyed
          have oneKey := (Except.ok.inj uploadKeyed).trans (Except.ok.inj keyed).symm
          have same := versionKey_injective resolved resolved' oneKey
          exact apart same.1
        rw [Bucket.latest_put_other keysApart] at found
        exact made.free backend key object keyed found

/-- A try of `_ensure_loaded` that meets no fault returns, and leaves the other offers. -/
theorem SourceOffer.Made.loads (made : offer.Made installed rows source w)
    (history : Session.start.LeadsWith (·.Inspected installed.setup.readers contents) w.session)
    (resolved : Resolved source) (available : w.Available installed) (slices : rows.Slices) (tried : LoadTry) :
    ∃ events, (∀ e ∈ events, e.Undisturbed offer.file) ∧ ∃ loaded w',
      ensureLoaded installed { tried with events := events } source w = some (.ok loaded, w') ∧
        w.KeepsOthers installed source w' ∧ w.session.db.Gains offer.file offer.table w'.session.db := by
  have matching := opened_matches slices made.agree resolved made.inspected made.sized.2 made.dataset made.opened
    made.loadable
  have orderly := (Session.Leads.keeps history.leads orderly_start).orderly
  obtain ⟨storage, stored, fits⟩ := made.stores resolved available tried.now
  obtain ⟨events, undisturbed, result, s', w', ingested, backed, ended, session, bucket, gains⟩ :=
    @ensureLoaded_undisturbed installed tried source w offer.content offer.metadata storage offer.file offer.table orderly
      (Session.Leads.storageFits history.leads) resolved made.there made.inspected made.sized stored fits matching
  have partition := inspectSource_partition made.inspected
  have keeps : w.KeepsOthers installed source w' := by
    refine ⟨ensureLoaded_landing resolved made.there ended, fun partitionKey apart => ?_, .inr ⟨_, _, made.inspected, ?_⟩⟩
    · obtain ⟨t, ran, -, is_session, -⟩ := ingestSource_some ingested
      have after := run_versionsOf orderly (by rwa [partition] : offer.metadata.partitionKey ≠ partitionKey) ran
      rw [session]
      unfold Session.persisted
      rw [persistStorageMetadata_versionsOf, is_session]
      exact after
    · rw [bucket]
      have meets := @backend_store_meets installed.setup offer.metadata (some offer.content) tried.now w.deployment
        installed.backend
      exact (meets.ok (Prod.ext stored rfl)).1.2
  cases status : w.session.db.versionStatus offer.metadata with
  | ready =>
    rw [status] at ended
    exact ⟨events, undisturbed, _, w', ended, keeps, gains⟩
  | loaded =>
    rw [status] at ended
    exact ⟨events, undisturbed, _, w', ended, keeps, gains⟩
  | revisionDetected => exact absurd status made.accepted

theorem runPartitionQuality_keepsOthers :
    w.KeepsOthers installed source (runPartitionQuality now serviceType year month w).2 := by
  rw [runPartitionQuality_apply]
  cases findLatestSuccessfulRun w.session.db serviceType year month with
  | error error => exact ⟨rfl, fun _ _ => rfl, .inl rfl⟩
  | ok runId => exact ⟨rfl, fun _ _ => runQualityChecks_versionsOf now runId, .inl rfl⟩

theorem runPartitionQuality_raw :
    (runPartitionQuality now serviceType year month w).2.session.db.raw = w.session.db.raw := by
  rw [runPartitionQuality_apply]
  cases findLatestSuccessfulRun w.session.db serviceType year month with
  | error error => rfl
  | ok runId => exact runQualityChecks_raw now runId

end Loads

/-- A run of the DAG that has resolved its month, while no build is under way. -/
structure World.Fresh (w : World) (installed : Installation) (contents : Set Bytes)
    (merge : List FactTrip → List FactTrip → List FactTrip) (run : DagRun) (target : TargetMonth) : Prop where
  reached : World.Reachable installed contents merge w
  run : w.run = run
  target : w.xcoms.target = some target
  idle : w.building = none
  closed : w.warehouse.execution = none
  available : w.workspace.Available installed

/-- The tries of a run before its `dbt build`, each task once. -/
def taskTries (zones yellow green : LoadTry) (yellowAt greenAt : Timestamp) : List TaskTry :=
  [.resolvePartition, .ensureTaxiZones zones, .ensureYellowLoaded yellow, .qualityYellow yellowAt,
    .ensureGreenLoaded green, .qualityGreen greenAt]

section Runs

variable {installed : Installation} {rows : RowReaders} {contents : Set Bytes}
  {merge : List FactTrip → List FactTrip → List FactTrip}
  {run : DagRun} {target : TargetMonth} {w : World} {workspace : Workspace} {xcoms : Xcoms} {task : TaskTry}
  {source : SourcePartition} {loaded : LoadedPartition} {s : Session} {warehouse : Warehouse}

theorem LoadedPartition.Stands.loadedZones {readers : Readers} (stands : loaded.Stands taxiZoneSource s.db)
    (accounted : s.Accounted readers contents) : ∃ row ∈ s.db.sourceFiles, row.isLoadedZones = true := by
  obtain ⟨row, got, partition, isLoaded⟩ := stands.version
  have member := (getSourceFile_some got).1
  obtain ⟨other, resolved, samePartition, subject⟩ := accounted.ingested.resolved member
  obtain rfl := resolved.eq_of_partition .zones (samePartition.symm.trans partition)
  have dataset : row.datasetName = "taxi_zone_lookup" := congrArg Subject.datasetName subject
  have ofZones : row.partitionKey = "reference/taxi_zones" := partition
  refine ⟨row, member, ?_⟩
  unfold SourceFile.isLoadedZones
  rw [ofZones, dataset, isLoaded]
  rfl

theorem LoadedPartition.Stands.zones {readers : Readers} (stands : loaded.Stands taxiZoneSource s.db)
    (accounted : s.Accounted readers contents) :
    ∃ zone ∈ s.db.sourceFiles, zone.datasetName = "taxi_zone_lookup" ∧ zone.status = .loaded := by
  obtain ⟨row, member, flagged⟩ := stands.loadedZones accounted
  unfold SourceFile.isLoadedZones at flagged
  simp only [Bool.and_eq_true, beq_iff_eq] at flagged
  exact ⟨row, member, flagged.1.2, flagged.2⟩

/-- A try that leaves the files keeps a run fresh. -/
theorem World.Fresh.tries (fresh : w.Fresh installed contents merge run target)
    (collisionFree : Set.InjOn installed.setup.readers.sha256 contents) (documented : DeleteInsert merge)
    (tried : w.attempt installed task = some { w with workspace := workspace, xcoms := xcoms })
    (keeps : w.workspace.KeepsOthers installed source workspace) (sameTarget : xcoms.target = w.xcoms.target) :
    World.Fresh { w with workspace := workspace, xcoms := xcoms } installed contents merge run target where
  reached := by
    refine fresh.reached.step (.tried task tried fun path content found => ?_)
    have there : workspace.deployment.landing.files path = some content := found
    rw [keeps.landing] at there
    exact (fresh.reached.sound collisionFree documented).within path content there
  run := fresh.run
  target := sameTarget.trans fresh.target
  idle := fresh.idle
  closed := fresh.closed
  available := keeps.available fresh.available

/-- A task that loads what is offered returns. -/
theorem World.Fresh.loads {offer : SourceOffer} {keep : Xcoms → LoadedPartition → Xcoms} {load : LoadTry → TaskTry}
    (fresh : w.Fresh installed contents merge run target)
    (collisionFree : Set.InjOn installed.setup.readers.sha256 contents) (documented : DeleteInsert merge)
    (made : offer.Made installed rows source w.workspace) (resolved : Resolved source) (slices : rows.Slices)
    (tried : LoadTry)
    (keepsTarget : ∀ xcoms loaded, (keep xcoms loaded).target = xcoms.target)
    (runs : ∀ tries loaded workspace, ensureLoaded installed tries source w.workspace = some (.ok loaded, workspace) →
      w.attempt installed (load tries) = some { w with workspace := workspace, xcoms := keep w.xcoms loaded }) :
    ∃ events, (∀ e ∈ events, e.Undisturbed offer.file) ∧ ∃ loaded workspace,
      w.attempt installed (load { tried with events := events }) =
        some { w with workspace := workspace, xcoms := keep w.xcoms loaded } ∧
      w.workspace.KeepsOthers installed source workspace ∧
      w.session.db.Gains offer.file offer.table workspace.session.db ∧
      World.Fresh { w with workspace := workspace, xcoms := keep w.xcoms loaded } installed contents merge run target := by
  obtain ⟨events, undisturbed, loaded, workspace, called, keeps, gains⟩ :=
    made.loads fresh.reached.history resolved fresh.available slices tried
  have attempted := runs _ loaded workspace called
  exact ⟨events, undisturbed, loaded, workspace, attempted, keeps, gains,
    fresh.tries collisionFree documented attempted keeps (keepsTarget _ _)⟩

/-- A task that checks a loaded month returns. -/
theorem World.Fresh.checks {serviceType : String} {now : Timestamp} {keep : Xcoms → QualityRunSummary → Xcoms}
    {zonesLoaded : LoadedPartition} (fresh : w.Fresh installed contents merge run target)
    (collisionFree : Set.InjOn installed.setup.readers.sha256 contents) (documented : DeleteInsert merge)
    (followed : ¬ (target.year = 9999 ∧ target.month = 12))
    (found : tripMonthSource serviceType target.year target.month = .ok source)
    (zones : w.xcoms.zones = some zonesLoaded) (stands : loaded.Stands source w.session.db)
    (keepsTarget : ∀ xcoms summary, (keep xcoms summary).target = xcoms.target)
    (runs : ∀ summary workspace,
      runPartitionQuality now serviceType target.year target.month w.workspace = (.ok summary, workspace) →
        w.attempt installed task = some { w with workspace := workspace, xcoms := keep w.xcoms summary }) :
    ∃ summary workspace,
      w.attempt installed task = some { w with workspace := workspace, xcoms := keep w.xcoms summary } ∧
      w.workspace.KeepsOthers installed source workspace ∧ workspace.session.db.raw = w.session.db.raw ∧
      World.Fresh { w with workspace := workspace, xcoms := keep w.xcoms summary } installed contents merge run target := by
  have sound := fresh.reached.sound collisionFree documented
  obtain ⟨row, got, partition, isLoaded⟩ := stands.version
  obtain ⟨accounted, kept⟩ := fresh.reached.history.runsKept collisionFree
  obtain ⟨summary, returned⟩ := @Session.Accounted.month_checks _ _ row now serviceType target.year target.month source
    w.workspace accounted collisionFree kept found (getSourceFile_some got).1 partition isLoaded
    ((sound.zones _ zones).zones accounted) followed
  have keeps := @runPartitionQuality_keepsOthers installed source w.workspace serviceType target.year target.month now
  have attempted := runs summary _ (Prod.ext returned rfl)
  have sameRaw := @runPartitionQuality_raw w.workspace serviceType target.year target.month now
  exact ⟨summary, _, attempted, keeps, sameRaw, fresh.tries collisionFree documented attempted keeps (keepsTarget _ _)⟩

/-- What a task has loaded stands for the month of the run. -/
theorem Loaded.month {serviceType : String} (stands : Loaded serviceType run s.db loaded)
    (resolved : run.target = .ok target) (found : tripMonthSource serviceType target.year target.month = .ok source) :
    loaded.Stands source s.db := by
  obtain ⟨target', source', resolved', found', stands⟩ := stands
  obtain rfl := Except.ok.inj (resolved.symm.trans resolved')
  obtain rfl := Except.ok.inj (found.symm.trans found')
  exact stands

/-- The steps of a build follow one another when no other build is under way. -/
theorem buildSteps_run (closed : warehouse.execution = none) :
    ∃ built, buildSteps.foldlM (Warehouse.build merge s) warehouse = some built := by
  obtain ⟨tables, execution⟩ := warehouse
  obtain rfl : execution = none := closed
  exact ⟨_, rfl⟩

theorem taskTries_run {w₁ w₂ w₃ w₄ w₅ w₆ : World} {zones yellow green : LoadTry} {yellowAt greenAt : Timestamp}
    (first : w.attempt installed .resolvePartition = some w₁)
    (second : w₁.attempt installed (.ensureTaxiZones zones) = some w₂)
    (third : w₂.attempt installed (.ensureYellowLoaded yellow) = some w₃)
    (fourth : w₃.attempt installed (.qualityYellow yellowAt) = some w₄)
    (fifth : w₄.attempt installed (.ensureGreenLoaded green) = some w₅)
    (sixth : w₅.attempt installed (.qualityGreen greenAt) = some w₆) :
    (taskTries zones yellow green yellowAt greenAt).foldlM (World.attempt installed) w = some w₆ := by
  unfold taskTries
  simp only [List.foldlM_cons, List.foldlM_nil, Option.bind_eq_bind, first, second, third, fourth, fifth, sixth,
    Option.bind_some]
  rfl

/-- A run whose months are checked is built, and ends if the data tests pass. -/
theorem World.Fresh.completes {zonesLoaded : LoadedPartition} (fresh : w.Fresh installed contents merge run target)
    (collisionFree : Set.InjOn installed.setup.readers.sha256 contents) (documented : DeleteInsert merge)
    (checked : w.xcoms.greenQuality.isSome = true) (zones : w.xcoms.zones = some zonesLoaded)
    (none_zero : w.session.db.NoZeroZone) :
    ∃ built w', buildSteps.foldlM (Warehouse.build merge w.session) w.warehouse = some built ∧
      dbtExitStatus w.session.db built.tables = 0 ∧
      (World.exits installed { w with warehouse := built, building := some buildSteps.reverse }
        (dbtExitStatus w.session.db built.tables)).attempt installed .pipelineComplete = some w' ∧
      World.Reachable installed contents merge w' ∧
      w'.xcoms.complete = some ⟨target.partitionLabel, "succeeded"⟩ := by
  obtain ⟨built, builds⟩ := @buildSteps_run merge w.session w.warehouse fresh.closed
  have sound := fresh.reached.sound collisionFree documented
  have nodup := sound.accounted.ingested.orderly.consistent.nodup
  have tested := undisturbed_build_tested collisionFree documented fresh.reached buildSteps_complete buildSteps_seeded
    builds
  have loaded := (sound.zones _ zones).loadedZones sound.accounted
  have passes := dbtExitStatus_zero.mpr (tested.all_pass loaded (none_zero.staged nodup))
  have started := fresh.reached.step (.startsBuild checked fresh.idle)
  have finished := started.builds rfl buildSteps_seeded builds
  rw [List.append_nil] at finished
  have exited := finished.step (.exits 0 rfl fun _ => buildSteps_complete)
  have ended : (World.exits installed { w with warehouse := built, building := some buildSteps.reverse } 0).attempt
      installed .pipelineComplete = some { World.exits installed
        { w with warehouse := built, building := some buildSteps.reverse } 0 with
        xcoms := { w.xcoms with
          dbt := some ⟨"succeeded", installed.projectDir⟩
          complete := some ⟨target.partitionLabel, "succeeded"⟩ } } := by
    show (w.xcoms.target >>= _) = _
    rw [fresh.target]
    rfl
  refine ⟨built, _, builds, passes, ?_, exited.step (.tried .pipelineComplete ended
    (exited.sound collisionFree documented).within), rfl⟩
  rw [passes]
  exact ended

/-- From every world that calls, tries and builds without overlap have reached, a run of the DAG completes at its first
    tries for every month but December 9999, if they meet no fault, the rows of its files can be read and loaded, none
    of the files is a revision, and no zone has LocationID 0. -/
theorem undisturbed_run_completes {zones yellow green : SourceOffer} {yellowSource greenSource : SourcePartition}
    (collisionFree : Set.InjOn installed.setup.readers.sha256 contents) (documented : DeleteInsert merge)
    (reached : World.Reachable installed contents merge w) (idle : w.building = none)
    (closed : w.warehouse.execution = none) (available : w.workspace.Available installed)
    (resolved : run.target = .ok target) (followed : ¬ (target.year = 9999 ∧ target.month = 12))
    (yellowMonth : tripMonthSource "yellow" target.year target.month = .ok yellowSource)
    (greenMonth : tripMonthSource "green" target.year target.month = .ok greenSource) (slices : rows.Slices)
    (zonesMade : zones.Made installed rows taxiZoneSource w.workspace)
    (yellowMade : yellow.Made installed rows yellowSource w.workspace)
    (greenMade : green.Made installed rows greenSource w.workspace) (none_zero : w.session.db.NoZeroZone)
    (none_offered : ∀ zone ∈ (zones.file .taxiZones).flatten, zone.locationId ≠ 0)
    (zonesTry yellowTry greenTry : LoadTry) (yellowAt greenAt : Timestamp) :
    ∃ zonesEvents yellowEvents greenEvents, (∀ e ∈ zonesEvents, e.Undisturbed zones.file) ∧
      (∀ e ∈ yellowEvents, e.Undisturbed yellow.file) ∧ (∀ e ∈ greenEvents, e.Undisturbed green.file) ∧
      ∃ checked built w', (taskTries { zonesTry with events := zonesEvents } { yellowTry with events := yellowEvents }
          { greenTry with events := greenEvents } yellowAt greenAt).foldlM (World.attempt installed)
            { w with run := run, xcoms := .none } = some checked ∧
        buildSteps.foldlM (Warehouse.build merge checked.session) checked.warehouse = some built ∧
        dbtExitStatus checked.session.db built.tables = 0 ∧
        (World.exits installed { checked with warehouse := built, building := some buildSteps.reverse }
          (dbtExitStatus checked.session.db built.tables)).attempt installed .pipelineComplete = some w' ∧
        World.Reachable installed contents merge w' ∧
        w'.xcoms.complete = some ⟨target.partitionLabel, "succeeded"⟩ := by
  have triggered : World.Reachable installed contents merge { w with run := run, xcoms := .none } :=
    reached.step (.triggered run idle)
  obtain ⟨yellowResolved, yellowIs⟩ := tripMonthSource_resolved yellowMonth
  obtain ⟨greenResolved, greenIs⟩ := tripMonthSource_resolved greenMonth
  have first : World.attempt installed { w with run := run, xcoms := .none } .resolvePartition =
      some { w with run := run, xcoms := { Xcoms.none with target := some target } } := by
    show some (World.recording _ _ (run.target, w.workspace)) = _
    rw [resolved]
    rfl
  have fresh : World.Fresh { w with run := run, xcoms := { Xcoms.none with target := some target } } installed contents
      merge run target :=
    ⟨triggered.step (.tried .resolvePartition first (triggered.sound collisionFree documented).within), rfl, rfl, idle,
      closed, available⟩
  have yellowDataset : yellowSource.datasetName = "yellow_tripdata" := (monthlyTripSource_ok yellowIs).2.2.1
  have greenDataset : greenSource.datasetName = "green_tripdata" := (monthlyTripSource_ok greenIs).2.2.1
  have yellowTable : yellow.table = .yellowTrips := yellowMade.table_eq yellowDataset rfl
  have greenTable : green.table = .greenTrips := greenMade.table_eq greenDataset rfl
  have zonesYellow : taxiZoneSource.partitionKey ≠ yellowSource.partitionKey :=
    Resolved.partitions_apart .zones yellowResolved (by rw [yellowDataset]; decide)
  have zonesGreen : taxiZoneSource.partitionKey ≠ greenSource.partitionKey :=
    Resolved.partitions_apart .zones greenResolved (by rw [greenDataset]; decide)
  have yellowGreen : yellowSource.partitionKey ≠ greenSource.partitionKey :=
    yellowResolved.partitions_apart greenResolved (by rw [yellowDataset, greenDataset]; decide)
  obtain ⟨zonesEvents, zonesQuiet, zonesLoaded, ws₂, second, keeps₂, gains₂, fresh₂⟩ :=
    @World.Fresh.loads _ _ _ _ _ _ _ _ _ (fun xcoms loaded => { xcoms with zones := some loaded }) .ensureTaxiZones
      fresh collisionFree documented zonesMade .zones slices zonesTry (fun _ _ => rfl)
      fun tries loaded workspace called => by
        show (ensureLoaded installed tries taxiZoneSource w.workspace >>= _) = _
        rw [called]
        rfl
  have yellowMade₂ := yellowMade.stays keeps₂ .zones yellowResolved zonesYellow
  have greenMade₂ := greenMade.stays keeps₂ .zones greenResolved zonesGreen
  obtain ⟨yellowEvents, yellowQuiet, yellowLoaded, ws₃, third, keeps₃, gains₃, fresh₃⟩ :=
    @World.Fresh.loads _ _ _ _ _ _ _ _ _ (fun xcoms loaded => { xcoms with yellow := some loaded }) .ensureYellowLoaded
      fresh₂ collisionFree documented yellowMade₂ yellowResolved slices yellowTry (fun _ _ => rfl)
      fun tries loaded workspace called => by
        show (ensureTripMonthLoaded installed tries "yellow" target.year target.month ws₂ >>= _) = _
        unfold ensureTripMonthLoaded
        rw [yellowMonth]
        dsimp only at called ⊢
        rw [called]
        rfl
  have yellowStands :=
    ((fresh₃.reached.sound collisionFree documented).yellow yellowLoaded rfl).month resolved yellowMonth
  have greenMade₃ := greenMade₂.stays keeps₃ yellowResolved greenResolved yellowGreen
  obtain ⟨yellowSummary, ws₄, fourth, keeps₄, same₄, fresh₄⟩ :=
    @World.Fresh.checks _ _ _ _ _ _ (.qualityYellow yellowAt) _ _ "yellow" yellowAt
      (fun xcoms summary => { xcoms with yellowQuality := some summary }) zonesLoaded fresh₃ collisionFree documented
      followed yellowMonth rfl yellowStands (fun _ _ => rfl) fun summary workspace returned => by
        show some (World.recording _ _ (runPartitionQuality yellowAt "yellow" target.year target.month ws₃)) = _
        rw [show runPartitionQuality yellowAt "yellow" target.year target.month ws₃ = _ from returned]
        rfl
  have greenMade₄ := greenMade₃.stays keeps₄ yellowResolved greenResolved yellowGreen
  obtain ⟨greenEvents, greenQuiet, greenLoaded, ws₅, fifth, keeps₅, gains₅, fresh₅⟩ :=
    @World.Fresh.loads _ _ _ _ _ _ _ _ _ (fun xcoms loaded => { xcoms with green := some loaded }) .ensureGreenLoaded
      fresh₄ collisionFree documented greenMade₄ greenResolved slices greenTry (fun _ _ => rfl)
      fun tries loaded workspace called => by
        show (ensureTripMonthLoaded installed tries "green" target.year target.month ws₄ >>= _) = _
        unfold ensureTripMonthLoaded
        rw [greenMonth]
        dsimp only at called ⊢
        rw [called]
        rfl
  have greenStands :=
    ((fresh₅.reached.sound collisionFree documented).green greenLoaded rfl).2.month resolved greenMonth
  obtain ⟨greenSummary, ws₆, sixth, -, same₆, fresh₆⟩ :=
    @World.Fresh.checks _ _ _ _ _ _ (.qualityGreen greenAt) _ _ "green" greenAt
      (fun xcoms summary => { xcoms with greenQuality := some summary }) zonesLoaded fresh₅ collisionFree documented
      followed greenMonth rfl greenStands (fun _ _ => rfl) fun summary workspace returned => by
        show some (World.recording _ _ (runPartitionQuality greenAt "green" target.year target.month ws₅)) = _
        rw [show runPartitionQuality greenAt "green" target.year target.month ws₅ = _ from returned]
        rfl
  have none_zero₂ := gains₂.noZeroZone none_zero fun _ => none_offered
  have none_zero₃ := gains₃.noZeroZone none_zero₂ fun same => absurd (yellowTable.symm.trans same) RawTable.noConfusion
  have none_zero₅ := gains₅.noZeroZone (none_zero₃.same same₄) fun same =>
    absurd (greenTable.symm.trans same) RawTable.noConfusion
  obtain ⟨built, w', builds, passes, completed, reached', label⟩ := fresh₆.completes collisionFree documented rfl rfl
    (none_zero₅.same same₆)
  exact ⟨zonesEvents, yellowEvents, greenEvents, zonesQuiet, yellowQuiet, greenQuiet, _, built, w',
    taskTries_run first second third fourth fifth sixth, builds, passes, completed, reached', label⟩

end Runs

section Month

def greenSource : SourcePartition where
  datasetName := "green_tripdata"
  serviceType := some "green"
  year := some 2025
  month := some 1
  partitionKey := "green/2025/01"
  sourceUrl := tlcBaseUrl ++ "/trip-data/green_tripdata_2025-01.parquet"
  landingPath := "data/landing/green/2025/01.parquet"
  sourceFormat := "parquet"

def greenMetadata : SourceFileMetadata where
  datasetName := "green_tripdata"
  serviceType := some "green"
  year := some 2025
  month := some 1
  partitionKey := "green/2025/01"
  sourceUrl := greenSource.sourceUrl
  landingPath := greenSource.landingPath
  sourceFormat := "parquet"
  checksumSha256 := 2
  fileSizeBytes := 2
  rowCount := some 1
  schemaFingerprint := some 0
  schemaVersion := some "green_v1"

theorem oneTrip_rectangular (types : List (String × ArrowType)) :
    ∀ column ∈ types.map fun entry => [if entry.2 = .int32 then some (ArrowCell.int 1) else none], column.length = 1 := by
  intro column member
  obtain ⟨entry, -, rfl⟩ := List.mem_map.mp member
  rfl

/-- A trip file with one row, all null but for its narrow integers. -/
def oneTrip (types : List (String × ArrowType)) : ParquetFile where
  schema := contractFields types
  table := {
    names := types.map Prod.fst
    columns := types.map fun entry => [if entry.2 = .int32 then some (.int 1) else none]
    rowCount := 1
    one_per_name := (List.length_map _).trans (List.length_map _).symm
    rectangular := oneTrip_rectangular types }
  named := contractFields_names.symm

/-- Readers of the three files of the month. -/
def monthRows : RowReaders where
  csvFile := fun _ => twoZones
  parquetFile := fun content => oneTrip (if content.length = 2 then greenFieldTypes else yellowBaselineTypes)
  iterBatches := fun file _ => [file.table]

/-- A file of the month with its inspection and its rows. -/
def monthOffer (content : Bytes) (metadata : SourceFileMetadata) (table : RawTable) : SourceOffer :=
  ⟨content, metadata, monthRows.landing metadata.datasetName content defaultBatchSize, table⟩

def zonesOffer : SourceOffer := monthOffer [1, 2, 3] zoneMetadata .taxiZones
def yellowOffer : SourceOffer := monthOffer [1] yellowMetadata .yellowTrips
def greenOffer : SourceOffer := monthOffer [1, 1] greenMetadata .greenTrips

theorem monthRows_agree (content : Bytes) : monthRows.AgreeOn monthReaders content where
  parquet := by
    intro found opened
    have read : monthReaders.parquetFile content =
        .ok (contractFields (if content.length = 2 then greenFieldTypes else yellowBaselineTypes), 1) := by
      by_cases green : content.length = 2 <;> simp [monthReaders, tripReaders, green, contractFields]
    exact (Except.ok.inj (read.symm.trans opened)).symm
  csv := fun _ read => ⟨plainPandas, (Except.ok.inj read).symm⟩

/-- The first tries of a run whose process is lost in the load of its zones. -/
def monthLost : Option World :=
  [.resolvePartition, .ensureTaxiZones (loadTry 0 (List.replicate 8 (.next 0) ++ [.openFile 1 zoneFile, .crash]))].foldlM
    (World.attempt monthInstallation) monthStart

theorem monthLost_ends : monthLost.map (fun (w : World) => (w.building.isNone, w.warehouse.execution.isNone,
    [zoneMetadata, yellowMetadata, greenMetadata].map w.session.db.versionStatus,
      decide (∀ row ∈ w.session.db.raw .taxiZones, row.values.locationId ≠ 0))) =
    some (true, true, [.ready, .ready, .ready], true) := by
  decide +kernel

theorem monthLost_reached {w : World} (ran : monthLost = some w) :
    World.Reachable monthInstallation monthContents deleteInsert w ∧
      w.workspace.deployment.landing = monthStart.workspace.deployment.landing := by
  have start : World.Reachable monthInstallation monthContents deleteInsert monthStart := by
    refine .start rfl (fun path content found => ?_) _
    obtain ⟨content', member, found'⟩ := monthFiles_there path
    cases found.symm.trans found'
    exact member
  exact start.attempts monthFiles_there ran

/-- The next run of the month completes. -/
theorem monthLost_completes : ∃ w w', monthLost = some w ∧
    World.Reachable monthInstallation monthContents deleteInsert w' ∧
    w'.xcoms.complete = some ⟨"2025-01", "succeeded"⟩ := by
  obtain ⟨w, ran, ends⟩ := Option.map_eq_some_iff.mp monthLost_ends
  simp only [Prod.mk.injEq, Option.isNone_iff_eq_none, List.map_cons, List.map_nil, List.cons.injEq, and_true,
    decide_eq_true_eq] at ends
  obtain ⟨idle, closed, ⟨zonesReady, yellowReady, greenReady⟩, none_zero⟩ := ends
  obtain ⟨reached, landing⟩ := monthLost_reached ran
  have accepted : ∀ {status : SourceStatus}, status = .ready → status ≠ .revisionDetected := by
    intro status ready
    rw [ready]
    decide
  have onDisk : ∀ {property : Prop}, monthInstallation.backend = .s3Landing → property :=
    fun backend => LandingBackend.noConfusion backend
  have zonesMade : zonesOffer.Made monthInstallation monthRows taxiZoneSource w.workspace :=
    ⟨by rw [landing]; decide, rfl, ⟨by decide, fun rowCount same => by cases same; decide⟩, rfl, monthRows_agree _, rfl,
      ⟨by decide, fun _ => by decide⟩, accepted zonesReady, onDisk⟩
  have yellowMade : yellowOffer.Made monthInstallation monthRows yellowSource w.workspace :=
    ⟨by rw [landing]; decide, rfl, ⟨by decide, fun rowCount same => by cases same; decide⟩, rfl, monthRows_agree _, rfl,
      ⟨by decide, fun same => RawTable.noConfusion same⟩, accepted yellowReady, onDisk⟩
  have greenMade : greenOffer.Made monthInstallation monthRows greenSource w.workspace :=
    ⟨by rw [landing]; decide, rfl, ⟨by decide, fun rowCount same => by cases same; decide⟩, rfl, monthRows_agree _, rfl,
      ⟨by decide, fun same => RawTable.noConfusion same⟩, accepted greenReady, onDisk⟩
  obtain ⟨-, -, -, -, -, -, checked, built, w', -, -, -, -, reached', completed⟩ := @undisturbed_run_completes
    monthInstallation monthRows monthContents deleteInsert ⟨newYear.date, some 2025, some 1⟩ (.of 2025 1) w zonesOffer
    yellowOffer greenOffer yellowSource greenSource monthContents_collisionFree (fun _ _ => .refl _) reached idle closed
    onDisk rfl (by decide) (by decide) (by decide) (RowReaders.slices_of_single fun _ _ => rfl) zonesMade yellowMade
    greenMade none_zero (by decide) (loadTry 2 []) (loadTry 3 []) (loadTry 4 []) 5 6
  exact ⟨w, w', ran, reached', completed⟩

end Month

end TaxiPipeline
