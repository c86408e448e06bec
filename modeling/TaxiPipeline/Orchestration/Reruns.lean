import TaxiPipeline.Orchestration.PartitionQuality

namespace TaxiPipeline

open ReadCommitted Stateful StorageAction Transaction

/-- Nothing has been loaded: the raw rows are the same, and so are the loaded sources but for their storage
    metadata. -/
structure Database.LoadsNothing (db db' : Database) : Prop where
  raw : db'.raw = db.raw
  loaded : db'.unstored.sourceFiles.filter (·.status == .loaded) = db.unstored.sourceFiles.filter (·.status == .loaded)

/-- A call that has returned was skipped. -/
def Phase.Skips : Phase → Prop
  | .finished (.returned result) _ => result.statusReason ≠ none
  | _ => True

section Nothing

variable {db db' db'' : Database} {metadata : SourceFileMetadata} {pending : List Write} {phase next : Phase}
  {sequences drawn : Sequences} {effect : Effect Write} {batchSize : Int}

theorem Database.LoadsNothing.refl (db : Database) : db.LoadsNothing db := ⟨rfl, rfl⟩

theorem Database.LoadsNothing.trans (first : db.LoadsNothing db') (second : db'.LoadsNothing db'') :
    db.LoadsNothing db'' :=
  ⟨second.raw.trans first.raw, second.loaded.trans first.loaded⟩

/-- The models of dbt read the same. -/
theorem Database.LoadsNothing.trips (nothing : db.LoadsNothing db') : intTripsEnriched db' = intTripsEnriched db := by
  have sources : ∀ datasetName serviceType,
      loadedSources db'.unstored datasetName serviceType = loadedSources db.unstored datasetName serviceType := by
    intro datasetName serviceType
    have of_loaded : ∀ db : Database, loadedSources db datasetName serviceType =
        ((db.sourceFiles.filter (·.status == .loaded)).filter fun row =>
          row.datasetName == datasetName && row.serviceType == some serviceType).map (·.sourceFileId) := by
      intro db
      unfold loadedSources
      rw [List.filter_filter]
    rw [of_loaded, of_loaded, nothing.loaded]
  have raw : db'.unstored.raw = db.unstored.raw := nothing.raw
  rw [← intTripsEnriched_unstored, ← @intTripsEnriched_unstored db]
  unfold intTripsEnriched intTripsNormalized stgTlcYellowTrips stgTlcGreenTrips
  rw [sources, sources, raw]

/-- Only the commit of a load loads anything. -/
theorem Phase.Session.loadsNothing (session : phase.Session metadata db pending) (atCommit : phase.AtCommit)
    (notLoading : ∀ sourceFileId runId point, phase ≠ .loading sourceFileId runId point) :
    db.LoadsNothing (db.replay pending) := by
  unfold Phase.AtCommit at atCommit
  split at atCommit
  · have rest := session.2
    split at rest
    · obtain ⟨⟨now, rfl⟩, -, -, chosen⟩ := rest
      refine ⟨rfl, ?_⟩
      have added : ∀ row : SourceFile, row.status ≠ .loaded →
          (db.addSourceFile row).unstored.sourceFiles.filter (·.status == .loaded) =
            db.unstored.sourceFiles.filter (·.status == .loaded) := by
        intro row unloaded
        have dropped : [row.unstored].filter (·.status == .loaded) = [] := by
          refine List.filter_eq_nil_iff.mpr fun other member same => ?_
          rw [List.mem_singleton.mp member] at same
          exact unloaded (beq_iff_eq.mp same)
        unfold Database.unstored Database.addSourceFile
        rw [List.map_append, List.filter_append, List.map_singleton, dropped, List.append_nil]
      refine added _ ?_
      rcases chosen with ready | ⟨revised, -⟩
      · exact fun loaded => SourceStatus.noConfusion (ready.symm.trans loaded)
      · exact fun loaded => SourceStatus.noConfusion (revised.symm.trans loaded)
    · cases rest.1
      exact .refl _
  · obtain ⟨held, source, run, rfl, rfl, same, rfl, shown⟩ := session
    exact ⟨rfl, rfl⟩
  · obtain ⟨held, source, run, rfl, rfl, same, rfl, shown⟩ := session
    exact ⟨rfl, rfl⟩
  · exact absurd rfl (notLoading _ _ _)
  · obtain ⟨-, -, run, now, got, running, rfl⟩ := session
    exact ⟨rfl, rfl⟩
  · exact atCommit.elim

theorem Request.exec_skips {e : Event}
    (executed : (Request.ingest metadata batchSize).exec phase (db.replay pending) sequences e =
      some (effect, next, drawn))
    (notLoading : ∀ sourceFileId runId point, phase ≠ .loading sourceFileId runId point) : next.Skips := by
  cases e with
  | next now =>
    obtain ⟨⟨outcome, drawn'⟩, advanced, same⟩ := Option.map_eq_some_iff.mp executed
    cases same
    cases phase with
    | idle =>
      cases advanced
      unfold Request.begin
      dsimp only
      split <;> exact True.intro
    | registering point =>
      cases advanced
      refine Reply.proceed_next (fun _ => True.intro) (fun result => ?_) fun _ => True.intro
      unfold Request.afterRegistration
      dsimp only
      split <;> exact True.intro
    | skipping sourceFileId reason point =>
      cases advanced
      exact Reply.proceed_next (fun _ => True.intro) (fun runId => Option.some_ne_none _) fun _ => True.intro
    | starting sourceFileId point =>
      cases advanced
      exact Reply.proceed_next (fun _ => True.intro) (fun _ => True.intro) fun _ => True.intro
    | loading sourceFileId runId point => exact absurd rfl (notLoading _ _ _)
    | failing sourceFileId runId message point =>
      cases advanced
      exact Reply.proceed_next (fun _ => True.intro) (fun _ => True.intro) fun _ => True.intro
    | finished outcome recorded => cases advanced
    | crashed recorded => cases advanced
  | openFile now file =>
    obtain ⟨outcome, opened, same⟩ := Option.map_eq_some_iff.mp executed
    obtain ⟨metadata', batchSize', sourceFileId, runId, -, loading, -⟩ := Phase.openFile_some opened
    exact absurd loading (notLoading _ _ _)
  | raise error =>
    obtain ⟨next', raised, same⟩ := Option.map_eq_some_iff.mp executed
    cases same
    cases phase <;> cases raised <;> exact True.intro
  | commitRaises error =>
    obtain ⟨next', raised, same⟩ := Option.map_eq_some_iff.mp executed
    cases same
    unfold Phase.commitRaises at raised
    split at raised <;> cases raised <;> exact True.intro
  | crash =>
    obtain ⟨next', crashed, same⟩ := Option.map_eq_some_iff.mp executed
    cases same
    rw [Phase.crash_some crashed]
    exact True.intro

end Nothing

section Reruns

variable {s s' : Session} {metadata : SourceFileMetadata} {batchSize : Int} {t : Platform Unit} {checksum : Digest}
  {result : IngestionResult}

/-- Where the partition has a loaded version, no call of it comes to its load. -/
theorem Session.Calling.notLoading (calling : s.Calling (.ingest metadata batchSize) t)
    (held : s.HasLoaded metadata.partitionKey checksum) (sourceFileId runId : Nat) (point : LoadPoint) :
    t.phase () ≠ .loading sourceFileId runId point := by
  intro loading
  obtain ⟨loadedId, row, got, partition, -, loaded⟩ := calling.loaded held
  have reached := calling.reached
  rw [loading] at reached
  obtain ⟨source, base, run, started, -, -, same, -⟩ := reached
  obtain ⟨pending, registered⟩ := started.registered
  have member : source ∈ t.committed.sourceFiles := by
    rw [same]
    exact registered.member.1
  have one := calling.one.unique source member row (getSourceFile_some got).1
    (registered.member.2.1.trans partition.symm) (by rw [started.ready]; exact SourceStatus.noConfusion)
    (by rw [loaded]; exact SourceStatus.noConfusion)
  have ready := started.ready
  rw [one, loaded] at ready
  cases ready

/-- Where the partition has a loaded version, a call loads nothing, whatever it meets. -/
theorem run_loadsNothing {events : List (Unit × Event)} (orderly : s.Orderly)
    (held : s.HasLoaded metadata.partitionKey checksum)
    (ran : (Request.ingest metadata batchSize).program.run (.alone s.db s.sequences .idle []) events = some t) :
    s.db.LoadsNothing t.committed ∧ (t.phase ()).Skips := by
  have kept := Program.run_preserves
    (I := fun t => s.Calling (.ingest metadata batchSize) t ∧ s.db.LoadsNothing t.committed ∧ (t.phase ()).Skips)
    (fun t i e t' holds stepped => ?_) ⟨calling_start orderly, .refl _, True.intro⟩ ran
  · exact kept.2
  · obtain ⟨calling, nothing, -⟩ := holds
    have coherent := calling.accepting.coherent
    have notLoading := calling.notLoading held
    refine ⟨calling.step orderly.consistent stepped, ?_⟩
    rw [t.eq_alone, Program.step_alone] at stepped
    obtain ⟨⟨effect, next, drawn⟩, executed, rfl⟩ := Option.map_eq_some_iff.mp stepped
    have skips := Request.exec_skips executed notLoading
    cases effect with
    | commit =>
      have committed := (coherent.sessions ()).loadsNothing (Request.exec_commit executed) notLoading
      exact ⟨nothing.trans committed, skips⟩
    | read | write w | rollback => exact ⟨nothing, skips⟩

theorem ingestSource_skips {events : List Event} {answer : Except PyException IngestionResult} (orderly : s.Orderly)
    (held : s.HasLoaded metadata.partitionKey checksum)
    (called : ingestSource metadata events s = some (answer, s')) :
    s.db.LoadsNothing s'.db ∧ ∀ result, answer = .ok result → result.statusReason ≠ none := by
  obtain ⟨t, ran, -, rfl, returned⟩ := ingestSource_some called
  obtain ⟨nothing, skips⟩ := run_loadsNothing orderly held ran
  refine ⟨nothing, fun result is_result => ?_⟩
  obtain ⟨recorded, at_phase⟩ := returned result is_result
  rw [at_phase] at skips
  exact skips

theorem persisted_loadsNothing (s : Session) (sourceFileId : Nat) (storage : StorageResult) :
    s.db.LoadsNothing (s.persisted sourceFileId storage).db := by
  have meets : (persistStorageMetadata sourceFileId storage).Meets s (fun _ s' => s.db.LoadsNothing s'.db)
      fun _ s' => s.db.LoadsNothing { s' with db := s.db : Session }.db := by
    refine (persistStorageMetadata_meets s sourceFileId storage).mono (fun _ s' persisted => ?_) fun _ s' _ => .refl _
    subst persisted
    refine ⟨rfl, ?_⟩
    rw [Database.unstored_persist]
  exact (meets_atomically meets).ends

end Reruns

section Partitions

variable {installed : Installation} {tried : LoadTry} {source : SourcePartition} {w w' : Workspace}
  {answer : Except PyException LoadedPartition} {row : SourceFile} {metadata : SourceFileMetadata}
  {result : IngestionResult} {s s' : Session}

/-- What is skipped without an alarm is the loaded version. -/
theorem IngestionResult.Backed.already (backed : result.Backed metadata s'.db) (orderly : s'.Orderly)
    (held : s'.HasLoaded metadata.partitionKey row.checksumSha256)
    (loadedId : ∃ row', s'.db.getSourceFile row.sourceFileId = some row' ∧ row'.partitionKey = metadata.partitionKey ∧
      row'.status = .loaded)
    (skipped : result.statusReason ≠ none)
    (accepted : result.status = .skipped → result.statusReason ≠ some .sourceRevisionDetected) :
    LoadedPartition.of result =
      ⟨metadata.partitionKey, row.sourceFileId, result.runId, .alreadyLoaded, .skipped, 0⟩ ∧
      metadata.checksumSha256 = row.checksumSha256 := by
  have status : result.status = .skipped := by
    rw [backed.status, if_neg skipped]
  have reason : result.statusReason = some .alreadyLoaded := by
    have other := accepted status
    cases is_reason : result.statusReason with
    | none => exact absurd is_reason skipped
    | some reason =>
      cases reason with
      | alreadyLoaded => rfl
      | sourceRevisionDetected => exact absurd is_reason other
  have rows : result.rowsLoaded = 0 := by
    have loaded := backed.rowsLoaded
    rwa [if_neg skipped] at loaded
  obtain ⟨version, got, partition, checksum, isLoaded⟩ := backed.version
  unfold IngestionResult.sourceStatus at isLoaded
  rw [reason] at isLoaded
  have unique : ∀ other : SourceFile, other ∈ s'.db.sourceFiles → other.partitionKey = metadata.partitionKey →
      other.status = .loaded → other = version := by
    intro other member samePartition loaded
    refine orderly.one.unique other member version (getSourceFile_some got).1 (samePartition.trans partition.symm) ?_ ?_
    · rw [loaded]
      exact SourceStatus.noConfusion
    · rw [isLoaded]
      exact SourceStatus.noConfusion
  obtain ⟨row', got', partition', loaded'⟩ := loadedId
  obtain ⟨otherId, other, gotOther, otherPartition, otherChecksum, otherLoaded⟩ := held
  have same := unique row' (getSourceFile_some got').1 partition' loaded'
  have same' := unique other (getSourceFile_some gotOther).1 otherPartition otherLoaded
  have sameId : result.sourceFileId = row.sourceFileId := by
    rw [← (getSourceFile_some got).2, ← same]
    exact (getSourceFile_some got').2
  refine ⟨?_, checksum.symm.trans (same' ▸ otherChecksum)⟩
  unfold LoadedPartition.of
  rw [backed.partitionKey, sameId, status, rows, reason]
  rfl

/-- File-level idempotency of the workflow: where a partition has a loaded version, a try of its task loads nothing,
    whatever it meets, and returns only for a file of that version, which it reports as already loaded. -/
theorem reloading_loads_nothing (history : Session.start.Leads w.session) (resolved : Resolved source)
    (got : w.session.db.getSourceFile row.sourceFileId = some row) (partition : row.partitionKey = source.partitionKey)
    (isLoaded : row.status = .loaded) (called : ensureLoaded installed tried source w = some (answer, w')) :
    (w'.session.db.raw = w.session.db.raw ∧ intTripsEnriched w'.session.db = intTripsEnriched w.session.db) ∧
      ∀ loaded, answer = .ok loaded →
        (∃ runId, loaded = ⟨source.partitionKey, row.sourceFileId, runId, .alreadyLoaded, .skipped, 0⟩) ∧
        ∃ content, w'.deployment.landing.files (resolvePath w.deployment.landing.root source.landingPath) =
          some content ∧ installed.setup.readers.sha256 content = row.checksumSha256 := by
  have orderly := (Session.Leads.keeps history orderly_start).orderly
  have held : w.session.HasLoaded source.partitionKey row.checksumSha256 :=
    ⟨row.sourceFileId, row, got, partition, rfl, isLoaded⟩
  have skips : ∀ {w₁ : Workspace} {prepared : PreparedSource} {events : List Event}
      {answer : Except PyException IngestionResult} {session : Session},
      w.Prepared w₁ installed.setup source prepared →
        ingestSource prepared.metadata events w.session = some (answer, session) →
        w.session.db.LoadsNothing session.db ∧ ∀ result, answer = .ok result → result.statusReason ≠ none := by
    intro w₁ prepared events answer session found called
    obtain ⟨path, content, -, -, inspected⟩ := found.inspected
    rw [← inspectSource_partition inspected] at held
    exact ingestSource_skips orderly held called
  have nothing : ∀ {db' : Database}, w.session.db.LoadsNothing db' →
      db'.raw = w.session.db.raw ∧ intTripsEnriched db' = intTripsEnriched w.session.db := by
    intro db' nothing
    exact ⟨nothing.raw, nothing.trips⟩
  cases ensureLoaded_tried called with
  | unprepared same =>
    refine ⟨?_, fun loaded is_ok => by cases is_ok⟩
    rw [show w'.session = w.session from same.1]
    exact ⟨rfl, rfl⟩
  | failed found ended => exact ⟨nothing (skips found ended).1, fun loaded is_ok => by cases is_ok⟩
  | unpersisted found ended | revised found ended _ =>
    exact ⟨nothing ((skips found ended).1.trans (persisted_loadsNothing _ _ _)), fun loaded is_ok => by cases is_ok⟩
  | @returned prepared events ingestion session w₁ found ended accepted =>
    refine ⟨nothing ((skips found ended).1.trans (persisted_loadsNothing _ _ _)), fun loaded is_ok => ?_⟩
    obtain rfl := Except.ok.inj is_ok
    obtain ⟨path, content, destination, there, inspected⟩ := found.inspected
    have samePartition := inspectSource_partition inspected
    have call : w.session.CallsWith (fun _ => True) session := ingestSource_calls True.intro ended
    have kept := call.calls.keeps orderly
    obtain ⟨row', got', same⟩ := (call.calls.keepsSources orderly).sources got isLoaded
    have loadedId : ∃ row', session.db.getSourceFile row.sourceFileId = some row' ∧
        row'.partitionKey = prepared.metadata.partitionKey ∧ row'.status = .loaded :=
      ⟨row', got', same.partition.trans (partition.trans samePartition.symm), same.status.trans isLoaded⟩
    have stillHeld : session.HasLoaded prepared.metadata.partitionKey row.checksumSha256 := by
      rw [samePartition]
      exact kept.loaded held
    obtain ⟨is_loaded, checksum⟩ := (ingestSource_backed orderly ended).already kept.orderly stillHeld loadedId
      ((skips found ended).2 ingestion rfl) accepted
    rw [samePartition] at is_loaded
    refine ⟨⟨ingestion.runId, is_loaded⟩, content, ?_, ?_⟩
    · rw [destinationOf, resolved.underLanding] at destination
      rw [Except.ok.inj destination]
      exact there
    · obtain ⟨-, found, -, is_metadata⟩ := inspectSource_ok inspected
      rw [← checksum, is_metadata]

end Partitions

def zonesInstallation : Installation :=
  ⟨⟨zoneReaders, "landing", fun _ => none⟩, .localLanding, "/opt/airflow/project/dbt/taxi_analytics"⟩

def zonesWorkspace : Workspace := ⟨⟨.start, [], ⟨[], fun _ => some [1, 2, 3]⟩⟩, []⟩

/-- Two tries of the task of the zones, in the second of which their file is skipped. -/
def zonesTwice :
    Option ((Except PyException LoadedPartition × Workspace) × Except PyException LoadedPartition × Workspace) :=
  (ensureTaxiZonesLoaded zonesInstallation (tryOn zoneFile 10) zonesWorkspace).bind fun first =>
    (ensureTaxiZonesLoaded zonesInstallation (loadTry 1 (List.replicate 6 (.next 1))) first.2).map fun second =>
      (first, second)

theorem zonesTwice_ends : zonesTwice.map (fun tries =>
    (tries.1.1.toOption, (tries.1.2.session.db.getSourceFile 1).map fun row => (row.partitionKey, row.status))) =
    some (some ⟨"reference/taxi_zones", 1, 1, .loaded, .succeeded, 2⟩, some ("reference/taxi_zones", .loaded)) := by
  decide +kernel

/-- The second try finds the loaded version of the first one. -/
theorem zonesTwice_loads_nothing : ∃ first second, zonesTwice = some (first, second) ∧
    second.2.session.db.raw = first.2.session.db.raw ∧
    intTripsEnriched second.2.session.db = intTripsEnriched first.2.session.db := by
  obtain ⟨⟨first, second⟩, ran, ends⟩ := Option.map_eq_some_iff.mp zonesTwice_ends
  simp only [Prod.mk.injEq] at ends
  obtain ⟨-, found⟩ := ends
  obtain ⟨row, got, is_row⟩ := Option.map_eq_some_iff.mp found
  obtain ⟨partition, loaded⟩ := Prod.mk.inj is_row
  refine ⟨first, second, ran, ?_⟩
  unfold zonesTwice at ran
  obtain ⟨first', called, rest⟩ := Option.bind_eq_some_iff.mp ran
  obtain ⟨second', calledAgain, same⟩ := Option.map_eq_some_iff.mp rest
  cases same
  have landing := ensureLoaded_landing .zones rfl called
  have within : first.2.Within {[1, 2, 3]} := by
    intro path content there
    rw [landing] at there
    exact (Option.some.inj there).symm
  have history := (ensureLoaded_tried called).leads .zones within
  have sameId : row.sourceFileId = 1 := (getSourceFile_some got).2
  rw [← sameId] at got
  exact (reloading_loads_nothing history.leads .zones got partition loaded calledAgain).1

end TaxiPipeline
