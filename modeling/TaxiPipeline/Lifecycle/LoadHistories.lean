import TaxiPipeline.Lifecycle.Registries

namespace TaxiPipeline

open ReadCommitted Relational Stateful Transaction

/-- What the metadata of inspected files have in common. -/
structure Inspections (known : SourceFileMetadata → Prop) : Prop where
  catalog : Catalog known
  serviced : Serviced known
  zones : ∀ {metadata}, known metadata → metadata.datasetName = "taxi_zone_lookup" →
    metadata.partitionKey = "reference/taxi_zones"

theorem inspections {readers : Readers} {contents : Set Bytes} (collisionFree : Set.InjOn readers.sha256 contents) :
    Inspections (·.Inspected readers contents) := by
  let Known := { metadata : SourceFileMetadata // metadata.Inspected readers contents }
  have source : ∀ known : Known, ∃ source content, Resolved source ∧ content ∈ contents ∧
      inspectSource readers source content = .ok known.1 := fun known => known.2
  choose source content resolved within inspected using source
  have all : (fun metadata => ∃ known : Known, (Request.register known.1).metadata = metadata) =
      (·.Inspected readers contents) := by
    funext metadata
    exact propext ⟨fun ⟨known, same⟩ => same ▸ known.2, fun known => ⟨⟨metadata, known⟩, rfl⟩⟩
  refine ⟨?_, ?_, ?_⟩
  · rw [← all]
    exact inspected_catalog resolved inspected fun i j same => collisionFree (within i) (within j) same
  · rw [← all]
    exact inspected_serviced resolved inspected
  · rintro metadata ⟨source, content, resolved, -, inspected⟩ isZone
    obtain ⟨-, found, -, rfl⟩ := inspectSource_ok inspected
    cases resolved with
    | yellow ok | green ok =>
      have dataset := (monthlyTripSource_ok ok).2.2.1
      exact absurd (dataset.symm.trans isZone) (by decide)
    | zones => rfl

section Unstored

variable {db : Database} {sourceFileId : Nat}

theorem Database.isLoaded_unstored : db.unstored.isLoaded sourceFileId = db.isLoaded sourceFileId := by
  unfold Database.isLoaded
  rw [Database.getSourceFile_unstored, Option.any_map]
  rfl

theorem Database.loadedTrips_unstored : db.unstored.loadedTrips = db.loadedTrips := by
  unfold Database.loadedTrips
  simp only [Database.isLoaded_unstored]
  rfl

theorem intTripsEnriched_unstored : intTripsEnriched db.unstored = intTripsEnriched db := by
  have sources : ∀ datasetName serviceType,
      loadedSources db.unstored datasetName serviceType = loadedSources db datasetName serviceType := by
    intro datasetName serviceType
    unfold loadedSources Database.unstored
    rw [List.filter_map, List.map_map]
    rfl
  unfold intTripsEnriched intTripsNormalized stgTlcYellowTrips stgTlcGreenTrips
  rw [sources, sources]
  rfl

end Unstored

/-- What holds between calls on known metadata: described sources, exact loads, and runs of their sources. -/
structure Session.Ingested (s : Session) (known : SourceFileMetadata → Prop) : Prop where
  orderly : s.Orderly
  described : Described known s.db.unstored
  loads : s.db.LoadsExact
  runs : s.db.RunsMatch

theorem session_ingested_start {known : SourceFileMetadata → Prop} : Session.start.Ingested known where
  orderly := orderly_start
  described := described_empty known
  loads := loadsExact_empty
  runs := fun _ _ _ got _ => nomatch got

section Step

variable {known : SourceFileMetadata → Prop} {metadata : SourceFileMetadata} {owned : Nat → Prop} {s s' : Session}

/-- What a call does to the trips: those of whole sources come in. -/
def Session.TripsGrow (s s' : Session) : Prop :=
  WholeBatches (·.lineage.sourceFileId) (intTripsEnriched s.db) (intTripsEnriched s'.db)

theorem Session.Ingested.commits (ingested : s.Ingested known) (inspections : Inspections known)
    (mine : known metadata) (orderly : s'.Orderly) (step : CommitStep metadata s.db s'.db)
    (extended : s.db.Extends owned s'.db) : s'.Ingested known ∧ s.TripsGrow s' := by
  have nodup : s.db.unstored.index.Nodup := by
    rw [Database.unstored_index]
    exact ingested.orderly.consistent.nodup
  have nodup_after : s'.db.unstored.index.Nodup := by
    rw [Database.unstored_index]
    exact orderly.consistent.nodup
  have loads := Database.unstored_loadsExact.mpr ingested.loads
  refine ⟨⟨orderly, step.unstored.described mine ingested.described, ?_, step.runsMatch extended ingested.runs⟩, ?_⟩
  · exact Database.unstored_loadsExact.mp
      (step.unstored.loadsExact inspections.catalog mine ingested.described nodup nodup_after loads)
  · have whole := step.unstored.whole inspections.catalog inspections.serviced mine nodup ingested.described loads
      nodup_after
    rwa [intTripsEnriched_unstored, intTripsEnriched_unstored] at whole

theorem Session.TripsGrow.of_eq (same : intTripsEnriched s'.db = intTripsEnriched s.db) : s.TripsGrow s' := by
  unfold Session.TripsGrow
  rw [same]
  exact .refl _

theorem Session.TripsGrow.trans {s'' : Session} (first : s.TripsGrow s') (second : s'.TripsGrow s'') :
    s.TripsGrow s'' :=
  WholeBatches.trans first second

/-- What a call keeps of the loads. -/
structure Session.KeepsLoads (s : Session) (known : SourceFileMetadata → Prop) (s' : Session) : Prop where
  ingested : s'.Ingested known
  trips : s.TripsGrow s'

theorem Session.Ingested.same (ingested : s.Ingested known) (orderly : s'.Orderly)
    (same : s.db.SameRecords s'.db) : s.KeepsLoads known s' := by
  have is_db : s'.db = ⟨s.db.sourceFiles, s.db.pipelineRuns, s.db.raw, s'.db.qualityResults⟩ := by
    rw [← same.sourceFiles, ← same.pipelineRuns, ← same.raw]
  refine ⟨⟨orderly, ?_, ?_, ingested.runs.same same.sourceFiles same.pipelineRuns⟩, .of_eq ?_⟩
  · rw [is_db]
    exact ingested.described
  · rw [is_db]
    exact ⟨ingested.loads.loaded, ingested.loads.untouched⟩
  · rw [is_db]
    rfl

/-- A call alone, whatever it meets. -/
theorem run_ingested {batchSize : Int} {events : List (Unit × Event)} {t : Platform Unit}
    (inspections : Inspections known) (mine : known metadata) (ingested : s.Ingested known)
    (ran : (Request.ingest metadata batchSize).program.run (.alone s.db s.sequences .idle []) events = some t) :
    s.KeepsLoads known ⟨t.committed, t.external⟩ := by
  have consistent := ingested.orderly.consistent
  have kept := Program.run_preserves
    (I := fun t => s.Calling (.ingest metadata batchSize) t ∧ s.KeepsLoads known ⟨t.committed, t.external⟩)
    (fun t i e t' holds stepped => ?_) ⟨calling_start ingested.orderly, ingested, .of_eq rfl⟩ ran
  · exact kept.2
  · have next := holds.1.step consistent stepped
    have coherent := holds.1.accepting.coherent
    have commits := @Session.Ingested.commits known metadata _ ⟨t.committed, t.external⟩ ⟨t'.committed, t'.external⟩
      holds.2.ingested inspections mine next.keeps.orderly (coherent.commitStep stepped) (coherent.extends stepped)
    exact ⟨next, commits.1, holds.2.trips.trans commits.2⟩

theorem registerSourceFile_ingested (inspections : Inspections known) (mine : known metadata)
    (ingested : s.Ingested known) (now : Timestamp) :
    s.KeepsLoads known (atomically (registerSourceFile now metadata) s).2 := by
  have meets : (registerSourceFile now metadata).Meets s (fun _ s' => s.KeepsLoads known s')
      fun _ s' => s.KeepsLoads known ⟨s.db, s'.sequences⟩ := by
    refine (registerSourceFile_meets s now metadata).mono (fun result s' answered => ?_) fun error s' kept => ?_
    · rcases answered with ⟨row, -, -, rfl⟩ | ⟨absent, written, -, rfl⟩
      · exact ⟨ingested, .of_eq rfl⟩
      · have registered := Registration.inserted absent written
        have commits := ingested.commits inspections mine (registered.orderly ingested.orderly)
          (registered.commitStep ingested.orderly.consistent) registered.extends
        exact ⟨commits.1, commits.2⟩
    · have orderly : Session.Orderly ⟨s.db, s'.sequences⟩ :=
        (@Session.Orderly.keeps_same s ⟨s.db, s'.sequences⟩ ingested.orderly (.refl _) kept.1).orderly
      exact ingested.same orderly (.refl _)
  exact (meets_atomically meets).ends

theorem runQualityChecks_ingested (ingested : s.Ingested known) (now : Timestamp) (runId : Nat) :
    s.KeepsLoads known (atomically (runQualityChecks now runId) s).2 := by
  have meets : (runQualityChecks now runId).Meets s (fun _ s' => s.KeepsLoads known s')
      fun _ s' => s.KeepsLoads known ⟨s.db, s'.sequences⟩ := by
    refine (runQualityChecks_meets s now runId).mono (fun summary s' evaluated => ?_) fun error s' kept => ?_
    · obtain ⟨run, warningCount, errorCount, -, -, grows, same⟩ := evaluated
      have consistent := ingested.orderly.consistent.grown (same.index.trans (markEvaluated_index _ _ _ _)) grows
      have orderly := ingested.orderly.same same.sourceFiles same.raw consistent
      have runs := @Database.RunsMatch.updateRun _ ingested.runs runId (·.markEvaluated warningCount errorCount)
        (fun _ => rfl) (fun _ => rfl) fun _ => rfl
      have evaluated : Session.Ingested ⟨s.db.updateRun runId (·.markEvaluated warningCount errorCount), s.sequences⟩
          known := by
        have marked : Session.Consistent
            ⟨s.db.updateRun runId (·.markEvaluated warningCount errorCount), s.sequences⟩ :=
          ingested.orderly.consistent.grown (markEvaluated_index s.db runId warningCount errorCount) (.refl _)
        exact ⟨ingested.orderly.same rfl rfl marked, ingested.described,
          ingested.loads.evaluate runId warningCount errorCount, runs⟩
      have kept := evaluated.same orderly same
      exact ⟨kept.ingested, kept.trips⟩
    · have orderly : Session.Orderly ⟨s.db, s'.sequences⟩ :=
        (@Session.Orderly.keeps_same s ⟨s.db, s'.sequences⟩ ingested.orderly (.refl _) kept.1).orderly
      exact ingested.same orderly (.refl _)
  exact (meets_atomically meets).ends

theorem persistStorageMetadata_ingested (ingested : s.Ingested known) (sourceFileId : Nat)
    (storage : StorageResult) :
    s.KeepsLoads known (atomically (persistStorageMetadata sourceFileId storage) s).2 := by
  have keeps := persistStorageMetadata_keeps sourceFileId storage ingested.orderly
  have meets : (persistStorageMetadata sourceFileId storage).Meets s
      (fun _ s' => s'.Orderly → s.KeepsLoads known s') fun _ s' => Session.Orderly ⟨s.db, s'.sequences⟩ →
        s.KeepsLoads known ⟨s.db, s'.sequences⟩ := by
    refine (persistStorageMetadata_meets s sourceFileId storage).mono (fun _ s' persisted orderly => ?_)
      fun _ s' _ orderly => ingested.same orderly (.refl _)
    subst persisted
    have unstored := @Database.unstored_persist s.db sourceFileId storage
    refine ⟨⟨orderly, ?_, Database.unstored_loadsExact.mp ?_, ingested.runs.persist sourceFileId storage⟩, .of_eq ?_⟩
    · rw [unstored]
      exact ingested.described
    · rw [unstored]
      exact Database.unstored_loadsExact.mpr ingested.loads
    · rw [← intTripsEnriched_unstored, unstored, intTripsEnriched_unstored]
  exact (meets_atomically meets).ends keeps.orderly

theorem Session.CallsWith.keepsLoads (inspections : Inspections known) (calls : s.CallsWith known s')
    (ingested : s.Ingested known) : s.KeepsLoads known s' := by
  cases calls with
  | registerSourceFile now mine => exact registerSourceFile_ingested inspections mine ingested now
  | ingestSource mine ran ended => exact run_ingested inspections mine ingested ran
  | runQualityChecks now runId => exact runQualityChecks_ingested ingested now runId
  | persistStorageMetadata sourceFileId storage =>
    exact persistStorageMetadata_ingested ingested sourceFileId storage

theorem Session.LeadsWith.keepsLoads (inspections : Inspections known) (leads : s.LeadsWith known s')
    (ingested : s.Ingested known) : s.KeepsLoads known s' := by
  induction leads with
  | refl => exact ⟨ingested, .of_eq rfl⟩
  | tail before calls ih =>
    have next := calls.keepsLoads inspections ih.ingested
    exact ⟨next.ingested, ih.trips.trans next.trips⟩

end Step

section Zones

variable {known : SourceFileMetadata → Prop} {s : Session} {row : SourceFile}

theorem Session.Ingested.registered (ingested : s.Ingested known) (member : row ∈ s.db.sourceFiles) :
    ∃ metadata : SourceFileMetadata, known metadata ∧ row.partitionKey = metadata.partitionKey ∧
      row.datasetName = metadata.datasetName ∧ row.serviceType = metadata.serviceType ∧
      row.sourceYear = metadata.year ∧ row.sourceMonth = metadata.month := by
  have got := Database.getSourceFile_of_mem ingested.orderly.consistent.nodup member
  have unstored : s.db.unstored.getSourceFile row.sourceFileId = some row.unstored := by
    rw [Database.getSourceFile_unstored, got, Option.map_some]
  obtain ⟨metadata, id, now, mine, registered⟩ := ingested.described unstored
  exact ⟨metadata, mine, congrArg SourceFile.partitionKey registered, congrArg SourceFile.datasetName registered,
    congrArg SourceFile.serviceType registered, congrArg SourceFile.sourceYear registered,
    congrArg SourceFile.sourceMonth registered⟩

/-- The zones have one partition, so they have one loaded version. -/
theorem Session.Ingested.oneLoadedZone (ingested : s.Ingested known) (inspections : Inspections known) :
    s.db.OneLoadedZone := by
  intro left inLeft right inRight leftZone rightZone leftLoaded rightLoaded
  have partition : ∀ row ∈ s.db.sourceFiles, row.datasetName = "taxi_zone_lookup" →
      row.partitionKey = "reference/taxi_zones" := by
    intro row member isZone
    obtain ⟨metadata, mine, same, dataset, -⟩ := ingested.registered member
    rw [same]
    exact inspections.zones mine (dataset.symm.trans isZone)
  refine ingested.orderly.one.unique left inLeft right inRight ?_ ?_ ?_
  · rw [partition left inLeft leftZone, partition right inRight rightZone]
  · rw [leftLoaded]
    exact SourceStatus.noConfusion
  · rw [rightLoaded]
    exact SourceStatus.noConfusion

theorem Session.Orderly.loadedZoneVersions_le (orderly : s.Orderly) : s.db.loadedZoneVersions ≤ 1 := by
  unfold Database.loadedZoneVersions
  rw [List.countP_eq_length_filter]
  generalize is_rows : s.db.sourceFiles.filter (fun row => row.partitionKey == "reference/taxi_zones" &&
    row.status == .loaded) = rows
  have distinct : rows.Nodup := by
    rw [← is_rows]
    exact (Database.sourceFileIds_nodup orderly.consistent.nodup).of_map.filter _
  have same : ∀ left ∈ rows, ∀ right ∈ rows, left = right := by
    intro left inLeft right inRight
    rw [← is_rows, List.mem_filter, Bool.and_eq_true, beq_iff_eq, beq_iff_eq] at inLeft inRight
    refine orderly.one.unique left inLeft.1 right inRight.1 (inLeft.2.1.trans inRight.2.1.symm) ?_ ?_
    · rw [inLeft.2.2]
      exact SourceStatus.noConfusion
    · rw [inRight.2.2]
      exact SourceStatus.noConfusion
  match rows with
  | [] => exact Nat.zero_le 1
  | [_] => exact le_rfl
  | left :: right :: rest =>
    have one := same left (by simp) right (by simp)
    rw [one] at distinct
    exact absurd List.mem_cons_self (List.nodup_cons.mp distinct).1

end Zones

end TaxiPipeline
