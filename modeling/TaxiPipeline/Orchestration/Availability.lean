import TaxiPipeline.Ingestion.FaultFree
import TaxiPipeline.Orchestration.Completion
import TaxiPipeline.Sources.Months

namespace TaxiPipeline

open ReadCommitted Relational Stateful StorageAction Transaction

/-- Every run names its source, and a run that has not failed can be written again. -/
structure Database.RunsKept (db : Database) : Prop where
  sourced : ∀ run ∈ db.pipelineRuns, run.sourceFileId.isSome = true
  writable : ∀ run ∈ db.pipelineRuns, run.status ≠ .failed → run.writeError = none

section Kept

variable {known : SourceFileMetadata → Prop} {metadata : SourceFileMetadata} {db db' : Database} {s s' : Session}
  {readers : Readers} {contents : Set Bytes} {row : SourceFile} {sourceFileId : Nat}

/-- A row is the version of known metadata. -/
theorem Session.Ingested.version (ingested : s.Ingested known) (got : s.db.getSourceFile sourceFileId = some row) :
    ∃ metadata : SourceFileMetadata, known metadata ∧ row.partitionKey = metadata.partitionKey ∧
      row.checksumSha256 = metadata.checksumSha256 ∧ row.datasetName = metadata.datasetName ∧
      row.rowCount = metadata.rowCount := by
  have unstored : s.db.unstored.getSourceFile sourceFileId = some row.unstored := by
    rw [Database.getSourceFile_unstored, got, Option.map_some]
  obtain ⟨metadata, id, now, mine, same⟩ := ingested.described unstored
  exact ⟨metadata, mine, congrArg SourceFile.partitionKey same, congrArg SourceFile.checksumSha256 same,
    congrArg SourceFile.datasetName same, congrArg SourceFile.rowCount same⟩

/-- The rows of a registered version can be counted. -/
theorem Session.Ingested.sized {status : SourceStatus} {count : Nat} (ingested : s.Ingested known)
    (catalog : Catalog known) (mine : known metadata) (held : s.db.Holds sourceFileId metadata status)
    (counted : metadata.rowCount = some (count : Int)) : count < 2 ^ 63 := by
  obtain ⟨row, got, partition, checksum, -⟩ := held
  obtain ⟨version, isKnown, samePartition, sameChecksum, -, rowCount⟩ := ingested.version got
  have same := catalog.rowCount mine isKnown (partition.symm.trans samePartition) (checksum.symm.trans sameChecksum)
  have fits := (ingested.orderly.valid got).1
  rw [← rowCount] at same
  simp only [SourceFile.fits, ← same, counted, Bool.and_eq_true, Option.all_some, fitsBigInt, decide_eq_true_eq] at fits
  omega

theorem runsKept_start : Session.start.db.RunsKept :=
  ⟨fun _ member => (List.not_mem_nil member).elim, fun _ member => (List.not_mem_nil member).elim⟩

theorem Database.RunsKept.addRun (kept : db.RunsKept) {run : PipelineRun} (sourced : run.sourceFileId.isSome = true)
    (writable : run.writeError = none) : (db.addRun run).RunsKept where
  sourced := by
    intro other member
    rcases List.mem_append.mp member with old | new
    · exact kept.sourced other old
    · rwa [List.mem_singleton.mp new]
  writable := by
    intro other member alive
    rcases List.mem_append.mp member with old | new
    · exact kept.writable other old alive
    · rwa [List.mem_singleton.mp new]

theorem Database.RunsKept.updateRun (kept : db.RunsKept) {run : PipelineRun} {change : PipelineRun → PipelineRun}
    {runId : Nat} (nodup : db.index.Nodup) (got : db.getRun runId = some run)
    (keepsSource : ∀ run, (change run).sourceFileId = run.sourceFileId)
    (writable : (change run).status ≠ .failed → (change run).writeError = none) :
    (db.updateRun runId change).RunsKept where
  sourced := by
    intro other member
    obtain ⟨old, inRuns, rfl⟩ := List.mem_map.mp member
    split
    · rw [keepsSource]
      exact kept.sourced old inRuns
    · exact kept.sourced old inRuns
  writable := by
    intro other member alive
    obtain ⟨old, inRuns, rfl⟩ := List.mem_map.mp member
    by_cases same : old.runId = runId
    · obtain ⟨inRuns', sameId⟩ := getRun_some got
      obtain rfl := Database.unique_run nodup inRuns inRuns' (same.trans sameId.symm)
      rw [if_pos same] at alive ⊢
      exact writable alive
    · rw [if_neg same] at alive ⊢
      exact kept.writable old inRuns alive

theorem Database.RunsKept.same (kept : db.RunsKept) (runs : db'.pipelineRuns = db.pipelineRuns) : db'.RunsKept := by
  constructor
  · rw [runs]
    exact kept.sourced
  · rw [runs]
    exact kept.writable

theorem CommitStep.runsKept (step : CommitStep metadata db db') (valid : ValidSources db) (nodup : db.index.Nodup)
    (sized : ∀ {sourceFileId : Nat} {count : Nat}, db.Holds sourceFileId metadata .ready →
      metadata.rowCount = some (count : Int) → count < 2 ^ 63)
    (kept : db.RunsKept) : db'.RunsKept := by
  cases step with
  | nothing => exact kept
  | registered fits checks chosen => exact kept.same rfl
  | started held shown =>
    exact kept.addRun rfl (runningRun_writeError (valid.shown shown).1 (valid.shown shown).2)
  | skipped held shown =>
    exact kept.addRun rfl (skippedRun_writeError (valid.shown shown).1 (valid.shown shown).2)
  | @loaded sourceFileId runId table rows counts finishedAt run held got ofSource running counted =>
    have alive : run.status ≠ .failed := by
      rw [running]
      decide
    have written := markSucceeded_writeError (kept.writable run (getRun_some got).1 alive) (sized held counted.rowCount)
      finishedAt
    rw [← counted.counts_eq] at written
    have updated : (db.updateRun runId (·.markSucceeded finishedAt counts.toRunCounts)).RunsKept :=
      kept.updateRun nodup got (fun _ => rfl) fun _ => written
    exact updated.same rfl
  | failed got running => exact kept.updateRun nodup got (fun _ => rfl) fun alive => absurd rfl alive

theorem Session.Ingested.runsKept (ingested : s.Ingested known) (inspections : Inspections known) (mine : known metadata)
    (step : CommitStep metadata s.db s'.db) (kept : s.db.RunsKept) : s'.db.RunsKept :=
  step.runsKept ingested.orderly.valid ingested.orderly.consistent.nodup
    (fun held counted => ingested.sized inspections.catalog mine held counted) kept

theorem run_runsKept {batchSize : Int} {events : List (Unit × Event)} {t : Platform Unit}
    (inspections : Inspections known) (mine : known metadata) (ingested : s.Ingested known) (kept : s.db.RunsKept)
    (ran : (Request.ingest metadata batchSize).program.run (.alone s.db s.sequences .idle []) events = some t) :
    t.committed.RunsKept := by
  have consistent := ingested.orderly.consistent
  have through := Program.run_preserves
    (I := fun t => s.Calling (.ingest metadata batchSize) t ∧ Session.Ingested ⟨t.committed, t.external⟩ known ∧
      t.committed.RunsKept)
    (fun t i e t' holds stepped => ?_) ⟨calling_start ingested.orderly, ingested, kept⟩ ran
  · exact through.2.2
  · obtain ⟨calling, before, keptBefore⟩ := holds
    have next := calling.step consistent stepped
    have coherent := calling.accepting.coherent
    have step := coherent.commitStep stepped
    have commits := @Session.Ingested.commits known metadata _ ⟨t.committed, t.external⟩ ⟨t'.committed, t'.external⟩
      before inspections mine next.keeps.orderly step (coherent.extends stepped)
    have after := @Session.Ingested.runsKept known metadata ⟨t.committed, t.external⟩ ⟨t'.committed, t'.external⟩
      before inspections mine step keptBefore
    exact ⟨next, commits.1, after⟩

theorem Session.CallsWith.runsKept (calls : s.CallsWith (·.Inspected readers contents) s')
    (collisionFree : Set.InjOn readers.sha256 contents) (accounted : s.Accounted readers contents)
    (kept : s.db.RunsKept) : s'.db.RunsKept := by
  cases calls with
  | @registerSourceFile now metadata mine =>
    have meets : (TaxiPipeline.registerSourceFile now metadata).Meets s (fun _ s' => s'.db.RunsKept)
        fun _ _ => s.db.RunsKept := by
      refine (registerSourceFile_meets s now metadata).mono (fun result s' answered => ?_) fun _ _ _ => kept
      rcases answered with ⟨row, -, -, rfl⟩ | ⟨absent, written, -, rfl⟩
      · exact kept
      · exact kept.same rfl
    exact (meets_atomically meets).ends
  | ingestSource mine ran ended => exact run_runsKept (inspections collisionFree) mine accounted.ingested kept ran
  | runQualityChecks now runId =>
    rcases @evaluation_commits s now runId accounted.results with same | ⟨evaluation, run, -, got, written, same⟩
    · exact kept.same (congrArg Database.pipelineRuns same)
    · have nodup := accounted.ingested.orderly.consistent.nodup
      have marked : (s.db.updateRun runId
          (·.markEvaluated (evaluation.violated .warning) (evaluation.violated .error))).RunsKept :=
        kept.updateRun nodup got (fun _ => rfl) fun _ => written
      rw [same]
      exact marked.same rfl
  | persistStorageMetadata sourceFileId storage =>
    have meets : (TaxiPipeline.persistStorageMetadata sourceFileId storage).Meets s (fun _ s' => s'.db.RunsKept)
        fun _ _ => s.db.RunsKept := by
      refine (persistStorageMetadata_meets s sourceFileId storage).mono (fun _ s' persisted => ?_) fun _ _ _ => kept
      subst persisted
      exact kept.same rfl
    exact (meets_atomically meets).ends

/-- What is known of every history, with the runs that it leaves. -/
theorem Session.LeadsWith.runsKept (history : Session.start.LeadsWith (·.Inspected readers contents) s)
    (collisionFree : Set.InjOn readers.sha256 contents) : s.Accounted readers contents ∧ s.db.RunsKept := by
  induction history with
  | refl => exact ⟨accounted_start, runsKept_start⟩
  | tail before calls ih =>
    have next : Session.LeadsWith (·.Inspected readers contents) _ _ := Relation.ReflTransGen.single calls
    exact ⟨next.accounted collisionFree ih.1, calls.runsKept collisionFree ih.1 ih.2⟩

end Kept

section Rules

variable {run : PipelineRun} {evaluation : Evaluation} {runId : Nat}

/-- Measurements and rules have the same names, whatever is measured. -/
theorem gathered_covered {datasetName : String} {config : QualityConfig} (known : qualityConfig datasetName = some config)
    (db : Database) (sourceFileId zoneSourceFileId rowsChecked : Nat) {first next : Date} {scalar : Measurements}
    (scanned : scalar.map (·.1) = (scalarConditions config.model first next).map (·.1)) :
    config.covered (config.gathered db sourceFileId zoneSourceFileId rowsChecked scalar) = true := by
  have names : (config.gathered db sourceFileId zoneSourceFileId rowsChecked scalar).map (·.1) =
      (scalarConditions config.model first next).map (·.1) ++ config.domainValues.map (·.checkName) ++
        ["unknown_pickup_zone", "unknown_dropoff_zone", "exact_duplicate_source_rows"] := by
    unfold QualityConfig.gathered domainMeasurements
    simp only [List.map_append, List.map_map, scanned, List.append_assoc]
    rfl
  unfold QualityConfig.covered
  rw [names]
  unfold qualityConfig at known
  split at known
  · cases known
    rfl
  · split at known
    · cases known
      rfl
    · cases known

theorem Database.measure_available {datasetName : String} {config : QualityConfig} {db : Database} {target : QualityTarget}
    {zoneSourceFileId : Nat} {first next : Date} (known : qualityConfig datasetName = some config)
    (zones : db.loadedZoneSourceId = .ok zoneSourceFileId) (firstOk : firstOfMonth target.year target.month = .ok first)
    (nextOk : firstOfNextMonth target.year target.month = .ok next) :
    ∃ rowsChecked measurements, db.measure target config = .ok (rowsChecked, measurements) := by
  have scanned := scalarMeasurements_ok firstOk nextOk db config.model target.source.sourceFileId
  have names : ((scalarConditions config.model first next).map fun entry =>
      (entry.1, countedMeasurement (db.trips config.table target.source.sourceFileId) entry.2)).map (·.1) =
        (scalarConditions config.model first next).map (·.1) := by
    rw [List.map_map]
    rfl
  exact ⟨_, _, measure_ok.mpr ⟨zoneSourceFileId, _, zones, scanned, rfl, gathered_covered known db _ _ _ names⟩⟩

theorem Evaluation.violated_le (evaluation : Evaluation) (severity : QualitySeverity) :
    evaluation.violated severity ≤ evaluation.config.rules.length :=
  List.countP_le_length

/-- The counters of violated rules fit into their columns. -/
theorem markEvaluated_writable (writable : run.writeError = none) (few : evaluation.config.rules.length ≤ 28) :
    (run.markEvaluated (evaluation.violated .warning) (evaluation.violated .error)).writeError = none := by
  have warnings := evaluation.violated_le .warning
  have errors := evaluation.violated_le .error
  obtain ⟨fits, meets⟩ := writeError_none.mp writable
  simp only [PipelineRun.fits, PipelineRun.meetsChecks, Bool.and_eq_true] at fits meets
  have small : ∀ count : Nat, count ≤ 28 → fitsInteger (count : Int) = true := by
    intro count le
    simp only [fitsInteger, Bool.and_eq_true, decide_eq_true_eq]
    omega
  refine writeError_none.mpr ⟨?_, ?_⟩
  · simp [PipelineRun.fits, PipelineRun.markEvaluated, fits, small _ (warnings.trans few), small _ (errors.trans few)]
  · simp [PipelineRun.meetsChecks, PipelineRun.markEvaluated, meets]

end Rules

/-- The runs that can be evaluated: of loaded trips, with loaded zones, and of a month that another one follows. -/
structure Database.Checkable (db : Database) (run : PipelineRun) : Prop where
  succeeded : run.status = .succeeded
  trips : run.datasetName = "yellow_tripdata" ∨ run.datasetName = "green_tripdata"
  zones : ∃ zone ∈ db.sourceFiles, zone.datasetName = "taxi_zone_lookup" ∧ zone.status = .loaded
  followed : ¬ (run.sourceYear = some 9999 ∧ run.sourceMonth = some 12)

section Evaluated

variable {readers : Readers} {contents : Set Bytes} {s : Session} {run : PipelineRun} {row zone : SourceFile}
  {runId : Nat} {now : Timestamp} {serviceType : String} {year month : Int} {source : SourcePartition}

theorem qualityConfig_isSome {datasetName : String} : (qualityConfig datasetName).isSome = true ↔
    datasetName = "yellow_tripdata" ∨ datasetName = "green_tripdata" := by
  unfold qualityConfig
  by_cases yellow : datasetName = "yellow_tripdata"
  · simp [yellow]
  · by_cases green : datasetName = "green_tripdata"
    · simp [green]
    · simp [yellow, green]

/-- A loaded version has rows. -/
theorem Session.Accounted.persisted (accounted : s.Accounted readers contents)
    (collisionFree : Set.InjOn readers.sha256 contents) (member : zone ∈ s.db.sourceFiles)
    (isZone : zone.datasetName = "taxi_zone_lookup") (loaded : zone.status = .loaded) :
    s.db.persistedCount .taxiZones zone.sourceFileId ≠ 0 := by
  have got := Database.getSourceFile_of_mem accounted.ingested.orderly.consistent.nodup member
  obtain ⟨table, run, rowCount, dataset, counted, -, lineage, -⟩ := accounted.ingested.loads.loaded got loaded
  rw [isZone] at dataset
  obtain rfl : table = .taxiZones := (Except.ok.inj dataset).symm
  obtain ⟨metadata, known, -, -, -, same⟩ := accounted.ingested.version got
  have positive := (inspections collisionFree).catalog.nonempty known (same.symm.trans counted)
  have length := congrArg List.length lineage
  rw [List.length_map, List.length_map, List.length_range'] at length
  unfold Database.persistedCount
  rw [length]
  omega

/-- The month of a run of trips is that of its source. -/
theorem Session.Accounted.monthOf (accounted : s.Accounted readers contents) (member : row ∈ s.db.sourceFiles)
    (trips : row.datasetName = "yellow_tripdata" ∨ row.datasetName = "green_tripdata") :
    ∃ year month, row.sourceYear = some year ∧ row.sourceMonth = some month ∧ (1000 ≤ year ∧ year ≤ 9999) ∧
      1 ≤ month ∧ month ≤ 12 := by
  obtain ⟨source, resolved, -, subject⟩ := accounted.ingested.resolved member
  have dataset := congrArg Subject.datasetName subject
  have sameYear := congrArg Subject.year subject
  have sameMonth := congrArg Subject.month subject
  cases resolved with
  | yellow ok | green ok =>
    obtain ⟨yearOk, monthOk, -, -, isYear, isMonth, -, -⟩ := monthlyTripSource_ok ok
    exact ⟨_, _, sameYear.trans isYear, sameMonth.trans isMonth, yearOk, monthOk⟩
  | zones =>
    have is_zones : row.datasetName = "taxi_zone_lookup" := dataset
    rw [is_zones] at trips
    rcases trips with yellow | green
    · exact absurd yellow (by decide)
    · exact absurd green (by decide)

/-- Whatever has happened, an evaluation reads what it needs exactly of the runs that can be evaluated. -/
theorem Session.Accounted.evaluation_iff (accounted : s.Accounted readers contents)
    (collisionFree : Set.InjOn readers.sha256 contents) (kept : s.db.RunsKept) :
    (∃ evaluation, s.db.evaluation runId = .ok evaluation) ↔
      ∃ run, s.db.getRun runId = some run ∧ s.db.Checkable run := by
  have nodup := accounted.ingested.orderly.consistent.nodup
  constructor
  · intro evaluates
    obtain ⟨evaluation, evaluates⟩ := evaluates
    obtain ⟨target, config, rowsChecked, measurements, valid, -, measured, -⟩ := evaluation_ok.mp evaluates
    obtain ⟨got, succeeded, config, ⟨sourceFileId, ofSource, gotSource⟩, loaded, hasYear, hasMonth⟩ :=
      validatedTarget_iff.mp valid
    obtain ⟨zoneSourceFileId, scalar, found, scanned, -, -⟩ := measure_ok.mp measured
    obtain ⟨zone, gotZone, isZone, zoneLoaded, -⟩ := loadedZoneSourceId_ok nodup found
    refine ⟨target.run, got, succeeded, qualityConfig_isSome.mp config,
      ⟨zone, (getSourceFile_some gotZone).1, isZone, zoneLoaded⟩, ?_⟩
    intro last
    obtain ⟨row, gotRow, subject⟩ := accounted.ingested.runs _ _ _ got ofSource
    cases gotSource.symm.trans gotRow
    have sameYear : target.source.sourceYear = target.run.sourceYear := congrArg Subject.year subject
    have sameMonth : target.source.sourceMonth = target.run.sourceMonth := congrArg Subject.month subject
    rw [hasYear, last.1] at sameYear
    rw [hasMonth, last.2] at sameMonth
    rw [Option.some.inj sameYear, Option.some.inj sameMonth] at scanned
    obtain ⟨first, -, rest⟩ := bind_ok.mp (show (firstOfMonth 9999 12 >>= _) = _ from scanned)
    rw [firstOfNextMonth_last] at rest
    cases rest
  · intro checkable
    obtain ⟨run, got, succeeded, trips, ⟨zone, inFiles, isZone, zoneLoaded⟩, followed⟩ := checkable
    have member := (getRun_some got).1
    obtain ⟨sourceFileId, ofSource⟩ := Option.isSome_iff_exists.mp (kept.sourced run member)
    obtain ⟨row, gotRow, subject⟩ := accounted.ingested.runs _ _ _ got ofSource
    have dataset : row.datasetName = run.datasetName := congrArg Subject.datasetName subject
    have sameYear : row.sourceYear = run.sourceYear := congrArg Subject.year subject
    have sameMonth : row.sourceMonth = run.sourceMonth := congrArg Subject.month subject
    have loaded : row.status = .loaded := by
      by_contra unloaded
      have untouched := accounted.ingested.loads.untouched fun row' gotRow' => by
        cases gotRow.symm.trans gotRow'
        exact unloaded
      have inRuns := Database.mem_succeededRuns.mpr ⟨member, ofSource, succeeded⟩
      rw [untouched.2] at inRuns
      cases inRuns
    obtain ⟨year, month, isYear, isMonth, yearOk, monthOk⟩ := accounted.monthOf (getSourceFile_some gotRow).1
      (by rwa [dataset])
    have notLast : ¬ (year = 9999 ∧ month = 12) := by
      intro last
      apply followed
      rw [← sameYear, ← sameMonth, isYear, isMonth, last.1, last.2]
      exact ⟨rfl, rfl⟩
    obtain ⟨config, known⟩ := Option.isSome_iff_exists.mp (qualityConfig_isSome.mpr trips)
    have valid : s.db.validatedTarget runId = .ok ⟨run, row, year, month⟩ :=
      validatedTarget_iff.mpr ⟨got, succeeded, by rw [known]; rfl, ⟨sourceFileId, ofSource, gotRow⟩, loaded, isYear,
        isMonth⟩
    have zones := loadedZoneSourceId_of_one nodup (accounted.one collisionFree) inFiles isZone zoneLoaded
      (accounted.persisted collisionFree inFiles isZone zoneLoaded)
    obtain ⟨first, next, firstOk, nextOk, -⟩ := monthWindow_ok (by omega) monthOk notLast
    obtain ⟨rowsChecked, measurements, measured⟩ :=
      @Database.measure_available _ config s.db ⟨run, row, year, month⟩ _ first next known zones firstOk nextOk
    rw [← dataset] at known
    exact ⟨_, evaluation_ok.mpr ⟨_, config, rowsChecked, measurements, valid, known, measured, rfl⟩⟩

/-- A run that can be evaluated is evaluated, and no other. -/
theorem Session.Accounted.checks_iff (accounted : s.Accounted readers contents)
    (collisionFree : Set.InjOn readers.sha256 contents) (kept : s.db.RunsKept) :
    (∃ summary, (atomically (runQualityChecks now runId) s).1 = .ok summary) ↔
      ∃ run, s.db.getRun runId = some run ∧ s.db.Checkable run := by
  rw [← accounted.evaluation_iff collisionFree kept]
  constructor
  · intro returns
    obtain ⟨summary, returned⟩ := returns
    rcases ran : atomically (runQualityChecks now runId) s with ⟨answer, s'⟩
    rw [ran] at returned
    dsimp only at returned
    subst returned
    obtain ⟨evaluation, -, evaluates, -⟩ := runQualityChecks_returns accounted.results (atomically_ok ran)
    exact ⟨evaluation, evaluates⟩
  · intro readable
    obtain ⟨evaluation, evaluates⟩ := readable
    obtain ⟨run, got, succeeded, -⟩ := evaluation_run evaluates
    obtain ⟨target, config, rowsChecked, measurements, -, known, -, is_evaluation⟩ := evaluation_ok.mp evaluates
    have few : evaluation.config.rules.length ≤ 28 := by
      rw [is_evaluation]
      exact (qualityConfig_rules known).2
    have alive : run.status ≠ .failed := by
      rw [succeeded]
      decide
    have written := markEvaluated_writable (kept.writable run (getRun_some got).1 alive) few
    have returned : runQualityChecks now runId s = _ :=
      runQualityChecks_eq evaluates got fun severity => s.counted accounted.results evaluates severity
    rw [written] at returned
    refine ⟨evaluation.summary runId, ?_⟩
    unfold atomically
    rw [returned]

/-- The check of a loaded month finds its run, and evaluates it. -/
theorem Session.Accounted.month_checks {w : Workspace} (accounted : w.session.Accounted readers contents)
    (collisionFree : Set.InjOn readers.sha256 contents) (kept : w.session.db.RunsKept)
    (found : tripMonthSource serviceType year month = .ok source) (member : row ∈ w.session.db.sourceFiles)
    (partition : row.partitionKey = source.partitionKey) (loaded : row.status = .loaded)
    (zones : ∃ zone ∈ w.session.db.sourceFiles, zone.datasetName = "taxi_zone_lookup" ∧ zone.status = .loaded)
    (notLast : ¬ (year = 9999 ∧ month = 12)) :
    ∃ summary, (runPartitionQuality now serviceType year month w).1 = .ok summary := by
  have nodup := accounted.ingested.orderly.consistent.nodup
  obtain ⟨table, run, rowCount, -, -, succeeded, -⟩ :=
    accounted.ingested.loads.loaded (Database.getSourceFile_of_mem nodup member) loaded
  have latest := (accounted.ingested.findLatest_iff found).mpr ⟨row, run, member, partition, loaded, succeeded, rfl⟩
  have inRuns : run ∈ w.session.db.succeededRuns row.sourceFileId := by
    rw [succeeded]
    exact List.mem_singleton_self run
  obtain ⟨inAll, ofSource, isSucceeded⟩ := Database.mem_succeededRuns.mp inRuns
  have got := Database.getRun_of_mem nodup inAll
  obtain ⟨row', gotRow, subject⟩ := accounted.ingested.runs _ _ _ got ofSource
  cases (Database.getSourceFile_of_mem nodup member).symm.trans gotRow
  have is_month := subject.symm.trans ((accounted.ingested.subject_iff found member).mpr partition)
  have dataset : run.datasetName = serviceType ++ "_tripdata" := congrArg Subject.datasetName is_month
  have sameYear : run.sourceYear = some year := congrArg Subject.year is_month
  have sameMonth : run.sourceMonth = some month := congrArg Subject.month is_month
  have checkable : w.session.db.Checkable run := by
    refine ⟨isSucceeded, ?_, zones, fun last => notLast ?_⟩
    · rw [dataset]
      rcases tripMonthSource_service found with rfl | rfl
      · exact .inl rfl
      · exact .inr rfl
    · rw [sameYear, sameMonth] at last
      exact ⟨Option.some.inj last.1, Option.some.inj last.2⟩
  obtain ⟨summary, returned⟩ := (@Session.Accounted.checks_iff _ _ _ run.runId now accounted collisionFree kept).mpr
    ⟨run, got, checkable⟩
  refine ⟨summary, ?_⟩
  rw [runPartitionQuality_apply, latest]
  exact returned

/-- After any history, `run_quality_checks` returns exactly for the succeeded runs of Yellow and Green trips, once
    zones are loaded, and but for December 9999. -/
theorem quality_checks_run_iff (collisionFree : Set.InjOn readers.sha256 contents)
    (history : Session.start.LeadsWith (·.Inspected readers contents) s) :
    (∃ summary, (atomically (runQualityChecks now runId) s).1 = .ok summary) ↔
      ∃ run, s.db.getRun runId = some run ∧ s.db.Checkable run := by
  obtain ⟨accounted, kept⟩ := history.runsKept collisionFree
  exact accounted.checks_iff collisionFree kept

end Evaluated

section Worlds

variable {installed : Installation} {contents : Set Bytes} {w w' : World}
  {merge : List FactTrip → List FactTrip → List FactTrip}

theorem World.Step.leads (step : w.Step installed contents merge w') :
    w.session.LeadsWith (·.Inspected installed.setup.readers contents) w'.session := by
  cases step with
  | triggered run idle => exact .refl
  | tried task tried within => exact (World.attempt_leads tried within).2
  | cleared keeps => exact .refl
  | startsBuild upstream idle => exact .refl
  | builds step seeded done => exact .refl
  | exits exitStatus building documented => exact .refl
  | others leads within => exact leads

/-- Every world has a session that calls have led to. -/
theorem World.Reachable.history (reached : World.Reachable installed contents merge w) :
    Session.start.LeadsWith (·.Inspected installed.setup.readers contents) w.session := by
  induction reached with
  | start empty within run =>
    rw [World.session, Workspace.session] at *
    rw [empty]
  | step reached step ih => exact ih.trans step.leads

end Worlds

set_option maxRecDepth 10000 in
theorem monthLoaded_checkable : monthLoaded.map (fun (w : World) => (w.session.db.getRun 2).map fun run =>
    (run.status, run.datasetName, run.sourceYear,
      decide (∃ zone ∈ w.session.db.sourceFiles, zone.datasetName = "taxi_zone_lookup" ∧ zone.status = .loaded))) =
    some (some (.succeeded, "yellow_tripdata", some 2025, true)) := by
  decide +kernel

/-- The run that has loaded the Yellow trips of the month can be evaluated again. -/
theorem monthLoaded_checks : ∃ w, monthLoaded = some w ∧
    ∃ summary, (atomically (runQualityChecks 7 2) w.session).1 = .ok summary := by
  obtain ⟨w, ran, ends⟩ := Option.map_eq_some_iff.mp monthLoaded_checkable
  obtain ⟨run, got, is_run⟩ := Option.map_eq_some_iff.mp ends
  simp only [Prod.mk.injEq, decide_eq_true_eq] at is_run
  obtain ⟨succeeded, yellow, year, zones⟩ := is_run
  have followed : ¬ (run.sourceYear = some 9999 ∧ run.sourceMonth = some 12) := by
    rw [year]
    exact fun last => absurd last.1 (by decide)
  exact ⟨w, ran, (quality_checks_run_iff monthContents_collisionFree (monthLoaded_reached ran).1.history).mpr
    ⟨run, got, succeeded, .inl yellow, zones, followed⟩⟩

end TaxiPipeline
