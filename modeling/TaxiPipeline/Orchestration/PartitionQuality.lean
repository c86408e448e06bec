import TaxiPipeline.Orchestration.PartitionRuns
import TaxiPipeline.Quality.Reruns

namespace TaxiPipeline

open ReadCommitted Stateful StorageAction Transaction

/-- What is known of the rows and the results of a session that has inspected files only. -/
structure Session.Accounted (s : Session) (readers : Readers) (contents : Set Bytes) : Prop where
  ingested : s.Ingested (·.Inspected readers contents)
  results : s.db.ResultsExact

section Kept

variable {readers : Readers} {contents : Set Bytes} {s s' : Session}

theorem accounted_start : Session.start.Accounted readers contents :=
  ⟨session_ingested_start, resultsExact_start⟩

theorem Session.Accounted.one (accounted : s.Accounted readers contents)
    (collisionFree : Set.InjOn readers.sha256 contents) :
    s.db.OneLoadedZone :=
  accounted.ingested.oneLoadedZone (inspections collisionFree)

theorem Session.LeadsWith.accounted (leads : s.LeadsWith (·.Inspected readers contents) s')
    (collisionFree : Set.InjOn readers.sha256 contents) (accounted : s.Accounted readers contents) :
    s'.Accounted readers contents := by
  have loads := leads.keepsLoads (inspections collisionFree) accounted.ingested
  have one := loads.ingested.oneLoadedZone (inspections collisionFree)
  exact ⟨loads.ingested, (leads.leads.resultsExact accounted.ingested.orderly one accounted.results).1⟩

end Kept

/-- The partition has a loaded version, and the run is the one that has loaded it. -/
def Database.LoadedBy (db : Database) (partitionKey : String) (runId : Nat) : Prop :=
  ∃ row run, row ∈ db.sourceFiles ∧ row.partitionKey = partitionKey ∧ row.status = .loaded ∧
    db.succeededRuns row.sourceFileId = [run] ∧ run.runId = runId

/-- A summary of `run_partition_quality`, as the database has it. -/
structure QualityRunSummary.Stands (summary : QualityRunSummary) (source : SourcePartition) (db : Database) :
    Prop where
  partitionKey : summary.partitionKey = source.partitionKey
  evaluated : ∃ evaluation executedAt, db.Evaluated summary.runId evaluation executedAt ∧
    summary = evaluation.summary summary.runId
  version : db.LoadedBy source.partitionKey summary.runId

section Partitions

variable {readers : Readers} {contents : Set Bytes} {serviceType : String} {year month : Int} {now : Timestamp}
  {source : SourcePartition} {w w' : Workspace} {s s' : Session} {summary : QualityRunSummary} {runId : Nat}

theorem runPartitionQuality_apply (now : Timestamp) (serviceType : String) (year month : Int) (w : Workspace) :
    runPartitionQuality now serviceType year month w =
      match findLatestSuccessfulRun w.session.db serviceType year month with
      | .error error => (.error error, w)
      | .ok runId => ((atomically (runQualityChecks now runId) w.session).1,
          w.withSession (atomically (runQualityChecks now runId) w.session).2) := by
  unfold runPartitionQuality
  rw [onDeployment_apply]
  unfold inTransaction atomically
  simp only [Attempt.bind_apply, Transaction.database, Attempt.lift_apply]
  rw [show w.deployment.session = w.session from rfl]
  cases findLatestSuccessfulRun w.session.db serviceType year month with
  | error error => rfl
  | ok runId => rfl

/-- Every try evaluates one run at most. -/
theorem runPartitionQuality_leads {known : SourceFileMetadata → Prop} :
    w.session.LeadsWith known (runPartitionQuality now serviceType year month w).2.session := by
  rw [runPartitionQuality_apply]
  split
  · exact .refl
  · exact .single (.runQualityChecks now _)

theorem atomically_ok {α : Type} {body : Transaction α} {a : α} (ran : atomically body s = (.ok a, s')) :
    body s = (.ok a, s') := by
  unfold atomically at ran
  split at ran
  · rename_i a' s'' same
    cases ran
    exact same
  · cases ran

theorem runPartitionQuality_returns (accounted : w.session.Accounted readers contents)
    (returned : runPartitionQuality now serviceType year month w = (.ok summary, w')) :
    ∃ runId, findLatestSuccessfulRun w.session.db serviceType year month = .ok runId ∧ summary.runId = runId ∧
      ∃ evaluation run, w.session.db.evaluation runId = .ok evaluation ∧ w.session.db.getRun runId = some run ∧
        (run.markEvaluated (evaluation.violated .warning) (evaluation.violated .error)).writeError = none ∧
        summary = evaluation.summary runId ∧ w' = w.withSession (w.session.evaluated runId evaluation now) := by
  rw [runPartitionQuality_apply] at returned
  split at returned
  · cases returned
  · rename_i runId found
    rcases ran : atomically (runQualityChecks now runId) w.session with ⟨result, session⟩
    rw [ran] at returned
    cases returned
    obtain ⟨evaluation, run, evaluates, got, writable, is_summary, rfl⟩ :=
      runQualityChecks_returns accounted.results (atomically_ok ran)
    exact ⟨runId, found, congrArg QualityRunSummary.runId is_summary, evaluation, run, evaluates, got, writable,
      is_summary, rfl⟩

theorem evaluation_source {db : Database} {evaluation : Evaluation}
    (evaluates : db.evaluation runId = .ok evaluation) : ∃ run row, db.getRun runId = some run ∧
      run.sourceFileId = some row.sourceFileId ∧ db.getSourceFile row.sourceFileId = some row ∧
      row.partitionKey = evaluation.partitionKey := by
  obtain ⟨target, config, rowsChecked, measurements, valid, -, -, rfl⟩ := evaluation_ok.mp evaluates
  obtain ⟨got, -, -, ⟨sourceFileId, ofSource, gotSource⟩, -⟩ := validatedTarget_iff.mp valid
  have sameId := (getSourceFile_some gotSource).2
  rw [← sameId] at ofSource gotSource
  exact ⟨target.run, target.source, got, ofSource, gotSource, rfl⟩

theorem Database.LoadedBy.later {db db' : Database} {partitionKey : String} (loadedBy : db.LoadedBy partitionKey runId)
    (keeps : db.KeepsTargets db') (loads : db'.LoadsExact) (nodup : db.index.Nodup) : db'.LoadedBy partitionKey runId := by
  obtain ⟨row, run, member, partition, loaded, succeeded, is_run⟩ := loadedBy
  have inRuns : run ∈ db.succeededRuns row.sourceFileId := by
    rw [succeeded]
    exact List.mem_singleton_self run
  obtain ⟨inAll, ofSource, isSucceeded⟩ := Database.mem_succeededRuns.mp inRuns
  obtain ⟨row', got', same⟩ := keeps.sources (Database.getSourceFile_of_mem nodup member) loaded
  obtain ⟨run', gotRun', succeeded', -, ofSource'⟩ := keeps.runs (Database.getRun_of_mem nodup inAll) isSucceeded
  obtain ⟨member', sameId⟩ := getSourceFile_some got'
  have loaded' := same.status.trans loaded
  rw [← sameId] at got'
  obtain ⟨table, only, rowCount, -, -, is_only, -⟩ := loads.loaded got' loaded'
  have inRuns' : run' ∈ db'.succeededRuns row'.sourceFileId := by
    refine Database.mem_succeededRuns.mpr ⟨(getRun_some gotRun').1, ?_, succeeded'⟩
    rw [ofSource', ofSource, sameId]
  rw [is_only, List.mem_singleton] at inRuns'
  refine ⟨row', only, member', same.partition.trans partition, loaded', is_only, ?_⟩
  rw [← inRuns', (getRun_some gotRun').2, is_run]

theorem runPartitionQuality_stands (collisionFree : Set.InjOn readers.sha256 contents)
    (accounted : w.session.Accounted readers contents) (found : tripMonthSource serviceType year month = .ok source)
    (returned : runPartitionQuality now serviceType year month w = (.ok summary, w')) :
    summary.Stands source w'.session.db := by
  obtain ⟨runId, latest, is_run, evaluation, run, evaluates, got, writable, is_summary, rfl⟩ :=
    runPartitionQuality_returns accounted returned
  have nodup := accounted.ingested.orderly.consistent.nodup
  obtain ⟨row, loader, member, partition, loaded, succeeded, is_loader⟩ := (accounted.ingested.findLatest_iff found).mp latest
  have leads : w.session.LeadsWith (·.Inspected readers contents) (w.session.evaluated runId evaluation now) := by
    have after := @runPartitionQuality_leads serviceType year month now w (·.Inspected readers contents)
    rwa [returned] at after
  have accounted' := leads.accounted collisionFree accounted
  have ofRow : run.sourceFileId = some row.sourceFileId := by
    have inRuns : loader ∈ w.session.db.succeededRuns row.sourceFileId := by
      rw [succeeded]
      exact List.mem_singleton_self loader
    obtain ⟨inAll, ofSource, -⟩ := Database.mem_succeededRuns.mp inRuns
    have gotLoader := Database.getRun_of_mem nodup inAll
    rw [is_loader] at gotLoader
    cases got.symm.trans gotLoader
    exact ofSource
  refine ⟨?_, ⟨evaluation, now, ?_, ?_⟩, ?_⟩
  · obtain ⟨run', row', got', ofSource', gotRow', same⟩ := evaluation_source evaluates
    cases got.symm.trans got'
    have sameId := Option.some.inj (ofRow.symm.trans ofSource')
    have gotRow := Database.getSourceFile_of_mem nodup member
    rw [sameId] at gotRow
    cases gotRow.symm.trans gotRow'
    rw [is_summary]
    exact same.symm.trans partition
  · rw [is_run]
    exact evaluated_evaluated accounted.results nodup (accounted.one collisionFree) evaluates got writable
  · rw [is_run]
    exact is_summary
  · rw [is_run]
    exact Database.LoadedBy.later ⟨row, loader, member, partition, loaded, succeeded, is_loader⟩
      evaluated_keepsTargets accounted'.ingested.loads nodup

/-- A summary stands, whatever is called later. -/
theorem QualityRunSummary.Stands.later (stands : summary.Stands source s.db)
    (collisionFree : Set.InjOn readers.sha256 contents) (accounted : s.Accounted readers contents)
    (leads : s.LeadsWith (·.Inspected readers contents) s') : summary.Stands source s'.db := by
  have accounted' := leads.accounted collisionFree accounted
  obtain ⟨evaluation, executedAt, evaluated, is_summary⟩ := stands.evaluated
  obtain ⟨latest, evaluated'⟩ :=
    leads.leads.evaluated accounted.ingested.orderly (accounted'.one collisionFree) accounted.results evaluated
  have keeps := (leads.leads.resultsExact accounted.ingested.orderly (accounted'.one collisionFree) accounted.results).2
  exact ⟨stands.partitionKey, ⟨evaluation, latest, evaluated', is_summary⟩,
    stands.version.later keeps accounted'.ingested.loads accounted.ingested.orderly.consistent.nodup⟩

end Partitions

end TaxiPipeline
