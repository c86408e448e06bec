import TaxiPipeline.Orchestration.Loads

namespace TaxiPipeline

open ReadCommitted Stateful StorageAction

section Months

variable {serviceType : String} {year month : Int} {source other : SourcePartition}

theorem tripMonthSource_resolved (found : tripMonthSource serviceType year month = .ok source) :
    Resolved source ∧ monthlyTripSource serviceType year month = .ok source := by
  unfold tripMonthSource at found
  split at found
  · rename_i yellow
    subst yellow
    exact ⟨.yellow found, found⟩
  · split at found
    · rename_i green
      subst green
      exact ⟨.green found, found⟩
    · cases found

/-- The subject of the rows and the runs of a month. -/
def monthSubject (serviceType : String) (year month : Int) : Subject :=
  ⟨serviceType ++ "_tripdata", some serviceType, some year, some month⟩

def SourcePartition.subject (source : SourcePartition) : Subject :=
  ⟨source.datasetName, source.serviceType, source.year, source.month⟩

theorem monthlyTripSource_subject (found : monthlyTripSource serviceType year month = .ok source) :
    source.subject = monthSubject serviceType year month := by
  obtain ⟨-, -, dataset, service, sameYear, sameMonth, -⟩ := monthlyTripSource_ok found
  unfold SourcePartition.subject monthSubject
  rw [dataset, service, sameYear, sameMonth]

/-- A subject belongs to one source. -/
theorem Resolved.eq_of_subject (found : tripMonthSource serviceType year month = .ok source)
    (resolved : Resolved other) (same : other.subject = monthSubject serviceType year month) : other = source := by
  obtain ⟨-, monthly⟩ := tripMonthSource_resolved found
  have service := congrArg Subject.serviceType same
  cases resolved with
  | yellow ok | green ok =>
    rw [monthlyTripSource_subject ok] at same service
    have sameYear := Option.some.inj (congrArg Subject.year same)
    have sameMonth := Option.some.inj (congrArg Subject.month same)
    rw [← Option.some.inj service, ← sameYear, ← sameMonth] at monthly
    exact Except.ok.inj (ok.symm.trans monthly)
  | zones => cases service

end Months

section Runs

variable {readers : Readers} {contents : Set Bytes} {s : Session} {serviceType : String} {year month : Int}
  {source : SourcePartition} {row : SourceFile} {run : PipelineRun} {runId : Nat}

theorem Session.Ingested.resolved (ingested : s.Ingested (·.Inspected readers contents))
    (member : row ∈ s.db.sourceFiles) :
    ∃ other, Resolved other ∧ row.partitionKey = other.partitionKey ∧ row.subject = other.subject := by
  obtain ⟨metadata, ⟨other, content, resolved, -, inspected⟩, partition, dataset, service, year, month⟩ :=
    ingested.registered member
  obtain ⟨-, found, -, rfl⟩ := inspectSource_ok inspected
  refine ⟨other, resolved, partition, ?_⟩
  unfold SourceFile.subject SourcePartition.subject
  rw [dataset, service, year, month]

theorem Session.Ingested.subject_iff (ingested : s.Ingested (·.Inspected readers contents))
    (found : tripMonthSource serviceType year month = .ok source) (member : row ∈ s.db.sourceFiles) :
    row.subject = monthSubject serviceType year month ↔ row.partitionKey = source.partitionKey := by
  obtain ⟨resolved, monthly⟩ := tripMonthSource_resolved found
  obtain ⟨other, resolved', partition, subject⟩ := ingested.resolved member
  constructor
  · intro same
    rw [partition, resolved'.eq_of_subject found (subject.symm.trans same)]
  · intro same
    rw [subject, resolved'.eq_of_partition resolved (partition.symm.trans same), monthlyTripSource_subject monthly]

theorem mem_successfulRuns {db : Database} : run ∈ db.successfulRuns serviceType year month ↔
    run ∈ db.pipelineRuns ∧ run.subject = monthSubject serviceType year month ∧ run.status = .succeeded ∧
      ∃ row ∈ db.sourceFiles, run.sourceFileId = some row.sourceFileId ∧ row.status = .loaded := by
  simp only [Database.successfulRuns, List.mem_filter, Bool.and_eq_true, beq_iff_eq, List.any_eq_true,
    PipelineRun.subject, monthSubject, Subject.mk.injEq]
  constructor
  · rintro ⟨member, ⟨⟨⟨⟨dataset, service⟩, sameYear⟩, sameMonth⟩, succeeded⟩, row, inFiles, ofSource, loaded⟩
    exact ⟨member, ⟨dataset, service, sameYear, sameMonth⟩, succeeded, row, inFiles, ofSource.symm, loaded⟩
  · rintro ⟨member, ⟨dataset, service, sameYear, sameMonth⟩, succeeded, row, inFiles, ofSource, loaded⟩
    exact ⟨member, ⟨⟨⟨⟨dataset, service⟩, sameYear⟩, sameMonth⟩, succeeded⟩, row, inFiles, ofSource.symm, loaded⟩

/-- The successful runs of a month are those of its loaded version. -/
theorem Session.Ingested.successful_iff (ingested : s.Ingested (·.Inspected readers contents))
    (found : tripMonthSource serviceType year month = .ok source) :
    run ∈ s.db.successfulRuns serviceType year month ↔ ∃ row ∈ s.db.sourceFiles,
      row.partitionKey = source.partitionKey ∧ row.status = .loaded ∧ run ∈ s.db.succeededRuns row.sourceFileId := by
  have nodup := ingested.orderly.consistent.nodup
  rw [mem_successfulRuns]
  constructor
  · rintro ⟨member, subject, succeeded, row, inFiles, ofSource, loaded⟩
    refine ⟨row, inFiles, ?_, loaded, Database.mem_succeededRuns.mpr ⟨member, ofSource, succeeded⟩⟩
    obtain ⟨row', got', same⟩ := ingested.runs _ _ _ (Database.getRun_of_mem nodup member) ofSource
    cases (Database.getSourceFile_of_mem nodup inFiles).symm.trans got'
    exact (ingested.subject_iff found inFiles).mp (same.trans subject)
  · rintro ⟨row, inFiles, partition, loaded, inRuns⟩
    obtain ⟨member, ofSource, succeeded⟩ := Database.mem_succeededRuns.mp inRuns
    obtain ⟨row', got', same⟩ := ingested.runs _ _ _ (Database.getRun_of_mem nodup member) ofSource
    cases (Database.getSourceFile_of_mem nodup inFiles).symm.trans got'
    refine ⟨member, ?_, succeeded, row, inFiles, ofSource, loaded⟩
    exact same.symm.trans ((ingested.subject_iff found inFiles).mpr partition)

/-- The latest successful run of a month is the one run that has loaded it. -/
theorem Session.Ingested.findLatest_iff (ingested : s.Ingested (·.Inspected readers contents))
    (found : tripMonthSource serviceType year month = .ok source) :
    findLatestSuccessfulRun s.db serviceType year month = .ok runId ↔ ∃ row run, row ∈ s.db.sourceFiles ∧
      row.partitionKey = source.partitionKey ∧ row.status = .loaded ∧
        s.db.succeededRuns row.sourceFileId = [run] ∧ run.runId = runId := by
  have nodup := ingested.orderly.consistent.nodup
  have single : ∀ row ∈ s.db.sourceFiles, row.status = .loaded → ∃ run, s.db.succeededRuns row.sourceFileId = [run] := by
    intro row member loaded
    obtain ⟨table, run, rowCount, -, -, succeeded, -⟩ :=
      ingested.loads.loaded (Database.getSourceFile_of_mem nodup member) loaded
    exact ⟨run, succeeded⟩
  have is_ok : findLatestSuccessfulRun s.db serviceType year month = .ok runId ↔
      ((s.db.successfulRuns serviceType year month).map (·.runId)).max? = some runId := by
    unfold findLatestSuccessfulRun
    split
    · rename_i other same
      rw [same, Except.ok.injEq, Option.some.injEq]
    · rename_i none_found
      rw [none_found]
      constructor
      · intro ok
        cases ok
      · intro same
        cases same
  rw [is_ok, List.max?_eq_some_iff]
  constructor
  · rintro ⟨member, -⟩
    obtain ⟨run, inRuns, same⟩ := List.mem_map.mp member
    obtain ⟨row, inFiles, partition, loaded, succeeded⟩ := (ingested.successful_iff found).mp inRuns
    obtain ⟨only, is_only⟩ := single row inFiles loaded
    rw [is_only, List.mem_singleton] at succeeded
    exact ⟨row, only, inFiles, partition, loaded, is_only, succeeded ▸ same⟩
  · rintro ⟨row, run, inFiles, partition, loaded, succeeded, rfl⟩
    have inRuns : run ∈ s.db.succeededRuns row.sourceFileId := by
      rw [succeeded]
      exact List.mem_singleton_self run
    refine ⟨List.mem_map_of_mem ((ingested.successful_iff found).mpr ⟨row, inFiles, partition, loaded, inRuns⟩), ?_⟩
    intro runId member
    obtain ⟨other, inOther, rfl⟩ := List.mem_map.mp member
    obtain ⟨row', inFiles', partition', loaded', succeeded'⟩ := (ingested.successful_iff found).mp inOther
    have same := ingested.orderly.one.unique row' inFiles' row inFiles (partition'.trans partition.symm)
      (by rw [loaded']; exact SourceStatus.noConfusion) (by rw [loaded]; exact SourceStatus.noConfusion)
    rw [same, succeeded, List.mem_singleton] at succeeded'
    rw [succeeded']

end Runs

end TaxiPipeline
