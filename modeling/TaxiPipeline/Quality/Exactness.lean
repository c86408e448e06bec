import TaxiPipeline.Quality.Persistence

namespace TaxiPipeline

open ReadCommitted Relational Stateful Transaction

section Evaluations

variable {s s' : Session} {runId : Nat} {evaluation : Evaluation} {now : Timestamp}

theorem evaluation_run {db : Database} (evaluates : db.evaluation runId = .ok evaluation) :
    ∃ run, db.getRun runId = some run ∧ run.status = .succeeded ∧
      (evaluation.config.rules.map (·.name)).Nodup := by
  obtain ⟨target, config, rowsChecked, measurements, valid, known, -, rfl⟩ := evaluation_ok.mp evaluates
  obtain ⟨got, succeeded⟩ := validatedTarget_ok valid
  exact ⟨target.run, got, succeeded, (qualityConfig_rules known).1⟩

theorem Database.ResultsExact.prior {db : Database} (exact_results : db.ResultsExact)
    (evaluates : db.evaluation runId = .ok evaluation) :
    db.resultsOf runId = [] ∨ ∃ before, db.Evaluated runId evaluation before := by
  rcases exact_results runId with none_yet | ⟨earlier, before, evaluated⟩
  · exact .inl none_yet
  · cases evaluates.symm.trans evaluated.measured
    exact .inr ⟨before, evaluated⟩

theorem Database.ResultsExact.priorRecords {db : Database} (exact_results : db.ResultsExact)
    (evaluates : db.evaluation runId = .ok evaluation) :
    db.resultsOf runId = [] ∨ ∃ before, evaluation.Records runId before (db.resultsOf runId) := by
  rcases exact_results.prior evaluates with none_yet | ⟨before, evaluated⟩
  · exact .inl none_yet
  · exact .inr ⟨before, evaluated.records⟩

theorem Session.counted (exact_results : s.db.ResultsExact) (evaluates : s.db.evaluation runId = .ok evaluation)
    (severity : QualitySeverity) :
    (s.withResults (s.upserts runId evaluation now)).db.violatedCount runId severity =
      evaluation.violated severity := by
  obtain ⟨run, -, -, distinct⟩ := evaluation_run evaluates
  exact violatedCount_eq (withResults_records distinct (exact_results.priorRecords evaluates)).1 severity

/-- A call that raises has written nothing, unless the database refuses the counters. -/
theorem runQualityChecks_raises (exact_results : s.db.ResultsExact) {error : PyException}
    (raised : runQualityChecks now runId s = (.error error, s')) : error.isDatabaseError = true ∨ s' = s := by
  cases evaluates : s.db.evaluation runId with
  | error failure =>
    rw [runQualityChecks_error evaluates] at raised
    cases raised
    exact .inr rfl
  | ok evaluation =>
    obtain ⟨run, got, -, -⟩ := evaluation_run evaluates
    rw [runQualityChecks_eq evaluates got fun severity => s.counted exact_results evaluates severity] at raised
    split at raised
    · rename_i failure failed
      cases raised
      exact .inl (writeError_isDatabaseError failed)
    · cases raised

theorem runQualityChecks_returns (exact_results : s.db.ResultsExact) {summary : QualityRunSummary}
    (returned : runQualityChecks now runId s = (.ok summary, s')) :
    ∃ evaluation run, s.db.evaluation runId = .ok evaluation ∧ s.db.getRun runId = some run ∧
      (run.markEvaluated (evaluation.violated .warning) (evaluation.violated .error)).writeError = none ∧
      summary = evaluation.summary runId ∧ s' = s.evaluated runId evaluation now := by
  cases evaluates : s.db.evaluation runId with
  | error failure =>
    rw [runQualityChecks_error evaluates] at returned
    cases returned
  | ok evaluation =>
    obtain ⟨run, got, -, -⟩ := evaluation_run evaluates
    rw [runQualityChecks_eq evaluates got fun severity => s.counted exact_results evaluates severity] at returned
    split at returned
    · cases returned
    · rename_i writable
      cases returned
      exact ⟨evaluation, run, rfl, got, writable, rfl, rfl⟩

theorem evaluated_keepsTargets : s.db.KeepsTargets (s.evaluated runId evaluation now).db where
  sources := fun got _ => ⟨_, got, .refl _⟩
  rows := fun _ _ _ => rfl
  runs := by
    intro other run got succeeded
    have found : (s.evaluated runId evaluation now).db.getRun other =
        (s.db.getRun other).map fun run => if other = runId then
          run.markEvaluated (evaluation.violated .warning) (evaluation.violated .error) else run :=
      Database.getRun_updateRun fun _ => rfl
    rw [got, Option.map_some] at found
    refine ⟨_, found, ?_⟩
    split <;> exact ⟨succeeded, rfl, rfl⟩

theorem evaluated_nodup (nodup : s.db.index.Nodup) : (s.evaluated runId evaluation now).db.index.Nodup := by
  have same : (s.evaluated runId evaluation now).db.index = s.db.index := markEvaluated_index _ _ _ _
  rwa [same]

theorem evaluated_resultsOf (other : Nat) : (s.evaluated runId evaluation now).db.resultsOf other =
    (s.withResults (s.upserts runId evaluation now)).db.resultsOf other := rfl

theorem evaluated_getRun {run : PipelineRun} (got : s.db.getRun runId = some run) :
    (s.evaluated runId evaluation now).db.getRun runId =
      some (run.markEvaluated (evaluation.violated .warning) (evaluation.violated .error)) :=
  @Database.getRun_updateRun_self _ _ (·.markEvaluated (evaluation.violated .warning) (evaluation.violated .error))
    (fun _ => rfl) _ got

theorem evaluated_getRun_other {other : Nat} (apart : other ≠ runId) :
    (s.evaluated runId evaluation now).db.getRun other = s.db.getRun other :=
  Database.getRun_updateRun_other (fun _ => rfl) apart

theorem evaluated_evaluated (exact_results : s.db.ResultsExact) (nodup : s.db.index.Nodup)
    (one : s.db.OneLoadedZone) {run : PipelineRun} (evaluates : s.db.evaluation runId = .ok evaluation)
    (got : s.db.getRun runId = some run)
    (writable : (run.markEvaluated (evaluation.violated .warning) (evaluation.violated .error)).writeError = none) :
    (s.evaluated runId evaluation now).db.Evaluated runId evaluation now where
  measured := evaluated_keepsTargets.evaluation nodup (evaluated_nodup nodup) one evaluates
  records := by
    obtain ⟨-, -, -, distinct⟩ := evaluation_run evaluates
    exact (withResults_records distinct (exact_results.priorRecords evaluates)).1
  counters := ⟨_, evaluated_getRun got, writable, rfl⟩

theorem evaluated_keeps_other {other : Nat} {earlier : Evaluation} {before : Timestamp}
    (exact_results : s.db.ResultsExact) (nodup : s.db.index.Nodup) (one : s.db.OneLoadedZone)
    (evaluates : s.db.evaluation runId = .ok evaluation) (apart : other ≠ runId)
    (evaluated : s.db.Evaluated other earlier before) :
    (s.evaluated runId evaluation now).db.Evaluated other earlier before where
  measured := evaluated_keepsTargets.evaluation nodup (evaluated_nodup nodup) one evaluated.measured
  records := by
    obtain ⟨-, -, -, distinct⟩ := evaluation_run evaluates
    rw [evaluated_resultsOf, (withResults_records distinct (exact_results.priorRecords evaluates)).2 other apart]
    exact evaluated.records
  counters := by
    rw [evaluated_getRun_other apart]
    exact evaluated.counters

theorem evaluated_resultsExact (exact_results : s.db.ResultsExact) (nodup : s.db.index.Nodup)
    (one : s.db.OneLoadedZone) {run : PipelineRun} (evaluates : s.db.evaluation runId = .ok evaluation)
    (got : s.db.getRun runId = some run)
    (writable : (run.markEvaluated (evaluation.violated .warning) (evaluation.violated .error)).writeError = none) :
    (s.evaluated runId evaluation now).db.ResultsExact := by
  intro other
  by_cases same : other = runId
  · subst same
    exact .inr ⟨evaluation, now, evaluated_evaluated exact_results nodup one evaluates got writable⟩
  · rcases exact_results other with none_yet | ⟨earlier, before, evaluated⟩
    · obtain ⟨-, -, -, distinct⟩ := evaluation_run evaluates
      rw [evaluated_resultsOf, (withResults_records distinct (exact_results.priorRecords evaluates)).2 other same]
      exact .inl none_yet
    · exact .inr ⟨earlier, before, evaluated_keeps_other exact_results nodup one evaluates same evaluated⟩

end Evaluations

section Histories

variable {s s' : Session}

theorem Database.KeepsLoaded.evaluated {db db' : Database} {runId : Nat} {evaluation : Evaluation}
    {executedAt : Timestamp} (keeps : db.KeepsLoaded db') (nodup : db.index.Nodup) (nodup' : db'.index.Nodup)
    (one : db'.OneLoadedZone) (evaluated : db.Evaluated runId evaluation executedAt) :
    db'.Evaluated runId evaluation executedAt where
  measured := keeps.targets.evaluation nodup nodup' one evaluated.measured
  records := by
    unfold Database.resultsOf
    rw [keeps.results]
    exact evaluated.records
  counters := by
    obtain ⟨run, got, rest⟩ := evaluated.counters
    obtain ⟨run', got', succeeded, -⟩ := evaluation_run evaluated.measured
    cases got.symm.trans got'
    exact ⟨run, keeps.runs got succeeded, rest⟩

theorem Database.KeepsLoaded.resultsExact {db db' : Database} (keeps : db.KeepsLoaded db') (nodup : db.index.Nodup)
    (nodup' : db'.index.Nodup) (one : db'.OneLoadedZone) (exact_results : db.ResultsExact) : db'.ResultsExact := by
  intro runId
  rcases exact_results runId with none_yet | ⟨evaluation, executedAt, evaluated⟩
  · refine .inl ?_
    unfold Database.resultsOf at none_yet ⊢
    rw [keeps.results]
    exact none_yet
  · exact .inr ⟨evaluation, executedAt, keeps.evaluated nodup nodup' one evaluated⟩

theorem registerSourceFile_keepsLoaded (now : Timestamp) (metadata : SourceFileMetadata) :
    s.db.KeepsLoaded (atomically (registerSourceFile now metadata) s).2.db := by
  have kept : (atomically (registerSourceFile now metadata)).Meets s (fun _ s' => s.db.KeepsLoaded s'.db)
      fun _ s' => s.db.KeepsLoaded s'.db := by
    refine meets_atomically ((registerSourceFile_meets s now metadata).mono (fun result s' answered => ?_)
      fun error s' _ => .refl _)
    rcases answered with ⟨row, -, -, rfl⟩ | ⟨-, -, -, rfl⟩
    · exact .refl _
    · exact keepsLoaded_addSourceFile _
  exact kept.ends

theorem persistStorageMetadata_keepsLoaded (sourceFileId : Nat) (storage : StorageResult) :
    s.db.KeepsLoaded (atomically (persistStorageMetadata sourceFileId storage) s).2.db := by
  have kept : (atomically (persistStorageMetadata sourceFileId storage)).Meets s
      (fun _ s' => s.db.KeepsLoaded s'.db) fun _ s' => s.db.KeepsLoaded s'.db := by
    refine meets_atomically ((persistStorageMetadata_meets s sourceFileId storage).mono (fun _ s' persisted => ?_)
      fun error s' _ => .refl _)
    subst persisted
    exact keepsLoaded_persist sourceFileId storage
  exact kept.ends

theorem runQualityChecks_keepsSources (now : Timestamp) (runId : Nat) :
    s.db.KeepsSources (atomically (runQualityChecks now runId) s).2.db := by
  have kept : (atomically (runQualityChecks now runId)).Meets s (fun _ s' => s.db.KeepsSources s'.db)
      fun _ s' => s.db.KeepsSources s'.db := by
    refine meets_atomically ((runQualityChecks_meets s now runId).mono (fun summary s' evaluated => ?_)
      fun error s' _ => .refl _)
    obtain ⟨run, warningCount, errorCount, -, -, -, same⟩ := evaluated
    constructor
    · intro sourceFileId row got _
      refine ⟨row, ?_, .refl row⟩
      unfold Database.getSourceFile at got ⊢
      rw [same.sourceFiles]
      exact got
    · intro sourceFileId row _ _ table
      unfold Database.rowsOf
      rw [same.raw]
      rfl
  exact kept.ends

theorem Session.Calls.evaluates_or_keeps (calls : s.Calls s') (orderly : s.Orderly) : s.db.KeepsLoaded s'.db ∨
    ∃ now runId, s' = (atomically (TaxiPipeline.runQualityChecks now runId) s).2 := by
  cases calls with
  | registerSourceFile now metadata => exact .inl (registerSourceFile_keepsLoaded now metadata)
  | ingestSource ran ended => exact .inl (run_keepsLoaded orderly ran)
  | runQualityChecks now runId => exact .inr ⟨now, runId, rfl⟩
  | persistStorageMetadata sourceFileId storage =>
    exact .inl (persistStorageMetadata_keepsLoaded sourceFileId storage)

theorem evaluation_commits {now : Timestamp} {runId : Nat} (exact_results : s.db.ResultsExact) :
    (atomically (runQualityChecks now runId) s).2.db = s.db ∨ ∃ evaluation run,
      s.db.evaluation runId = .ok evaluation ∧ s.db.getRun runId = some run ∧
      (run.markEvaluated (evaluation.violated .warning) (evaluation.violated .error)).writeError = none ∧
      (atomically (runQualityChecks now runId) s).2 = s.evaluated runId evaluation now := by
  unfold atomically
  rcases ran : runQualityChecks now runId s with ⟨result, s'⟩
  cases result with
  | error error => exact .inl rfl
  | ok summary =>
    obtain ⟨evaluation, run, evaluates, got, writable, -, same⟩ := runQualityChecks_returns exact_results ran
    exact .inr ⟨evaluation, run, evaluates, got, writable, same⟩

theorem Session.Calls.keepsSources (calls : s.Calls s') (orderly : s.Orderly) : s.db.KeepsSources s'.db := by
  rcases calls.evaluates_or_keeps orderly with keeps | ⟨now, runId, rfl⟩
  · exact keeps.toKeepsSources
  · exact runQualityChecks_keepsSources now runId

theorem Session.Calls.keepsTargets (calls : s.Calls s') (orderly : s.Orderly) (exact_results : s.db.ResultsExact) :
    s.db.KeepsTargets s'.db := by
  rcases calls.evaluates_or_keeps orderly with keeps | ⟨now, runId, rfl⟩
  · exact keeps.targets
  · rcases evaluation_commits exact_results with same | ⟨evaluation, run, -, -, -, same⟩
    · rw [same]
      exact .refl _
    · rw [same]
      exact evaluated_keepsTargets

theorem Session.Calls.resultsExact (calls : s.Calls s') (orderly : s.Orderly) (one : s'.db.OneLoadedZone)
    (exact_results : s.db.ResultsExact) : s'.db.ResultsExact := by
  have nodup := orderly.consistent.nodup
  have nodup' := (calls.keeps orderly).orderly.consistent.nodup
  rcases calls.evaluates_or_keeps orderly with keeps | ⟨now, runId, rfl⟩
  · exact keeps.resultsExact nodup nodup' one exact_results
  · have before := (runQualityChecks_keepsSources now runId).oneLoadedZone nodup one
    rcases evaluation_commits exact_results with same | ⟨evaluation, run, evaluates, got, writable, same⟩
    · rw [same]
      exact exact_results
    · rw [same]
      exact evaluated_resultsExact exact_results nodup before evaluates got writable

theorem Session.Calls.evaluated {runId : Nat} {evaluation : Evaluation} {before : Timestamp} (calls : s.Calls s')
    (orderly : s.Orderly) (one : s'.db.OneLoadedZone) (exact_results : s.db.ResultsExact)
    (evaluated : s.db.Evaluated runId evaluation before) :
    ∃ latest, s'.db.Evaluated runId evaluation latest := by
  have nodup := orderly.consistent.nodup
  have nodup' := (calls.keeps orderly).orderly.consistent.nodup
  rcases calls.evaluates_or_keeps orderly with keeps | ⟨now, other, rfl⟩
  · exact ⟨before, keeps.evaluated nodup nodup' one evaluated⟩
  · have one' := (runQualityChecks_keepsSources now other).oneLoadedZone nodup one
    rcases evaluation_commits exact_results with same | ⟨latest, run, evaluates, got, writable, same⟩
    · rw [same]
      exact ⟨before, evaluated⟩
    · rw [same]
      by_cases again : runId = other
      · subst again
        cases evaluates.symm.trans evaluated.measured
        exact ⟨now, evaluated_evaluated exact_results nodup one' evaluates got writable⟩
      · exact ⟨before, evaluated_keeps_other exact_results nodup one' evaluates again evaluated⟩

theorem Session.Leads.keepsSources (leads : s.Leads s') (orderly : s.Orderly) : s.db.KeepsSources s'.db := by
  induction leads with
  | refl => exact .refl _
  | tail before calls ih => exact ih.trans (calls.keepsSources (Session.Leads.keeps before orderly).orderly)

/-- Along a history with one loaded zone source at most, all stored results stay exact. -/
theorem Session.Leads.resultsExact (leads : s.Leads s') (orderly : s.Orderly) (one : s'.db.OneLoadedZone)
    (exact_results : s.db.ResultsExact) : s'.db.ResultsExact ∧ s.db.KeepsTargets s'.db := by
  induction leads with
  | refl => exact ⟨exact_results, .refl _⟩
  | @tail middle last before calls ih =>
    have orderly' := (Session.Leads.keeps before orderly).orderly
    have earlier := (calls.keepsSources orderly').oneLoadedZone orderly'.consistent.nodup one
    obtain ⟨exact_before, keeps⟩ := ih earlier
    exact ⟨calls.resultsExact orderly' one exact_before, keeps.trans (calls.keepsTargets orderly' exact_before)⟩

theorem resultsExact_start : Session.start.db.ResultsExact := fun _ => .inl rfl

end Histories

end TaxiPipeline
