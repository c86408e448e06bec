import TaxiPipeline.Lifecycle.Skips
import TaxiPipeline.Quality.Exactness

namespace TaxiPipeline

open ReadCommitted Relational Stateful Transaction

/-- Every run is of the dataset of its source. -/
def Database.RunsDescribed (db : Database) : Prop :=
  ∀ runId run sourceFileId, db.getRun runId = some run → run.sourceFileId = some sourceFileId →
    ∃ row, db.getSourceFile sourceFileId = some row ∧ row.datasetName = run.datasetName

section Described

variable {db db' : Database} {s s' : Session}

theorem Database.RunsDescribed.old {owned : Nat → Prop} (described : db.RunsDescribed) (extended : db.Extends owned db')
    {runId sourceFileId : Nat} {run : PipelineRun} (got : db.getRun runId = some run)
    (ofSource : run.sourceFileId = some sourceFileId) :
    ∃ row, db'.getSourceFile sourceFileId = some row ∧ row.datasetName = run.datasetName := by
  obtain ⟨row, gotRow, dataset⟩ := described _ _ _ got ofSource
  obtain ⟨row', gotRow', registered, -⟩ := extended.sources gotRow
  exact ⟨row', gotRow', (congrArg SourceFile.datasetName registered).trans dataset⟩

theorem Database.Shows.describes {source : SourceFile} (shown : db.Shows source) :
    ∃ row, db.getSourceFile source.sourceFileId = some row ∧ row.datasetName = source.datasetName := by
  obtain ⟨row, got, same⟩ := shown
  have dataset := congrArg SourceFile.datasetName same
  exact ⟨row, got, dataset⟩

theorem Database.RunsDescribed.updateRun (described : db.RunsDescribed) (runId : Nat)
    {change : PipelineRun → PipelineRun} (keepsId : ∀ run, (change run).runId = run.runId)
    (keepsSource : ∀ run, (change run).sourceFileId = run.sourceFileId)
    (keepsDataset : ∀ run, (change run).datasetName = run.datasetName) :
    (db.updateRun runId change).RunsDescribed := by
  intro other run sourceFileId got ofSource
  obtain ⟨old, gotOld, rfl⟩ := Database.getRun_changed got keepsId
  split at ofSource
  · rename_i same
    rw [if_pos same, keepsDataset]
    exact described _ _ _ gotOld ((keepsSource old).symm.trans ofSource)
  · rename_i apart
    rw [if_neg apart]
    exact described _ _ _ gotOld ofSource

theorem CommitStep.runsDescribed {metadata : SourceFileMetadata} {owned : Nat → Prop}
    (step : CommitStep metadata db db') (extended : db.Extends owned db') (described : db.RunsDescribed) :
    db'.RunsDescribed := by
  intro runId run sourceFileId got ofSource
  cases step with
  | nothing => exact described _ _ _ got ofSource
  | registered fits checks chosen => exact described.old extended got ofSource
  | started held shown =>
    rcases Database.getRun_added got with old | rfl
    · exact described.old extended old ofSource
    · cases ofSource
      exact shown.describes
  | skipped held shown =>
    rcases Database.getRun_added got with old | rfl
    · exact described.old extended old ofSource
    · cases ofSource
      exact shown.describes
  | @loaded sourceFileId' runId' table rows counts finishedAt _ held found ofRun running counted =>
    have loads : ((db.addRaws table rows).updateSourceFile sourceFileId' (·.markLoaded finishedAt)).RunsDescribed :=
      fun _ _ _ got ofSource => described.old extended got ofSource
    exact @Database.RunsDescribed.updateRun _ loads runId' (·.markSucceeded finishedAt counts.toRunCounts)
      (fun _ => rfl) (fun _ => rfl) (fun _ => rfl) _ _ _ got ofSource
  | @failed runId' message now _ found running =>
    exact @Database.RunsDescribed.updateRun _ described runId' (·.markFailed now message)
      (fun _ => rfl) (fun _ => rfl) (fun _ => rfl) _ _ _ got ofSource

theorem Database.RunsDescribed.same (described : db.RunsDescribed) (files : db'.sourceFiles = db.sourceFiles)
    (runs : db'.pipelineRuns = db.pipelineRuns) : db'.RunsDescribed := by
  intro runId run sourceFileId got ofSource
  unfold Database.getRun at got
  unfold Database.getSourceFile
  rw [runs] at got
  rw [files]
  exact described _ _ _ got ofSource

theorem Database.RunsDescribed.persist (described : db.RunsDescribed) (sourceFileId : Nat) (storage : StorageResult) :
    (db.updateSourceFile sourceFileId (mergeStorageMetadata storage)).RunsDescribed := by
  intro runId run other got ofSource
  obtain ⟨row, gotRow, dataset⟩ := described _ _ _ got ofSource
  have keepsId : ∀ row, (mergeStorageMetadata storage row).sourceFileId = row.sourceFileId :=
    fun row => (mergeStorageMetadata_same storage row).1
  rw [Database.getSourceFile_updateSourceFile keepsId, gotRow, Option.map_some]
  refine ⟨_, rfl, ?_⟩
  split
  · unfold mergeStorageMetadata
    split <;> exact dataset
  · exact dataset

theorem run_runsDescribed {request : Request} {t : Platform Unit} {events : List (Unit × Event)}
    (orderly : s.Orderly) (described : s.db.RunsDescribed)
    (ran : request.program.run (.alone s.db s.sequences .idle []) events = some t) : t.committed.RunsDescribed := by
  have kept := Program.run_preserves (I := fun t => s.Calling request t ∧ t.committed.RunsDescribed)
    (fun t i e t' holds stepped => ⟨holds.1.step orderly.consistent stepped,
      (holds.1.accepting.coherent.commitStep stepped).runsDescribed
        (holds.1.accepting.coherent.extends stepped) holds.2⟩)
    ⟨calling_start orderly, described⟩ ran
  exact kept.2

theorem Session.Calls.runsDescribed (calls : s.Calls s') (orderly : s.Orderly) (described : s.db.RunsDescribed) :
    s'.db.RunsDescribed := by
  cases calls with
  | registerSourceFile now metadata =>
    have kept : (atomically (TaxiPipeline.registerSourceFile now metadata)).Meets s (fun _ s' => s'.db.RunsDescribed)
        fun _ s' => s'.db.RunsDescribed := by
      refine meets_atomically ((registerSourceFile_meets s now metadata).mono (fun result s' answered => ?_)
        fun error s' _ => described)
      rcases answered with ⟨row, -, -, rfl⟩ | ⟨absent, written, -, rfl⟩
      · exact described
      · have registered := Registration.inserted absent written
        exact (registered.commitStep orderly.consistent).runsDescribed registered.extends described
    exact kept.ends
  | ingestSource ran ended => exact run_runsDescribed orderly described ran
  | runQualityChecks now runId =>
    have kept : (atomically (TaxiPipeline.runQualityChecks now runId)).Meets s (fun _ s' => s'.db.RunsDescribed)
        fun _ s' => s'.db.RunsDescribed := by
      refine meets_atomically ((runQualityChecks_meets s now runId).mono (fun summary s' evaluated => ?_)
        fun error s' _ => described)
      obtain ⟨run, warningCount, errorCount, -, -, -, same⟩ := evaluated
      have counted := @Database.RunsDescribed.updateRun _ described runId (·.markEvaluated warningCount errorCount)
        (fun _ => rfl) (fun _ => rfl) fun _ => rfl
      exact counted.same same.sourceFiles same.pipelineRuns
    exact kept.ends
  | persistStorageMetadata sourceFileId storage =>
    have kept : (atomically (TaxiPipeline.persistStorageMetadata sourceFileId storage)).Meets s
        (fun _ s' => s'.db.RunsDescribed) fun _ s' => s'.db.RunsDescribed := by
      refine meets_atomically ((persistStorageMetadata_meets s sourceFileId storage).mono
        (fun _ s' persisted => ?_) fun error s' _ => described)
      subst persisted
      exact described.persist sourceFileId storage
    exact kept.ends

theorem Session.Leads.runsDescribed (leads : s.Leads s') (orderly : s.Orderly) (described : s.db.RunsDescribed) :
    s'.db.RunsDescribed := by
  induction leads with
  | refl => exact described
  | tail before calls ih => exact calls.runsDescribed (Session.Leads.keeps before orderly).orderly ih

end Described

/-- What a successful evaluation leaves: a row for each rule of the catalog and the counters of its run. -/
structure EvaluationExact (s s' : Session) (runId : Nat) : Prop where
  catalog : ∃ run config, s'.db.getRun runId = some run ∧ qualityConfig run.datasetName = some config ∧
    (config.rules.map (·.name)).Nodup ∧
    (s'.db.resultsOf runId).map (fun result => (⟨result.checkName, result.severity⟩ : QualityRule)) = config.rules ∧
    run.warningCount = some ((s'.db.resultsOf runId).countP fun result =>
      result.severity == .warning && result.status == .violated : Int) ∧
    run.errorCount = some ((s'.db.resultsOf runId).countP fun result =>
      result.severity == .error && result.status == .violated : Int)
  statuses : ∀ result ∈ s'.db.resultsOf runId, result.status = .violated ↔ 0 < result.rowsFailed
  otherResults : ∀ other, other ≠ runId → s'.db.resultsOf other = s.db.resultsOf other
  otherRuns : ∀ other, other ≠ runId → s'.db.getRun other = s.db.getRun other
  sources : s'.db.sourceFiles = s.db.sourceFiles
  raw : s'.db.raw = s.db.raw

section Evaluated

variable {s s' : Session} {now : Timestamp} {runId : Nat} {summary : QualityRunSummary}

theorem records_rules {evaluation : Evaluation} {rules : List QualityRule} {results : List DataQualityResult}
    (records : List.Forall₂ (fun rule result => ∃ qualityResultId,
      result = qualityResult qualityResultId runId rule (evaluation.measurement rule) now) rules results) :
    results.map (fun result => (⟨result.checkName, result.severity⟩ : QualityRule)) = rules := by
  induction records with
  | nil => rfl
  | cons head tail ih =>
    obtain ⟨qualityResultId, rfl⟩ := head
    rw [List.map_cons, ih]
    rfl

theorem evaluation_exact (exact_results : s.db.ResultsExact) (described : s.db.RunsDescribed)
    (returned : runQualityChecks now runId s = (.ok summary, s')) : EvaluationExact s s' runId := by
  obtain ⟨evaluation, run, evaluates, got, writable, -, rfl⟩ := runQualityChecks_returns exact_results returned
  obtain ⟨-, -, -, distinct⟩ := evaluation_run evaluates
  obtain ⟨records, others⟩ := @withResults_records s runId evaluation now distinct
    (exact_results.priorRecords evaluates)
  obtain ⟨target, config, rowsChecked, measurements, valid, known, -, rfl⟩ := evaluation_ok.mp evaluates
  obtain ⟨gotTarget, -, -, ⟨sourceFileId, ofSource, gotSource⟩, -⟩ := validatedTarget_iff.mp valid
  cases gotTarget.symm.trans got
  obtain ⟨row, gotRow, dataset⟩ := described _ _ _ got ofSource
  cases gotSource.symm.trans gotRow
  refine ⟨⟨_, config, evaluated_getRun got, ?_, distinct, records_rules records, ?_, ?_⟩, ?_, others,
    fun other apart => evaluated_getRun_other apart, rfl, rfl⟩
  · rw [← known, dataset]
    rfl
  · rw [evaluated_resultsOf, records_violated records]
    rfl
  · rw [evaluated_resultsOf, records_violated records]
    rfl
  · intro result member
    obtain ⟨rule, -, qualityResultId, rfl⟩ := forall₂_mem records member
    unfold qualityResult
    dsimp only
    split <;> simp <;> omega

/-- An evaluation that is repeated on rows that measure the same rewrites the times of its results. -/
theorem evaluation_repeats {evaluation : Evaluation} {before : Timestamp} (nodup : s.db.index.Nodup)
    (exact_results : s.db.ResultsExact)
    (evaluated : s.db.Evaluated runId evaluation before) :
    ∃ s', runQualityChecks now runId s = (.ok (evaluation.summary runId), s') ∧
      s'.db = { s.db with qualityResults := s.db.qualityResults.map (·.reexecuted runId now) } := by
  obtain ⟨run, got, writable, sameRun⟩ := evaluated.counters
  obtain ⟨-, -, -, distinct⟩ := evaluation_run evaluated.measured
  refine ⟨s.evaluated runId evaluation now, ?_, ?_⟩
  · rw [runQualityChecks_eq evaluated.measured got fun severity => s.counted exact_results evaluated.measured severity,
      sameRun, writable]
  · have mapped : (s.withResults (s.upserts runId evaluation now)).db.qualityResults =
        s.db.qualityResults.map (·.reexecuted runId now) := withResults_known distinct evaluated.records _
    have sameRuns : s.db.pipelineRuns.map (fun other => if other.runId = runId then
        other.markEvaluated (evaluation.violated .warning) (evaluation.violated .error) else other) =
        s.db.pipelineRuns := by
      apply (List.map_congr_left fun other member => ?_).trans (List.map_id _)
      split
      · rename_i ofRun
        obtain ⟨inRuns, sameId⟩ := getRun_some got
        rw [Database.unique_run nodup member inRuns (ofRun.trans sameId.symm), sameRun]
        rfl
      · rfl
    unfold Session.evaluated Database.updateRun
    dsimp only
    rw [mapped]
    show ({ s.db with pipelineRuns := s.db.pipelineRuns.map _, qualityResults := _ } : Database) = _
    rw [sameRuns]

theorem Session.Leads.evaluated {evaluation : Evaluation} {before : Timestamp} (leads : s.Leads s')
    (orderly : s.Orderly) (one : s'.db.OneLoadedZone) (exact_results : s.db.ResultsExact)
    (evaluated : s.db.Evaluated runId evaluation before) :
    ∃ latest, s'.db.Evaluated runId evaluation latest := by
  induction leads with
  | refl => exact ⟨before, evaluated⟩
  | tail earlier calls ih =>
    have orderly' := (Session.Leads.keeps earlier orderly).orderly
    have one' := (calls.keepsSources orderly').oneLoadedZone orderly'.consistent.nodup one
    obtain ⟨latest, evaluated'⟩ := ih one'
    exact calls.evaluated orderly' one (Session.Leads.resultsExact earlier orderly one' exact_results).1 evaluated'

/-- Quality results are exact after every evaluation of every history, a call that raises changes nothing,
    and a repeated evaluation returns the same and changes the times of its rows only. -/
theorem quality_results_exact (history : Session.start.Leads s) (one : s.db.OneLoadedZone) (now : Timestamp)
    (runId : Nat) :
    (∀ summary s', runQualityChecks now runId s = (.ok summary, s') → EvaluationExact s s' runId) ∧
    (∀ error s', runQualityChecks now runId s = (.error error, s') →
      (error.isDatabaseError = true ∨ s' = s) ∧ (atomically (runQualityChecks now runId) s).2.db = s.db) ∧
    ∀ first earlier summary later, Session.start.Leads first →
      runQualityChecks earlier runId first = (.ok summary, later) → later.Leads s →
        ∃ s', runQualityChecks now runId s = (.ok summary, s') ∧
          s'.db = { s.db with qualityResults := s.db.qualityResults.map (·.reexecuted runId now) } := by
  have exact_results := (Session.Leads.resultsExact history orderly_start one resultsExact_start).1
  have described : s.db.RunsDescribed :=
    Session.Leads.runsDescribed history orderly_start fun _ _ _ got _ => nomatch got
  refine ⟨fun summary s' returned => evaluation_exact exact_results described returned,
    fun error s' raised => ⟨runQualityChecks_raises exact_results raised, ?_⟩, ?_⟩
  · unfold atomically
    rw [raised]
  · intro first earlier summary later reached returned leads
    have call : first.Calls later := by
      have ran := Session.Calls.runQualityChecks (s := first) earlier runId
      unfold atomically at ran
      rwa [returned] at ran
    have orderlyFirst := (Session.Leads.keeps reached orderly_start).orderly
    have orderlyLater := (call.keeps orderlyFirst).orderly
    have oneLater := (Session.Leads.keepsSources leads orderlyLater).oneLoadedZone orderlyLater.consistent.nodup one
    have oneFirst := (call.keepsSources orderlyFirst).oneLoadedZone orderlyFirst.consistent.nodup oneLater
    have exactFirst := (Session.Leads.resultsExact reached orderly_start oneFirst resultsExact_start).1
    have exactLater := call.resultsExact orderlyFirst oneLater exactFirst
    obtain ⟨evaluation, run, evaluates, got, writable, rfl, rfl⟩ := runQualityChecks_returns exactFirst returned
    have evaluated : (first.evaluated runId evaluation earlier).db.Evaluated runId evaluation earlier :=
      evaluated_evaluated exactFirst orderlyFirst.consistent.nodup oneFirst evaluates got writable
    obtain ⟨latest, evaluated⟩ := Session.Leads.evaluated leads orderlyLater one exactLater evaluated
    have nodup := (Session.Leads.keeps history orderly_start).orderly.consistent.nodup
    exact evaluation_repeats nodup exact_results evaluated

end Evaluated

/-- One call on the trip file, from its registration to the commit of its load. -/
def yellowLoad : List (Unit × Event) :=
  List.replicate 8 ((), .next 0) ++ ((), .openFile 1 yellowFile) :: List.replicate 9 ((), .next 0)

/-- The zone lookup and then a trip file, each loaded by one call. -/
def zonesThenTrips : Option (Platform Unit × Platform Unit) :=
  ((Request.ingest zoneMetadata 1).program.run (.alone Session.start.db Session.start.sequences .idle [])
    zoneLoad).bind fun zones => ((Request.ingest yellowMetadata 1).program.run
      (.alone zones.committed zones.external .idle []) yellowLoad).map (zones, ·)

set_option maxRecDepth 10000 in
theorem zonesThenTrips_evaluated : zonesThenTrips.map (fun (zones, trips) =>
    ((zones.phase ()).ended && (trips.phase ()).ended, decide trips.committed.OneLoadedZone,
      (runQualityChecks 5 2 ⟨trips.committed, trips.external⟩).1.toOption)) =
    some (true, true, some ⟨"yellow/2025/01", 2, 1, 27, 0, 0⟩) := by
  decide +kernel

theorem yellowTrips_results_exact : ∃ s s', Session.start.Leads s ∧
    runQualityChecks 5 2 s = (.ok ⟨"yellow/2025/01", 2, 1, 27, 0, 0⟩, s') ∧ EvaluationExact s s' 2 := by
  obtain ⟨⟨zones, trips⟩, ran, same⟩ := Option.map_eq_some_iff.mp zonesThenTrips_evaluated
  unfold zonesThenTrips at ran
  obtain ⟨t, ranZones, rest⟩ := Option.bind_eq_some_iff.mp ran
  obtain ⟨t', ranTrips, both⟩ := Option.map_eq_some_iff.mp rest
  cases both
  simp only [Prod.mk.injEq, Bool.and_eq_true, decide_eq_true_eq] at same
  obtain ⟨⟨zonesEnded, tripsEnded⟩, one, evaluated⟩ := same
  have reached : Session.start.Leads ⟨trips.committed, trips.external⟩ :=
    .tail (.single (.ingestSource ranZones zonesEnded)) (.ingestSource ranTrips tripsEnded)
  rcases returned : runQualityChecks 5 2 ⟨trips.committed, trips.external⟩ with ⟨result, s'⟩
  rw [returned] at evaluated
  cases result with
  | error error => cases evaluated
  | ok summary =>
    cases Option.some.inj evaluated
    exact ⟨_, s', reached, returned, (quality_results_exact reached one 5 2).1 _ _ returned⟩

end TaxiPipeline
