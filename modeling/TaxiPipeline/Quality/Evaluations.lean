import TaxiPipeline.Lifecycle.Specifications
import TaxiPipeline.Relational.Upserts
import TaxiPipeline.Stateful.Loops

namespace TaxiPipeline

open Relational Stateful Transaction

/-- What the evaluation of a run reads before it writes. -/
structure Evaluation where
  partitionKey : String
  config : QualityConfig
  rowsChecked : Nat
  measurements : Measurements

def Database.evaluation (db : Database) (runId : Nat) : Except PyException Evaluation := do
  let target ← db.validatedTarget runId
  let config ← requireConfig target.source.datasetName
  let (rowsChecked, measurements) ← db.measure target config
  return ⟨target.source.partitionKey, config, rowsChecked, measurements⟩

def Evaluation.measurement (evaluation : Evaluation) (rule : QualityRule) : QualityMeasurement :=
  (evaluation.measurements.lookup rule.name).getD ⟨0, 0, none⟩

/-- The results of one evaluation: a row for each rule, in the order of the catalog. -/
def Evaluation.Records (evaluation : Evaluation) (runId : Nat) (executedAt : Timestamp)
    (results : List DataQualityResult) : Prop :=
  List.Forall₂ (fun rule result => ∃ qualityResultId,
    result = qualityResult qualityResultId runId rule (evaluation.measurement rule) executedAt)
    evaluation.config.rules results

/-- The violated rules of one severity. -/
def Evaluation.violated (evaluation : Evaluation) (severity : QualitySeverity) : Nat :=
  evaluation.config.rules.countP fun rule =>
    rule.severity == severity && (evaluation.measurement rule).rowsFailed != 0

def Evaluation.summary (evaluation : Evaluation) (runId : Nat) : QualityRunSummary where
  partitionKey := evaluation.partitionKey
  runId := runId
  rowsChecked := evaluation.rowsChecked
  checkCount := evaluation.config.rules.length
  warningsViolated := evaluation.violated .warning
  errorsViolated := evaluation.violated .error

/-- The results of one run. -/
def Database.resultsOf (db : Database) (runId : Nat) : List DataQualityResult :=
  db.qualityResults.filter (·.runId == runId)

section Rules

theorem qualityConfig_rules {datasetName : String} {config : QualityConfig}
    (known : qualityConfig datasetName = some config) :
    (config.rules.map (·.name)).Nodup ∧ config.rules.length ≤ 28 := by
  unfold qualityConfig at known
  split at known
  · cases known
    decide
  · split at known
    · cases known
      decide
    · cases known

theorem requireConfig_ok {datasetName : String} {config : QualityConfig} :
    requireConfig datasetName = .ok config ↔ qualityConfig datasetName = some config := by
  unfold requireConfig
  cases qualityConfig datasetName with
  | none => simp
  | some known => simp

/-- The measurements of the four query families, in the order of their insertion. -/
def QualityConfig.gathered (config : QualityConfig) (db : Database) (sourceFileId zoneSourceFileId rowsChecked : Nat)
    (scalar : Measurements) : Measurements :=
  scalar ++ domainMeasurements db config.domainValues sourceFileId rowsChecked ++
    zoneMeasurements db config.model sourceFileId zoneSourceFileId rowsChecked ++
    [("exact_duplicate_source_rows", duplicateMeasurement db config.table sourceFileId rowsChecked)]

/-- Measurements and rules have the same names. -/
def QualityConfig.covered (config : QualityConfig) (measurements : Measurements) : Bool :=
  (measurements.map (·.1)).all (config.rules.map (·.name)).contains &&
    (config.rules.map (·.name)).all (measurements.map (·.1)).contains

theorem measure_ok {db : Database} {target : QualityTarget} {config : QualityConfig} {rowsChecked : Nat}
    {measurements : Measurements} : db.measure target config = .ok (rowsChecked, measurements) ↔
      ∃ zoneSourceFileId scalar, db.loadedZoneSourceId = .ok zoneSourceFileId ∧
        scalarMeasurements db config.model target.source.sourceFileId target.year target.month =
          .ok (rowsChecked, scalar) ∧
        measurements = config.gathered db target.source.sourceFileId zoneSourceFileId rowsChecked scalar ∧
        config.covered measurements = true := by
  unfold Database.measure
  rw [bind_ok]
  constructor
  · rintro ⟨zoneSourceFileId, found, rest⟩
    obtain ⟨⟨counted, scalar⟩, scanned, rest⟩ := bind_ok.mp rest
    dsimp only at rest
    split at rest
    · rename_i covered
      cases rest
      exact ⟨zoneSourceFileId, scalar, found, scanned, rfl, covered⟩
    · cases rest
  · rintro ⟨zoneSourceFileId, scalar, found, scanned, rfl, covered⟩
    refine ⟨zoneSourceFileId, found, bind_ok.mpr ⟨_, scanned, ?_⟩⟩
    dsimp only
    rw [if_pos]
    · rfl
    · exact covered

theorem covered_lookup {config : QualityConfig} {measurements : Measurements}
    (covered : config.covered measurements = true) {rule : QualityRule} (member : rule ∈ config.rules) :
    (measurements.lookup rule.name).isSome := by
  unfold QualityConfig.covered at covered
  rw [Bool.and_eq_true, List.all_eq_true, List.all_eq_true] at covered
  have named := covered.2 rule.name (List.mem_map_of_mem member)
  rw [List.contains_iff_mem, List.mem_map] at named
  obtain ⟨entry, inMeasurements, same⟩ := named
  rw [List.lookup_isSome_iff]
  exact ⟨entry, inMeasurements, by simp [same]⟩

theorem evaluation_ok {db : Database} {runId : Nat} {evaluation : Evaluation} :
    db.evaluation runId = .ok evaluation ↔ ∃ target config rowsChecked measurements,
      db.validatedTarget runId = .ok target ∧ qualityConfig target.source.datasetName = some config ∧
        db.measure target config = .ok (rowsChecked, measurements) ∧
        evaluation = ⟨target.source.partitionKey, config, rowsChecked, measurements⟩ := by
  unfold Database.evaluation
  constructor
  · intro returned
    obtain ⟨target, valid, rest⟩ := bind_ok.mp returned
    obtain ⟨config, known, rest⟩ := bind_ok.mp rest
    obtain ⟨⟨rowsChecked, measurements⟩, measured, rest⟩ := bind_ok.mp rest
    cases rest
    exact ⟨target, config, rowsChecked, measurements, valid, requireConfig_ok.mp known, measured, rfl⟩
  · rintro ⟨target, config, rowsChecked, measurements, valid, known, measured, rfl⟩
    exact bind_ok.mpr ⟨target, valid, bind_ok.mpr ⟨config, requireConfig_ok.mpr known,
      bind_ok.mpr ⟨_, measured, rfl⟩⟩⟩

end Rules

section Writes

/-- The unique key of `ops.data_quality_results`. -/
def DataQualityResult.check (result : DataQualityResult) : Nat × String := (result.runId, result.checkName)

/-- An update on conflict keeps the id. -/
def DataQualityResult.keepId (old result : DataQualityResult) : DataQualityResult :=
  { result with qualityResultId := old.qualityResultId }

theorem upsertQualityResult_eq (db : Database) (result : DataQualityResult) : db.upsertQualityResult result =
    { db with qualityResults :=
        upsert DataQualityResult.check DataQualityResult.keepId db.qualityResults result } := by
  have same : ∀ old : DataQualityResult, (old.runId == result.runId && old.checkName == result.checkName) =
      decide (old.check = result.check) := by
    intro old
    rw [Bool.eq_iff_iff]
    simp [DataQualityResult.check]
  unfold Database.upsertQualityResult upsert
  simp only [same]
  split
  · simp [DataQualityResult.keepId]
  · rfl

/-- The rows of one evaluation with the ids that it draws. -/
def Evaluation.drawn (evaluation : Evaluation) (runId : Nat) (executedAt : Timestamp) :
    Nat → List QualityRule → List DataQualityResult
  | _, [] => []
  | first, rule :: rest =>
    qualityResult first runId rule (evaluation.measurement rule) executedAt ::
      evaluation.drawn runId executedAt (first + 1) rest

/-- A session after upserts with ids that it has drawn. -/
def Session.withResults (s : Session) (results : List DataQualityResult) : Session where
  db := { s.db with
    qualityResults := results.foldl (upsert DataQualityResult.check DataQualityResult.keepId) s.db.qualityResults }
  sequences := { s.sequences with qualityResultId := s.sequences.qualityResultId + results.length }

variable {evaluation : Evaluation} {runId : Nat} {executedAt : Timestamp}

theorem upsertResults_eq {rules : List QualityRule} (s : Session)
    (complete : ∀ rule ∈ rules, (evaluation.measurements.lookup rule.name).isSome) :
    upsertResults runId executedAt evaluation.measurements rules s =
      (.ok (), s.withResults (evaluation.drawn runId executedAt s.sequences.qualityResultId rules)) := by
  induction rules generalizing s with
  | nil => rfl
  | cons rule rest ih =>
    obtain ⟨measurement, found⟩ := Option.isSome_iff_exists.mp (complete rule List.mem_cons_self)
    have chosen : evaluation.measurement rule = measurement := by
      unfold Evaluation.measurement
      rw [found]
      rfl
    unfold upsertResults
    rw [found]
    dsimp only
    rw [Attempt.bind_apply]
    unfold upsertResult
    simp only [Attempt.bind_apply, drawQualityResultId, update]
    rw [ih _ fun other member => complete other (List.mem_cons_of_mem _ member), upsertQualityResult_eq,
      Evaluation.drawn, chosen]
    unfold Session.withResults
    rw [List.foldl_cons, List.length_cons]
    dsimp only
    rw [Nat.add_assoc, Nat.add_comm 1]

/-- The row of a result after the evaluation of its run is repeated. -/
def DataQualityResult.reexecuted (runId : Nat) (executedAt : Timestamp) (result : DataQualityResult) :
    DataQualityResult :=
  if result.runId = runId then { result with executedAt := executedAt } else result

theorem drawn_records (evaluation : Evaluation) (runId : Nat) (executedAt : Timestamp) (first : Nat)
    (rules : List QualityRule) : List.Forall₂ (fun rule result => ∃ qualityResultId,
      result = qualityResult qualityResultId runId rule (evaluation.measurement rule) executedAt)
      rules (evaluation.drawn runId executedAt first rules) := by
  induction rules generalizing first with
  | nil => exact .nil
  | cons rule rest ih => exact .cons ⟨first, rfl⟩ (ih (first + 1))

theorem records_checks {rules : List QualityRule} {results : List DataQualityResult}
    (records : List.Forall₂ (fun rule result => ∃ qualityResultId,
      result = qualityResult qualityResultId runId rule (evaluation.measurement rule) executedAt) rules results) :
    results.map DataQualityResult.check = rules.map fun rule => (runId, rule.name) := by
  induction records with
  | nil => rfl
  | cons head tail ih =>
    obtain ⟨qualityResultId, rfl⟩ := head
    rw [List.map_cons, List.map_cons, ih]
    rfl

theorem checks_nodup {rules : List QualityRule} (distinct : (rules.map (·.name)).Nodup) :
    (rules.map fun rule => (runId, rule.name)).Nodup := by
  have named : (rules.map fun rule => (runId, rule.name)) = (rules.map (·.name)).map (runId, ·) := by
    rw [List.map_map]
    rfl
  rw [named]
  exact distinct.map fun _ _ same => (Prod.mk.inj same).2

variable {s : Session}

theorem withResults_fresh (distinct : (evaluation.config.rules.map (·.name)).Nodup)
    (none_yet : s.db.resultsOf runId = []) (first : Nat) :
    (s.withResults (evaluation.drawn runId executedAt first evaluation.config.rules)).db.qualityResults =
      s.db.qualityResults ++ evaluation.drawn runId executedAt first evaluation.config.rules := by
  have checks := records_checks (drawn_records evaluation runId executedAt first evaluation.config.rules)
  apply upserts_fresh
  · rw [checks]
    exact checks_nodup distinct
  · intro new member known
    obtain ⟨old, inResults, same⟩ := List.mem_map.mp known
    have ofRun : new.check ∈ evaluation.config.rules.map fun rule => (runId, rule.name) := by
      rw [← checks]
      exact List.mem_map_of_mem member
    obtain ⟨rule, -, isCheck⟩ := List.mem_map.mp ofRun
    have sameRun : old.runId = runId := congrArg Prod.fst (same.trans isCheck.symm)
    have inRun : old ∈ s.db.resultsOf runId := List.mem_filter.mpr ⟨inResults, beq_iff_eq.mpr sameRun⟩
    rw [none_yet] at inRun
    cases inRun

/-- A repeated evaluation that measures the same changes the time of its rows and nothing else. -/
theorem withResults_known {before : Timestamp} (distinct : (evaluation.config.rules.map (·.name)).Nodup)
    (records : evaluation.Records runId before (s.db.resultsOf runId)) (first : Nat) :
    (s.withResults (evaluation.drawn runId executedAt first evaluation.config.rules)).db.qualityResults =
      s.db.qualityResults.map (·.reexecuted runId executedAt) := by
  have drawn := drawn_records evaluation runId executedAt first evaluation.config.rules
  have checks := records_checks drawn
  have drawnDistinct : ((evaluation.drawn runId executedAt first evaluation.config.rules).map
      DataQualityResult.check).Nodup := by
    rw [checks]
    exact checks_nodup distinct
  have merges := @upserts_known _ _ _ DataQualityResult.check DataQualityResult.keepId s.db.qualityResults
    (evaluation.drawn runId executedAt first evaluation.config.rules) (fun _ _ => rfl) drawnDistinct
  show List.foldl _ _ _ = _
  rw [merges]
  · apply List.map_congr_left
    intro old inResults
    unfold DataQualityResult.reexecuted
    split
    · rename_i ofRun
      have inRun : old ∈ s.db.resultsOf runId := List.mem_filter.mpr ⟨inResults, beq_iff_eq.mpr ofRun⟩
      obtain ⟨rule, inRules, oldId, rfl⟩ := forall₂_mem records inRun
      obtain ⟨new, inDrawn, newId, rfl⟩ := forall₂_item_mem drawn inRules
      -- the merged row is the old one with the time of the new one
      exact merged_of_mem drawnDistinct inDrawn rfl
    · rename_i otherRun
      apply merged_none
      rw [checks]
      intro known
      obtain ⟨rule, -, same⟩ := List.mem_map.mp known
      exact otherRun (congrArg Prod.fst same).symm
  · intro new member
    obtain ⟨rule, inRules, newId, rfl⟩ := forall₂_mem drawn member
    obtain ⟨old, inRun, oldId, rfl⟩ := forall₂_item_mem records inRules
    exact List.mem_map.mpr ⟨_, (List.mem_filter.mp inRun).1, rfl⟩

theorem records_violated {rules : List QualityRule} {results : List DataQualityResult} {severity : QualitySeverity}
    (records : List.Forall₂ (fun rule result => ∃ qualityResultId,
      result = qualityResult qualityResultId runId rule (evaluation.measurement rule) executedAt) rules results) :
    (results.countP fun result => result.severity == severity && result.status == .violated) =
      rules.countP fun rule => rule.severity == severity && (evaluation.measurement rule).rowsFailed != 0 := by
  induction records with
  | nil => rfl
  | @cons rule result _ _ head tail ih =>
    have same : (result.severity == severity && result.status == .violated) =
        (rule.severity == severity && (evaluation.measurement rule).rowsFailed != 0) := by
      obtain ⟨qualityResultId, rfl⟩ := head
      show (rule.severity == severity && (if (evaluation.measurement rule).rowsFailed = 0 then QualityStatus.passed
        else .violated) == .violated) = _
      by_cases passed : (evaluation.measurement rule).rowsFailed = 0 <;> simp [passed]
    rw [List.countP_cons, List.countP_cons, ih, same]

theorem violatedCount_eq {db : Database} (records : evaluation.Records runId executedAt (db.resultsOf runId))
    (severity : QualitySeverity) : db.violatedCount runId severity = evaluation.violated severity := by
  have counted : db.violatedCount runId severity = (db.resultsOf runId).countP fun result =>
      result.severity == severity && result.status == .violated := by
    unfold Database.violatedCount Database.resultsOf
    rw [List.countP_filter]
    apply List.countP_congr
    intro result _
    simp only [Bool.and_eq_true]
    tauto
  rw [counted]
  exact records_violated records

end Writes

section Calls

variable {evaluation : Evaluation} {runId : Nat} {now : Timestamp} {s : Session} {run : PipelineRun}

/-- The rows that the evaluation of a run upserts from a session. -/
def Session.upserts (s : Session) (runId : Nat) (evaluation : Evaluation) (now : Timestamp) :
    List DataQualityResult :=
  evaluation.drawn runId now s.sequences.qualityResultId evaluation.config.rules

/-- The session after a successful evaluation. -/
def Session.evaluated (s : Session) (runId : Nat) (evaluation : Evaluation) (now : Timestamp) : Session where
  db := (s.withResults (s.upserts runId evaluation now)).db.updateRun runId
    (·.markEvaluated (evaluation.violated .warning) (evaluation.violated .error))
  sequences := (s.withResults (s.upserts runId evaluation now)).sequences

/-- All exceptions of the reads come before any write. -/
theorem runQualityChecks_error {error : PyException} (failed : s.db.evaluation runId = .error error) :
    runQualityChecks now runId s = (.error error, s) := by
  unfold Database.evaluation at failed
  unfold runQualityChecks
  cases valid : s.db.validatedTarget runId with
  | error raised =>
    rw [valid] at failed
    cases failed
    simp only [Attempt.bind_apply, database, Attempt.lift_apply, valid]
  | ok target =>
    rw [valid] at failed
    cases known : requireConfig target.source.datasetName with
    | error raised =>
      simp only [known, Bind.bind, Except.bind] at failed
      cases failed
      simp only [Attempt.bind_apply, database, Attempt.lift_apply, valid, known]
    | ok config =>
      cases measured : s.db.measure target config with
      | error raised =>
        simp only [known, measured, Bind.bind, Except.bind] at failed
        cases failed
        simp only [Attempt.bind_apply, database, Attempt.lift_apply, valid, known, measured]
      | ok result =>
        simp only [known, measured, Bind.bind, Except.bind] at failed
        cases failed

theorem validatedTarget_run {db : Database} {target : QualityTarget} (valid : db.validatedTarget runId = .ok target)
    (got : db.getRun runId = some run) : target.run = run :=
  Option.some.inj ((validatedTarget_ok valid).1.symm.trans got)

/-- Once everything is measured, only the write of the counters can still raise. -/
theorem runQualityChecks_eq (evaluates : s.db.evaluation runId = .ok evaluation) (got : s.db.getRun runId = some run)
    (counted : ∀ severity, (s.withResults (s.upserts runId evaluation now)).db.violatedCount runId severity =
      evaluation.violated severity) :
    runQualityChecks now runId s =
      match (run.markEvaluated (evaluation.violated .warning) (evaluation.violated .error)).writeError with
      | some error => (.error error, s.withResults (s.upserts runId evaluation now))
      | none => (.ok (evaluation.summary runId), s.evaluated runId evaluation now) := by
  obtain ⟨target, config, rowsChecked, measurements, valid, known, measured, rfl⟩ := evaluation_ok.mp evaluates
  obtain ⟨-, -, -, -, -, covered⟩ := measure_ok.mp measured
  have sameRun := validatedTarget_run valid got
  have sameId := (getRun_some got).2
  have upserted := @upsertResults_eq ⟨target.source.partitionKey, config, rowsChecked, measurements⟩ runId now
    config.rules s fun rule member => covered_lookup covered member
  unfold runQualityChecks
  simp only [Attempt.bind_apply, database, Attempt.lift_apply, valid, requireConfig_ok.mpr known, measured]
  rw [upserted]
  dsimp only
  rw [sameRun, finishRun_apply, sameId]
  unfold Session.upserts at counted ⊢
  rw [counted, counted]
  generalize PipelineRun.writeError _ = failure
  cases failure <;> rfl

end Calls

end TaxiPipeline
