import TaxiPipeline.Ingestion.Coherent
import TaxiPipeline.Model.QualityChecks

namespace TaxiPipeline

open Stateful Transaction

/-- The rows that a failed call must not touch. -/
structure Database.SameRecords (db db' : Database) : Prop where
  sourceFiles : db'.sourceFiles = db.sourceFiles
  pipelineRuns : db'.pipelineRuns = db.pipelineRuns
  raw : db'.raw = db.raw

theorem Database.SameRecords.refl (db : Database) : db.SameRecords db := ⟨rfl, rfl, rfl⟩

theorem Database.SameRecords.trans {a b c : Database} (first : a.SameRecords b)
    (second : b.SameRecords c) : a.SameRecords c :=
  ⟨second.sourceFiles.trans first.sourceFiles, second.pipelineRuns.trans first.pipelineRuns,
    second.raw.trans first.raw⟩

theorem Sequences.Grows.refl (sequences : Sequences) : sequences.Grows sequences := ⟨le_rfl, le_rfl⟩

theorem Sequences.Grows.trans {a b c : Sequences} (first : a.Grows b) (second : b.Grows c) :
    a.Grows c :=
  ⟨first.1.trans second.1, first.2.trans second.2⟩

/-- What a raising call leaves behind, once a database error has rolled its transaction back. -/
def Session.Kept (s : Session) (error : PyException) (s' : Session) : Prop :=
  s.sequences.Grows s'.sequences ∧ (error.isDatabaseError = true ∨ s.db.SameRecords s'.db)

theorem Session.Kept.refl (s : Session) (error : PyException) : s.Kept error s :=
  ⟨.refl _, .inr (.refl _)⟩

def Session.withRun (s : Session) (run : PipelineRun) : Session where
  db := s.db.addRun run
  sequences := { s.sequences with runId := s.sequences.runId + 1 }

def Session.withSourceFile (s : Session) (row : SourceFile) : Session where
  db := s.db.addSourceFile row
  sequences := { s.sequences with sourceFileId := s.sequences.sourceFileId + 1 }

section Runs

variable (s : Session) (now : Timestamp)

theorem writeError_isDatabaseError {run : PipelineRun} {error : PyException}
    (failed : run.writeError = some error) : error.isDatabaseError = true := by
  unfold PipelineRun.writeError at failed
  split at failed
  · cases failed
    rfl
  · split at failed
    · cases failed
      rfl
    · cases failed

theorem insertRun_meets (run : Nat → PipelineRun) :
    (insertRun run).Meets s
      (fun row s' => row = run s.sequences.runId ∧ row.writeError = none ∧ s' = s.withRun row)
      s.Kept := by
  refine .bind (.of_ok rfl ?_)
  dsimp only
  split
  · rename_i error failed
    exact ⟨⟨le_rfl, Nat.le_succ _⟩, .inl (writeError_isDatabaseError failed)⟩
  · rename_i written
    exact ⟨rfl, written, rfl⟩

theorem finishRun_meets (run : PipelineRun) (change : PipelineRun → PipelineRun) :
    (finishRun run change).Meets s
      (fun row s' => row = change run ∧ (change run).writeError = none ∧
        s' = { s with db := s.db.updateRun run.runId change })
      fun error s' => error.isDatabaseError = true ∧ s' = s := by
  unfold finishRun
  split
  · rename_i error failed
    exact ⟨writeError_isDatabaseError failed, rfl⟩
  · rename_i written
    exact ⟨rfl, written, rfl⟩

theorem startRun_meets (sourceFileId : Nat) :
    (startRun now sourceFileId).Meets s
      (fun run s' => ∃ source, s.db.getSourceFile sourceFileId = some source ∧ source.status = .ready ∧
        run = runningRun s.sequences.runId source now ∧ run.writeError = none ∧ s' = s.withRun run)
      s.Kept := by
  refine meets_database (.bind (Attempt.meets_lift (fun source found => ?_) fun error _ => .refl s error))
  refine .bind (Attempt.meets_lift (fun _ startable => ?_) fun error _ => .refl s error)
  refine (insertRun_meets s _).mono (fun run s' inserted => ?_) fun _ _ kept => kept
  obtain ⟨rfl, written, rfl⟩ := inserted
  exact ⟨source, requireSourceFile_ok found, requireStartable_ok.mp startable, rfl, written, rfl⟩

theorem createSkippedRun_meets (sourceFileId : Nat) (reason : String) :
    (createSkippedRun now sourceFileId reason).Meets s
      (fun run s' => ∃ skipReason source, SkipReason.ofValue reason = some skipReason ∧
        s.db.getSourceFile sourceFileId = some source ∧ source.status = skipReason.requiredStatus ∧
        run = skippedRun s.sequences.runId source skipReason now ∧ run.writeError = none ∧
        s' = s.withRun run)
      s.Kept := by
  unfold createSkippedRun
  split
  · exact .refl s _
  · rename_i skipReason known
    refine meets_database (.bind (Attempt.meets_lift (fun source found => ?_) fun error _ => .refl s error))
    refine .bind (Attempt.meets_lift (fun _ skippable => ?_) fun error _ => .refl s error)
    refine (insertRun_meets s _).mono (fun run s' inserted => ?_) fun _ _ kept => kept
    obtain ⟨rfl, written, rfl⟩ := inserted
    exact ⟨skipReason, source, known, requireSourceFile_ok found, requireSkippable_ok.mp skippable, rfl,
      written, rfl⟩

theorem markSourceLoaded_meets (sourceFileId : Nat) (loadedAt : Option Timestamp) :
    (markSourceLoaded now sourceFileId loadedAt).Meets s
      (fun _ s' => ∃ source, s.db.getSourceFile sourceFileId = some source ∧ source.status = .ready ∧
        s' = { s with db := s.db.updateSourceFile sourceFileId (·.markLoaded (loadedAt.getD now)) })
      fun _ s' => s' = s := by
  refine meets_database (.bind (Attempt.meets_lift (fun source found => ?_) fun _ _ => rfl))
  refine .bind (Attempt.meets_lift (fun _ loadable => ?_) fun _ _ => rfl)
  exact meets_update (Attempt.meets_pure
    ⟨source, requireSourceFile_ok found, requireLoadable_ok.mp loadable, rfl⟩)

theorem markRunSucceeded_meets (runId : Nat) (counts : RunCounts) :
    (markRunSucceeded now runId counts).Meets s
      (fun run' s' => ∃ run sourceFileId source, s.db.getRun runId = some run ∧ run.status = .running ∧
        run.sourceFileId = some sourceFileId ∧ s.db.getSourceFile sourceFileId = some source ∧
        source.status = .ready ∧ run' = run.markSucceeded now counts ∧
        s' = ⟨(s.db.updateSourceFile sourceFileId (·.markLoaded now)).updateRun runId
          (·.markSucceeded now counts), s.sequences⟩)
      s.Kept := by
  refine meets_database (.bind (Attempt.meets_lift (fun run found => ?_) fun error _ => .refl s error))
  refine .bind (Attempt.meets_lift (fun sourceFileId ofSource => ?_) fun error _ => .refl s error)
  obtain ⟨got, running⟩ := requireRunningRun_ok found
  refine .bind ((markSourceLoaded_meets s now sourceFileId (some now)).mono (fun _ s' loaded => ?_)
    fun error s' same => same ▸ .refl s error)
  obtain ⟨source, gotSource, ready, rfl⟩ := loaded
  -- the source is changed by now, so that only a database error may be raised
  refine (finishRun_meets _ run _).mono (fun run' s' finished => ?_) fun error s' failed => ?_
  · obtain ⟨rfl, -, rfl⟩ := finished
    refine ⟨run, sourceFileId, source, got, running, requireSource_ok.mp ofSource, gotSource, ready, rfl, ?_⟩
    rw [(getRun_some got).2]
    rfl
  · obtain ⟨database, rfl⟩ := failed
    exact ⟨.refl _, .inl database⟩

theorem markRunFailed_meets (runId : Nat) (message : String) :
    (markRunFailed now runId message).Meets s
      (fun run' s' => ∃ run, isBlank message = false ∧ s.db.getRun runId = some run ∧
        run.status = .running ∧ run' = run.markFailed now message ∧ run'.writeError = none ∧
        s' = { s with db := s.db.updateRun runId (·.markFailed now message) })
      s.Kept := by
  refine .bind (Attempt.meets_lift (fun _ nonblank => ?_) fun error _ => .refl s error)
  refine meets_database (.bind (Attempt.meets_lift (fun run found => ?_) fun error _ => .refl s error))
  obtain ⟨got, running⟩ := requireRunningRun_ok found
  refine (finishRun_meets s run _).mono (fun run' s' finished => ?_) fun error s' failed => ?_
  · obtain ⟨rfl, written, rfl⟩ := finished
    refine ⟨run, requireMessage_ok.mp nonblank, got, running, rfl, written, ?_⟩
    rw [(getRun_some got).2]
  · obtain ⟨database, rfl⟩ := failed
    exact ⟨.refl _, .inl database⟩

end Runs

section Registration

variable (s : Session) (now : Timestamp) (metadata : SourceFileMetadata)

theorem sourceFileInsertError_isDatabaseError {db : Database} {row : SourceFile} {error : PyException}
    (failed : db.sourceFileInsertError row = some error) : error.isDatabaseError = true := by
  unfold Database.sourceFileInsertError at failed
  split at failed
  · cases failed
    rfl
  · split at failed
    · cases failed
      rfl
    · split at failed
      · cases failed
        rfl
      · cases failed

/-- The row that a registration inserts when it finds no version of its file. -/
def Session.registration (s : Session) (now : Timestamp) (metadata : SourceFileMetadata) : SourceFile :=
  newSourceFile s.sequences.sourceFileId (registrationStatus (s.db.findPartition metadata.partitionKey))
    now metadata

theorem insertSourceFile_meets (status : SourceStatus) :
    (insertSourceFile now status metadata).Meets s
      (fun row s' => row = newSourceFile s.sequences.sourceFileId status now metadata ∧
        s.db.sourceFileInsertError row = none ∧ s' = s.withSourceFile row)
      fun error s' => s.sequences.Grows s'.sequences ∧ error.isDatabaseError = true ∧ s'.db = s.db := by
  refine .bind (.of_ok rfl ?_)
  refine meets_database ?_
  dsimp only
  split
  · rename_i error failed
    exact ⟨⟨Nat.le_succ _, le_rfl⟩, sourceFileInsertError_isDatabaseError failed, rfl⟩
  · rename_i written
    exact ⟨rfl, written, rfl⟩

/-- A registration reuses the version that it finds, or inserts one. -/
theorem registerSourceFile_meets :
    (registerSourceFile now metadata).Meets s
      (fun result s' =>
        (∃ row, s.db.findExactVersion metadata = some row ∧ result = registrationResult row false ∧
          s' = s) ∨
        (s.db.findExactVersion metadata = none ∧
          s.db.sourceFileInsertError (s.registration now metadata) = none ∧
          result = registrationResult (s.registration now metadata) true ∧
          s' = s.withSourceFile (s.registration now metadata)))
      s.Kept := by
  refine meets_database ?_
  split
  · rename_i existing found
    exact .inl ⟨existing, found, rfl, rfl⟩
  · rename_i absent
    refine .tryCatch (.bind (meets_atomically ((insertSourceFile_meets s now metadata _).mono
      (fun row s' inserted => ?_) fun error s' failed => ?_)))
    · obtain ⟨rfl, written, rfl⟩ := inserted
      exact .inr ⟨absent, written, rfl, rfl⟩
    · -- alone, no other transaction can have inserted the version meanwhile
      obtain ⟨grows, database, -⟩ := failed
      unfold recoverRacedVersion
      split
      · exact ⟨grows, .inl database⟩
      · refine meets_database ?_
        dsimp only
        rw [absent]
        exact ⟨grows, .inl database⟩

end Registration

section Quality

variable (s : Session) (now : Timestamp)

theorem upsertQualityResult_records (db : Database) (result : DataQualityResult) :
    db.SameRecords (db.upsertQualityResult result) := by
  unfold Database.upsertQualityResult
  dsimp only
  split <;> exact ⟨rfl, rfl, rfl⟩

theorem upsertResults_meets (runId : Nat) (measurements : Measurements) (rules : List QualityRule) :
    (upsertResults runId now measurements rules).Meets s
      (fun _ s' => s.db.SameRecords s'.db ∧ s.sequences.Grows s'.sequences)
      fun _ s' => s.db.SameRecords s'.db ∧ s.sequences.Grows s'.sequences := by
  induction rules generalizing s with
  | nil => exact ⟨.refl _, .refl _⟩
  | cons rule rest ih =>
    unfold upsertResults
    split
    · refine .bind (.bind (.of_ok rfl (.of_ok rfl ?_)))
      have first := upsertQualityResult_records s.db
      refine (ih _).mono (fun _ s' kept => ⟨(first _).trans kept.1, ?_⟩)
        fun _ s' kept => ⟨(first _).trans kept.1, ?_⟩
      · exact kept.2
      · exact kept.2
    · exact ⟨.refl _, .refl _⟩

theorem validatedTarget_ok {db : Database} {runId : Nat} {target : QualityTarget}
    (valid : db.validatedTarget runId = .ok target) :
    db.getRun runId = some target.run ∧ target.run.status = .succeeded := by
  unfold Database.validatedTarget at valid
  split at valid
  · cases valid
  · rename_i run got
    split at valid
    · cases valid
    · rename_i succeeded
      split at valid
      · split at valid
        · cases valid
        · split at valid
          · cases valid
          · split at valid
            · cases valid
              exact ⟨got, not_not.mp succeeded⟩
            · cases valid
      · cases valid

theorem runQualityChecks_meets (runId : Nat) :
    (runQualityChecks now runId).Meets s
      (fun _ s' => ∃ run warningCount errorCount, s.db.getRun runId = some run ∧ run.status = .succeeded ∧
        s.sequences.Grows s'.sequences ∧
        (s.db.updateRun runId (·.markEvaluated warningCount errorCount)).SameRecords s'.db)
      s.Kept := by
  refine meets_database (.bind (Attempt.meets_lift (fun target valid => ?_) fun error _ => .refl s error))
  obtain ⟨got, succeeded⟩ := validatedTarget_ok valid
  refine .bind (Attempt.meets_lift (fun config _ => ?_) fun error _ => .refl s error)
  refine meets_database (.bind (Attempt.meets_lift (fun measured _ => ?_) fun error _ => .refl s error))
  refine .bind ((upsertResults_meets s now runId _ _).mono (fun _ s' upserted => ?_)
    fun error s' kept => ⟨kept.2, .inr kept.1⟩)
  obtain ⟨kept, grows⟩ := upserted
  refine meets_database (.bind ((finishRun_meets s' target.run _).mono (fun run' s'' finished => ?_)
    fun error s'' failed => ?_))
  · obtain ⟨-, -, rfl⟩ := finished
    refine ⟨target.run, s'.db.violatedCount runId .warning, s'.db.violatedCount runId .error, got, succeeded,
      grows, ⟨kept.sourceFiles, ?_, kept.raw⟩⟩
    have runs := kept.pipelineRuns
    rw [(getRun_some got).2]
    simp only [Database.updateRun, runs]
  · obtain ⟨database, rfl⟩ := failed
    exact ⟨grows, .inl database⟩

end Quality

end TaxiPipeline
