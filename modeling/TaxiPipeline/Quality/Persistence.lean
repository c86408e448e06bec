import TaxiPipeline.Quality.Growth

namespace TaxiPipeline

open ReadCommitted Relational Stateful Transaction

section Changes

variable {db : Database}

theorem keepsLoaded_addSourceFile (row : SourceFile) : db.KeepsLoaded (db.addSourceFile row) where
  sources := fun got _ => ⟨_, Database.getSourceFile_addSourceFile_of_some row got, .refl _⟩
  rows := fun _ _ _ => rfl
  runs := fun got _ => got
  results := rfl

theorem keepsLoaded_addRun (run : PipelineRun) : db.KeepsLoaded (db.addRun run) where
  sources := fun got _ => ⟨_, got, .refl _⟩
  rows := fun _ _ _ => rfl
  runs := fun got _ => Database.getRun_addRun_of_some run got
  results := rfl

theorem keepsLoaded_updateRun {runId : Nat} {run : PipelineRun} {change : PipelineRun → PipelineRun}
    (keepsId : ∀ run, (change run).runId = run.runId) (got : db.getRun runId = some run)
    (running : run.status = .running) : db.KeepsLoaded (db.updateRun runId change) where
  sources := fun got _ => ⟨_, got, .refl _⟩
  rows := fun _ _ _ => rfl
  runs := by
    intro other run' got' succeeded
    have apart : other ≠ runId := by
      rintro rfl
      cases got.symm.trans got'
      cases running.symm.trans succeeded
    rw [Database.getRun_updateRun_other keepsId apart, got']
  results := rfl

theorem keepsLoaded_commitLoad {metadata : SourceFileMetadata} {sourceFileId runId : Nat} {table : RawTable}
    {rows : List (RawRow table)} {counts : LoadCounts} {finishedAt : Timestamp} {run : PipelineRun}
    (counted : Counted metadata sourceFileId runId table rows counts) (got : db.getRun runId = some run)
    (running : run.status = .running)
    (unloaded : ∀ row, db.getSourceFile sourceFileId = some row → row.status ≠ .loaded) :
    db.KeepsLoaded (db.commitLoad rows sourceFileId runId finishedAt counts) := by
  have loads : db.KeepsLoaded ((db.addRaws table rows).updateSourceFile sourceFileId (·.markLoaded finishedAt)) := by
    refine ⟨⟨fun {other row} gotRow loaded => ?_, fun {other row} gotRow loaded table' => ?_⟩, fun got _ => got, rfl⟩
    · have apart : other ≠ sourceFileId := by
        rintro rfl
        exact unloaded row gotRow loaded
      refine ⟨row, ?_, .refl row⟩
      rw [Database.getSourceFile_markLoaded, Database.getSourceFile_addRaws, gotRow, Option.map_some, if_neg apart]
    · have apart : other ≠ sourceFileId := by
        rintro rfl
        exact unloaded row gotRow loaded
      show (db.addRaws table rows).rowsOf table' other = _
      by_cases same : table' = table
      · subst same
        rw [Database.rowsOf_addRaws, counted.rowsOf_other apart, List.append_nil]
      · exact Database.rowsOf_addRaws_other same rows
  exact loads.trans (keepsLoaded_updateRun (fun _ => rfl) got running)

theorem keepsLoaded_persist (sourceFileId : Nat) (storage : StorageResult) :
    db.KeepsLoaded (db.updateSourceFile sourceFileId (mergeStorageMetadata storage)) where
  sources := by
    intro other row got loaded
    have keepsId : ∀ row, (mergeStorageMetadata storage row).sourceFileId = row.sourceFileId :=
      fun row => (mergeStorageMetadata_same storage row).1
    refine ⟨if row.sourceFileId = sourceFileId then mergeStorageMetadata storage row else row, ?_, ?_⟩
    · rw [Database.getSourceFile_updateSourceFile keepsId, got, Option.map_some]
    · split
      · unfold mergeStorageMetadata
        split
        · exact .refl row
        · exact ⟨rfl, rfl, rfl, rfl, rfl⟩
      · exact .refl row
  rows := fun _ _ _ => rfl
  runs := fun got _ => got
  results := rfl

theorem Phase.Session.keepsLoaded {metadata : SourceFileMetadata} {pending : List Write} {phase : Phase}
    (session : phase.Session metadata db pending) (atCommit : phase.AtCommit)
    (unloaded : ∀ sourceFileId runId point, phase = .loading sourceFileId runId point →
      ∀ row, db.getSourceFile sourceFileId = some row → row.status ≠ .loaded) :
    db.KeepsLoaded (db.replay pending) := by
  unfold Phase.AtCommit at atCommit
  split at atCommit
  · have rest := session.2
    split at rest
    · obtain ⟨⟨now, rfl⟩, -⟩ := rest
      exact keepsLoaded_addSourceFile _
    · cases rest.1
      exact .refl db
  · obtain ⟨-, source, run, rfl, -⟩ := session
    exact keepsLoaded_addRun run
  · obtain ⟨-, source, run, rfl, -⟩ := session
    exact keepsLoaded_addRun run
  · rename_i sourceFileId runId counts
    obtain ⟨-, ⟨run, got, -, running⟩, table, rows, finishedAt, rfl, counted⟩ := session
    rw [Database.replay_append, Database.replay_insertRaw]
    exact keepsLoaded_commitLoad counted got running (unloaded _ _ _ rfl)
  · obtain ⟨-, -, run, now, got, running, rfl⟩ := session
    exact keepsLoaded_updateRun (fun _ => rfl) got running
  · exact atCommit.elim

end Changes

section Calls

variable {s s' : Session} {request : Request} {t t' : Platform Unit} {e : Event}

theorem Session.Calling.unloaded (calling : s.Calling request t) (consistent : s.Consistent)
    (sourceFileId runId : Nat) (point : LoadPoint) (loading : t.phase () = .loading sourceFileId runId point)
    (row : SourceFile) (got : t.committed.getSourceFile sourceFileId = some row) : row.status ≠ .loaded := by
  have reached := calling.reached
  rw [loading] at reached
  obtain ⟨source, base, run, started, rfl, -, same, -⟩ := reached
  obtain ⟨pending, registered⟩ := started.registered
  rw [same] at got
  cases (registered.getSourceFile consistent).symm.trans got
  rw [started.ready]
  exact nofun

theorem Session.Calling.keepsLoaded (calling : s.Calling request t) (consistent : s.Consistent)
    (stepped : request.program.step t () e = some t') : t.committed.KeepsLoaded t'.committed := by
  obtain ⟨effect, phase, external, executed, -, rfl⟩ := request.program.step_some stepped
  cases effect with
  | commit =>
    exact (calling.accepting.coherent.sessions ()).keepsLoaded (Request.exec_commit executed)
      (calling.unloaded consistent)
  | read => exact .refl _
  | write w => exact .refl _
  | rollback => exact .refl _

theorem run_keepsLoaded {events : List (Unit × Event)} (orderly : s.Orderly)
    (ran : request.program.run (.alone s.db s.sequences .idle []) events = some t) :
    s.db.KeepsLoaded t.committed := by
  have kept := Program.run_preserves (I := fun t => s.Calling request t ∧ s.db.KeepsLoaded t.committed)
    (fun t i e t' holds stepped => ⟨holds.1.step orderly.consistent stepped,
      holds.2.trans (holds.1.keepsLoaded orderly.consistent stepped)⟩)
    ⟨calling_start orderly, .refl _⟩ ran
  exact kept.2

end Calls

/-- The stored results and counters of a run are those of an evaluation of the rows as they are. -/
structure Database.Evaluated (db : Database) (runId : Nat) (evaluation : Evaluation) (executedAt : Timestamp) :
    Prop where
  measured : db.evaluation runId = .ok evaluation
  records : evaluation.Records runId executedAt (db.resultsOf runId)
  counters : ∃ run, db.getRun runId = some run ∧ run.writeError = none ∧
    run.markEvaluated (evaluation.violated .warning) (evaluation.violated .error) = run

/-- Every run has no results or those of an evaluation. -/
def Database.ResultsExact (db : Database) : Prop :=
  ∀ runId, db.resultsOf runId = [] ∨ ∃ evaluation executedAt, db.Evaluated runId evaluation executedAt

section Evaluations

variable {s : Session} {runId other : Nat} {evaluation : Evaluation} {now : Timestamp}

theorem resultsOf_reexecuted {db : Database} {results : List DataQualityResult}
    (mapped : db.qualityResults = results.map (·.reexecuted runId now)) :
    db.resultsOf other = (results.filter (·.runId == other)).map (·.reexecuted runId now) := by
  unfold Database.resultsOf
  rw [mapped, List.filter_map]
  congr 1
  apply List.filter_congr
  intro result _
  show ((if result.runId = runId then _ else result : DataQualityResult).runId == other) = (result.runId == other)
  split <;> rfl

theorem reexecuted_other {results : List DataQualityResult} (apart : other ≠ runId) :
    (results.filter (·.runId == other)).map (·.reexecuted runId now) = results.filter (·.runId == other) := by
  apply (List.map_congr_left fun result member => ?_).trans (List.map_id _)
  have ofOther : result.runId = other := beq_iff_eq.mp (List.mem_filter.mp member).2
  exact if_neg fun same => apart (ofOther.symm.trans same)

theorem Evaluation.Records.reexecuted {before : Timestamp} {results : List DataQualityResult}
    (records : evaluation.Records runId before results) :
    evaluation.Records runId now (results.map (·.reexecuted runId now)) := by
  unfold Evaluation.Records at records ⊢
  rw [List.forall₂_map_right_iff]
  apply records.imp
  rintro rule result ⟨qualityResultId, rfl⟩
  exact ⟨qualityResultId, if_pos rfl⟩

theorem withResults_records (distinct : (evaluation.config.rules.map (·.name)).Nodup)
    (prior : s.db.resultsOf runId = [] ∨ ∃ before, evaluation.Records runId before (s.db.resultsOf runId)) :
    evaluation.Records runId now ((s.withResults (s.upserts runId evaluation now)).db.resultsOf runId) ∧
      ∀ other, other ≠ runId →
        (s.withResults (s.upserts runId evaluation now)).db.resultsOf other = s.db.resultsOf other := by
  have drawn := drawn_records evaluation runId now s.sequences.qualityResultId evaluation.config.rules
  rcases prior with none_yet | ⟨before, records⟩
  · have appended : (s.withResults (s.upserts runId evaluation now)).db.qualityResults =
        s.db.qualityResults ++ s.upserts runId evaluation now := withResults_fresh distinct none_yet _
    have ofRun : ∀ result ∈ s.upserts runId evaluation now, result.runId = runId := by
      intro result member
      obtain ⟨rule, -, qualityResultId, rfl⟩ := forall₂_mem drawn member
      rfl
    constructor
    · have own : (s.withResults (s.upserts runId evaluation now)).db.resultsOf runId =
          s.upserts runId evaluation now := by
        unfold Database.resultsOf at none_yet ⊢
        rw [appended, List.filter_append, none_yet, List.nil_append]
        exact List.filter_eq_self.mpr fun result member => beq_iff_eq.mpr (ofRun result member)
      rw [own]
      exact drawn
    · intro other apart
      unfold Database.resultsOf
      rw [appended, List.filter_append]
      have none_other : (s.upserts runId evaluation now).filter (·.runId == other) = [] := by
        rw [List.filter_eq_nil_iff]
        intro result member same
        exact apart ((beq_iff_eq.mp same).symm.trans (ofRun result member))
      rw [none_other, List.append_nil]
  · have mapped : (s.withResults (s.upserts runId evaluation now)).db.qualityResults =
        s.db.qualityResults.map (·.reexecuted runId now) := withResults_known distinct records _
    constructor
    · rw [resultsOf_reexecuted mapped]
      exact records.reexecuted
    · intro other apart
      rw [resultsOf_reexecuted mapped, reexecuted_other apart]
      rfl

end Evaluations

end TaxiPipeline
