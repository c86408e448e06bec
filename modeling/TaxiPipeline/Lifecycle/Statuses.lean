import TaxiPipeline.Ingestion.Loads
import TaxiPipeline.Lifecycle.Operations

namespace TaxiPipeline

/-- A run status stays, or goes from running to an end. -/
def RunStatus.Reaches (before after : RunStatus) : Prop :=
  before = after ∨ (before = .running ∧ (after = .succeeded ∨ after = .failed))

theorem RunStatus.Reaches.refl (status : RunStatus) : status.Reaches status := .inl rfl

theorem RunStatus.Reaches.trans {a b c : RunStatus} (first : a.Reaches b) (second : b.Reaches c) :
    a.Reaches c := by
  rcases first with rfl | ⟨rfl, ended⟩
  · exact second
  · rcases second with rfl | ⟨impossible, -⟩
    · exact .inr ⟨rfl, ended⟩
    · rcases ended with rfl | rfl <;> cases impossible

namespace Database

/-- How the statuses of sources and runs go together with each other and with their timestamps. -/
structure Lifecycle (db : Database) : Prop where
  finishedAt : ∀ run ∈ db.pipelineRuns, run.finishedAt.isSome = run.status.isTerminal
  loadedAt : ∀ source ∈ db.sourceFiles, source.loadedAt.isSome = true ↔ source.status = .loaded
  succeeded : ∀ run ∈ db.pipelineRuns, run.status = .succeeded → ∃ sourceFileId source,
    run.sourceFileId = some sourceFileId ∧ db.getSourceFile sourceFileId = some source ∧
      source.status = .loaded
  once : ∀ sourceFileId, (db.succeededRuns sourceFileId).length ≤ 1
  skipped : ∀ run ∈ db.pipelineRuns, run.status = .skipped → ∃ reason sourceFileId source,
    run.statusReason = some reason ∧ run.sourceFileId = some sourceFileId ∧
      db.getSourceFile sourceFileId = some source ∧ source.status = reason.requiredStatus

/-- Sources and runs stay, and their statuses move forward only. -/
structure Moves (db db' : Database) : Prop where
  sources : ∀ {sourceFileId source}, db.getSourceFile sourceFileId = some source →
    ∃ source', db'.getSourceFile sourceFileId = some source' ∧ source.status.Reaches source'.status
  runs : ∀ {runId run}, db.getRun runId = some run →
    ∃ run', db'.getRun runId = some run' ∧ run.status.Reaches run'.status

theorem Moves.refl (db : Database) : db.Moves db :=
  ⟨fun got => ⟨_, got, .refl _⟩, fun got => ⟨_, got, .refl _⟩⟩

theorem Moves.trans {a b c : Database} (first : a.Moves b) (second : b.Moves c) : a.Moves c where
  sources := by
    intro sourceFileId source got
    obtain ⟨source', got', reached⟩ := first.sources got
    obtain ⟨source'', got'', further⟩ := second.sources got'
    exact ⟨source'', got'', reached.trans further⟩
  runs := by
    intro runId run got
    obtain ⟨run', got', reached⟩ := first.runs got
    obtain ⟨run'', got'', further⟩ := second.runs got'
    exact ⟨run'', got'', reached.trans further⟩

section Same

variable {db db' : Database} (same : db.SameRecords db')
include same

theorem SameRecords.getSourceFile (sourceFileId : Nat) :
    db'.getSourceFile sourceFileId = db.getSourceFile sourceFileId := by
  unfold Database.getSourceFile
  rw [same.sourceFiles]

theorem SameRecords.getRun (runId : Nat) : db'.getRun runId = db.getRun runId := by
  unfold Database.getRun
  rw [same.pipelineRuns]

theorem SameRecords.moves : db.Moves db' where
  sources := fun got => ⟨_, (same.getSourceFile _).trans got, .refl _⟩
  runs := fun got => ⟨_, (same.getRun _).trans got, .refl _⟩

theorem SameRecords.lifecycle (lifecycle : db.Lifecycle) : db'.Lifecycle where
  finishedAt := same.pipelineRuns ▸ lifecycle.finishedAt
  loadedAt := same.sourceFiles ▸ lifecycle.loadedAt
  succeeded := by
    intro run member succeeded
    obtain ⟨sourceFileId, source, ofSource, got, loaded⟩ :=
      lifecycle.succeeded run (same.pipelineRuns ▸ member) succeeded
    exact ⟨sourceFileId, source, ofSource, (same.getSourceFile _).trans got, loaded⟩
  once := by
    intro sourceFileId
    unfold succeededRuns
    rw [same.pipelineRuns]
    exact lifecycle.once sourceFileId
  skipped := by
    intro run member skipped
    obtain ⟨reason, sourceFileId, source, hasReason, ofSource, got, required⟩ :=
      lifecycle.skipped run (same.pipelineRuns ▸ member) skipped
    exact ⟨reason, sourceFileId, source, hasReason, ofSource, (same.getSourceFile _).trans got, required⟩

end Same

section Changes

variable {db : Database}

theorem Lifecycle.sources {db' : Database} (lifecycle : db.Lifecycle) (moves : db.Moves db')
    (runs : db'.pipelineRuns = db.pipelineRuns)
    (loadedAt : ∀ source ∈ db'.sourceFiles, source.loadedAt.isSome = true ↔ source.status = .loaded) :
    db'.Lifecycle where
  finishedAt := runs ▸ lifecycle.finishedAt
  loadedAt := loadedAt
  succeeded := by
    intro run member succeeded
    obtain ⟨sourceFileId, source, ofSource, got, loaded⟩ := lifecycle.succeeded run (runs ▸ member) succeeded
    obtain ⟨source', got', reached⟩ := moves.sources got
    rw [loaded] at reached
    exact ⟨sourceFileId, source', ofSource, got', (reached.resolve_right nofun).symm⟩
  once := by
    intro sourceFileId
    unfold succeededRuns
    rw [runs]
    exact lifecycle.once sourceFileId
  skipped := by
    intro run member skipped
    obtain ⟨reason, sourceFileId, source, hasReason, ofSource, got, required⟩ :=
      lifecycle.skipped run (runs ▸ member) skipped
    obtain ⟨source', got', reached⟩ := moves.sources got
    rw [required] at reached
    exact ⟨reason, sourceFileId, source', hasReason, ofSource, got', SkipReason.reaches_required reached⟩

theorem Lifecycle.addSourceFile (lifecycle : db.Lifecycle) {row : SourceFile}
    (moves : db.Moves (db.addSourceFile row)) (fresh : row.loadedAt = none) (notLoaded : row.status ≠ .loaded) :
    (db.addSourceFile row).Lifecycle := by
  refine lifecycle.sources moves rfl fun source member => ?_
  rcases List.mem_append.mp member with old | new
  · exact lifecycle.loadedAt source old
  · cases List.mem_singleton.mp new
    simp [fresh, notLoaded]

theorem Lifecycle.markLoaded (lifecycle : db.Lifecycle) {sourceFileId : Nat} {loadedAt : Timestamp}
    (moves : db.Moves (db.updateSourceFile sourceFileId (·.markLoaded loadedAt))) :
    (db.updateSourceFile sourceFileId (·.markLoaded loadedAt)).Lifecycle := by
  refine lifecycle.sources moves rfl fun source member => ?_
  obtain ⟨old, inFiles, rfl⟩ := List.mem_map.mp member
  split
  · simp [SourceFile.markLoaded]
  · exact lifecycle.loadedAt old inFiles

theorem Lifecycle.addRun (lifecycle : db.Lifecycle) {run : PipelineRun}
    (finishedAt : run.finishedAt.isSome = run.status.isTerminal) (notSucceeded : run.status ≠ .succeeded)
    (skipped : run.status = .skipped → ∃ reason sourceFileId source, run.statusReason = some reason ∧
      run.sourceFileId = some sourceFileId ∧ db.getSourceFile sourceFileId = some source ∧
        source.status = reason.requiredStatus) :
    (db.addRun run).Lifecycle where
  finishedAt := by
    intro other member
    rcases List.mem_append.mp member with old | new
    · exact lifecycle.finishedAt other old
    · cases List.mem_singleton.mp new
      exact finishedAt
  loadedAt := lifecycle.loadedAt
  succeeded := by
    intro other member succeeded
    rcases List.mem_append.mp member with old | new
    · exact lifecycle.succeeded other old succeeded
    · cases List.mem_singleton.mp new
      exact absurd succeeded notSucceeded
  once := by
    intro sourceFileId
    rw [succeededRuns_addRun notSucceeded]
    exact lifecycle.once sourceFileId
  skipped := by
    intro other member isSkipped
    rcases List.mem_append.mp member with old | new
    · exact lifecycle.skipped other old isSkipped
    · cases List.mem_singleton.mp new
      exact skipped isSkipped

theorem Lifecycle.updateRun (lifecycle : db.Lifecycle) {runId : Nat} {change : PipelineRun → PipelineRun}
    (finishedAt : ∀ run ∈ db.pipelineRuns, run.runId = runId →
      (change run).finishedAt.isSome = (change run).status.isTerminal)
    (succeeded : ∀ run ∈ db.pipelineRuns, run.runId = runId → (change run).status = .succeeded →
      ∃ sourceFileId source, (change run).sourceFileId = some sourceFileId ∧
        db.getSourceFile sourceFileId = some source ∧ source.status = .loaded)
    (once : ∀ sourceFileId, ((db.updateRun runId change).succeededRuns sourceFileId).length ≤ 1)
    (skipped : ∀ run ∈ db.pipelineRuns, run.runId = runId → (change run).status ≠ .skipped) :
    (db.updateRun runId change).Lifecycle where
  finishedAt := by
    intro run member
    obtain ⟨old, inRuns, rfl⟩ := List.mem_map.mp member
    split
    · rename_i same
      exact finishedAt old inRuns same
    · exact lifecycle.finishedAt old inRuns
  loadedAt := lifecycle.loadedAt
  succeeded := by
    intro run member isSucceeded
    obtain ⟨old, inRuns, rfl⟩ := List.mem_map.mp member
    split at isSucceeded
    · rename_i same
      rw [if_pos same]
      exact succeeded old inRuns same isSucceeded
    · rename_i apart
      rw [if_neg apart]
      exact lifecycle.succeeded old inRuns isSucceeded
  once := once
  skipped := by
    intro run member isSkipped
    obtain ⟨old, inRuns, rfl⟩ := List.mem_map.mp member
    split at isSkipped
    · rename_i same
      exact absurd isSkipped (skipped old inRuns same)
    · rename_i apart
      rw [if_neg apart]
      exact lifecycle.skipped old inRuns isSkipped

end Changes

theorem moves_of_runs {db db' : Database} (sources : db'.sourceFiles = db.sourceFiles)
    (runs : ∀ {runId run}, db.getRun runId = some run →
      ∃ run', db'.getRun runId = some run' ∧ run.status.Reaches run'.status) : db.Moves db' where
  sources := by
    intro sourceFileId source got
    refine ⟨source, ?_, .refl _⟩
    unfold getSourceFile at got ⊢
    rwa [sources]
  runs := runs

theorem moves_addRun (db : Database) (run : PipelineRun) : db.Moves (db.addRun run) :=
  moves_of_runs rfl fun got => ⟨_, getRun_addRun_of_some run got, .refl _⟩

theorem moves_addSourceFile (db : Database) (row : SourceFile) : db.Moves (db.addSourceFile row) :=
  ⟨fun got => ⟨_, getSourceFile_addSourceFile_of_some row got, .refl _⟩, fun got => ⟨_, got, .refl _⟩⟩

theorem moves_updateRun {db : Database} {runId : Nat} {change : PipelineRun → PipelineRun} {run : PipelineRun}
    (gotRun : db.getRun runId = some run) (keeps : ∀ run, (change run).runId = run.runId)
    (reaches : run.status.Reaches (change run).status) : db.Moves (db.updateRun runId change) := by
  refine moves_of_runs rfl fun {other old} got => ?_
  by_cases same : other = runId
  · subst same
    cases gotRun.symm.trans got
    exact ⟨_, getRun_updateRun_self keeps got, reaches⟩
  · exact ⟨old, (getRun_updateRun_other keeps same).trans got, .refl _⟩

theorem moves_markLoaded {db : Database} {sourceFileId : Nat} {loadedAt : Timestamp} {source : SourceFile}
    (got : db.getSourceFile sourceFileId = some source) (ready : source.status = .ready) :
    db.Moves (db.updateSourceFile sourceFileId (·.markLoaded loadedAt)) where
  sources := by
    intro other row gotRow
    refine ⟨if other = sourceFileId then row.markLoaded loadedAt else row, ?_, ?_⟩
    · rw [getSourceFile_markLoaded, gotRow, Option.map_some]
    · split
      · rename_i same
        subst same
        cases got.symm.trans gotRow
        exact .inr ⟨ready, rfl⟩
      · exact .refl _
  runs := fun gotRun => ⟨_, gotRun, .refl _⟩

theorem succeededRuns_markEvaluated (db : Database) (runId warningCount errorCount sourceFileId : Nat) :
    ((db.updateRun runId (·.markEvaluated warningCount errorCount)).succeededRuns sourceFileId).length =
      (db.succeededRuns sourceFileId).length := by
  simp only [succeededRuns, updateRun, ← List.countP_eq_length_filter, List.countP_map]
  congr 1
  funext run
  simp only [Function.comp_apply]
  split <;> rfl

theorem Lifecycle.succeededRuns_of_ready {db : Database} (lifecycle : db.Lifecycle) {sourceFileId : Nat}
    {source : SourceFile} (got : db.getSourceFile sourceFileId = some source) (ready : source.status = .ready) :
    db.succeededRuns sourceFileId = [] := by
  refine List.eq_nil_iff_forall_not_mem.mpr fun run member => ?_
  obtain ⟨inRuns, ofSource, succeeded⟩ := mem_succeededRuns.mp member
  obtain ⟨sourceFileId', source', ofSource', got', loaded⟩ := lifecycle.succeeded run inRuns succeeded
  cases Option.some.inj (ofSource.symm.trans ofSource')
  cases got.symm.trans got'
  rw [ready] at loaded
  cases loaded

end Database

section Step

variable {s s' : Session}

theorem OperationStep.moves (step : OperationStep s s') : s.db.Moves s'.db := by
  cases step with
  | kept grows same => exact same.moves
  | registered written => exact Database.moves_addSourceFile _ _
  | started got ready => exact Database.moves_addRun _ _
  | skipped got required => exact Database.moves_addRun _ _
  | loaded got ready => exact Database.moves_markLoaded got ready
  | @succeeded runId sourceFileId run source now counts gotRun running ofSource got ready =>
    have loads : s.db.Moves (s.db.updateSourceFile sourceFileId (·.markLoaded now)) :=
      Database.moves_markLoaded got ready
    have stays : (s.db.updateSourceFile sourceFileId (·.markLoaded now)).getRun runId = some run := gotRun
    exact loads.trans (Database.moves_updateRun stays (fun _ => rfl) (.inr ⟨running, .inl rfl⟩))
  | failed gotRun running =>
    exact Database.moves_updateRun gotRun (fun _ => rfl) (.inr ⟨running, .inr rfl⟩)
  | @evaluated runId run warningCount errorCount s' gotRun succeeded grows same =>
    have evaluates : s.db.Moves (s.db.updateRun runId (·.markEvaluated warningCount errorCount)) :=
      Database.moves_updateRun gotRun (fun _ => rfl) (.refl _)
    exact evaluates.trans same.moves

theorem OperationStep.lifecycle (step : OperationStep s s') (consistent : s.Consistent)
    (lifecycle : s.db.Lifecycle) : s'.db.Lifecycle := by
  have moves := step.moves
  have unique : ∀ {runId run other}, s.db.getRun runId = some run → other ∈ s.db.pipelineRuns →
      other.runId = runId → other = run := by
    intro runId run other got member same
    obtain ⟨inRuns, sameId⟩ := getRun_some got
    exact Database.unique_run consistent.nodup member inRuns (same.trans sameId.symm)
  cases step with
  | kept grows same => exact same.lifecycle lifecycle
  | registered written => exact lifecycle.addSourceFile moves rfl (registrationStatus_ne_loaded _)
  | started got ready =>
    refine lifecycle.addRun rfl (fun succeeded => ?_) fun skipped => ?_
    · cases succeeded
    · cases skipped
  | @skipped sourceFileId source reason now got required =>
    refine lifecycle.addRun rfl (fun succeeded => ?_) fun _ => ⟨reason, sourceFileId, source, rfl, ?_, got, required⟩
    · cases succeeded
    · exact congrArg some (getSourceFile_some got).2
  | loaded got ready => exact lifecycle.markLoaded moves
  | @succeeded runId sourceFileId run source now counts gotRun running ofSource got ready =>
    have loads : s.db.Moves (s.db.updateSourceFile sourceFileId (·.markLoaded now)) :=
      Database.moves_markLoaded got ready
    have loaded := lifecycle.markLoaded loads
    have gotLoaded : (s.db.updateSourceFile sourceFileId (·.markLoaded now)).getSourceFile sourceFileId =
        some (source.markLoaded now) := by
      rw [Database.getSourceFile_markLoaded, got, Option.map_some, if_pos rfl]
    refine loaded.updateRun (fun _ _ _ => rfl) (fun old member same _ => ?_) (fun other => ?_)
      fun _ _ _ => (by decide : RunStatus.succeeded ≠ .skipped)
    · cases unique gotRun member same
      exact ⟨sourceFileId, source.markLoaded now, ofSource, gotLoaded, rfl⟩
    · have nodup : (s.db.updateSourceFile sourceFileId (·.markLoaded now)).index.Nodup := by
        rw [Database.markLoaded_index]
        exact consistent.nodup
      by_cases same : other = sourceFileId
      · subst same
        have none_yet := lifecycle.succeededRuns_of_ready got ready
        obtain ⟨member, rfl⟩ := getRun_some gotRun
        have one := filter_map_unique PipelineRun.runId
          (fun run => run.sourceFileId == some other && run.status == .succeeded)
          (·.markSucceeded now counts) (Database.runIds_nodup consistent.nodup) member
          (by simp [PipelineRun.markSucceeded, ofSource]) none_yet
        exact (congrArg List.length one).le
      · have silent : (run.markSucceeded now counts).sourceFileId ≠ some other := by
          show run.sourceFileId ≠ some other
          rw [ofSource]
          exact fun equal => same (Option.some.inj equal).symm
        rw [Database.succeededRuns_updateRun nodup gotRun running (.inl silent)]
        exact loaded.once other
  | @failed runId run now message gotRun running =>
    have notSucceeded : RunStatus.failed ≠ .succeeded := by decide
    have notSkipped : RunStatus.failed ≠ .skipped := by decide
    refine lifecycle.updateRun (fun _ _ _ => rfl) (fun _ _ _ succeeded => absurd succeeded notSucceeded)
      (fun other => ?_) fun _ _ _ => notSkipped
    have silent : (run.markFailed now message).status ≠ .succeeded := notSucceeded
    rw [Database.succeededRuns_updateRun consistent.nodup gotRun running (.inr silent)]
    exact lifecycle.once other
  | @evaluated runId run warningCount errorCount s' gotRun succeeded grows same =>
    refine same.lifecycle (lifecycle.updateRun (fun old member _ => lifecycle.finishedAt old member)
      (fun old member _ isSucceeded => lifecycle.succeeded old member isSucceeded) (fun other => ?_)
      fun old member sameId => ?_)
    · rw [Database.succeededRuns_markEvaluated]
      exact lifecycle.once other
    · cases unique gotRun member sameId
      show run.status ≠ .skipped
      rw [succeeded]
      decide

theorem lifecycle_empty : Database.empty.Lifecycle where
  finishedAt := fun _ member => (List.not_mem_nil member).elim
  loadedAt := fun _ member => (List.not_mem_nil member).elim
  succeeded := fun _ member => (List.not_mem_nil member).elim
  once := fun _ => Nat.zero_le _
  skipped := fun _ member => (List.not_mem_nil member).elim

theorem after_append (s : Session) (history later : List (Timestamp × Operation)) :
    s.after (history ++ later) = (s.after history).after later := by
  induction history generalizing s with
  | nil => rfl
  | cons head rest ih => exact ih _

theorem after_lifecycle (consistent : s.Consistent) (lifecycle : s.db.Lifecycle)
    (history : List (Timestamp × Operation)) :
    (s.after history).Consistent ∧ (s.after history).db.Lifecycle ∧ s.db.Moves (s.after history).db := by
  induction history generalizing s with
  | nil => exact ⟨consistent, lifecycle, .refl _⟩
  | cons head rest ih =>
    have step := (s.call_step head.1 head.2).1
    obtain ⟨consistent', lifecycle', moves⟩ := ih (step.consistent consistent) (step.lifecycle consistent lifecycle)
    exact ⟨consistent', lifecycle', step.moves.trans moves⟩

end Step

/-- After every history of calls the statuses, timestamps, reasons and successes of sources and runs
    agree; later calls move statuses forward only; and a call that raises changes neither table. -/
theorem operations_keep_lifecycle (history later : List (Timestamp × Operation)) :
    (Session.start.after history).db.Lifecycle ∧
      (Session.start.after history).db.Moves (Session.start.after (history ++ later)).db ∧
      ∀ now operation error, ((Session.start.after history).call now operation).1 = .error error →
        ((Session.start.after history).call now operation).2.db.sourceFiles =
            (Session.start.after history).db.sourceFiles ∧
          ((Session.start.after history).call now operation).2.db.pipelineRuns =
            (Session.start.after history).db.pipelineRuns := by
  obtain ⟨consistent, lifecycle, -⟩ := after_lifecycle consistent_start lifecycle_empty history
  refine ⟨lifecycle, ?_, fun now operation error raised => ?_⟩
  · rw [after_append]
    exact (after_lifecycle consistent lifecycle later).2.2
  · have same := ((Session.start.after history).call_step now operation).2 error raised
    exact ⟨same.sourceFiles, same.pipelineRuns⟩

end TaxiPipeline
