import TaxiPipeline.Quality.Reruns
import TaxiPipeline.Storage.Identity
import TaxiPipeline.Warehouse.Growth

namespace TaxiPipeline

open ReadCommitted Relational Stateful Transaction

/-- The dataset and the month that a source row and its runs name. -/
structure Subject where
  datasetName : String
  serviceType : Option String
  year : Option Int
  month : Option Int
  deriving DecidableEq

def SourceFile.subject (row : SourceFile) : Subject := ⟨row.datasetName, row.serviceType, row.sourceYear, row.sourceMonth⟩

def PipelineRun.subject (run : PipelineRun) : Subject :=
  ⟨run.datasetName, run.serviceType, run.sourceYear, run.sourceMonth⟩

/-- Every run names the dataset and the month of its source. -/
def Database.RunsMatch (db : Database) : Prop :=
  ∀ runId run sourceFileId, db.getRun runId = some run → run.sourceFileId = some sourceFileId →
    ∃ row, db.getSourceFile sourceFileId = some row ∧ row.subject = run.subject

section RunsMatch

variable {db db' : Database} {metadata : SourceFileMetadata} {owned : Nat → Prop}

theorem Database.RunsMatch.old (runs : db.RunsMatch) (extended : db.Extends owned db') {runId sourceFileId : Nat}
    {run : PipelineRun} (got : db.getRun runId = some run) (ofSource : run.sourceFileId = some sourceFileId) :
    ∃ row, db'.getSourceFile sourceFileId = some row ∧ row.subject = run.subject := by
  obtain ⟨row, gotRow, subject⟩ := runs _ _ _ got ofSource
  obtain ⟨row', gotRow', registered, -⟩ := extended.sources gotRow
  have same : row'.asRegistered.subject = row.asRegistered.subject := congrArg SourceFile.subject registered
  exact ⟨row', gotRow', same.trans subject⟩

theorem Database.Shows.subject {source : SourceFile} (shown : db.Shows source) :
    ∃ row, db.getSourceFile source.sourceFileId = some row ∧ row.subject = source.subject := by
  obtain ⟨row, got, registered⟩ := shown
  have same : row.asRegistered.subject = source.asRegistered.subject := congrArg SourceFile.subject registered
  exact ⟨row, got, same⟩

theorem Database.RunsMatch.updateRun (runs : db.RunsMatch) (runId : Nat) {change : PipelineRun → PipelineRun}
    (keepsId : ∀ run, (change run).runId = run.runId)
    (keepsSource : ∀ run, (change run).sourceFileId = run.sourceFileId)
    (keepsSubject : ∀ run, (change run).subject = run.subject) : (db.updateRun runId change).RunsMatch := by
  intro other run sourceFileId got ofSource
  obtain ⟨old, gotOld, rfl⟩ := Database.getRun_changed got keepsId
  split at ofSource
  · rename_i same
    rw [if_pos same, keepsSubject]
    exact runs _ _ _ gotOld ((keepsSource old).symm.trans ofSource)
  · rename_i apart
    rw [if_neg apart]
    exact runs _ _ _ gotOld ofSource

theorem Database.RunsMatch.addRun (runs : db.RunsMatch) {run : PipelineRun} {source : SourceFile}
    (shown : db.Shows source) (ofSource : run.sourceFileId = some source.sourceFileId)
    (subject : run.subject = source.subject) : (db.addRun run).RunsMatch := by
  intro runId other sourceFileId got of_other
  rcases Database.getRun_added got with old | rfl
  · exact runs _ _ _ old of_other
  · cases ofSource.symm.trans of_other
    rw [subject]
    exact shown.subject

theorem CommitStep.runsMatch (step : CommitStep metadata db db') (extended : db.Extends owned db')
    (runs : db.RunsMatch) : db'.RunsMatch := by
  cases step with
  | nothing => exact runs
  | registered fits checks chosen => exact fun _ _ _ got ofSource => runs.old extended got ofSource
  | started held shown => exact runs.addRun shown rfl rfl
  | skipped held shown => exact runs.addRun shown rfl rfl
  | @loaded sourceFileId runId table rows counts finishedAt _ held found ofRun running counted =>
    have loads : ((db.addRaws table rows).updateSourceFile sourceFileId (·.markLoaded finishedAt)).RunsMatch :=
      fun _ _ _ got ofSource => runs.old extended got ofSource
    exact @Database.RunsMatch.updateRun _ loads runId (·.markSucceeded finishedAt counts.toRunCounts)
      (fun _ => rfl) (fun _ => rfl) fun _ => rfl
  | @failed runId message now _ found running =>
    exact @Database.RunsMatch.updateRun _ runs runId (·.markFailed now message)
      (fun _ => rfl) (fun _ => rfl) fun _ => rfl

theorem Database.RunsMatch.same (runs : db.RunsMatch) (files : db'.sourceFiles = db.sourceFiles)
    (sameRuns : db'.pipelineRuns = db.pipelineRuns) : db'.RunsMatch := by
  intro runId run sourceFileId got ofSource
  unfold Database.getRun at got
  unfold Database.getSourceFile
  rw [sameRuns] at got
  rw [files]
  exact runs _ _ _ got ofSource

theorem mergeStorageMetadata_subject (storage : StorageResult) (row : SourceFile) :
    (mergeStorageMetadata storage row).subject = row.subject := by
  unfold mergeStorageMetadata
  split <;> rfl

theorem Database.RunsMatch.persist (runs : db.RunsMatch) (sourceFileId : Nat) (storage : StorageResult) :
    (db.updateSourceFile sourceFileId (mergeStorageMetadata storage)).RunsMatch := by
  intro runId run other got ofSource
  obtain ⟨row, gotRow, subject⟩ := runs _ _ _ got ofSource
  have keepsId : ∀ row, (mergeStorageMetadata storage row).sourceFileId = row.sourceFileId :=
    fun row => (mergeStorageMetadata_same storage row).1
  rw [Database.getSourceFile_updateSourceFile keepsId, gotRow, Option.map_some]
  refine ⟨_, rfl, ?_⟩
  split
  · exact (mergeStorageMetadata_subject storage row).trans subject
  · exact subject

end RunsMatch

/-- A row before any storage metadata is recorded in it. -/
def SourceFile.unstored (row : SourceFile) : SourceFile :=
  { row with
    storageBackend := "local"
    storageUri := none
    storageVersionId := none
    storedAt := none }

/-- The database without its storage metadata, which loading does not read. -/
def Database.unstored (db : Database) : Database := { db with sourceFiles := db.sourceFiles.map SourceFile.unstored }

section Unstored

variable {db db' : Database} {metadata : SourceFileMetadata} {sourceFileId : Nat}

@[simp] theorem Database.getSourceFile_unstored :
    db.unstored.getSourceFile sourceFileId = (db.getSourceFile sourceFileId).map SourceFile.unstored := by
  unfold Database.getSourceFile Database.unstored
  rw [List.find?_map]
  rfl

@[simp] theorem Database.unstored_index : db.unstored.index = db.index := by
  unfold Database.index Database.unstored
  simp only [List.flatMap_map]
  rfl

theorem Database.unstored_updateSourceFile {change : SourceFile → SourceFile}
    (commutes : ∀ row, (change row).unstored = change row.unstored) :
    (db.updateSourceFile sourceFileId change).unstored = db.unstored.updateSourceFile sourceFileId change := by
  unfold Database.unstored Database.updateSourceFile
  simp only [List.map_map]
  congr 1
  apply List.map_congr_left
  intro row _
  simp only [Function.comp_apply]
  by_cases same : row.sourceFileId = sourceFileId
  · rw [if_pos same, if_pos (show row.unstored.sourceFileId = sourceFileId from same), commutes]
  · rw [if_neg same, if_neg (show ¬ row.unstored.sourceFileId = sourceFileId from same)]

theorem Database.unstored_persist (storage : StorageResult) :
    (db.updateSourceFile sourceFileId (mergeStorageMetadata storage)).unstored = db.unstored := by
  unfold Database.unstored Database.updateSourceFile
  simp only [List.map_map]
  congr 1
  apply List.map_congr_left
  intro row _
  simp only [Function.comp_apply, mergeStorageMetadata]
  split
  · split <;> rfl
  · rfl

theorem Database.unstored_addSourceFile (status : SourceStatus) (now : Timestamp) :
    (db.addSourceFile (newSourceFile sourceFileId status now metadata)).unstored =
      db.unstored.addSourceFile (newSourceFile sourceFileId status now metadata) := by
  unfold Database.unstored Database.addSourceFile
  simp only [List.map_append, List.map_singleton]
  rfl

theorem Database.Holds.unstored {status : SourceStatus} (held : db.Holds sourceFileId metadata status) :
    db.unstored.Holds sourceFileId metadata status := by
  obtain ⟨row, got, partition, checksum, reached⟩ := held
  refine ⟨row.unstored, ?_, partition, checksum, reached⟩
  rw [Database.getSourceFile_unstored, got, Option.map_some]

theorem Database.Shows.unstored {source : SourceFile} (shown : db.Shows source) :
    db.unstored.Shows source.unstored := by
  obtain ⟨row, got, registered⟩ := shown
  refine ⟨row.unstored, ?_, congrArg SourceFile.unstored registered⟩
  show db.unstored.getSourceFile source.sourceFileId = _
  rw [Database.getSourceFile_unstored, got, Option.map_some]

theorem StatusChosen.unstored {status : SourceStatus} (chosen : StatusChosen db metadata status) :
    StatusChosen db.unstored metadata status := by
  refine chosen.imp_right fun revised => ⟨revised.1, ?_⟩
  obtain ⟨other, row, got, partition⟩ := revised.2
  refine ⟨other, row.unstored, ?_, partition⟩
  rw [Database.getSourceFile_unstored, got, Option.map_some]

/-- What a transaction of the ingestion does, it does without the storage metadata as well. -/
theorem CommitStep.unstored (step : CommitStep metadata db db') : CommitStep metadata db.unstored db'.unstored := by
  cases step with
  | nothing => exact .nothing
  | registered fits checks chosen =>
    rw [Database.unstored_addSourceFile]
    exact .registered fits checks chosen.unstored
  | @started runId source now held shown =>
    exact @CommitStep.started metadata db.unstored runId source.unstored now held.unstored shown.unstored
  | @skipped runId source reason now held shown =>
    exact @CommitStep.skipped metadata db.unstored runId source.unstored reason now held.unstored shown.unstored
  | @loaded sourceFileId runId table rows counts finishedAt run held got ofSource running counted =>
    have same : (db.commitLoad rows sourceFileId runId finishedAt counts).unstored =
        db.unstored.commitLoad rows sourceFileId runId finishedAt counts := by
      have marked := @Database.unstored_updateSourceFile (db.addRaws table rows) sourceFileId (·.markLoaded finishedAt)
        fun _ => rfl
      exact congrArg (·.updateRun runId (·.markSucceeded finishedAt counts.toRunCounts)) marked
    rw [same]
    exact .loaded held.unstored got ofSource running counted
  | failed got running => exact .failed got running

end Unstored

section Loads

variable {db db' : Database}

/-- The columns of a source that loads read. -/
structure SourceFile.SameLoad (row row' : SourceFile) : Prop where
  id : row'.sourceFileId = row.sourceFileId
  dataset : row'.datasetName = row.datasetName
  rowCount : row'.rowCount = row.rowCount
  status : row'.status = row.status

/-- Other columns may change, and columns of runs but for their ids. -/
theorem Database.LoadsExact.transfer (exact_loads : db.LoadsExact)
    (back : ∀ {sourceFileId row'}, db'.getSourceFile sourceFileId = some row' →
      ∃ row, db.getSourceFile sourceFileId = some row ∧ row.SameLoad row')
    (forth : ∀ {sourceFileId row}, db.getSourceFile sourceFileId = some row →
      ∃ row', db'.getSourceFile sourceFileId = some row' ∧ row.SameLoad row')
    (raw : db'.raw = db.raw) {changeRun : PipelineRun → PipelineRun}
    (runs : ∀ sourceFileId, db'.succeededRuns sourceFileId = (db.succeededRuns sourceFileId).map changeRun)
    (keepsRun : ∀ run, (changeRun run).runId = run.runId) : db'.LoadsExact where
  loaded := by
    intro sourceFileId row' got' loaded'
    obtain ⟨row, got, same⟩ := back got'
    obtain ⟨table, run, count, known, counted, succeeded, lineage, others⟩ :=
      exact_loads.loaded got (same.status.symm.trans loaded')
    have rows : ∀ table, db'.rowsOf table row'.sourceFileId = db.rowsOf table row.sourceFileId := by
      intro table
      unfold Database.rowsOf
      rw [raw, same.id]
    refine ⟨table, changeRun run, count, same.dataset ▸ known, same.rowCount.trans counted, ?_, ?_,
      fun other apart => ?_⟩
    · rw [runs, same.id, succeeded, List.map_singleton]
    · rw [rows, lineage, same.id, keepsRun]
    · rw [rows, others other apart]
  untouched := by
    intro sourceFileId absent
    have untouched : db.Untouched sourceFileId := by
      refine exact_loads.untouched fun row got loaded => ?_
      obtain ⟨row', got', same⟩ := forth got
      exact absent row' got' (same.status.trans loaded)
    refine ⟨fun table => ?_, ?_⟩
    · unfold Database.rowsOf
      rw [raw]
      exact untouched.1 table
    · rw [runs, untouched.2, List.map_nil]

theorem Database.unstored_loadsExact : db.unstored.LoadsExact ↔ db.LoadsExact := by
  have back : ∀ {sourceFileId row'}, db.unstored.getSourceFile sourceFileId = some row' →
      ∃ row, db.getSourceFile sourceFileId = some row ∧ row.SameLoad row' := by
    intro sourceFileId row' got'
    rw [Database.getSourceFile_unstored] at got'
    obtain ⟨row, got, rfl⟩ := Option.map_eq_some_iff.mp got'
    exact ⟨row, got, ⟨rfl, rfl, rfl, rfl⟩⟩
  have forth : ∀ {sourceFileId row}, db.getSourceFile sourceFileId = some row →
      ∃ row', db.unstored.getSourceFile sourceFileId = some row' ∧ row.SameLoad row' := by
    intro sourceFileId row got
    refine ⟨row.unstored, ?_, ⟨rfl, rfl, rfl, rfl⟩⟩
    rw [Database.getSourceFile_unstored, got, Option.map_some]
  have runs : ∀ sourceFileId, db.succeededRuns sourceFileId = (db.succeededRuns sourceFileId).map id :=
    fun _ => (List.map_id _).symm
  constructor
  · intro exact_loads
    refine exact_loads.transfer (fun got => ?_) (fun got => ?_) rfl runs fun _ => rfl
    · obtain ⟨row', got', same⟩ := forth got
      exact ⟨row', got', ⟨same.id.symm, same.dataset.symm, same.rowCount.symm, same.status.symm⟩⟩
    · obtain ⟨row, got', same⟩ := back got
      exact ⟨row, got', ⟨same.id.symm, same.dataset.symm, same.rowCount.symm, same.status.symm⟩⟩
  · intro exact_loads
    exact exact_loads.transfer back forth rfl runs fun _ => rfl

theorem Database.LoadsExact.evaluate (exact_loads : db.LoadsExact) (runId warningCount errorCount : Nat) :
    (db.updateRun runId (·.markEvaluated warningCount errorCount)).LoadsExact := by
  refine @Database.LoadsExact.transfer _ _ exact_loads (fun got => ⟨_, got, ⟨rfl, rfl, rfl, rfl⟩⟩)
    (fun got => ⟨_, got, ⟨rfl, rfl, rfl, rfl⟩⟩) rfl
    (fun run => if run.runId = runId then run.markEvaluated warningCount errorCount else run) (fun sourceFileId => ?_)
    fun run => ?_
  · unfold Database.succeededRuns Database.updateRun
    rw [List.filter_map]
    congr 1
    apply List.filter_congr
    intro run _
    simp only [Function.comp_apply]
    split <;> rfl
  · split <;> rfl

end Loads

end TaxiPipeline
