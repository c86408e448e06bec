import TaxiPipeline.Lifecycle.Specifications

namespace TaxiPipeline

open Stateful

/-- The calls that move sources and runs through their lifecycle, with their arguments. -/
inductive Operation where
  | registerSourceFile (metadata : SourceFileMetadata)
  | startRun (sourceFileId : Nat)
  | markRunSucceeded (runId : Nat) (counts : RunCounts)
  | markRunFailed (runId : Nat) (errorMessage : String)
  | createSkippedRun (sourceFileId : Nat) (reason : String)
  | markSourceLoaded (sourceFileId : Nat) (loadedAt : Option Timestamp)
  | runQualityChecks (runId : Nat)

/-- A call in its own transaction whose exception is caught: a database error rolls the
    transaction back, and after any other exception it is committed as it is. -/
def Session.settle {α : Type} (s : Session) (body : Transaction α) : Except PyException Unit × Session :=
  match body s with
  | (.ok _, s') => (.ok (), s')
  | (.error error, s') =>
    (.error error, if error.isDatabaseError then { s' with db := s.db } else s')

def Session.call (s : Session) (now : Timestamp) : Operation → Except PyException Unit × Session
  | .registerSourceFile metadata => s.settle (registerSourceFile now metadata)
  | .startRun sourceFileId => s.settle (startRun now sourceFileId)
  | .markRunSucceeded runId counts => s.settle (markRunSucceeded now runId counts)
  | .markRunFailed runId errorMessage => s.settle (markRunFailed now runId errorMessage)
  | .createSkippedRun sourceFileId reason => s.settle (createSkippedRun now sourceFileId reason)
  | .markSourceLoaded sourceFileId loadedAt => s.settle (markSourceLoaded now sourceFileId loadedAt)
  | .runQualityChecks runId => s.settle (runQualityChecks now runId)

/-- One call after another, each at its own time. -/
def Session.after (s : Session) : List (Timestamp × Operation) → Session
  | [] => s
  | (now, operation) :: rest => (s.call now operation).2.after rest

def Session.start : Session := ⟨Database.empty, Sequences.start⟩

/-- What a call may do to the sources and the runs. -/
inductive OperationStep (s : Session) : Session → Prop where
  | kept {s' : Session} (grows : s.sequences.Grows s'.sequences) (same : s.db.SameRecords s'.db) :
      OperationStep s s'
  | registered {now : Timestamp} {metadata : SourceFileMetadata}
      (written : s.db.sourceFileInsertError (s.registration now metadata) = none) :
      OperationStep s (s.withSourceFile (s.registration now metadata))
  | started {sourceFileId : Nat} {source : SourceFile} {now : Timestamp}
      (got : s.db.getSourceFile sourceFileId = some source) (ready : source.status = .ready) :
      OperationStep s (s.withRun (runningRun s.sequences.runId source now))
  | skipped {sourceFileId : Nat} {source : SourceFile} {reason : SkipReason} {now : Timestamp}
      (got : s.db.getSourceFile sourceFileId = some source) (required : source.status = reason.requiredStatus) :
      OperationStep s (s.withRun (skippedRun s.sequences.runId source reason now))
  | loaded {sourceFileId : Nat} {source : SourceFile} {loadedAt : Timestamp}
      (got : s.db.getSourceFile sourceFileId = some source) (ready : source.status = .ready) :
      OperationStep s ⟨s.db.updateSourceFile sourceFileId (·.markLoaded loadedAt), s.sequences⟩
  | succeeded {runId sourceFileId : Nat} {run : PipelineRun} {source : SourceFile} {now : Timestamp}
      {counts : RunCounts} (gotRun : s.db.getRun runId = some run) (running : run.status = .running)
      (ofSource : run.sourceFileId = some sourceFileId)
      (got : s.db.getSourceFile sourceFileId = some source) (ready : source.status = .ready) :
      OperationStep s ⟨(s.db.updateSourceFile sourceFileId (·.markLoaded now)).updateRun runId
        (·.markSucceeded now counts), s.sequences⟩
  | failed {runId : Nat} {run : PipelineRun} {now : Timestamp} {message : String}
      (gotRun : s.db.getRun runId = some run) (running : run.status = .running) :
      OperationStep s ⟨s.db.updateRun runId (·.markFailed now message), s.sequences⟩
  | evaluated {runId : Nat} {run : PipelineRun} {warningCount errorCount : Nat} {s' : Session}
      (gotRun : s.db.getRun runId = some run) (succeeded : run.status = .succeeded)
      (grows : s.sequences.Grows s'.sequences)
      (same : (s.db.updateRun runId (·.markEvaluated warningCount errorCount)).SameRecords s'.db) :
      OperationStep s s'

theorem Session.settle_step {α : Type} {body : Transaction α} {s : Session} {returns : α → Session → Prop}
    (meets : body.Meets s returns s.Kept) (step : ∀ a s', returns a s' → OperationStep s s') :
    OperationStep s (s.settle body).2 ∧
      ∀ error, (s.settle body).1 = .error error → s.db.SameRecords (s.settle body).2.db := by
  unfold Session.settle
  rcases ran : body s with ⟨result, s'⟩
  cases result with
  | ok a =>
    refine ⟨step a s' (meets.ok ran), fun error raised => ?_⟩
    cases raised
  | error error =>
    obtain ⟨grows, kept⟩ := meets.error ran
    have same : s.db.SameRecords (if error.isDatabaseError then { s' with db := s.db } else s').db := by
      split
      · exact .refl _
      · rename_i notDatabase
        exact kept.resolve_left notDatabase
    refine ⟨.kept ?_ same, fun _ _ => same⟩
    dsimp only
    split <;> exact grows

/-- The one inversion of the seven operations. -/
theorem Session.call_step (s : Session) (now : Timestamp) (operation : Operation) :
    OperationStep s (s.call now operation).2 ∧
      ∀ error, (s.call now operation).1 = .error error → s.db.SameRecords (s.call now operation).2.db := by
  cases operation with
  | registerSourceFile metadata =>
    refine Session.settle_step (registerSourceFile_meets s now metadata) fun result s' registered => ?_
    rcases registered with ⟨row, -, -, rfl⟩ | ⟨-, written, -, rfl⟩
    · exact .kept (.refl _) (.refl _)
    · exact .registered written
  | startRun sourceFileId =>
    refine Session.settle_step (startRun_meets s now sourceFileId) fun run s' started => ?_
    obtain ⟨source, got, ready, rfl, -, rfl⟩ := started
    exact .started got ready
  | markRunSucceeded runId counts =>
    refine Session.settle_step (markRunSucceeded_meets s now runId counts) fun run' s' finished => ?_
    obtain ⟨run, sourceFileId, source, gotRun, running, ofSource, got, ready, -, rfl⟩ := finished
    exact .succeeded gotRun running ofSource got ready
  | markRunFailed runId errorMessage =>
    refine Session.settle_step (markRunFailed_meets s now runId errorMessage) fun run' s' finished => ?_
    obtain ⟨run, -, gotRun, running, -, -, rfl⟩ := finished
    exact .failed gotRun running
  | createSkippedRun sourceFileId reason =>
    refine Session.settle_step (createSkippedRun_meets s now sourceFileId reason) fun run s' skipped => ?_
    obtain ⟨skipReason, source, -, got, required, rfl, -, rfl⟩ := skipped
    exact .skipped got required
  | markSourceLoaded sourceFileId loadedAt =>
    have meets := (markSourceLoaded_meets s now sourceFileId loadedAt).mono (fun _ _ post => post)
      fun error s' same => (same ▸ Session.Kept.refl s error : s.Kept error s')
    refine Session.settle_step meets fun _ s' loaded => ?_
    obtain ⟨source, got, ready, rfl⟩ := loaded
    exact .loaded got ready
  | runQualityChecks runId =>
    refine Session.settle_step (runQualityChecks_meets s now runId) fun summary s' evaluated => ?_
    obtain ⟨run, warningCount, errorCount, gotRun, succeeded, grows, same⟩ := evaluated
    exact .evaluated gotRun succeeded grows same

/-- What the unique constraints and the identity sequences guarantee of every state. -/
structure Session.Consistent (s : Session) : Prop where
  nodup : s.db.index.Nodup
  below : ∀ k ∈ s.db.index, k.Below s.sequences
  positive : 1 ≤ s.sequences.sourceFileId

theorem consistent_start : Session.start.Consistent :=
  ⟨List.nodup_nil, fun _ member => (List.not_mem_nil member).elim, le_rfl⟩

section Consistent

variable {s s' : Session}

theorem Database.SameRecords.index {db db' : Database} (same : db.SameRecords db') : db'.index = db.index := by
  simp only [Database.index, same.sourceFiles, same.pipelineRuns, same.raw]

@[simp] theorem markEvaluated_index (db : Database) (runId warningCount errorCount : Nat) :
    (db.updateRun runId (·.markEvaluated warningCount errorCount)).index = db.index :=
  db.updateRun_index runId fun _ => rfl

theorem Session.Consistent.grown (consistent : s.Consistent) (index : s'.db.index = s.db.index)
    (grows : s.sequences.Grows s'.sequences) : s'.Consistent where
  nodup := index ▸ consistent.nodup
  below := fun k member => (consistent.below k (index ▸ member)).mono grows
  positive := consistent.positive.trans grows.1

theorem Session.Consistent.enters (consistent : s.Consistent) {w : Write} (enters : w.Enters s.db s'.sequences)
    (index : s'.db.index.Perm (s.db.index ++ w.inserts)) (grows : s.sequences.Grows s'.sequences) :
    s'.Consistent where
  nodup := by
    rw [index.nodup_iff, List.nodup_append']
    exact ⟨consistent.nodup, enters.nodup, fun k old new => enters.absent k new old⟩
  below := by
    intro k member
    rcases List.mem_append.mp (index.mem_iff.mp member) with old | new
    · exact (consistent.below k old).mono grows
    · exact enters.below k new
  positive := consistent.positive.trans grows.1

theorem Session.Consistent.withRun (consistent : s.Consistent) {run : PipelineRun}
    (drawn : run.runId = s.sequences.runId) : (s.withRun run).Consistent := by
  have enters : (Write.insertRun run).Enters s.db (s.withRun run).sequences :=
    insertRun_enters consistent.below drawn
  exact consistent.enters enters (s.db.addRun_index run) ⟨le_rfl, Nat.le_succ _⟩

theorem Session.Consistent.withSourceFile (consistent : s.Consistent) {now : Timestamp}
    {metadata : SourceFileMetadata}
    (written : s.db.sourceFileInsertError (s.registration now metadata) = none) :
    (s.withSourceFile (s.registration now metadata)).Consistent := by
  have free := (sourceFileInsertError_none.mp written).2.2
  have enters : (Write.insertSource (s.registration now metadata)).Enters s.db
      (s.withSourceFile (s.registration now metadata)).sequences :=
    newSourceFile_enters consistent.positive free
  exact consistent.enters enters (s.db.addSourceFile_index _) ⟨Nat.le_succ _, le_rfl⟩

theorem OperationStep.consistent (step : OperationStep s s') (consistent : s.Consistent) :
    s'.Consistent := by
  cases step with
  | kept grows same => exact consistent.grown same.index grows
  | registered written => exact consistent.withSourceFile written
  | started got ready => exact consistent.withRun rfl
  | skipped got required => exact consistent.withRun rfl
  | loaded got ready => exact consistent.grown (Database.markLoaded_index _) (.refl _)
  | succeeded gotRun running ofSource got ready =>
    refine consistent.grown ?_ (.refl _)
    exact (Database.markSucceeded_index _ _).trans (Database.markLoaded_index _)
  | failed gotRun running => exact consistent.grown (Database.markFailed_index _ _) (.refl _)
  | evaluated gotRun succeeded grows same =>
    exact consistent.grown (same.index.trans (markEvaluated_index _ _ _ _)) grows

end Consistent

end TaxiPipeline
