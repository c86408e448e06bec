import TaxiPipeline.Ingestion.Program
import TaxiPipeline.Ingestion.Sessions
import TaxiPipeline.ReadCommitted.Alone

namespace TaxiPipeline

open ReadCommitted Stateful Transaction

/-- What a statement meets when nothing goes wrong: its turn, or the file that the load opens. -/
def LandingFile.turn (file : LandingFile) : Phase → Timestamp → Event
  | .loading _ _ .openFile, now => .openFile now file
  | _, now => .next now

/-- The platform of one call. -/
abbrev Request.program (request : Request) :
    Program Unit Phase Event Database Sequences Write IndexKey :=
  ingestion fun _ => request

/-- The undisturbed call comes to a state with `Q`, at whatever times its statements run. -/
abbrev Request.Comes (request : Request) (file : LandingFile)
    (Q : State Unit Phase Database Sequences Write → Prop) :
    State Unit Phase Database Sequences Write → Prop :=
  request.program.Eventually file.turn Q

/-- The state after a statement with the given reply. -/
def afterReply {Point Result : Type} (db : Database) (pending : List Write) (drawn : Sequences)
    (next : Point → Phase) (finish : Result → Phase) (abort : PyException → Phase) :
    Reply Point Result → State Unit Phase Database Sequences Write
  | .read point => .alone db drawn (next point) pending
  | .write w point => .alone db drawn (next point) (pending ++ [w])
  | .commit result => .alone (db.replay pending) drawn (finish result) []
  | .raise error => .alone db drawn (abort error) []

/-- The state after a transaction that did what a function of the services does. -/
def landed {α : Type} (finish : α → Phase) (abort : PyException → Phase) :
    Except PyException α × Session → State Unit Phase Database Sequences Write
  | (.ok a, s) => .alone s.db s.sequences (finish a) []
  | (.error error, s) => .alone s.db s.sequences (abort error) []

section Statements

variable {request : Request} {file : LandingFile} {Q : State Unit Phase Database Sequences Write → Prop}
  {db : Database} {sequences : Sequences} {pending : List Write}

theorem settled_proceed {Point Result : Type} {drawn : Sequences} {next : Point → Phase}
    {finish : Result → Phase} {abort : PyException → Phase} (reply : Reply Point Result) :
    request.program.settled db pending (reply.proceed next finish abort).2 drawn
      (reply.proceed next finish abort).1 = afterReply db pending drawn next finish abort reply := by
  cases reply <;> rfl

theorem comes_idle (rest : request.Comes file Q (.alone db sequences request.begin pending)) :
    request.Comes file Q (.alone db sequences .idle pending) :=
  .alone (fun _ => rfl) fun _ => rest

theorem comes_registering {point : RegistrationPoint}
    (rest : ∀ now, request.Comes file Q (afterReply db pending (point.draw sequences) .registering
      request.afterRegistration (raisedPhase none)
      (point.exec request.metadata (db.replay pending) sequences now))) :
    request.Comes file Q (.alone db sequences (.registering point) pending) := by
  refine .alone (fun _ => rfl) fun now => ?_
  rw [settled_proceed]
  exact rest now

theorem comes_skipping {sourceFileId : Nat} {reason : SkipReason} {point : RecordPoint}
    (rest : ∀ now, request.Comes file Q (afterReply db pending (point.draw sequences)
      (.skipping sourceFileId reason) (request.afterSkip sourceFileId reason) (raisedPhase none)
      (skippedRunExec sourceFileId reason (db.replay pending) sequences now point))) :
    request.Comes file Q (.alone db sequences (.skipping sourceFileId reason point) pending) := by
  refine .alone (fun _ => rfl) fun now => ?_
  rw [settled_proceed]
  exact rest now

theorem comes_starting {sourceFileId : Nat} {point : RecordPoint}
    (rest : ∀ now, request.Comes file Q (afterReply db pending (point.draw sequences)
      (.starting sourceFileId) (.loading sourceFileId · .openFile) (raisedPhase none)
      (startRunExec sourceFileId (db.replay pending) sequences now point))) :
    request.Comes file Q (.alone db sequences (.starting sourceFileId point) pending) := by
  refine .alone (fun _ => rfl) fun now => ?_
  rw [settled_proceed]
  exact rest now

theorem comes_failing {sourceFileId runId : Nat} {message : String} {point : FailPoint}
    (rest : ∀ now, request.Comes file Q (afterReply db pending sequences
      (.failing sourceFileId runId message) (fun _ => afterFailure runId message) (raisedPhase (some runId))
      (point.exec runId message (db.replay pending) now))) :
    request.Comes file Q (.alone db sequences (.failing sourceFileId runId message point) pending) := by
  refine .alone (fun _ => rfl) fun now => ?_
  rw [settled_proceed]
  exact rest now

end Statements

section Functions

variable {request : Request} {file : LandingFile} {db : Database} {sequences : Sequences}

/-- Alone, the statements of a registration do what `prepare_ingestion` does. -/
theorem registering_comes :
    request.Comes file (fun t => ∃ now, t = landed request.afterRegistration (raisedPhase none)
      (atomically (prepareIngestion now request.metadata) ⟨db, sequences⟩))
      (.alone db sequences (.registering .findExactVersion) []) := by
  refine comes_registering fun now => ?_
  cases found : db.findExactVersion request.metadata with
  | some existing =>
    have reply : RegistrationPoint.findExactVersion.exec request.metadata (db.replay []) sequences now =
        .read (.commit (registrationResult existing false)) := by
      simp [RegistrationPoint.exec, found]
    rw [reply]
    refine comes_registering fun now => .here ⟨now, ?_⟩
    simp [afterReply, RegistrationPoint.exec, RegistrationPoint.draw, landed, atomically, prepareIngestion,
      registerSourceFile, found, database]
  | none =>
    have reply : RegistrationPoint.findExactVersion.exec request.metadata (db.replay []) sequences now =
        .read .findPartition := by
      simp [RegistrationPoint.exec, found]
    rw [reply]
    refine comes_registering fun now => comes_registering fun now => ?_
    simp only [RegistrationPoint.exec, RegistrationPoint.draw, Database.replay_nil]
    cases inserted : db.sourceFileInsertError (newSourceFile sequences.sourceFileId
        (registrationStatus (db.findPartition request.metadata.partitionKey)) now request.metadata) with
    | none =>
      refine comes_registering fun later => .here ⟨now, ?_⟩
      simp [afterReply, RegistrationPoint.exec, RegistrationPoint.draw, landed, atomically, prepareIngestion,
        registerSourceFile, found, database, Attempt.tryCatch, insertSourceFile, drawSourceFileId, inserted,
        update, Write.apply]
    | some error =>
      dsimp only
      split
      · rename_i integrity
        refine comes_registering fun later => .here ⟨now, ?_⟩
        simp [afterReply, RegistrationPoint.exec, RegistrationPoint.draw, landed, atomically,
          prepareIngestion, registerSourceFile, found, database, Attempt.tryCatch, insertSourceFile,
          drawSourceFileId, inserted, recoverRacedVersion, integrity]
      · rename_i other
        refine .here ⟨now, ?_⟩
        simp [afterReply, landed, atomically, prepareIngestion, registerSourceFile, found, database,
          Attempt.tryCatch, insertSourceFile, drawSourceFileId, inserted, recoverRacedVersion, other]

/-- An ingestion alone goes on from what `prepare_ingestion` answers. -/
theorem ingesting_comes {s : Session} {metadata : SourceFileMetadata} {batchSize : Int}
    {Q : State Unit Phase Database Sequences Write → Prop} (positive : 0 < batchSize)
    (rest : ∀ now, (Request.ingest metadata batchSize).Comes file Q
      (landed (Request.ingest metadata batchSize).afterRegistration (raisedPhase none)
        (atomically (prepareIngestion now metadata) s))) :
    (Request.ingest metadata batchSize).Comes file Q (.alone s.db s.sequences .idle []) := by
  have begins : (Request.ingest metadata batchSize).begin = .registering .findExactVersion :=
    if_neg (not_le.mpr positive)
  refine comes_idle ?_
  rw [begins]
  refine registering_comes.bind fun t answered => ?_
  obtain ⟨now, rfl⟩ := answered
  exact rest now

/-- What `start_run` and `create_skipped_run` have in common. -/
def recordRun (require : SourceFile → Except PyException Unit) (newRun : Nat → SourceFile → PipelineRun)
    (sourceFileId : Nat) : Transaction PipelineRun := do
  let source ← Attempt.lift ((← Transaction.database).requireSourceFile sourceFileId)
  Attempt.lift (require source)
  insertRun (newRun · source)

/-- Alone, the statements that record a run do what the transaction does, in whatever phase they are made. -/
theorem recording_comes {require : SourceFile → Except PyException Unit}
    {newRun : Timestamp → Nat → SourceFile → PipelineRun} {sourceFileId : Nat} {next : RecordPoint → Phase}
    {finish : Nat → Phase}
    (step : ∀ {Q : State Unit Phase Database Sequences Write → Prop} {db : Database} {sequences : Sequences}
      {pending : List Write} {point : RecordPoint},
      (∀ now, request.Comes file Q (afterReply db pending (point.draw sequences) next finish (raisedPhase none)
        (RecordPoint.exec require (newRun now) sourceFileId (db.replay pending) sequences point))) →
      request.Comes file Q (.alone db sequences (next point) pending)) :
    request.Comes file (fun t => ∃ now, t = landed (fun run => finish run.runId) (raisedPhase none)
      (atomically (recordRun require (newRun now) sourceFileId) ⟨db, sequences⟩))
      (.alone db sequences (next .select) []) := by
  refine step fun now => ?_
  simp only [RecordPoint.exec, RecordPoint.draw, Database.replay_nil]
  cases found : db.requireSourceFile sourceFileId with
  | error error =>
    refine .here ⟨now, ?_⟩
    simp [Reply.check, afterReply, landed, atomically, recordRun, database, found]
  | ok source =>
    dsimp only [Reply.check]
    cases allowed : require source with
    | error error =>
      refine .here ⟨now, ?_⟩
      simp [afterReply, landed, atomically, recordRun, database, found, allowed]
    | ok =>
      refine step fun now => ?_
      simp only [RecordPoint.exec, RecordPoint.draw]
      cases written : (newRun now sequences.runId source).writeError with
      | some error =>
        refine .here ⟨now, ?_⟩
        simp [Reply.guarded, afterReply, landed, atomically, recordRun, database, found, allowed, insertRun,
          drawRunId, written]
      | none =>
        refine step fun later => .here ⟨now, ?_⟩
        simp [afterReply, landed, atomically, recordRun, database, found, allowed, insertRun, drawRunId, written,
          RecordPoint.exec, RecordPoint.draw, update, Write.apply]

theorem skipping_comes (sourceFileId : Nat) (reason : SkipReason) :
    request.Comes file (fun t => ∃ now, t = landed
      (fun run => request.afterSkip sourceFileId reason run.runId) (raisedPhase none)
      (atomically (createSkippedRun now sourceFileId reason.value) ⟨db, sequences⟩))
      (.alone db sequences (.skipping sourceFileId reason .select) []) := by
  have same : ∀ now, createSkippedRun now sourceFileId reason.value =
      recordRun (requireSkippable · reason) (skippedRun · · reason now) sourceFileId := by
    intro now
    simp only [createSkippedRun, SkipReason.ofValue_value, recordRun]
  simp only [same]
  exact recording_comes comes_skipping

theorem starting_comes (sourceFileId : Nat) :
    request.Comes file (fun t => ∃ now, t = landed
      (fun run => .loading sourceFileId run.runId .openFile) (raisedPhase none)
      (atomically (startRun now sourceFileId) ⟨db, sequences⟩))
      (.alone db sequences (.starting sourceFileId .select) []) :=
  recording_comes comes_starting

theorem failing_comes (sourceFileId runId : Nat) (message : String) :
    request.Comes file (fun t => ∃ now, t = landed
      (fun _ => afterFailure runId message) (raisedPhase (some runId))
      (atomically (markRunFailed now runId message) ⟨db, sequences⟩))
      (.alone db sequences (.failing sourceFileId runId message .select) []) := by
  refine comes_failing fun now => ?_
  simp only [FailPoint.exec, Database.replay_nil]
  cases nonblank : requireMessage message with
  | error error =>
    refine .here ⟨now, ?_⟩
    simp [Reply.check, afterReply, landed, atomically, markRunFailed, nonblank]
  | ok =>
    dsimp only [Reply.check]
    cases found : db.requireRunningRun runId with
    | error error =>
      refine .here ⟨now, ?_⟩
      simp [afterReply, landed, atomically, markRunFailed, nonblank, database, found]
    | ok run =>
      refine comes_failing fun now => ?_
      simp only [FailPoint.exec]
      cases written : (run.markFailed now message).writeError with
      | some error =>
        refine .here ⟨now, ?_⟩
        simp [Reply.guarded, afterReply, landed, atomically, markRunFailed, nonblank, database, found,
          finishRun_apply, written]
      | none =>
        refine comes_failing fun later => .here ⟨now, ?_⟩
        simp [afterReply, landed, atomically, markRunFailed, nonblank, database, found, finishRun_apply, written,
          FailPoint.exec, Write.apply]

end Functions

end TaxiPipeline
