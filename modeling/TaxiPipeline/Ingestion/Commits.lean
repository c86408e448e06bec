import TaxiPipeline.Ingestion.Calls

namespace TaxiPipeline

open ReadCommitted

/-- The three changes that a load commits together. -/
def Database.commitLoad (db : Database) {table : RawTable} (rows : List (RawRow table))
    (sourceFileId runId : Nat) (finishedAt : Timestamp) (counts : LoadCounts) : Database :=
  ((db.addRaws table rows).updateSourceFile sourceFileId (·.markLoaded finishedAt)).updateRun runId
    (·.markSucceeded finishedAt counts.toRunCounts)

/-- What one transaction of a call with the given metadata makes of the committed database. -/
inductive CommitStep (metadata : SourceFileMetadata) (db : Database) : Database → Prop where
  | nothing : CommitStep metadata db db
  | registered {sourceFileId : Nat} {status : SourceStatus} {now : Timestamp}
      (fits : metadata.fits = true) (checks : metadata.meetsChecks = true)
      (chosen : StatusChosen db metadata status) :
      CommitStep metadata db (db.addSourceFile (newSourceFile sourceFileId status now metadata))
  | started {runId : Nat} {source : SourceFile} {now : Timestamp}
      (held : db.Holds source.sourceFileId metadata .ready) (shown : db.Shows source) :
      CommitStep metadata db (db.addRun (runningRun runId source now))
  | skipped {runId : Nat} {source : SourceFile} {reason : SkipReason} {now : Timestamp}
      (held : db.Holds source.sourceFileId metadata reason.requiredStatus) (shown : db.Shows source) :
      CommitStep metadata db (db.addRun (skippedRun runId source reason now))
  | loaded {sourceFileId runId : Nat} {table : RawTable} {rows : List (RawRow table)} {counts : LoadCounts}
      {finishedAt : Timestamp} {run : PipelineRun} (held : db.Holds sourceFileId metadata .ready)
      (got : db.getRun runId = some run) (ofSource : run.sourceFileId = some sourceFileId)
      (running : run.status = .running) (counted : Counted metadata sourceFileId runId table rows counts) :
      CommitStep metadata db (db.commitLoad rows sourceFileId runId finishedAt counts)
  | failed {runId : Nat} {message : String} {now : Timestamp} {run : PipelineRun}
      (got : db.getRun runId = some run) (running : run.status = .running) :
      CommitStep metadata db (db.updateRun runId (·.markFailed now message))

/-- The points at which a call commits. -/
def Phase.AtCommit : Phase → Prop
  | .registering (.commit _) | .skipping _ _ (.commit _) | .starting _ (.commit _)
  | .loading _ _ (.commit _) | .failing _ _ _ .commit => True
  | _ => False

section AtCommit

variable {metadata : SourceFileMetadata} {db : Database} {pending : List Write}

theorem Phase.Session.commitStep {phase : Phase} (session : phase.Session metadata db pending)
    (atCommit : phase.AtCommit) : CommitStep metadata db (db.replay pending) := by
  unfold Phase.AtCommit at atCommit
  split at atCommit
  · have rest := session.2
    split at rest
    · obtain ⟨⟨now, rfl⟩, fits, checks, chosen⟩ := rest
      exact .registered fits checks chosen
    · cases rest.1
      exact .nothing
  · obtain ⟨held, source, run, rfl, rfl, ⟨now, same⟩, rfl, shown⟩ := session
    rw [same]
    exact .skipped held shown
  · obtain ⟨held, source, run, rfl, rfl, ⟨now, same⟩, rfl, shown⟩ := session
    rw [same]
    exact .started held shown
  · obtain ⟨held, ⟨run, got, ofSource, running⟩, table, rows, finishedAt, rfl, counted⟩ := session
    rw [Database.replay_append, Database.replay_insertRaw]
    exact .loaded held got ofSource running counted
  · obtain ⟨-, -, run, now, got, running, rfl⟩ := session
    exact .failed got running
  · exact atCommit.elim

theorem Reply.proceed_commit {Point Result : Type} {reply : Reply Point Result} {next : Point → Phase}
    {finish : Result → Phase} {abort : PyException → Phase}
    (committed : (reply.proceed next finish abort).1 = .commit) : ∃ result, reply = .commit result := by
  cases reply with
  | commit result => exact ⟨result, rfl⟩
  | read point => cases committed
  | write w point => cases committed
  | raise error => cases committed

theorem Reply.check_commit {α Point Result : Type} {result : Except PyException α}
    {next : α → Reply Point Result} {r : Result} (committed : Reply.check result next = .commit r) :
    ∃ a, next a = .commit r := by
  cases result with
  | ok a => exact ⟨a, committed⟩
  | error error => cases committed

theorem Reply.guarded_commit {Point Result : Type} {failure : Option PyException}
    {next : Reply Point Result} {r : Result} (committed : Reply.guarded failure next = .commit r) :
    next = .commit r := by
  cases failure with
  | none => exact committed
  | some error => cases committed

theorem RegistrationPoint.exec_commit {point : RegistrationPoint} {sequences : Sequences}
    {now : Timestamp} {result : SourceRegistrationResult}
    (committed : point.exec metadata db sequences now = .commit result) : point = .commit result := by
  cases point with
  | commit known => cases committed; rfl
  | findPartition => cases committed
  | findExactVersion | findRacedVersion error =>
    simp only [RegistrationPoint.exec] at committed
    split at committed <;> cases committed
  | insert status =>
    simp only [RegistrationPoint.exec] at committed
    split at committed
    · cases committed
    · split at committed <;> cases committed

theorem RecordPoint.exec_commit {point : RecordPoint} {require : SourceFile → Except PyException Unit}
    {newRun : Nat → SourceFile → PipelineRun} {sourceFileId : Nat} {sequences : Sequences} {runId : Nat}
    (committed : RecordPoint.exec require newRun sourceFileId db sequences point = .commit runId) :
    point = .commit runId := by
  cases point with
  | commit known => cases committed; rfl
  | select =>
    obtain ⟨source, committed⟩ := Reply.check_commit committed
    obtain ⟨-, committed⟩ := Reply.check_commit committed
    cases committed
  | insert source => cases Reply.guarded_commit committed

theorem LoadPoint.exec_commit {point : LoadPoint} {sourceFileId runId : Nat} {now : Timestamp}
    {counts : LoadCounts}
    (committed : point.exec metadata sourceFileId runId db now = some (.commit counts)) :
    point = .commit counts := by
  cases point with
  | commit known => cases committed; rfl
  | openFile => cases committed
  | copy table progress =>
    obtain ⟨rowsRead, rowsLoaded, copied, current, rest⟩ := progress
    have committed := Option.some.inj committed
    cases current with
    | cons row current => cases Reply.guarded_commit committed
    | nil => cases rest <;> cases committed
  | count table counts =>
    obtain ⟨-, committed⟩ := Reply.check_commit (Option.some.inj committed)
    cases committed
  | selectRun counts =>
    obtain ⟨run, committed⟩ := Reply.check_commit (Option.some.inj committed)
    obtain ⟨source, committed⟩ := Reply.check_commit committed
    cases committed
  | selectSource counts run source finishedAt =>
    obtain ⟨row, committed⟩ := Reply.check_commit (Option.some.inj committed)
    obtain ⟨-, committed⟩ := Reply.check_commit committed
    cases committed
  | updateSource counts run source finishedAt => cases committed
  | updateRun counts run finishedAt => cases Reply.guarded_commit (Option.some.inj committed)

theorem FailPoint.exec_commit {point : FailPoint} {runId : Nat} {message : String} {now : Timestamp}
    (committed : point.exec runId message db now = .commit ()) : point = .commit := by
  cases point with
  | commit => rfl
  | select =>
    obtain ⟨-, committed⟩ := Reply.check_commit committed
    obtain ⟨run, committed⟩ := Reply.check_commit committed
    cases committed
  | update run => cases Reply.guarded_commit committed

theorem Phase.advance_commit {request : Request} {sequences drawn : Sequences} {now : Timestamp}
    {phase : Phase} {outcome : Effect Write × Phase}
    (advanced : phase.advance request db sequences now = some (outcome, drawn))
    (committed : outcome.1 = .commit) : phase.AtCommit := by
  cases phase with
  | idle => cases advanced; cases committed
  | registering point =>
    cases advanced
    obtain ⟨result, reply⟩ := Reply.proceed_commit committed
    cases RegistrationPoint.exec_commit reply
    exact True.intro
  | skipping sourceFileId reason point =>
    cases advanced
    obtain ⟨runId, reply⟩ := Reply.proceed_commit committed
    cases RecordPoint.exec_commit reply
    exact True.intro
  | starting sourceFileId point =>
    cases advanced
    obtain ⟨runId, reply⟩ := Reply.proceed_commit committed
    cases RecordPoint.exec_commit reply
    exact True.intro
  | loading sourceFileId runId point =>
    obtain ⟨reply, executed, same⟩ := Option.map_eq_some_iff.mp advanced
    cases same
    obtain ⟨counts, rfl⟩ := Reply.proceed_commit committed
    cases LoadPoint.exec_commit executed
    exact True.intro
  | failing sourceFileId runId message point =>
    cases advanced
    obtain ⟨result, reply⟩ := Reply.proceed_commit committed
    cases FailPoint.exec_commit reply
    exact True.intro
  | finished outcome recorded => cases advanced
  | crashed recorded => cases advanced

theorem Phase.openFile_commit {request : Request} {now : Timestamp} {file : LandingFile} {phase : Phase}
    {outcome : Effect Write × Phase} (opened : phase.openFile request now file = some outcome) :
    outcome.1 ≠ .commit := by
  obtain ⟨metadata, batchSize, sourceFileId, runId, rfl, rfl, rfl⟩ := Phase.openFile_some opened
  intro committed
  obtain ⟨counts, reply⟩ := Reply.proceed_commit committed
  obtain ⟨table, committed⟩ := Reply.check_commit reply
  cases committed

theorem Phase.commitRaises_atCommit {phase next : Phase} {error : PyException}
    (raised : phase.commitRaises error = some next) : phase.AtCommit := by
  unfold Phase.commitRaises at raised
  split at raised <;> first | exact True.intro | cases raised

/-- A call commits only at the end of a transaction. -/
theorem Request.exec_commit {request : Request} {phase next : Phase} {sequences drawn : Sequences}
    {e : Event} (executed : request.exec phase db sequences e = some (.commit, next, drawn)) :
    phase.AtCommit := by
  cases e with
  | next now =>
    obtain ⟨⟨outcome, drawn'⟩, advanced, same⟩ := Option.map_eq_some_iff.mp executed
    exact Phase.advance_commit advanced (Prod.ext_iff.mp same).1
  | openFile now file =>
    obtain ⟨outcome, opened, same⟩ := Option.map_eq_some_iff.mp executed
    exact absurd (Prod.ext_iff.mp same).1 (Phase.openFile_commit opened)
  | raise error =>
    obtain ⟨next', -, same⟩ := Option.map_eq_some_iff.mp executed
    cases same
  | commitRaises error =>
    obtain ⟨next', raised, -⟩ := Option.map_eq_some_iff.mp executed
    exact Phase.commitRaises_atCommit raised
  | crash =>
    obtain ⟨next', -, same⟩ := Option.map_eq_some_iff.mp executed
    cases same

end AtCommit

end TaxiPipeline
