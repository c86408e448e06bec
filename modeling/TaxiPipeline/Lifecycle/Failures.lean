import TaxiPipeline.Ingestion.FaultFree
import TaxiPipeline.Lifecycle.Skips

namespace TaxiPipeline

open ReadCommitted Stateful Transaction

/-- What an ingestion that loads its file leaves: its succeeded run and all rows of the file. -/
def Session.LoadedBy (s : Session) (file : LandingFile) (table : RawTable) (sourceFileId : Nat)
    (t : Platform Unit) : Prop :=
  ∃ result rows, t.phase () = .finished (.returned result) (some result.runId) ∧ t.pending () = [] ∧
    result.status = .succeeded ∧ result.sourceFileId = sourceFileId ∧
    (∀ other ∈ s.db.pipelineRuns, other.runId ≠ result.runId) ∧
    result.rowsLoaded = (file table).flatten.length ∧ file.Copied table sourceFileId result.runId rows ∧
    t.committed.raw = Function.update s.db.raw table (s.db.raw table ++ rows) ∧
    (∃ run, t.committed.getRun result.runId = some run ∧ run.status = .succeeded) ∧
    ∃ source, t.committed.getSourceFile sourceFileId = some source ∧ source.status = .loaded

section Ready

variable {s : Session} {metadata : SourceFileMetadata} {source : SourceFile}

theorem startRun_alone (got : s.db.getSourceFile source.sourceFileId = some source)
    (ready : source.status = .ready) (fits : source.fits = true) (checks : source.meetsChecks = true)
    (now : Timestamp) :
    atomically (startRun now source.sourceFileId) s =
      (.ok (runningRun s.sequences.runId source now), s.withRun (runningRun s.sequences.runId source now)) := by
  have startable := requireStartable_ok.mpr ready
  have written : (runningRun s.sequences.runId source now).writeError = none := runningRun_writeError fits checks
  simp [atomically, startRun, database, requireSourceFile_got got, startable, insertRun, drawRunId, written,
    update, Session.withRun]

theorem Session.Consistent.getRun_withRun (consistent : s.Consistent) {run : PipelineRun}
    (drawn : run.runId = s.sequences.runId) : (s.withRun run).db.getRun run.runId = some run :=
  Database.getRun_of_mem (consistent.withRun drawn).nodup (by simp [Session.withRun, Database.addRun])

theorem Session.Consistent.fresh_run (consistent : s.Consistent) :
    ∀ other ∈ s.db.pipelineRuns, other.runId ≠ s.sequences.runId := by
  intro other member same
  have below : other.runId < s.sequences.runId :=
    consistent.below _ (Database.mem_index_run.mpr ⟨other, member, rfl⟩)
  exact lt_irrefl _ (same ▸ below)

theorem Database.RowsOfLoaded.empty {db : Database} (loaded : db.RowsOfLoaded)
    (got : db.getSourceFile source.sourceFileId = some source) (ready : source.status = .ready)
    (table : RawTable) : db.rowsOf table source.sourceFileId = [] := by
  refine List.eq_nil_iff_forall_not_mem.mpr fun row member => ?_
  obtain ⟨inTable, sameId⟩ := Database.mem_rowsOf.mp member
  obtain ⟨other, gotOther, isLoaded⟩ := loaded table row inTable
  rw [sameId, got] at gotOther
  cases gotOther
  rw [ready] at isLoaded
  cases isLoaded

theorem starting_version_loads {batchSize : Int} {file : LandingFile} {table : RawTable}
    (consistent : s.Consistent) (valid : ValidSources s.db) (loaded : s.db.RowsOfLoaded)
    (got : s.db.getSourceFile source.sourceFileId = some source) (ready : source.status = .ready)
    (matching : file.Matches metadata table) :
    (Request.ingest metadata batchSize).Comes file (s.LoadedBy file table source.sourceFileId)
      (.alone s.db s.sequences (.starting source.sourceFileId .select) []) := by
  refine (starting_comes _).bind fun t started => ?_
  obtain ⟨later, rfl⟩ := started
  obtain ⟨fits, checks⟩ := valid got
  rw [show (⟨s.db, s.sequences⟩ : Session) = s from rfl, startRun_alone got ready fits checks later]
  let run := runningRun s.sequences.runId source later
  have gotRun : (s.withRun run).db.getRun run.runId = some run := consistent.getRun_withRun rfl
  have gotAfter : (s.withRun run).db.getSourceFile source.sourceFileId = some source := got
  have after : (s.withRun run).Consistent := consistent.withRun rfl
  refine (loading_comes matching gotAfter ready gotRun rfl rfl (runningRun_writeError fits checks)
    after.nodup (loaded.empty got ready)).mono fun t ended => ?_
  obtain ⟨rows, finishedAt, counts, copied, rfl, rfl⟩ := ended
  refine ⟨_, rows, rfl, rfl, rfl, rfl, consistent.fresh_run, copied.length, copied, rfl, ?_, ?_⟩
  · exact ⟨_, Database.getRun_markSucceeded finishedAt _ gotRun, rfl⟩
  · refine ⟨source.markLoaded finishedAt, ?_, rfl⟩
    refine (Database.getSourceFile_markLoaded finishedAt).trans ?_
    rw [Database.getSourceFile_addRaws]
    exact (congrArg _ got).trans (by rw [Option.map_some, if_pos rfl])

theorem afterRegistration_ready {batchSize : Int} (ready : source.status = .ready) (isNew : Bool) :
    (Request.ingest metadata batchSize).afterRegistration (registrationResult source isNew) =
      .starting source.sourceFileId .select := by
  simp [Request.afterRegistration, registrationResult, ready, decisionForSourceStatus, IngestionDecision.skipReason]

/-- A ready version is loaded from a matching file when nothing goes wrong. -/
theorem ready_version_loads {batchSize : Int} {file : LandingFile} {table : RawTable}
    (consistent : s.Consistent) (valid : ValidSources s.db) (loaded : s.db.RowsOfLoaded)
    (found : s.db.findExactVersion metadata = some source) (ready : source.status = .ready)
    (positive : 0 < batchSize) (matching : file.Matches metadata table) :
    (Request.ingest metadata batchSize).Comes file (s.LoadedBy file table source.sourceFileId)
      (.alone s.db s.sequences .idle []) := by
  have got : s.db.getSourceFile source.sourceFileId = some source :=
    Database.getSourceFile_of_mem consistent.nodup (findExactVersion_some found).1
  refine ingesting_comes positive fun now => ?_
  rw [prepareIngestion_known found now]
  simp only [landed, afterRegistration_ready ready]
  exact starting_version_loads consistent valid loaded got ready matching

end Ready

/-- What a failed ingestion leaves: its failed run, and at most the row of its version. -/
def Database.FailedOnce (db db' : Database) (metadata : SourceFileMetadata) (sourceFileId runId : Nat) :
    Prop :=
  ∃ source run finishedAt message, source ∈ db'.sourceFiles ∧ source.sourceFileId = sourceFileId ∧
    source.partitionKey = metadata.partitionKey ∧ source.checksumSha256 = metadata.checksumSha256 ∧
    source.status = .ready ∧
    (db'.sourceFiles = db.sourceFiles ∨ db'.sourceFiles = db.sourceFiles ++ [source]) ∧
    (∀ other ∈ db.pipelineRuns, other.runId ≠ runId) ∧ run.runId = runId ∧
    run.sourceFileId = some sourceFileId ∧ run.status = .failed ∧ run.finishedAt = some finishedAt ∧
    run.errorMessage = some message ∧ isBlank message = false ∧ message.length ≤ 1000 ∧
    db'.pipelineRuns = db.pipelineRuns ++ [run] ∧ db'.raw = db.raw ∧
    db'.qualityResults = db.qualityResults

/-- The call has raised `IngestionError` over such a database, from which every further call with a
    matching file loads it. -/
def Session.FailsAtomically (s : Session) (metadata : SourceFileMetadata) (sourceFileId runId : Nat)
    (t : Platform Unit) : Prop :=
  (∃ message, t.phase () = .finished (.raised ⟨.ingestionError, message⟩) (some runId)) ∧
    t.pending () = [] ∧ s.db.FailedOnce t.committed metadata sourceFileId runId ∧
    ∀ (batchSize : Int) (file : LandingFile) (table : RawTable), 0 < batchSize →
      file.Matches metadata table →
        (Request.ingest metadata batchSize).Comes file
          (Session.LoadedBy ⟨t.committed, t.external⟩ file table sourceFileId)
          (.alone t.committed t.external .idle [])

section Failing

variable {request : Request} {sourceFileId runId : Nat} {message : String}

/-- A load that goes to its failure handler has been rolled back, unless a commit took effect and raised. -/
theorem exec_failing {db : Database} {sequences drawn : Sequences} {point : LoadPoint} {e : Event}
    {effect : Effect Write}
    (executed : request.exec (.loading sourceFileId runId point) db sequences e =
      some (effect, .failing sourceFileId runId message .select, drawn))
    (noEffect : ∀ error, e ≠ .commitRaises error) : effect = .rollback ∧ drawn = sequences := by
  cases e with
  | next now =>
    obtain ⟨⟨outcome, drawn'⟩, advanced, same⟩ := Option.map_eq_some_iff.mp executed
    obtain ⟨reply, -, sameOutcome⟩ := Option.map_eq_some_iff.mp advanced
    cases sameOutcome
    cases reply with
    | read point | write w point | commit counts => cases same
    | raise error =>
      cases same
      exact ⟨rfl, rfl⟩
  | openFile now file =>
    obtain ⟨outcome, opened, same⟩ := Option.map_eq_some_iff.mp executed
    obtain ⟨metadata, batchSize, sourceFileId, runId, rfl, loading, rfl⟩ := Phase.openFile_some opened
    generalize openExec metadata batchSize _ _ now file = reply at same
    cases reply with
    | read point | write w point | commit counts => cases same
    | raise error =>
      cases same
      exact ⟨rfl, rfl⟩
  | raise error =>
    cases executed
    exact ⟨rfl, rfl⟩
  | commitRaises error => exact absurd rfl (noEffect error)
  | crash => cases executed

theorem step_failing {u t : Platform Unit} {point : LoadPoint} {e : Event}
    (stepped : request.program.step u () e = some t) (loading : u.phase () = .loading sourceFileId runId point)
    (failing : t.phase () = .failing sourceFileId runId message .select)
    (noEffect : ∀ error, e ≠ .commitRaises error) :
    t = .alone u.committed u.external (.failing sourceFileId runId message .select) [] := by
  rw [u.eq_alone, Program.step_alone, loading] at stepped
  obtain ⟨⟨effect, next, drawn⟩, executed, rfl⟩ := Option.map_eq_some_iff.mp stepped
  have isNext : next = .failing sourceFileId runId message .select := by
    cases effect <;> exact failing
  subst isNext
  obtain ⟨rfl, rfl⟩ := exec_failing executed noEffect
  rfl

variable {s base : Session} {metadata : SourceFileMetadata} {source : SourceFile} {run : PipelineRun}
  {pending : List Write}

theorem updateRun_last {db : Database} (fresh : ∀ other ∈ db.pipelineRuns, other.runId ≠ run.runId)
    (change : PipelineRun → PipelineRun) :
    (db.addRun run).updateRun run.runId change = db.addRun (change run) := by
  have others : db.pipelineRuns.map (fun other => if other.runId = run.runId then change other else other) =
      db.pipelineRuns := by
    refine (List.map_congr_left fun other member => ?_).trans (List.map_id _)
    exact if_neg (fresh other member)
  simp [Database.updateRun, Database.addRun, others]

/-- The failure handler finds its run still running; what it writes depends on the message. -/
theorem markRunFailed_alone (consistent : base.Consistent) (drawn : run.runId = base.sequences.runId)
    (running : run.status = .running) (writable : run.writeError = none)
    (nonblank : isBlank message = false) (now : Timestamp) :
    atomically (markRunFailed now run.runId message) (base.withRun run) =
      if storable message then
        (.ok (run.markFailed now message), base.withRun (run.markFailed now message))
      else (.error (dataError "value out of range for a column of pipeline_runs"), base.withRun run) := by
  have gotRun := consistent.getRun_withRun drawn
  have found := requireRunningRun_got gotRun running
  have message_ok := requireMessage_ok.mpr nonblank
  by_cases stored : storable message = true
  · have written : (run.markFailed now message).writeError = none := (markFailed_writeError writable).mpr stored
    have fresh : ∀ other ∈ base.db.pipelineRuns, other.runId ≠ run.runId := drawn ▸ consistent.fresh_run
    have replaced := updateRun_last fresh (·.markFailed now message)
    rw [if_pos stored]
    simp [atomically, markRunFailed, message_ok, database, found, finishRun_apply, written]
    exact congrArg (Session.mk · _) replaced
  · have unfit : (run.markFailed now message).fits = false := by
      simp [PipelineRun.fits, PipelineRun.markFailed, stored]
    rw [if_neg stored]
    simp [atomically, markRunFailed, message_ok, database, found, finishRun_apply, PipelineRun.writeError, unfit]

theorem Registration.findExactVersion (registered : Registration s metadata source base pending) :
    base.db.findExactVersion metadata = some source := by
  cases registered with
  | found found => exact found
  | inserted absent written =>
    unfold Database.findExactVersion at absent ⊢
    simp [Session.withSourceFile, Database.addSourceFile, List.find?_append, absent, Session.registration,
      newSourceFile]

theorem Registration.sourceFiles (registered : Registration s metadata source base pending) :
    base.db.sourceFiles = s.db.sourceFiles ∨ base.db.sourceFiles = s.db.sourceFiles ++ [source] := by
  cases registered with
  | found found => exact .inl rfl
  | inserted absent written => exact .inr rfl

theorem Registration.others (registered : Registration s metadata source base pending) :
    base.db.pipelineRuns = s.db.pipelineRuns ∧ base.db.raw = s.db.raw ∧
      base.db.qualityResults = s.db.qualityResults := by
  cases registered <;> exact ⟨rfl, rfl, rfl⟩

theorem finished_stuck {file : LandingFile} {t : Platform Unit} {outcome : Outcome} {recorded : Option Nat}
    (finished : t.phase () = .finished outcome recorded) (now : Timestamp) :
    request.program.step t () (file.turn (t.phase ()) now) = none := by
  rw [finished, t.eq_alone, Program.step_alone, finished]
  rfl

end Failing

/-- A call alone whose load has just been rolled back, with its run started. -/
structure Session.RolledBack (s : Session) (metadata : SourceFileMetadata) (message : String)
    (source : SourceFile) (base : Session) (run : PipelineRun) (t : Platform Unit) : Prop where
  started : Started s metadata source base run
  state : t = .alone (base.withRun run).db (base.withRun run).sequences
    (.failing source.sourceFileId run.runId message .select) []

section RolledBack

variable {s base : Session} {metadata : SourceFileMetadata} {batchSize : Int} {u t : Platform Unit}
  {source : SourceFile} {run : PipelineRun} {message : String} {file : LandingFile}

theorem load_rolledBack {events : List (Unit × Event)} {e : Event} {sourceFileId runId : Nat}
    {point : LoadPoint} (consistent : s.Consistent)
    (ran : (Request.ingest metadata batchSize).program.run (.alone s.db s.sequences .idle []) events = some u)
    (loading : u.phase () = .loading sourceFileId runId point)
    (stepped : (Request.ingest metadata batchSize).program.step u () e = some t)
    (failing : t.phase () = .failing sourceFileId runId message .select)
    (noEffect : ∀ error, e ≠ .commitRaises error) :
    ∃ source base run, source.sourceFileId = sourceFileId ∧ run.runId = runId ∧
      s.RolledBack metadata message source base run t := by
  have reached := run_atPhase consistent ran
  rw [loading] at reached
  obtain ⟨source, base, run, started, rfl, rfl, sameDb, sameSequences⟩ := reached
  refine ⟨source, base, run, rfl, rfl, started, ?_⟩
  rw [step_failing stepped loading failing noEffect, sameDb, sameSequences]

theorem Session.RolledBack.before (rolledBack : s.RolledBack metadata message source base run t)
    (consistent : s.Consistent) : base.Consistent ∧ run.runId = base.sequences.runId := by
  obtain ⟨pending, registered⟩ := rolledBack.started.registered
  obtain ⟨now, run_eq⟩ := rolledBack.started.run_eq
  exact ⟨registered.consistent consistent, congrArg PipelineRun.runId run_eq⟩

/-- The failure handler ends the run, or leaves it running when the message cannot be stored. -/
theorem Session.RolledBack.handled (rolledBack : s.RolledBack metadata message source base run t)
    (consistent : s.Consistent) (nonblank : isBlank message = false) :
    (Request.ingest metadata batchSize).Comes file
      (fun f => ∃ later, f = landed (fun _ => afterFailure run.runId message) (raisedPhase (some run.runId))
        (if storable message then
          (.ok (run.markFailed later message), base.withRun (run.markFailed later message))
        else (.error (dataError "value out of range for a column of pipeline_runs"), base.withRun run))) t := by
  obtain ⟨before, drawn⟩ := rolledBack.before consistent
  obtain ⟨now, run_eq⟩ := rolledBack.started.run_eq
  have running : run.status = .running := congrArg PipelineRun.status run_eq
  rw [rolledBack.state]
  refine (failing_comes _ _ _).mono fun f landed => ?_
  obtain ⟨later, rfl⟩ := landed
  exact ⟨later, congrArg _
    (markRunFailed_alone before drawn running rolledBack.started.written nonblank later)⟩

theorem Session.RolledBack.not_atomic (rolledBack : s.RolledBack metadata message source base run t)
    (consistent : s.Consistent) (nonblank : isBlank message = false) (unstorable : ¬ storable message = true) :
    ¬ (Request.ingest metadata batchSize).Comes file
      (s.FailsAtomically metadata source.sourceFileId run.runId) t := by
  intro atomic
  have handled := @handled _ _ _ batchSize _ _ _ _ file rolledBack consistent nonblank
  simp only [if_neg unstorable] at handled
  obtain ⟨f, ⟨⟨_, raised⟩, -⟩, later, rfl⟩ := atomic.meet handled
    (fun f ends => finished_stuck ends.1.choose_spec)
    (fun f ends => by obtain ⟨later, rfl⟩ := ends; exact finished_stuck rfl)
  cases raised

theorem Session.RolledBack.atomic (rolledBack : s.RolledBack metadata message source base run t)
    (consistent : s.Consistent) (valid : ValidSources s.db) (loaded : s.db.RowsOfLoaded)
    (nonblank : isBlank message = false) (short : message.length ≤ 1000)
    (stored : storable message = true) :
    (Request.ingest metadata batchSize).Comes file
      (s.FailsAtomically metadata source.sourceFileId run.runId) t := by
  have handled := @handled _ _ _ batchSize _ _ _ _ file rolledBack consistent nonblank
  simp only [if_pos stored] at handled
  obtain ⟨before, drawn⟩ := rolledBack.before consistent
  obtain ⟨pending, registered⟩ := rolledBack.started.registered
  obtain ⟨now, run_eq⟩ := rolledBack.started.run_eq
  obtain ⟨member, partition, checksum⟩ := registered.member
  obtain ⟨sameRuns, sameRaw, sameResults⟩ := registered.others
  have step := registered.commitStep consistent
  refine handled.mono fun f ends => ?_
  obtain ⟨later, rfl⟩ := ends
  have after : (base.withRun (run.markFailed later message)).Consistent := before.withRun drawn
  have fresh : ∀ other ∈ s.db.pipelineRuns, other.runId ≠ run.runId := by
    rw [← sameRuns, drawn]
    exact before.fresh_run
  have ofSource : run.sourceFileId = some source.sourceFileId := congrArg PipelineRun.sourceFileId run_eq
  have addedRun : (base.withRun (run.markFailed later message)).db.pipelineRuns =
      s.db.pipelineRuns ++ [run.markFailed later message] := congrArg (· ++ _) sameRuns
  refine ⟨⟨message, rfl⟩, rfl, ⟨source, run.markFailed later message, later, message, member, rfl, partition,
    checksum, rolledBack.started.ready, registered.sourceFiles, fresh, rfl, ofSource, rfl, rfl, rfl, nonblank,
    short, addedRun, sameRaw, sameResults⟩, fun batchSize file table positive matching => ?_⟩
  exact ready_version_loads after (step.validSources valid) (step.rowsOfLoaded registered.extends loaded)
    registered.findExactVersion rolledBack.started.ready positive matching

end RolledBack

/-- Failure atomicity: wherever in its load transaction an ingestion fails, it raises `IngestionError`
    over the state before, one failed run and at most its version, and can be repeated, if and only if
    the failure message can be stored. -/
theorem ingestion_fails_atomically_iff_storable {s : Session} {metadata : SourceFileMetadata}
    {batchSize : Int} {events : List (Unit × Event)} {u t : Platform Unit} {e : Event}
    {sourceFileId runId : Nat} {point : LoadPoint} {error : PyException} (file : LandingFile)
    (consistent : s.Consistent) (valid : ValidSources s.db) (loaded : s.db.RowsOfLoaded)
    (ran : (Request.ingest metadata batchSize).program.run (.alone s.db s.sequences .idle []) events = some u)
    (loading : u.phase () = .loading sourceFileId runId point)
    (stepped : (Request.ingest metadata batchSize).program.step u () e = some t)
    (failing : t.phase () = failingPhase sourceFileId runId error)
    (noEffect : ∀ error, e ≠ .commitRaises error) :
    (Request.ingest metadata batchSize).Comes file (s.FailsAtomically metadata sourceFileId runId) t ↔
      storable (safeErrorMessage error) = true := by
  obtain ⟨source, base, run, rfl, rfl, rolledBack⟩ :=
    load_rolledBack consistent ran loading stepped failing noEffect
  have nonblank := safeErrorMessage_not_blank error
  constructor
  · intro atomic
    by_contra unstorable
    exact rolledBack.not_atomic consistent nonblank unstorable atomic
  · exact rolledBack.atomic consistent valid loaded nonblank (safeErrorMessage_length error)

/-- The first call on the zone lookup, up to the opening of its file. -/
def zonesStarted : List (Unit × Event) := List.replicate 8 ((), .next 0)

theorem zonesStarted_loading :
    ∃ u, (Request.ingest zoneMetadata 1).program.run (.alone Session.start.db Session.start.sequences .idle [])
      zonesStarted = some u ∧ u.phase () = .loading 1 1 .openFile :=
  ⟨_, rfl, rfl⟩

theorem zonesStarted_raises (error : PyException) :
    ∃ u t, (Request.ingest zoneMetadata 1).program.run (.alone Session.start.db Session.start.sequences .idle [])
        zonesStarted = some u ∧ u.phase () = .loading 1 1 .openFile ∧
      (Request.ingest zoneMetadata 1).program.step u () (.raise error) = some t ∧
        t.phase () = failingPhase 1 1 error := by
  obtain ⟨u, ran, loading⟩ := zonesStarted_loading
  refine ⟨u, .alone u.committed u.external (failingPhase 1 1 error) [], ran, loading, ?_, rfl⟩
  rw [u.eq_alone, Program.step_alone, loading]
  rfl

theorem zonesFailure_atomic :
    ∃ u t, (Request.ingest zoneMetadata 1).program.run (.alone Session.start.db Session.start.sequences .idle [])
        zonesStarted = some u ∧
      (Request.ingest zoneMetadata 1).program.step u () (.raise (valueError "Missing columns")) = some t ∧
        (Request.ingest zoneMetadata 1).Comes zoneFile (Session.start.FailsAtomically zoneMetadata 1 1) t := by
  obtain ⟨u, t, ran, loading, stepped, failing⟩ := zonesStarted_raises (valueError "Missing columns")
  refine ⟨u, t, ran, stepped, (ingestion_fails_atomically_iff_storable zoneFile consistent_start
    orderly_start.valid orderly_start.loaded ran loading stepped failing nofun).mpr (by decide)⟩

/-- A NUL character in the exception's text stays in the failure message, which no text column takes. -/
theorem nulFailure_not_atomic :
    ∃ u t, (Request.ingest zoneMetadata 1).program.run (.alone Session.start.db Session.start.sequences .idle [])
        zonesStarted = some u ∧
      (Request.ingest zoneMetadata 1).program.step u () (.raise (valueError "\x00")) = some t ∧
        ¬ (Request.ingest zoneMetadata 1).Comes zoneFile (Session.start.FailsAtomically zoneMetadata 1 1) t := by
  obtain ⟨u, t, ran, loading, stepped, failing⟩ := zonesStarted_raises (valueError "\x00")
  obtain ⟨source, base, run, sourceId, sameRun, rolledBack⟩ :=
    load_rolledBack consistent_start ran loading stepped failing nofun
  have fails := @Session.RolledBack.not_atomic _ _ _ 1 _ _ _ _ zoneFile rolledBack consistent_start
    (safeErrorMessage_not_blank _) (by decide)
  rw [sourceId, sameRun] at fails
  exact ⟨u, t, ran, stepped, fails⟩

end TaxiPipeline
