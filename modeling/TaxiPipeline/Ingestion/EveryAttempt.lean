import TaxiPipeline.Ingestion.Attempts

namespace TaxiPipeline

open ReadCommitted

section Replies

variable {db : Database} {pending : List Write} {metadata : SourceFileMetadata} {sequences : Sequences}
  {sourceFileId runId : Nat}

theorem requireSourceFile_of_some {source : SourceFile}
    (got : db.getSourceFile sourceFileId = some source) : db.requireSourceFile sourceFileId = .ok source := by
  unfold Database.requireSourceFile
  rw [got]

theorem requireRunningRun_of_some {run : PipelineRun} (got : db.getRun runId = some run)
    (running : run.status = .running) : db.requireRunningRun runId = .ok run := by
  unfold Database.requireRunningRun Database.requireRun
  rw [got]
  simp [requireRunning_ok.mpr running, Bind.bind, Except.bind, Pure.pure, Except.pure]

theorem RecordPoint.exec_total {kind : PipelineRun → SourceFile → Prop}
    {require : SourceFile → Except PyException Unit} {newRun : Nat → SourceFile → PipelineRun}
    {point : RecordPoint} {source : SourceFile} (session : point.Session kind sourceFileId db pending)
    (got : point = .select → db.getSourceFile sourceFileId = some source ∧ require source = .ok ())
    (writable : ∀ runId source, db.Shows source → (newRun runId source).writeError = none) :
    (RecordPoint.exec require newRun sourceFileId (db.replay pending) sequences point).Spec
      (fun _ => True) (fun _ _ => True) (fun runId => point = .commit runId) (fun _ => False) := by
  cases point with
  | select =>
    cases session
    obtain ⟨got, passes⟩ := got rfl
    simp only [RecordPoint.exec, Database.replay_nil, requireSourceFile_of_some got, Reply.check, passes]
    exact True.intro
  | insert shown_source =>
    obtain ⟨rfl, -, shown⟩ := session
    simp only [RecordPoint.exec, writable _ _ shown, Reply.guarded]
    exact True.intro
  | commit runId => exact rfl

theorem skippedRunExec_total {reason : SkipReason} {point : RecordPoint} (sequences : Sequences)
    (now : Timestamp) (session : point.Session (IsSkipped reason) sourceFileId db pending)
    (held : db.Holds sourceFileId metadata reason.requiredStatus) (valid : ValidSources db) :
    (skippedRunExec sourceFileId reason (db.replay pending) sequences now point).Spec
      (fun _ => True) (fun _ _ => True) (fun runId => point = .commit runId) (fun _ => False) := by
  obtain ⟨source, got, -, -, reached⟩ := held
  refine RecordPoint.exec_total session
    (fun _ => ⟨got, requireSkippable_ok.mpr (SkipReason.reaches_required reached)⟩) fun _ _ shown => ?_
  exact skippedRun_writeError (valid.shown shown).1 (valid.shown shown).2

/-- `start_run` fails exactly if its source is no longer ready. -/
theorem startRunExec_total {point : RecordPoint} (batchSize : Int) (sequences : Sequences)
    (now : Timestamp) (session : point.Session IsRunning sourceFileId db pending)
    (held : db.Holds sourceFileId metadata .ready) (valid : ValidSources db) :
    (startRunExec sourceFileId (db.replay pending) sequences now point).Spec
      (fun _ => (Phase.starting sourceFileId point).Clean (.ingest metadata batchSize) db)
      (fun _ _ => (Phase.starting sourceFileId point).Clean (.ingest metadata batchSize) db)
      (fun _ => (Phase.starting sourceFileId point).Clean (.ingest metadata batchSize) db)
      (fun _ => ¬ (Phase.starting sourceFileId point).Clean (.ingest metadata batchSize) db) := by
  obtain ⟨source, got, -, -, reached⟩ := held
  by_cases clean : (Phase.starting sourceFileId point).Clean (.ingest metadata batchSize) db
  · have total : (startRunExec sourceFileId (db.replay pending) sequences now point).Spec
        (fun _ => True) (fun _ _ => True) (fun runId => point = .commit runId) (fun _ => False) := by
      refine RecordPoint.exec_total session (fun atSelect => ⟨got, ?_⟩) fun _ _ shown => ?_
      · subst atSelect
        obtain ⟨found, gotFound, ready⟩ := clean metadata batchSize rfl
        cases got.symm.trans gotFound
        exact requireStartable_ok.mpr ready
      · exact runningRun_writeError (valid.shown shown).1 (valid.shown shown).2
    exact total.mono (fun _ _ => clean) (fun _ _ _ => clean) (fun _ _ => clean) fun _ h => h.elim
  · cases point with
    | insert source => exact absurd (fun _ _ _ => True.intro) clean
    | commit runId => exact absurd (fun _ _ _ => True.intro) clean
    | select =>
      cases session
      have notReady : source.status ≠ .ready := fun ready =>
        clean fun _ _ _ => ⟨source, got, ready⟩
      have refused : requireStartable source = .error _ := if_pos notReady
      simp only [startRunExec, RecordPoint.exec, Database.replay_nil, requireSourceFile_of_some got,
        Reply.check, refused]
      exact clean

/-- `mark_run_failed` on a running run fails exactly if the message cannot be stored. -/
theorem FailPoint.exec_total {message : String} {point : FailPoint} {run : PipelineRun}
    (metadata : SourceFileMetadata) (batchSize : Int) (sourceFileId : Nat) (now : Timestamp)
    (session : point.Session runId message db pending) (written : isBlank message = false)
    (got : db.getRun runId = some run) (running : run.status = .running) (writable : WritableRuns db) :
    (point.exec runId message (db.replay pending) now).Spec
      (fun _ => (Phase.failing sourceFileId runId message point).Clean (.ingest metadata batchSize) db)
      (fun _ _ => (Phase.failing sourceFileId runId message point).Clean (.ingest metadata batchSize) db)
      (fun _ => point = .commit)
      (fun _ => ¬ (Phase.failing sourceFileId runId message point).Clean (.ingest metadata batchSize) db) := by
  cases point with
  | select =>
    cases session
    simp only [FailPoint.exec, Database.replay_nil, Reply.check, requireMessage_ok.mpr written,
      requireRunningRun_of_some got running]
    exact fun _ _ _ => True.intro
  | update known =>
    obtain ⟨rfl, gotKnown, knownRunning⟩ := session
    have storable_iff : (known.markFailed now message).writeError = none ↔ _ :=
      markFailed_writeError (writable gotKnown knownRunning)
    refine Reply.guarded_spec (fun stored _ _ _ => storable_iff.mp stored) fun error failed clean => ?_
    rw [storable_iff.mpr (clean metadata batchSize rfl)] at failed
    cases failed
  | commit => exact rfl

end Replies

section Accounted

variable {db : Database} {pending : List Write} {request : Request}

theorem Reply.Spec.accounted {Point Result : Type} {reply : Reply Point Result} {next : Point → Phase}
    {finish : Result → Phase} {abort : PyException → Phase} {clean : Prop}
    (spec : reply.Spec (fun _ => clean) (fun _ _ => clean)
      (fun result => clean ∧ (finish result).Accounted request (db.replay pending))
      (fun error => (abort error).Accounted request db ↔ clean))
    (active : ∀ point db, (next point).Accounted request db) :
    (reply.proceed next finish abort).2.Accounted request
      (committedAfter db pending (reply.proceed next finish abort).1) ↔ clean := by
  cases reply with
  | read point => exact ⟨fun _ => spec, fun _ => active point _⟩
  | write w point => exact ⟨fun _ => spec, fun _ => active point _⟩
  | commit result => exact ⟨fun _ => spec.1, fun _ => spec.2⟩
  | raise error => exact spec

theorem raisedPhase_unaccounted {metadata : SourceFileMetadata} {batchSize : Int} {error : PyException} :
    ¬ (raisedPhase none error).Accounted (.ingest metadata batchSize) db := by
  intro accounted
  obtain ⟨runId, run, impossible, -⟩ := accounted metadata batchSize rfl
  cases impossible

theorem raisedPhase_running {metadata : SourceFileMetadata} {batchSize : Int} {error : PyException}
    {runId : Nat} {run : PipelineRun} (got : db.getRun runId = some run) (running : run.status = .running) :
    ¬ (raisedPhase (some runId) error).Accounted (.ingest metadata batchSize) db := by
  intro accounted
  obtain ⟨runId', run', same, got', agrees⟩ := accounted metadata batchSize rfl
  cases same
  cases got.symm.trans got'
  have failed : run.status = .failed := agrees
  rw [running] at failed
  cases failed

theorem afterRegistration_accounted {metadata : SourceFileMetadata} {batchSize : Int}
    {result : SourceRegistrationResult} :
    ((Request.ingest metadata batchSize).afterRegistration result).Accounted
      (.ingest metadata batchSize) db := by
  unfold Request.afterRegistration
  dsimp only
  split <;> exact True.intro

theorem Phase.accounted_register {metadata : SourceFileMetadata} (phase : Phase) :
    phase.Accounted (.register metadata) db := by
  cases phase with
  | finished outcome recorded => exact fun _ _ impossible => by cases impossible
  | _ => exact True.intro

/-- A failing call whose run is still running, with a message to give. -/
def Phase.FailingOpen (db : Database) : Phase → Prop
  | .failing _ runId message _ =>
    isBlank message = false ∧ ∃ run, db.getRun runId = some run ∧ run.status = .running
  | _ => True

variable {metadata : SourceFileMetadata} {batchSize : Int} {sequences drawn : Sequences}

/-- A statement accounts for its call exactly if it is clean. -/
theorem Phase.advance_accounted {phase : Phase} {now : Timestamp} {outcome : Effect Write × Phase}
    (advanced : phase.advance (.ingest metadata batchSize) (db.replay pending) sequences now =
      some (outcome, drawn))
    (session : phase.Session metadata db pending) (accepted : metadata.fits = true ∧ metadata.meetsChecks = true)
    (valid : ValidSources db) (writable : WritableRuns db) (failing : phase.FailingOpen db)
    (nodup : (db.replay pending).index.Nodup)
    (below : ∀ k ∈ (db.replay pending).index, k.Below sequences) (positive : 1 ≤ sequences.sourceFileId) :
    outcome.2.Accounted (.ingest metadata batchSize) (committedAfter db pending outcome.1) ↔
      phase.Clean (.ingest metadata batchSize) db := by
  cases phase with
  | idle =>
    cases advanced
    by_cases positiveSize : batchSize ≤ 0
    · simp only [Request.begin, if_pos positiveSize]
      refine iff_of_false raisedPhase_unaccounted fun clean => ?_
      have := clean metadata batchSize rfl
      omega
    · simp only [Request.begin, if_neg positiveSize]
      refine iff_of_true True.intro fun _ _ same => ?_
      cases same
      exact not_le.mp positiveSize
  | registering point =>
    cases advanced
    have spec : (point.exec metadata (db.replay pending) sequences now).Spec _ _ _ _ :=
      RegistrationPoint.exec_spec session nodup below positive
    refine (spec.mono (fun _ _ _ _ _ => True.intro) (fun _ _ _ _ _ _ => True.intro)
      (fun _ _ => ⟨fun _ _ _ => True.intro, afterRegistration_accounted⟩) fun error failed => ?_).accounted
      fun _ _ => True.intro
    have broken := failed.1 accepted.1
    rw [accepted.2] at broken
    cases broken
  | skipping sourceFileId reason point =>
    cases advanced
    have total := skippedRunExec_total sequences now session.2 session.1 valid
    refine (total.mono (fun _ _ _ _ _ => True.intro) (fun _ _ _ _ _ _ => True.intro)
      (fun runId atCommit => ⟨fun _ _ _ => True.intro, fun _ _ _ => ?_⟩) fun _ h => h.elim).accounted
      fun _ _ => True.intro
    subst atCommit
    obtain ⟨-, source, run, rfl, rfl, ⟨stamp, same⟩, -, -⟩ := session
    have skipped : run.status = .skipped := by
      rw [same]
      rfl
    exact ⟨run.runId, run, rfl, getRun_after_insert nodup, .inr skipped, skipped.symm, rfl⟩
  | starting sourceFileId point =>
    cases advanced
    have total := startRunExec_total batchSize sequences now session.2 session.1 valid
    exact (total.mono (fun _ h => h) (fun _ _ h => h) (fun _ h => ⟨h, True.intro⟩)
      fun _ h => iff_of_false raisedPhase_unaccounted h).accounted fun _ _ => True.intro
  | loading sourceFileId runId point =>
    obtain ⟨reply, executed, same⟩ := Option.map_eq_some_iff.mp advanced
    cases same
    refine iff_of_true ?_ fun _ _ _ => True.intro
    cases reply with
    | read next => exact True.intro
    | write w next => exact True.intro
    | raise error => exact True.intro
    | commit counts =>
      cases LoadPoint.exec_commit executed
      obtain ⟨-, ⟨run, got, -, -⟩, table, rows, finishedAt, rfl, -⟩ := session
      refine fun _ _ _ => ⟨runId, run.markSucceeded finishedAt counts.toRunCounts, rfl, ?_, .inl rfl, rfl, ?_⟩
      · show (db.replay _).getRun runId = _
        rw [Database.replay_append, Database.replay_insertRaw]
        exact Database.getRun_markSucceeded finishedAt counts.toRunCounts got
      · exact (getRun_some got).2.symm
  | failing sourceFileId runId message point =>
    cases advanced
    obtain ⟨written, run, got, running⟩ := failing
    have total := FailPoint.exec_total metadata batchSize sourceFileId now session.2.2 written got running
      writable
    refine (total.mono (fun _ h => h) (fun _ _ h => h) (fun _ atCommit => ?_)
      fun _ h => iff_of_false (raisedPhase_running got running) h).accounted fun _ _ => True.intro
    subst atCommit
    obtain ⟨-, -, known, stamp, gotKnown, -, rfl⟩ := session
    refine ⟨fun _ _ _ => True.intro, fun _ _ _ => ⟨runId, known.markFailed stamp message, rfl, ?_, rfl⟩⟩
    exact Database.getRun_markFailed stamp message gotKnown
  | finished outcome recorded => cases advanced
  | crashed recorded => cases advanced

/-- A healthy statement that fails sets out to record the failure of a run that is still running. -/
theorem Phase.advance_failingOpen {phase : Phase} {now : Timestamp} {outcome : Effect Write × Phase}
    (advanced : phase.advance request (db.replay pending) sequences now = some (outcome, drawn))
    (session : phase.Session metadata db pending) (failing : phase.FailingOpen db) :
    outcome.2.FailingOpen (committedAfter db pending outcome.1) := by
  cases phase with
  | idle =>
    cases advanced
    cases request with
    | register known => exact True.intro
    | ingest known size =>
      unfold Request.begin
      dsimp only
      split <;> exact True.intro
  | registering point =>
    cases advanced
    cases point.exec request.metadata (db.replay pending) sequences now with
    | commit result =>
      cases request with
      | register known => exact True.intro
      | ingest known size =>
        simp only [Reply.proceed, Request.afterRegistration]
        split <;> exact True.intro
    | _ => exact True.intro
  | skipping sourceFileId reason point =>
    cases advanced
    cases skippedRunExec sourceFileId reason (db.replay pending) sequences now point <;> exact True.intro
  | starting sourceFileId point =>
    cases advanced
    cases startRunExec sourceFileId (db.replay pending) sequences now point <;> exact True.intro
  | loading sourceFileId runId point =>
    obtain ⟨reply, -, same⟩ := Option.map_eq_some_iff.mp advanced
    cases same
    obtain ⟨-, ⟨run, got, -, running⟩, -⟩ := session
    cases reply with
    | raise error => exact ⟨safeErrorMessage_not_blank error, run, got, running⟩
    | _ => exact True.intro
  | failing sourceFileId runId message point =>
    cases advanced
    cases reply : point.exec runId message (db.replay pending) now with
    | read next => exact failing
    | write w next => exact failing
    | commit result => exact True.intro
    | raise error => exact True.intro
  | finished outcome recorded => cases advanced
  | crashed recorded => cases advanced

theorem Phase.FailingOpen.stable {phase : Phase} {owned : Nat → Prop} {db' : Database}
    (failing : phase.FailingOpen db) (extended : db.Extends owned db')
    (mine : ∀ runId, phase.owned = some runId → ¬ owned runId) : phase.FailingOpen db' := by
  cases phase with
  | failing sourceFileId runId message point =>
    obtain ⟨written, run, got, running⟩ := failing
    exact ⟨written, run, extended.runs (mine runId rfl) got, running⟩
  | _ => exact True.intro

theorem Phase.Accounted.stable {phase : Phase} {owned : Nat → Prop} {db' : Database}
    (accounted : phase.Accounted request db) (extended : db.Extends owned db')
    (mine : ∀ runId, phase.owned = some runId → ¬ owned runId) : phase.Accounted request db' := by
  cases phase with
  | finished outcome recorded =>
    intro metadata batchSize same
    obtain ⟨runId, run, recorded_eq, got, agrees⟩ := accounted metadata batchSize same
    exact ⟨runId, run, recorded_eq, extended.runs (mine runId recorded_eq) got, agrees⟩
  | _ => exact True.intro

theorem Request.exec_healthy {Client : Type} {s : Platform Client} {i : Client} {e : Event}
    {phase next : Phase} {effect : Effect Write} (at_phase : s.phase i = phase) (healthy : Healthy s i e)
    (executed : request.exec phase db sequences e = some (effect, next, drawn)) :
    (∃ now, phase.advance request db sequences now = some ((effect, next), drawn)) ∨
      (∃ sourceFileId runId point, phase = .loading sourceFileId runId point ∧ effect ≠ .commit ∧
        ((∃ point', next = .loading sourceFileId runId point') ∨
          ∃ error, next = failingPhase sourceFileId runId error)) := by
  cases e with
  | next now =>
    obtain ⟨⟨outcome, drawn'⟩, advanced, same⟩ := Option.map_eq_some_iff.mp executed
    cases same
    exact .inl ⟨now, advanced⟩
  | openFile now file =>
    obtain ⟨outcome, opened, same⟩ := Option.map_eq_some_iff.mp executed
    cases same
    have quiet := Phase.openFile_commit opened
    obtain ⟨metadata, batchSize, sourceFileId, runId, rfl, rfl, rfl⟩ := Phase.openFile_some opened
    refine .inr ⟨_, _, _, rfl, quiet, ?_⟩
    generalize openExec _ _ _ _ now file = reply at quiet ⊢
    cases reply with
    | read next => exact .inl ⟨next, rfl⟩
    | write w next => exact .inl ⟨next, rfl⟩
    | commit result => exact absurd rfl quiet
    | raise error => exact .inr ⟨error, rfl⟩
  | raise error =>
    obtain ⟨sourceFileId, runId, point, loading⟩ := healthy
    cases at_phase.symm.trans loading
    cases executed
    exact .inr ⟨sourceFileId, runId, point, rfl, nofun, .inr ⟨error, rfl⟩⟩
  | commitRaises error => exact healthy.elim
  | crash => exact healthy.elim

end Accounted

variable {Client : Type} {requests : Client → Request} {s s' : Platform Client} {i : Client} {e : Event}

/-- What healthy schedules keep. -/
structure Attempting (requests : Client → Request) (s : Platform Client) : Prop where
  coherent : Coherent requests s
  valid : ValidSources s.committed
  writable : WritableRuns s.committed
  failing : ∀ i, (s.phase i).FailingOpen s.committed

theorem attempting_start (requests : Client → Request) : Attempting requests startState :=
  ⟨coherent_start requests, nofun, nofun, fun _ => True.intro⟩

theorem Coherent.attemptRecorded_iff (coherent : Coherent requests s) :
    AttemptRecorded requests s i ↔ (s.phase i).Accounted (requests i) s.committed := by
  constructor
  · intro recorded
    cases phase : s.phase i with
    | finished outcome ghost =>
      intro metadata batchSize request
      obtain ⟨run, inserted, -, -, agrees⟩ := recorded metadata batchSize outcome ghost request phase
      have member : run ∈ insertedRuns s i := by rw [inserted]; exact List.mem_singleton_self run
      obtain ⟨inRuns, mine⟩ := List.mem_filter.mp member
      rw [phase] at mine
      exact ⟨run.runId, run, by simpa [Phase.recorded] using mine,
        Database.getRun_of_mem coherent.distinct.committed inRuns, agrees⟩
    | _ => exact True.intro
  · intro accounted metadata batchSize outcome ghost request phase
    have session := coherent.sessions i
    rw [phase] at accounted session
    obtain ⟨runId, run, rfl, got, agrees⟩ := accounted metadata batchSize request
    obtain ⟨sourceFileId, status, ⟨run', got', ofSource⟩, source, gotSource, partition, checksum, -⟩ :=
      session.2.1 runId rfl
    cases got.symm.trans got'
    obtain ⟨member, rfl⟩ := getRun_some got
    obtain ⟨memberSource, rfl⟩ := getSourceFile_some gotSource
    rw [request] at partition checksum
    refine ⟨run, ?_, ⟨source, memberSource, ofSource, partition, checksum⟩, agrees.terminal, agrees⟩
    unfold insertedRuns
    rw [phase]
    exact filter_key_unique (Database.runIds_nodup coherent.distinct.committed) member

variable [Fintype Client] [DecidableEq Client]

omit [Fintype Client] in
theorem perform_committed_eq {effect : Effect Write} {phase : Phase} {external : Sequences} :
    ((ingestion requests).perform s i effect phase external).committed =
      committedAfter s.committed (s.pending i) effect := by
  cases effect <;> rfl

theorem Attempting.step (attempting : Attempting requests s) (healthy : Healthy s i e)
    (stepped : (ingestion requests).step s i e = some s') : Attempting requests s' := by
  have coherent := attempting.coherent
  have step := coherent.commitStep stepped
  have extended := coherent.extends stepped
  refine ⟨coherent.step stepped, step.validSources attempting.valid,
    step.writableRuns attempting.valid attempting.writable, fun j => ?_⟩
  obtain ⟨effect, phase, external, executed, -, rfl⟩ := (ingestion requests).step_some stepped
  by_cases same : j = i
  · subst same
    rw [Program.perform_phase_self, perform_committed_eq]
    rcases Request.exec_healthy rfl healthy executed with ⟨now, advanced⟩ |
      ⟨sourceFileId, runId, point, loading, quiet, ⟨point', rfl⟩ | ⟨error, rfl⟩⟩
    · exact Phase.advance_failingOpen advanced (coherent.sessions j) (attempting.failing j)
    · exact True.intro
    · have session := coherent.sessions j
      rw [loading] at session
      obtain ⟨-, ⟨run, got, -, running⟩, -⟩ := session
      have unchanged : committedAfter s.committed (s.pending j) effect = s.committed := by
        cases effect <;> first | rfl | exact absurd rfl quiet
      rw [unchanged]
      exact ⟨safeErrorMessage_not_blank error, run, got, running⟩
  · rw [(ingestion requests).perform_phase_other same]
    exact (attempting.failing j).stable extended fun runId mine theirs =>
      same (coherent.owners j i runId mine theirs)

/-- One healthy step keeps every attempt recorded exactly if it is clean. -/
theorem Attempting.recorded_iff (attempting : Attempting requests s) (healthy : Healthy s i e)
    (accepted : ∀ i, (requests i).metadata.fits = true ∧ (requests i).metadata.meetsChecks = true)
    (recorded : ∀ j, AttemptRecorded requests s j)
    (stepped : (ingestion requests).step s i e = some s') :
    (∀ j, AttemptRecorded requests s' j) ↔ CleanStep requests s i e := by
  have coherent := attempting.coherent
  have coherent' := coherent.step stepped
  have extended := coherent.extends stepped
  have others : ∀ j, j ≠ i → AttemptRecorded requests s' j := by
    intro j other
    rw [coherent'.attemptRecorded_iff]
    have accounted := coherent.attemptRecorded_iff.mp (recorded j)
    have stable := accounted.stable extended fun runId mine theirs =>
      other (coherent.owners j i runId mine theirs)
    obtain ⟨effect, phase, external, -, -, rfl⟩ := (ingestion requests).step_some stepped
    rwa [(ingestion requests).perform_phase_other other]
  have mine : AttemptRecorded requests s' i ↔ CleanStep requests s i e := by
    rw [coherent'.attemptRecorded_iff]
    obtain ⟨effect, phase, external, executed, -, rfl⟩ := (ingestion requests).step_some stepped
    rw [Program.perform_phase_self, perform_committed_eq]
    cases request : requests i with
    | register metadata =>
      refine iff_of_true ?_ fun _ _ ingests => ?_
      · exact phase.accounted_register
      · rw [request] at ingests
        cases ingests
    | ingest metadata batchSize =>
      have session := coherent.sessions i
      have fits := accepted i
      unfold CleanStep
      rw [request] at session fits ⊢
      have executed : (Request.ingest metadata batchSize).exec (s.phase i)
          (s.committed.replay (s.pending i)) s.external e = some (effect, phase, external) := request ▸ executed
      rcases Request.exec_healthy rfl healthy executed with ⟨now, advanced⟩ |
        ⟨sourceFileId, runId, point, loading, -, ⟨point', rfl⟩ | ⟨error, rfl⟩⟩
      · exact Phase.advance_accounted advanced session fits attempting.valid attempting.writable
          (attempting.failing i) (coherent.distinct.visible i) coherent.ranged.visible coherent.positive
      · rw [loading]
        exact iff_of_true True.intro fun _ _ _ => True.intro
      · rw [loading]
        exact iff_of_true True.intro fun _ _ _ => True.intro
  refine ⟨fun all => mine.mp (all i), fun clean j => ?_⟩
  by_cases same : j = i
  · exact same ▸ mine.mpr clean
  · exact others j same

/-- Exactly when: on a healthy schedule every finished attempt has its one run, terminal and in
    agreement with what the caller saw, if and only if all statements are clean. -/
theorem attempts_recorded_iff_clean
    (accepted : ∀ i, (requests i).metadata.fits = true ∧ (requests i).metadata.meetsChecks = true)
    {schedule : List (Client × Event)}
    (healthy : (ingestion requests).Throughout Healthy startState schedule) :
    (ingestion requests).Always (fun s => ∀ i, AttemptRecorded requests s i) startState schedule ↔
      (ingestion requests).Throughout (CleanStep requests) startState schedule :=
  Program.always_iff_throughout (fun _ _ _ _ attempting healthy stepped => attempting.step healthy stepped)
    (fun _ _ _ _ attempting healthy recorded stepped =>
      attempting.recorded_iff healthy accepted recorded stepped)
    (attempting_start requests) (fun _ _ _ _ _ _ impossible => by cases impossible) healthy

/-- The second call is told to proceed, and starts its run after the first one has loaded the file. -/
def overtakenStart : List (Fin 2 × Event) :=
  turns clientOne 5 ++ turns clientTwo 3 ++ turns clientOne 3 ++ (clientOne, .openFile 1 zoneFile) ::
    turns clientOne 11 ++ turns clientTwo 1

/-- A client's own turn, with no fault. -/
def Event.Calm : Event → Prop
  | .next _ | .openFile .. => True
  | _ => False

theorem healthy_of_calm {schedule : List (Client × Event)} (calm : ∀ turn ∈ schedule, turn.2.Calm) :
    (ingestion requests).Throughout Healthy s schedule := by
  refine (Program.throughout_of_events calm).mono fun s i e calm => ?_
  cases e <;> first | exact True.intro | exact calm.elim

theorem turns_calm {i : Fin 2} {n : Nat} : ∀ turn ∈ turns i n, turn.2.Calm := by
  intro turn member
  rw [List.eq_of_mem_replicate member]
  exact True.intro

theorem overtakenStart_calm : ∀ turn ∈ overtakenStart, turn.2.Calm := by
  simp only [overtakenStart, List.forall_mem_append, List.forall_mem_cons]
  exact ⟨⟨⟨⟨turns_calm, turns_calm⟩, turns_calm⟩, True.intro, turns_calm⟩, turns_calm⟩

def Phase.leftUnrecorded : Phase → Bool
  | .finished (.raised _) none => true
  | _ => false

set_option maxRecDepth 10000 in
theorem overtakenStart_unrecorded :
    ∃ s, (ingestion fun _ : Fin 2 => .ingest zoneMetadata 1).run startState overtakenStart = some s ∧
      (ingestion fun _ : Fin 2 => .ingest zoneMetadata 1).Throughout Healthy startState overtakenStart ∧
      ¬ ∀ i, AttemptRecorded (fun _ : Fin 2 => .ingest zoneMetadata 1) s i := by
  have left : ((ingestion fun _ : Fin 2 => .ingest zoneMetadata 1).run startState overtakenStart).map
      (fun s => (s.phase 1).leftUnrecorded) = some true := by decide
  obtain ⟨s, ran, unrecorded⟩ := Option.map_eq_some_iff.mp left
  refine ⟨s, ran, healthy_of_calm overtakenStart_calm, fun all => ?_⟩
  cases phase : s.phase 1 with
  | finished outcome recorded =>
    obtain ⟨run, inserted, -⟩ := all 1 zoneMetadata 1 outcome recorded rfl phase
    rw [phase] at unrecorded
    unfold Phase.leftUnrecorded at unrecorded
    split at unrecorded
    · rename_i same
      cases same
      simp [insertedRuns, phase, Phase.recorded] at inserted
    · cases unrecorded
  | _ => rw [phase] at unrecorded; cases unrecorded

theorem overtakenStart_recorded_iff_clean :
    (ingestion fun _ : Fin 2 => .ingest zoneMetadata 1).Always
        (fun s => ∀ i, AttemptRecorded (fun _ : Fin 2 => .ingest zoneMetadata 1) s i) startState overtakenStart ↔
      (ingestion fun _ : Fin 2 => .ingest zoneMetadata 1).Throughout
        (CleanStep fun _ : Fin 2 => .ingest zoneMetadata 1) startState overtakenStart :=
  attempts_recorded_iff_clean (fun _ => by decide) (healthy_of_calm overtakenStart_calm)

end TaxiPipeline
