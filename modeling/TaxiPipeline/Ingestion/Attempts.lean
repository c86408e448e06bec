import TaxiPipeline.Ingestion.AllOrNothing

namespace TaxiPipeline

open ReadCommitted

/-- No crash, every commit that takes effect returns, and exceptions of the environment strike
    inside the load transaction only. -/
def Healthy {Client : Type} (s : Platform Client) (i : Client) : Event → Prop
  | .next _ | .openFile .. => True
  | .raise _ => ∃ sourceFileId runId point, s.phase i = .loading sourceFileId runId point
  | .commitRaises _ | .crash => False

/-- An `ingest_source` call does not leave its record behind: the batch size is positive, `start_run`
    finds its source ready, and the message of a failure can be stored. -/
def Phase.Clean (request : Request) (db : Database) (phase : Phase) : Prop :=
  ∀ metadata batchSize, request = .ingest metadata batchSize →
    match phase with
    | .idle => 0 < batchSize
    | .starting sourceFileId .select =>
      ∃ source, db.getSourceFile sourceFileId = some source ∧ source.status = .ready
    | .failing _ _ message (.update _) => storable message = true
    | _ => True

def CleanStep {Client : Type} (requests : Client → Request) (s : Platform Client) (i : Client) (_ : Event) :
    Prop :=
  (s.phase i).Clean (requests i) s.committed

/-- The run says to the operator what the outcome says to the caller. -/
def Outcome.Agrees (run : PipelineRun) : Outcome → Prop
  | .registered _ => False
  | .returned result => (run.status = .succeeded ∨ run.status = .skipped) ∧ result.status = run.status ∧
      result.runId = run.runId
  | .raised _ => run.status = .failed

/-- The runs that call `i` has inserted. -/
def insertedRuns {Client : Type} (s : Platform Client) (i : Client) : List PipelineRun :=
  s.committed.pipelineRuns.filter fun run => (s.phase i).recorded == some run.runId

/-- A finished `ingest_source` call has inserted one run, for its source, and the run agrees. -/
def AttemptRecorded {Client : Type} (requests : Client → Request) (s : Platform Client) (i : Client) : Prop :=
  ∀ metadata batchSize outcome recorded, requests i = .ingest metadata batchSize →
    s.phase i = .finished outcome recorded → ∃ run, insertedRuns s i = [run] ∧
      (∃ source ∈ s.committed.sourceFiles, run.sourceFileId = some source.sourceFileId ∧
        source.partitionKey = metadata.partitionKey ∧ source.checksumSha256 = metadata.checksumSha256) ∧
      run.status.isTerminal = true ∧ outcome.Agrees run

/-- A finished call has committed a run that agrees with its outcome. -/
def Phase.Accounted (request : Request) (db : Database) : Phase → Prop
  | .finished outcome recorded => ∀ metadata batchSize, request = .ingest metadata batchSize →
      ∃ runId run, recorded = some runId ∧ db.getRun runId = some run ∧ outcome.Agrees run
  | _ => True

theorem Outcome.Agrees.terminal {outcome : Outcome} {run : PipelineRun} (agrees : outcome.Agrees run) :
    run.status.isTerminal = true := by
  cases outcome with
  | registered result => exact agrees.elim
  | returned result => rcases agrees.1 with succeeded | skipped <;> simp_all [RunStatus.isTerminal]
  | raised error => rw [show run.status = .failed from agrees]; rfl

theorem filter_key_unique {α : Type} {key : α → Nat} {l : List α} {x : α} (nodup : (l.map key).Nodup)
    (member : x ∈ l) : (l.filter fun y => some (key x) == some (key y)) = [x] := by
  have selected := (nodup.of_map key).filter fun y => some (key x) == some (key y)
  refine List.perm_singleton.mp ((List.perm_ext_iff_of_nodup selected (List.nodup_singleton x)).mpr ?_)
  intro y
  simp only [List.mem_filter, beq_iff_eq, Option.some.injEq, List.mem_singleton]
  constructor
  · rintro ⟨inList, same⟩
    exact (List.inj_on_of_nodup_map nodup member inList same).symm
  · rintro rfl
    exact ⟨member, rfl⟩

theorem Reply.Spec.mono {Point Result : Type} {reply : Reply Point Result} {read read' : Point → Prop}
    {write write' : Write → Point → Prop} {commit commit' : Result → Prop}
    {raise raise' : PyException → Prop} (spec : reply.Spec read write commit raise)
    (onRead : ∀ point, read point → read' point) (onWrite : ∀ w point, write w point → write' w point)
    (onCommit : ∀ result, commit result → commit' result) (onRaise : ∀ error, raise error → raise' error) :
    reply.Spec read' write' commit' raise' := by
  cases reply with
  | read point => exact onRead point spec
  | write w point => exact onWrite w point spec
  | commit result => exact onCommit result spec
  | raise error => exact onRaise error spec

section Recorded

variable {db : Database} {pending : List Write} {sequences drawn : Sequences}

/-- The ghost of a call moves with its commits only, and then names the run it has inserted. -/
def RecordedAfter (phase : Phase) (effect : Effect Write) (next : Phase) : Prop :=
  (effect ≠ .commit → next.recorded = phase.recorded) ∧ (effect = .commit → next.recorded = phase.owned)

theorem Reply.proceed_recorded {Point Result : Type} {reply : Reply Point Result} {next : Point → Phase}
    {finish : Result → Phase} {abort : PyException → Phase} {phase : Phase}
    (onNext : ∀ point, (next point).recorded = phase.recorded)
    (onFinish : ∀ result, reply = .commit result → (finish result).recorded = phase.owned)
    (onAbort : ∀ error, (abort error).recorded = phase.recorded) :
    RecordedAfter phase (reply.proceed next finish abort).1 (reply.proceed next finish abort).2 := by
  cases reply with
  | read point => exact ⟨fun _ => onNext point, nofun⟩
  | write w point => exact ⟨fun _ => onNext point, nofun⟩
  | commit result => exact ⟨fun quiet => absurd rfl quiet, fun _ => onFinish result rfl⟩
  | raise error => exact ⟨fun _ => onAbort error, nofun⟩

theorem afterRegistration_recorded {request : Request} {result : SourceRegistrationResult} :
    (request.afterRegistration result).recorded = none := by
  cases request with
  | register metadata => rfl
  | ingest metadata batchSize =>
    unfold Request.afterRegistration
    dsimp only
    split <;> rfl

theorem Phase.advance_recorded {request : Request} {phase : Phase} {now : Timestamp}
    {outcome : Effect Write × Phase}
    (advanced : phase.advance request db sequences now = some (outcome, drawn)) :
    RecordedAfter phase outcome.1 outcome.2 := by
  cases phase with
  | idle =>
    cases advanced
    refine ⟨fun _ => ?_, nofun⟩
    cases request with
    | register metadata => rfl
    | ingest metadata batchSize =>
      unfold Request.begin
      dsimp only
      split <;> rfl
  | registering point =>
    cases advanced
    exact Reply.proceed_recorded (fun _ => rfl) (fun _ _ => afterRegistration_recorded) fun _ => rfl
  | skipping sourceFileId reason point =>
    cases advanced
    refine Reply.proceed_recorded (fun _ => rfl) (fun runId reply => ?_) fun _ => rfl
    cases RecordPoint.exec_commit reply
    rfl
  | starting sourceFileId point =>
    cases advanced
    refine Reply.proceed_recorded (fun _ => rfl) (fun runId reply => ?_) fun _ => rfl
    cases RecordPoint.exec_commit reply
    rfl
  | loading sourceFileId runId point =>
    obtain ⟨reply, -, same⟩ := Option.map_eq_some_iff.mp advanced
    cases same
    exact Reply.proceed_recorded (fun _ => rfl) (fun _ _ => rfl) fun _ => rfl
  | failing sourceFileId runId message point =>
    cases advanced
    exact Reply.proceed_recorded (fun _ => rfl) (fun _ _ => rfl) fun _ => rfl
  | finished outcome recorded => cases advanced
  | crashed recorded => cases advanced

theorem Request.exec_recorded {request : Request} {phase next : Phase} {effect : Effect Write} {e : Event}
    (executed : request.exec phase db sequences e = some (effect, next, drawn)) :
    RecordedAfter phase effect next := by
  cases e with
  | next now =>
    obtain ⟨⟨outcome, drawn'⟩, advanced, same⟩ := Option.map_eq_some_iff.mp executed
    cases same
    exact Phase.advance_recorded advanced
  | openFile now file =>
    obtain ⟨outcome, opened, same⟩ := Option.map_eq_some_iff.mp executed
    cases same
    obtain ⟨metadata, batchSize, sourceFileId, runId, rfl, rfl, rfl⟩ := Phase.openFile_some opened
    exact Reply.proceed_recorded (fun _ => rfl) (fun _ _ => rfl) fun _ => rfl
  | raise error =>
    obtain ⟨next', raised, same⟩ := Option.map_eq_some_iff.mp executed
    cases same
    cases phase <;> cases raised <;> exact ⟨fun _ => rfl, nofun⟩
  | commitRaises error =>
    obtain ⟨next', raised, same⟩ := Option.map_eq_some_iff.mp executed
    cases same
    refine ⟨fun quiet => absurd rfl quiet, fun _ => ?_⟩
    unfold Phase.commitRaises at raised
    split at raised <;> cases raised <;> rfl
  | crash =>
    obtain ⟨next', crashed, same⟩ := Option.map_eq_some_iff.mp executed
    cases same
    refine ⟨fun _ => ?_, nofun⟩
    rw [Phase.crash_some crashed]
    rfl

theorem Phase.Session.commit_runs {metadata : SourceFileMetadata} {phase : Phase}
    (session : phase.Session metadata db pending) (atCommit : phase.AtCommit) {run : PipelineRun}
    (member : run ∈ (db.replay pending).pipelineRuns) :
    (∃ old ∈ db.pipelineRuns, old.runId = run.runId) ∨ phase.owned = some run.runId := by
  have updated : ∀ {runs : List PipelineRun} {target : Nat} {change : PipelineRun → PipelineRun},
      run ∈ runs.map (fun run => if run.runId = target then change run else run) →
        (∀ run, (change run).runId = run.runId) → ∃ old ∈ runs, old.runId = run.runId := by
    intro runs target change inRuns keeps
    obtain ⟨old, inOld, rfl⟩ := List.mem_map.mp inRuns
    refine ⟨old, inOld, ?_⟩
    split
    · exact (keeps old).symm
    · rfl
  unfold Phase.AtCommit at atCommit
  split at atCommit
  · have rest := session.2
    split at rest
    · obtain ⟨⟨now, rfl⟩, -⟩ := rest
      exact .inl ⟨run, member, rfl⟩
    · cases rest.1
      exact .inl ⟨run, member, rfl⟩
  · obtain ⟨-, source, inserted, rfl, rfl, -⟩ := session
    rcases List.mem_append.mp member with old | new
    · exact .inl ⟨run, old, rfl⟩
    · exact .inr (by rw [List.mem_singleton.mp new]; rfl)
  · obtain ⟨-, source, inserted, rfl, rfl, -⟩ := session
    rcases List.mem_append.mp member with old | new
    · exact .inl ⟨run, old, rfl⟩
    · exact .inr (by rw [List.mem_singleton.mp new]; rfl)
  · obtain ⟨-, -, table, rows, finishedAt, rfl, -⟩ := session
    rw [Database.replay_append, Database.replay_insertRaw] at member
    exact .inl (updated member fun _ => rfl)
  · obtain ⟨-, -, known, now, -, -, rfl⟩ := session
    exact .inl (updated member fun _ => rfl)
  · exact atCommit.elim

variable {Client : Type} [Fintype Client] [DecidableEq Client] {requests : Client → Request}
  {s s' : Platform Client} {i : Client} {e : Event}

theorem recorded_owned {phase : Phase} {runId : Nat} (recorded : phase.recorded = some runId) :
    phase.owned = some runId := by
  cases phase <;> first | exact recorded | cases recorded

/-- Every run row was inserted by exactly one call, whatever the faults. -/
theorem runs_attributed {schedule : List (Client × Event)}
    (ran : (ingestion requests).run startState schedule = some s) :
    ∀ run ∈ s.committed.pipelineRuns, ∃! i, (s.phase i).recorded = some run.runId := by
  have kept : Coherent requests s ∧
      ∀ run ∈ s.committed.pipelineRuns, ∃ i, (s.phase i).recorded = some run.runId := by
    refine Program.run_preserves (I := fun s => Coherent requests s ∧
      ∀ run ∈ s.committed.pipelineRuns, ∃ i, (s.phase i).recorded = some run.runId) ?_
      ⟨coherent_start requests, fun _ member => (List.not_mem_nil member).elim⟩ ran
    rintro s i e s' ⟨coherent, attributed⟩ stepped
    refine ⟨coherent.step stepped, ?_⟩
    obtain ⟨effect, phase, external, executed, -, rfl⟩ := (ingestion requests).step_some stepped
    have moves := Request.exec_recorded executed
    have carry : ∀ j runId, (s.phase j).recorded = some runId →
        (((ingestion requests).perform s i effect phase external).phase j).recorded = some runId := by
      intro j runId recorded
      by_cases same : j = i
      · subst same
        rw [Program.perform_phase_self]
        by_cases commits : effect = .commit
        · rw [moves.2 commits]
          exact recorded_owned recorded
        · rw [moves.1 commits]
          exact recorded
      · rwa [(ingestion requests).perform_phase_other same]
    have old : ∀ run ∈ s.committed.pipelineRuns, ∃ j,
        (((ingestion requests).perform s i effect phase external).phase j).recorded = some run.runId :=
      fun run member => (attributed run member).imp fun j => carry j run.runId
    intro run member
    by_cases commits : effect = .commit
    · subst commits
      rcases (coherent.sessions i).commit_runs (Request.exec_commit executed) member with
        ⟨before, inBefore, sameId⟩ | owned
      · exact sameId ▸ old before inBefore
      · refine ⟨i, ?_⟩
        rw [Program.perform_phase_self, moves.2 rfl, owned]
    · rw [Program.perform_committed _ commits] at member
      exact old run member
  intro run member
  obtain ⟨i, recorded⟩ := kept.2 run member
  refine ⟨i, recorded, fun j other => ?_⟩
  exact kept.1.owners j i run.runId (recorded_owned other) (recorded_owned recorded)

end Recorded

/-- The committed rows after a statement with the given effect. -/
def committedAfter (db : Database) (pending : List Write) : Effect Write → Database
  | .commit => db.replay pending
  | _ => db

section Valid

variable {metadata : SourceFileMetadata} {db db' : Database}

/-- Committed sources meet the constraints of their table. -/
def ValidSources (db : Database) : Prop :=
  ∀ {sourceFileId row}, db.getSourceFile sourceFileId = some row → row.fits = true ∧ row.meetsChecks = true

/-- A run that is still running can be written again. -/
def WritableRuns (db : Database) : Prop :=
  ∀ {runId run}, db.getRun runId = some run → run.status = .running → run.writeError = none

theorem ValidSources.shown {source : SourceFile} (valid : ValidSources db) (shown : db.Shows source) :
    source.fits = true ∧ source.meetsChecks = true := by
  obtain ⟨row, got, same⟩ := shown
  have fits := congrArg SourceFile.fits same
  have checks := congrArg SourceFile.meetsChecks same
  exact ⟨fits.symm.trans (valid got).1, checks.symm.trans (valid got).2⟩

theorem CommitStep.validSources (step : CommitStep metadata db db') (valid : ValidSources db) :
    ValidSources db' := by
  intro sourceFileId row got
  cases step with
  | nothing => exact valid got
  | started held shown => exact valid got
  | skipped held shown => exact valid got
  | failed found running => exact valid got
  | registered fits checks chosen =>
    rcases Database.getSourceFile_added got with old | rfl
    · exact valid old
    · exact ⟨fits, checks⟩
  | loaded held found ofSource running counted =>
    obtain ⟨old, gotOld, rfl⟩ := Database.getSourceFile_loaded got
    have wasValid : old.fits = true ∧ old.meetsChecks = true := valid gotOld
    split
    · exact wasValid
    · exact wasValid

theorem CommitStep.writableRuns (step : CommitStep metadata db db') (valid : ValidSources db)
    (writable : WritableRuns db) : WritableRuns db' := by
  intro runId run got running
  cases step with
  | nothing => exact writable got running
  | registered fits checks chosen => exact writable got running
  | started held shown =>
    rcases Database.getRun_added got with old | rfl
    · exact writable old running
    · exact runningRun_writeError (valid.shown shown).1 (valid.shown shown).2
  | skipped held shown =>
    rcases Database.getRun_added got with old | rfl
    · exact writable old running
    · cases running
  | failed found wasRunning =>
    obtain ⟨old, gotOld, rfl⟩ := Database.getRun_changed got fun _ => rfl
    split at running
    · cases running
    · rename_i apart
      rw [if_neg apart]
      exact writable gotOld running
  | loaded held found ofSource wasRunning counted =>
    obtain ⟨old, gotOld, rfl⟩ := Database.getRun_changed got fun _ => rfl
    split at running
    · cases running
    · rename_i apart
      rw [if_neg apart]
      exact writable gotOld running

theorem markFailed_writeError {run : PipelineRun} {now : Timestamp} {message : String}
    (writable : run.writeError = none) :
    (run.markFailed now message).writeError = none ↔ storable message = true := by
  obtain ⟨fits, checks⟩ := writeError_none.mp writable
  simp only [PipelineRun.fits, Bool.and_eq_true] at fits
  have sameChecks : (run.markFailed now message).meetsChecks = true := checks
  rw [writeError_none]
  constructor
  · rintro ⟨stored, -⟩
    simpa [PipelineRun.fits, PipelineRun.markFailed, fits] using stored
  · intro stored
    refine ⟨?_, sameChecks⟩
    simp [PipelineRun.fits, PipelineRun.markFailed, fits, stored]

end Valid

end TaxiPipeline
