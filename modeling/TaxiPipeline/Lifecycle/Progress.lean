import TaxiPipeline.Lifecycle.Operations
import TaxiPipeline.Ingestion.Alone

namespace TaxiPipeline

open ReadCommitted

/-- The source that a registration from the session `s` answers with, the session after its commit,
    and what it commits. -/
inductive Registration (s : Session) (metadata : SourceFileMetadata) :
    SourceFile → Session → List Write → Prop where
  | found {source : SourceFile} (found : s.db.findExactVersion metadata = some source) :
      Registration s metadata source s []
  | inserted {now : Timestamp} (absent : s.db.findExactVersion metadata = none)
      (written : s.db.sourceFileInsertError (s.registration now metadata) = none) :
      Registration s metadata (s.registration now metadata)
        (s.withSourceFile (s.registration now metadata)) [.insertSource (s.registration now metadata)]

/-- A run that a call alone has started: its source, the session before it, and its own row. -/
structure Started (s : Session) (metadata : SourceFileMetadata) (source : SourceFile) (base : Session)
    (run : PipelineRun) : Prop where
  registered : ∃ pending, Registration s metadata source base pending
  ready : source.status = .ready
  run_eq : ∃ now, run = runningRun base.sequences.runId source now
  written : run.writeError = none

def Session.AtPoint (s : Session) (metadata : SourceFileMetadata) (sequences : Sequences)
    (pending : List Write) : RegistrationPoint → Prop
  | .findExactVersion => pending = [] ∧ sequences = s.sequences
  | .findPartition => pending = [] ∧ sequences = s.sequences ∧ s.db.findExactVersion metadata = none
  | .insert status => pending = [] ∧ sequences = s.sequences ∧ s.db.findExactVersion metadata = none ∧
      status = registrationStatus (s.db.findPartition metadata.partitionKey)
  | .findRacedVersion _ => pending = [] ∧ s.db.findExactVersion metadata = none
  | .commit result => ∃ source base isNew, Registration s metadata source base pending ∧
      result = registrationResult source isNew ∧ sequences = base.sequences

/-- How far a call alone has come from the session `s`, up to the end of its load. -/
def Session.AtPhase (s : Session) (metadata : SourceFileMetadata) (db : Database) (sequences : Sequences)
    (pending : List Write) : Phase → Prop
  | .idle => db = s.db ∧ sequences = s.sequences ∧ pending = []
  | .registering point => db = s.db ∧ s.AtPoint metadata sequences pending point
  | .starting sourceFileId point => ∃ source base written, Registration s metadata source base written ∧
      source.status = .ready ∧ source.sourceFileId = sourceFileId ∧ db = base.db ∧
      match point with
      | .select => pending = [] ∧ sequences = base.sequences
      | .insert row => pending = [] ∧ sequences = base.sequences ∧ row = source
      | .commit runId => ∃ run, Started s metadata source base run ∧ runId = run.runId ∧
          pending = [.insertRun run] ∧ sequences = (base.withRun run).sequences
  | .loading sourceFileId runId _ => ∃ source base run, Started s metadata source base run ∧
      source.sourceFileId = sourceFileId ∧ run.runId = runId ∧ db = (base.withRun run).db ∧
      sequences = (base.withRun run).sequences
  | _ => True

section Registration

variable {s base : Session} {metadata : SourceFileMetadata} {source : SourceFile} {pending : List Write}

theorem Registration.replay (registered : Registration s metadata source base pending) :
    s.db.replay pending = base.db := by
  cases registered with
  | found found => rfl
  | inserted absent written => rfl

theorem Registration.consistent (registered : Registration s metadata source base pending)
    (consistent : s.Consistent) : base.Consistent := by
  cases registered with
  | found found => exact consistent
  | inserted absent written => exact consistent.withSourceFile written

theorem Registration.member (registered : Registration s metadata source base pending) :
    source ∈ base.db.sourceFiles ∧ source.partitionKey = metadata.partitionKey ∧
      source.checksumSha256 = metadata.checksumSha256 := by
  cases registered with
  | found found => exact findExactVersion_some found
  | inserted absent written => exact ⟨by simp [Session.withSourceFile, Database.addSourceFile], rfl, rfl⟩

theorem Registration.getSourceFile (registered : Registration s metadata source base pending)
    (consistent : s.Consistent) : base.db.getSourceFile source.sourceFileId = some source :=
  Database.getSourceFile_of_mem (registered.consistent consistent).nodup registered.member.1

end Registration

section Step

variable {s : Session} {request : Request} {db : Database} {sequences drawn : Sequences}
  {pending : List Write} {phase next : Phase} {effect : Effect Write}

/-- The rows, the sequences and the uncommitted writes after a statement of a call alone. -/
def Session.AtPhaseAfter (s : Session) (metadata : SourceFileMetadata) (db : Database) (pending : List Write)
    (drawn : Sequences) (next : Phase) : Effect Write → Prop
  | .read => s.AtPhase metadata db drawn pending next
  | .write w => s.AtPhase metadata db drawn (pending ++ [w]) next
  | .commit => s.AtPhase metadata (db.replay pending) drawn [] next
  | .rollback => s.AtPhase metadata db drawn [] next

theorem atPhaseAfter_proceed {Point Result : Type} {metadata : SourceFileMetadata}
    {reply : Reply Point Result} {nextPhase : Point → Phase} {finish : Result → Phase}
    {abort : PyException → Phase} {read : Point → Prop} {write : Write → Point → Prop}
    {commit : Result → Prop} {raise : PyException → Prop} (spec : reply.Spec read write commit raise)
    (onRead : ∀ point, read point → s.AtPhase metadata db drawn pending (nextPhase point))
    (onWrite : ∀ w point, write w point → s.AtPhase metadata db drawn (pending ++ [w]) (nextPhase point))
    (onCommit : ∀ result, commit result → s.AtPhase metadata (db.replay pending) drawn [] (finish result))
    (onRaise : ∀ error, s.AtPhase metadata db drawn [] (abort error)) :
    s.AtPhaseAfter metadata db pending drawn (reply.proceed nextPhase finish abort).2
      (reply.proceed nextPhase finish abort).1 := by
  cases reply with
  | read point => exact onRead point spec
  | write w point => exact onWrite w point spec
  | commit result => exact onCommit result spec
  | raise error => exact onRaise error

theorem atPoint_exec {point : RegistrationPoint} {metadata : SourceFileMetadata}
    {now : Timestamp} (alone : s.AtPoint metadata sequences pending point) :
    (point.exec metadata (s.db.replay pending) sequences now).Spec
      (fun next => s.AtPoint metadata (point.draw sequences) pending next)
      (fun w next => s.AtPoint metadata (point.draw sequences) (pending ++ [w]) next)
      (fun result => ∃ source base isNew, Registration s metadata source base pending ∧
        result = registrationResult source isNew ∧ point.draw sequences = base.sequences)
      (fun _ => True) := by
  cases point with
  | findExactVersion =>
    obtain ⟨rfl, rfl⟩ := alone
    cases found : s.db.findExactVersion metadata with
    | some existing =>
      simp only [RegistrationPoint.exec, Database.replay_nil, found]
      exact ⟨existing, s, false, .found found, rfl, rfl⟩
    | none =>
      simp only [RegistrationPoint.exec, Database.replay_nil, found]
      exact ⟨rfl, rfl, found⟩
  | findPartition =>
    obtain ⟨rfl, rfl, absent⟩ := alone
    exact ⟨rfl, rfl, absent, rfl⟩
  | insert status =>
    obtain ⟨rfl, rfl, absent, rfl⟩ := alone
    cases inserted : s.db.sourceFileInsertError (s.registration now metadata) with
    | none =>
      have reply : RegistrationPoint.exec metadata (s.db.replay []) s.sequences now
          (.insert (registrationStatus (s.db.findPartition metadata.partitionKey))) =
          .write (.insertSource (s.registration now metadata))
            (.commit (registrationResult (s.registration now metadata) true)) := by
        simp only [RegistrationPoint.exec, Database.replay_nil]
        rw [show newSourceFile s.sequences.sourceFileId _ now metadata = s.registration now metadata from rfl,
          inserted]
      rw [reply]
      exact ⟨_, _, true, .inserted absent inserted, rfl, rfl⟩
    | some error =>
      simp only [RegistrationPoint.exec, Database.replay_nil]
      rw [show newSourceFile s.sequences.sourceFileId _ now metadata = s.registration now metadata from rfl,
        inserted]
      dsimp only
      split
      · exact ⟨rfl, absent⟩
      · exact True.intro
  | findRacedVersion error =>
    obtain ⟨rfl, absent⟩ := alone
    simp only [RegistrationPoint.exec, Database.replay_nil, absent]
    exact True.intro
  | commit result => exact alone

theorem afterRegistration_atPhase {source : SourceFile} {base : Session} {written : List Write} {isNew : Bool}
    (registered : Registration s request.metadata source base written) :
    s.AtPhase request.metadata base.db base.sequences []
      (request.afterRegistration (registrationResult source isNew)) := by
  unfold Request.afterRegistration
  split
  · exact True.intro
  · cases status : source.status with
    | ready =>
      simp only [registrationResult, status, decisionForSourceStatus, IngestionDecision.skipReason]
      exact ⟨source, base, written, registered, status, rfl, rfl, rfl, rfl⟩
    | loaded =>
      simp only [registrationResult, status, decisionForSourceStatus, IngestionDecision.skipReason]
      exact True.intro
    | revisionDetected =>
      simp only [registrationResult, status, decisionForSourceStatus, IngestionDecision.skipReason]
      exact True.intro

theorem advance_atPhase {now : Timestamp} {outcome : Effect Write × Phase} (consistent : s.Consistent)
    (advanced : phase.advance request (db.replay pending) sequences now = some (outcome, drawn))
    (at_phase : s.AtPhase request.metadata db sequences pending phase) :
    s.AtPhaseAfter request.metadata db pending drawn outcome.2 outcome.1 := by
  cases phase with
  | idle =>
    cases advanced
    obtain ⟨rfl, rfl, rfl⟩ := at_phase
    cases request with
    | register metadata => exact ⟨rfl, rfl, rfl⟩
    | ingest metadata batchSize =>
      simp only [Session.AtPhaseAfter, Request.begin]
      split
      · exact True.intro
      · exact ⟨rfl, rfl, rfl⟩
  | registering point =>
    cases advanced
    obtain ⟨rfl, at_point⟩ := at_phase
    refine atPhaseAfter_proceed (atPoint_exec at_point) (fun _ next => ⟨rfl, next⟩)
      (fun _ _ next => ⟨rfl, next⟩) (fun result answered => ?_) fun _ => True.intro
    obtain ⟨source, base, isNew, registered, rfl, grown⟩ := answered
    rw [registered.replay, grown]
    exact afterRegistration_atPhase registered
  | starting sourceFileId point =>
    cases advanced
    obtain ⟨source, base, written, registered, ready, rfl, rfl, at_point⟩ := at_phase
    cases point with
    | select =>
      obtain ⟨rfl, rfl⟩ := at_point
      refine atPhaseAfter_proceed (Reply.check_spec (fun row found => ?_) fun _ _ => True.intro)
        (fun _ next => next) (fun _ _ (h : False) => h.elim) (fun _ (h : False) => h.elim)
        fun _ => True.intro
      refine Reply.check_spec (fun _ _ => ?_) fun _ _ => True.intro
      have got := requireSourceFile_ok found
      cases (registered.getSourceFile consistent).symm.trans got
      exact ⟨source, base, written, registered, ready, rfl, rfl, rfl, rfl, rfl⟩
    | insert row =>
      obtain ⟨rfl, rfl, rfl⟩ := at_point
      refine atPhaseAfter_proceed (Reply.guarded_spec (fun writable => ?_) fun _ _ => True.intro)
        (fun _ (h : False) => h.elim) (fun _ _ next => next) (fun _ (h : False) => h.elim)
        fun _ => True.intro
      exact ⟨row, base, written, registered, ready, rfl, rfl, _, ⟨⟨written, registered⟩, ready, ⟨now, rfl⟩,
        writable⟩, rfl, rfl, rfl⟩
    | commit runId =>
      obtain ⟨run, started, rfl, rfl, rfl⟩ := at_point
      exact ⟨source, base, run, started, rfl, rfl, rfl, rfl⟩
  | loading sourceFileId runId point =>
    obtain ⟨reply, -, same⟩ := Option.map_eq_some_iff.mp advanced
    cases same
    cases reply with
    | read point => exact at_phase
    | write w point => exact at_phase
    | commit counts => exact True.intro
    | raise error => exact True.intro
  | failing sourceFileId runId message point =>
    cases advanced
    generalize point.exec runId message (db.replay pending) now = reply
    cases reply <;> exact True.intro
  | skipping sourceFileId reason point =>
    cases advanced
    generalize skippedRunExec sourceFileId reason (db.replay pending) sequences now point = reply
    cases reply <;> exact True.intro
  | finished outcome recorded => cases advanced
  | crashed recorded => cases advanced

theorem exec_atPhase {e : Event} (consistent : s.Consistent)
    (executed : request.exec phase (db.replay pending) sequences e = some (effect, next, drawn))
    (at_phase : s.AtPhase request.metadata db sequences pending phase) :
    s.AtPhaseAfter request.metadata db pending drawn next effect := by
  cases e with
  | next now =>
    obtain ⟨⟨outcome, drawn'⟩, advanced, same⟩ := Option.map_eq_some_iff.mp executed
    cases same
    exact advance_atPhase consistent advanced at_phase
  | openFile now file =>
    obtain ⟨outcome, opened, same⟩ := Option.map_eq_some_iff.mp executed
    cases same
    obtain ⟨metadata, batchSize, sourceFileId, runId, rfl, rfl, rfl⟩ := Phase.openFile_some opened
    unfold openExec
    cases rawTableOf metadata.datasetName with
    | ok table => exact at_phase
    | error error => exact True.intro
  | raise error =>
    obtain ⟨next', raised, same⟩ := Option.map_eq_some_iff.mp executed
    cases same
    cases phase with
    | registering | skipping | starting | loading | failing => cases raised; exact True.intro
    | idle | finished | crashed => cases raised
  | commitRaises error =>
    obtain ⟨next', raised, same⟩ := Option.map_eq_some_iff.mp executed
    cases same
    unfold Phase.commitRaises at raised
    split at raised <;> cases raised <;> exact True.intro
  | crash =>
    obtain ⟨next', crashed, same⟩ := Option.map_eq_some_iff.mp executed
    cases same
    rw [Phase.crash_some crashed]
    exact True.intro

theorem step_atPhase {t t' : Platform Unit} {e : Event} (consistent : s.Consistent)
    (stepped : request.program.step t () e = some t')
    (at_phase : s.AtPhase request.metadata t.committed t.external (t.pending ()) (t.phase ())) :
    s.AtPhase request.metadata t'.committed t'.external (t'.pending ()) (t'.phase ()) := by
  rw [t.eq_alone, Program.step_alone] at stepped
  obtain ⟨⟨effect, next, drawn⟩, executed, rfl⟩ := Option.map_eq_some_iff.mp stepped
  have after := exec_atPhase consistent executed at_phase
  cases effect <;> exact after

/-- Wherever a call alone stands before the end of its load, it got there from the session `s`. -/
theorem run_atPhase {t : Platform Unit} {events : List (Unit × Event)} (consistent : s.Consistent)
    (ran : request.program.run (.alone s.db s.sequences .idle []) events = some t) :
    s.AtPhase request.metadata t.committed t.external (t.pending ()) (t.phase ()) := by
  have start : s.AtPhase request.metadata s.db s.sequences [] .idle := ⟨rfl, rfl, rfl⟩
  refine Program.run_preserves
    (I := fun t => s.AtPhase request.metadata t.committed t.external (t.pending ()) (t.phase ())) ?_ start ran
  intro t i e t' at_phase stepped
  exact step_atPhase consistent stepped at_phase

end Step

end TaxiPipeline
