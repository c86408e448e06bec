import TaxiPipeline.Ingestion.Replies

namespace TaxiPipeline

open ReadCommitted

section Extends

variable {owned : Nat → Prop} {db db' db'' : Database}

theorem Database.Extends.trans (first : db.Extends owned db') (second : db'.Extends owned db'') :
    db.Extends owned db'' where
  sources := by
    intro sourceFileId row found
    obtain ⟨row', found', same', reached'⟩ := first.sources found
    obtain ⟨row'', found'', same'', reached''⟩ := second.sources found'
    exact ⟨row'', found'', same''.trans same', reached'.trans reached''⟩
  runs := fun mine found => second.runs mine (first.runs mine found)
  runSources := by
    intro runId run found
    obtain ⟨run', found', same'⟩ := first.runSources found
    obtain ⟨run'', found'', same''⟩ := second.runSources found'
    exact ⟨run'', found'', same''.trans same'⟩

/-- A write that a call may commit: it loads a source it was cleared for, and ends its own run. -/
def Write.Allowed (owned : Nat → Prop) (db : Database) : Write → Prop
  | .loadSource sourceFileId _ => ∃ metadata, db.Holds sourceFileId metadata .ready
  | .succeedRun runId _ _ | .failRun runId _ _ => owned runId
  | .insertSource _ | .insertRun _ | .insertRaw .. => True

theorem updateRun_extends {runId : Nat} {change : PipelineRun → PipelineRun} (mine : owned runId)
    (keepsId : ∀ run, (change run).runId = run.runId)
    (keepsSource : ∀ run, (change run).sourceFileId = run.sourceFileId) :
    db.Extends owned (db.updateRun runId change) where
  sources := fun found => ⟨_, found, rfl, .refl _⟩
  runs := by
    intro other run notMine found
    have apart : other ≠ runId := fun same => notMine (same ▸ mine)
    rw [Database.getRun_updateRun_other keepsId apart, found]
  runSources := by
    intro other run found
    rw [Database.getRun_updateRun keepsId, found]
    refine ⟨_, rfl, ?_⟩
    dsimp only
    split
    · exact keepsSource run
    · rfl

theorem Write.Allowed.extends {w : Write} (allowed : w.Allowed owned db) :
    db.Extends owned (w.apply db) := by
  cases w with
  | insertSource row => exact ⟨fun found =>
      ⟨_, Database.getSourceFile_addSourceFile_of_some row found, rfl, .refl _⟩,
      fun _ found => found, fun found => ⟨_, found, rfl⟩⟩
  | insertRun run => exact ⟨fun found => ⟨_, found, rfl, .refl _⟩,
      fun _ found => Database.getRun_addRun_of_some run found,
      fun found => ⟨_, Database.getRun_addRun_of_some run found, rfl⟩⟩
  | insertRaw table row => exact ⟨fun found => ⟨_, found, rfl, .refl _⟩, fun _ found => found,
      fun found => ⟨_, found, rfl⟩⟩
  | succeedRun runId finishedAt counts =>
    exact updateRun_extends allowed (fun _ => rfl) fun _ => rfl
  | failRun runId finishedAt message => exact updateRun_extends allowed (fun _ => rfl) fun _ => rfl
  | loadSource sourceFileId loadedAt =>
    obtain ⟨metadata, row, found, -, -, reached⟩ := allowed
    refine ⟨fun {other found_row} foundOther => ?_, fun _ found => found, fun found => ⟨_, found, rfl⟩⟩
    rw [Write.apply, Database.getSourceFile_markLoaded, foundOther]
    refine ⟨_, rfl, ?_⟩
    dsimp only
    split
    · rename_i same
      subst same
      cases found.symm.trans foundOther
      refine ⟨rfl, ?_⟩
      rcases reached.accepted with ready | loaded
      · exact .inr ⟨ready, rfl⟩
      · exact .inl loaded
    · exact ⟨rfl, .refl _⟩

theorem Write.Allowed.stable {w : Write} (allowed : w.Allowed owned db)
    (extended : db.Extends owned db') : w.Allowed owned db' := by
  cases w with
  | loadSource sourceFileId loadedAt => exact allowed.imp fun _ held => extended.holds held
  | insertSource row => exact True.intro
  | insertRun run => exact True.intro
  | insertRaw table row => exact True.intro
  | succeedRun runId finishedAt counts => exact allowed
  | failRun runId finishedAt message => exact allowed

theorem replay_extends {pending : List Write} (allowed : ∀ w ∈ pending, w.Allowed owned db) :
    db.Extends owned (db.replay pending) := by
  induction pending generalizing db with
  | nil => exact .refl owned db
  | cons w rest ih =>
    have head := (allowed w (by simp)).extends
    refine head.trans (ih fun v member => ?_)
    exact (allowed v (List.mem_cons_of_mem _ member)).stable head

end Extends

section Allowed

variable {metadata : SourceFileMetadata} {db : Database} {pending : List Write}

theorem insertRaw_allowed {owned : Nat → Prop} {table : RawTable} {rows : List (RawRow table)} :
    ∀ w ∈ rows.map (Write.insertRaw table), w.Allowed owned db := by
  intro w member
  obtain ⟨row, -, rfl⟩ := List.mem_map.mp member
  exact True.intro

theorem Phase.Session.allowed {phase : Phase} (session : phase.Session metadata db pending) :
    ∀ w ∈ pending, w.Allowed (phase.owned = some ·) db := by
  cases phase with
  | idle => cases session; simp
  | crashed recorded => cases session; simp
  | finished outcome recorded => cases session.1; simp
  | registering point =>
    cases point with
    | findExactVersion => cases session; simp
    | findPartition => cases session; simp
    | insert status => cases session.1; simp
    | findRacedVersion error => cases session.1; simp
    | commit result =>
      have rest := session.2
      split at rest
      · obtain ⟨⟨now, rfl⟩, -⟩ := rest
        simp [Write.Allowed]
      · cases rest.1
        simp
  | skipping sourceFileId reason point =>
    cases point with
    | select => cases session.2; simp
    | insert source => cases session.2.1; simp
    | commit runId =>
      obtain ⟨-, source, run, rfl, -⟩ := session
      simp [Write.Allowed]
  | starting sourceFileId point =>
    cases point with
    | select => cases session.2; simp
    | insert source => cases session.2.1; simp
    | commit runId =>
      obtain ⟨-, source, run, rfl, -⟩ := session
      simp [Write.Allowed]
  | loading sourceFileId runId point =>
    obtain ⟨held, -, rest⟩ := session
    cases point with
    | openFile => cases rest; simp
    | copy table progress => obtain ⟨rows, rfl, -⟩ := rest; exact insertRaw_allowed
    | count table counts => obtain ⟨rows, rfl, -⟩ := rest; exact insertRaw_allowed
    | selectRun counts => obtain ⟨table, rows, rfl, -⟩ := rest; exact insertRaw_allowed
    | selectSource counts run source finishedAt =>
      obtain ⟨-, -, table, rows, rfl, -⟩ := rest
      exact insertRaw_allowed
    | updateSource counts run source finishedAt =>
      obtain ⟨-, -, table, rows, rfl, -⟩ := rest
      exact insertRaw_allowed
    | updateRun counts run finishedAt =>
      obtain ⟨-, table, rows, rfl, -⟩ := rest
      refine List.forall_mem_append.mpr ⟨insertRaw_allowed, ?_⟩
      simpa [Write.Allowed] using ⟨metadata, held⟩
    | commit counts =>
      obtain ⟨table, rows, finishedAt, rfl, -⟩ := rest
      refine List.forall_mem_append.mpr ⟨insertRaw_allowed, ?_⟩
      simpa [Write.Allowed, Phase.owned, Phase.recorded] using ⟨metadata, held⟩
  | failing sourceFileId runId message point =>
    obtain ⟨-, -, rest⟩ := session
    cases point with
    | select => cases rest; simp
    | update run => cases rest.1; simp
    | commit =>
      obtain ⟨run, now, -, -, rfl⟩ := rest
      simp [Write.Allowed, Phase.owned, Phase.recorded]

theorem Phase.Session.extends {phase : Phase} (session : phase.Session metadata db pending) :
    db.Extends (phase.owned = some ·) (db.replay pending) :=
  replay_extends session.allowed

end Allowed

/-- The session of a call after a statement with the given effect. -/
def Settles (metadata : SourceFileMetadata) (db : Database) (pending : List Write) (drawn : Sequences)
    (next : Phase) : Effect Write → Prop
  | .read => next.Session metadata db pending
  | .write w => w.Enters (db.replay pending) drawn ∧ next.Session metadata db (pending ++ [w])
  | .commit => next.Session metadata (db.replay pending) []
  | .rollback => next.Session metadata db []

section Settles

variable {metadata : SourceFileMetadata} {db : Database} {pending : List Write} {drawn : Sequences}

theorem Reply.Spec.settles {Point Result : Type} {reply : Reply Point Result} {next : Point → Phase}
    {finish : Result → Phase} {abort : PyException → Phase} {read : Point → Prop}
    {write : Write → Point → Prop} {commit : Result → Prop} {raise : PyException → Prop}
    (spec : reply.Spec read write commit raise)
    (onRead : ∀ point, read point → (next point).Session metadata db pending)
    (onWrite : ∀ w point, write w point → w.Enters (db.replay pending) drawn ∧
      (next point).Session metadata db (pending ++ [w]))
    (onCommit : ∀ result, commit result → (finish result).Session metadata (db.replay pending) [])
    (onRaise : ∀ error, (abort error).Session metadata db []) :
    Settles metadata db pending drawn (reply.proceed next finish abort).2
      (reply.proceed next finish abort).1 := by
  cases reply with
  | read point => exact onRead point spec
  | write w point => exact onWrite w point spec
  | commit result => exact onCommit result spec
  | raise error => exact onRaise error

theorem finished_session {error : PyException} : (raisedPhase none error).Session metadata db [] :=
  ⟨rfl, nofun, nofun⟩

theorem recorded_session {outcome : Outcome} {runId sourceFileId : Nat} {status : SourceStatus}
    (ran : db.HoldsRun runId sourceFileId) (held : db.Holds sourceFileId metadata status)
    (notRegistered : ∀ result, outcome ≠ .registered result) :
    (Phase.finished outcome (some runId)).Session metadata db [] := by
  refine ⟨rfl, fun _ same => ?_, fun result same => absurd same (notRegistered result)⟩
  cases same
  exact ⟨sourceFileId, status, ran, held⟩

theorem failingPhase_session {runId sourceFileId : Nat} {error : PyException}
    (held : db.Holds sourceFileId metadata .ready) (ran : db.HoldsRun runId sourceFileId) :
    (failingPhase sourceFileId runId error).Session metadata db [] :=
  ⟨held, ran, rfl⟩

theorem afterRegistration_session {request : Request} {result : SourceRegistrationResult}
    (decision : result.decision = decisionForSourceStatus result.sourceStatus)
    (held : db.Holds result.sourceFileId request.metadata result.sourceStatus) :
    (request.afterRegistration result).Session request.metadata db [] := by
  cases request with
  | register metadata =>
    refine ⟨rfl, nofun, fun result' same => ?_⟩
    cases same
    exact held
  | ingest metadata batchSize =>
    cases skipped : result.decision.skipReason with
    | some reason =>
      simp only [Request.afterRegistration, skipped]
      rw [decision] at skipped
      have required := skipReason_requires _ _ skipped
      exact ⟨required ▸ held, rfl⟩
    | none =>
      simp only [Request.afterRegistration, skipped]
      rw [decision] at skipped
      have ready : result.sourceStatus = .ready := by
        revert skipped
        cases result.sourceStatus <;> decide
      exact ⟨ready ▸ held, rfl⟩

theorem getRun_after_insert {run : PipelineRun} (nodup : (db.replay [.insertRun run]).index.Nodup) :
    (db.replay [.insertRun run]).getRun run.runId = some run := by
  refine Database.getRun_of_mem nodup ?_
  simp [Write.apply, Database.addRun]

/-- One statement of a call keeps its session, and what it writes is new. -/
theorem Phase.advance_settles {request : Request} {sequences : Sequences} {now : Timestamp}
    {phase : Phase} {outcome : Effect Write × Phase}
    (advanced : phase.advance request (db.replay pending) sequences now = some (outcome, drawn))
    (session : phase.Session request.metadata db pending) (nodup : (db.replay pending).index.Nodup)
    (below : ∀ k ∈ (db.replay pending).index, k.Below sequences) (positive : 1 ≤ sequences.sourceFileId) :
    Settles request.metadata db pending drawn outcome.2 outcome.1 := by
  have extended := session.extends
  cases phase with
  | idle =>
    cases advanced
    cases session
    cases request with
    | register metadata => exact rfl
    | ingest metadata batchSize =>
      simp only [Settles, Request.begin]
      split
      · exact finished_session
      · exact rfl
  | registering point =>
    cases advanced
    exact (point.exec_spec session nodup below positive).settles (fun _ h => h) (fun _ _ h => h)
      (fun result known => afterRegistration_session known.1 known.2) fun _ => finished_session
  | skipping sourceFileId reason point =>
    cases advanced
    have spec := skippedRunExec_spec session.2 now below
    refine spec.settles (fun _ known => ⟨session.1, known⟩)
      (fun _ _ known => ⟨known.1, session.1, known.2⟩) (fun runId known => ?_) fun _ => finished_session
    obtain ⟨source, run, rfl, rfl, ⟨stamp, same⟩, ofSource⟩ := known
    refine recorded_session ⟨run, getRun_after_insert nodup, ?_⟩ (extended.holds session.1) nofun
    rw [same, ← ofSource]
    rfl
  | starting sourceFileId point =>
    cases advanced
    have spec := startRunExec_spec session.2 now below
    refine spec.settles (fun _ known => ⟨session.1, known⟩)
      (fun _ _ known => ⟨known.1, session.1, known.2⟩) (fun runId known => ?_) fun _ => finished_session
    obtain ⟨source, run, rfl, rfl, ⟨stamp, same⟩, ofSource⟩ := known
    refine ⟨extended.holds session.1, ⟨run, getRun_after_insert nodup, ?_, ?_⟩, rfl⟩
    · rw [same, ← ofSource]
      rfl
    · rw [same]
      rfl
  | loading sourceFileId runId point =>
    obtain ⟨reply, executed, same⟩ := Option.map_eq_some_iff.mp advanced
    cases same
    obtain ⟨held, ran, rest⟩ := session
    have ofSource : db.HoldsRun runId sourceFileId := ran.imp fun _ known => ⟨known.1, known.2.1⟩
    refine (LoadPoint.exec_spec drawn rest ofSource executed).settles (fun _ known => ⟨held, ran, known⟩)
      (fun _ _ known => ⟨known.1, held, ran, known.2⟩) (fun _ _ => ?_)
      fun _ => failingPhase_session held ofSource
    exact recorded_session (extended.holdsRun ofSource) (extended.holds held) nofun
  | failing sourceFileId runId message point =>
    cases advanced
    obtain ⟨held, ran, rest⟩ := session
    refine (FailPoint.exec_spec drawn rest).settles (fun _ known => ⟨held, ran, known⟩)
      (fun _ _ known => ⟨known.1, held, ran, known.2⟩) (fun _ _ => ?_)
      fun _ => recorded_session ran held nofun
    exact recorded_session (extended.holdsRun ran) (extended.holds held) nofun
  | finished outcome recorded => cases advanced
  | crashed recorded => cases advanced

theorem Phase.raise_settles {phase next : Phase} {error : PyException}
    (raised : phase.raise error = some next) (session : phase.Session metadata db pending) :
    next.Session metadata db [] := by
  cases phase with
  | idle => cases raised
  | registering point => cases raised; exact finished_session
  | skipping sourceFileId reason point => cases raised; exact finished_session
  | starting sourceFileId point => cases raised; exact finished_session
  | loading sourceFileId runId point =>
    cases raised
    obtain ⟨held, ⟨run, found, ofSource, -⟩, -⟩ := session
    exact failingPhase_session held ⟨run, found, ofSource⟩
  | failing sourceFileId runId message point =>
    cases raised
    exact recorded_session session.2.1 session.1 nofun
  | finished outcome recorded => cases raised
  | crashed recorded => cases raised

theorem Phase.commitRaises_settles {phase next : Phase} {error : PyException}
    (raised : phase.commitRaises error = some next) (session : phase.Session metadata db pending)
    (nodup : (db.replay pending).index.Nodup) : next.Session metadata (db.replay pending) [] := by
  have extended := session.extends
  unfold Phase.commitRaises at raised
  split at raised
  · cases raised
    exact finished_session
  · cases raised
    obtain ⟨held, source, run, rfl, rfl, ⟨stamp, same⟩, ofSource, -⟩ := session
    refine recorded_session ⟨run, getRun_after_insert nodup, ?_⟩ (extended.holds held) nofun
    rw [same, ← ofSource]
    rfl
  · cases raised
    obtain ⟨held, source, run, rfl, rfl, ⟨stamp, same⟩, ofSource, -⟩ := session
    refine recorded_session ⟨run, getRun_after_insert nodup, ?_⟩ (extended.holds held) nofun
    rw [same, ← ofSource]
    rfl
  · cases raised
    obtain ⟨held, ⟨run, found, ofSource, -⟩, -⟩ := session
    exact failingPhase_session (extended.holds held) (extended.holdsRun ⟨run, found, ofSource⟩)
  · cases raised
    exact recorded_session (extended.holdsRun session.2.1) (extended.holds session.1) nofun
  · cases raised

theorem Phase.crash_settles {phase next : Phase} (crashed : phase.crash = some next) :
    next.Session metadata db [] := by
  rw [Phase.crash_some crashed]
  exact rfl

theorem Phase.openFile_settles {request : Request} {now : Timestamp} {file : LandingFile}
    {phase : Phase} {outcome : Effect Write × Phase}
    (opened : phase.openFile request now file = some outcome)
    (session : phase.Session request.metadata db pending) :
    Settles request.metadata db pending drawn outcome.2 outcome.1 := by
  obtain ⟨metadata, batchSize, sourceFileId, runId, rfl, rfl, rfl⟩ := Phase.openFile_some opened
  obtain ⟨held, ran, rest⟩ := session
  cases rest
  have ofSource : db.HoldsRun _ _ := ran.imp fun _ known => ⟨known.1, known.2.1⟩
  exact openExec_spec.settles (fun _ known => ⟨held, ran, known⟩) (fun _ _ h => h.elim)
    (fun _ h => h.elim) fun _ => failingPhase_session held ofSource

/-- Whatever a call meets, its session goes on. -/
theorem Request.exec_settles {request : Request} {sequences : Sequences} {phase next : Phase}
    {effect : Effect Write} {e : Event}
    (executed : request.exec phase (db.replay pending) sequences e = some (effect, next, drawn))
    (session : phase.Session request.metadata db pending) (nodup : (db.replay pending).index.Nodup)
    (below : ∀ k ∈ (db.replay pending).index, k.Below sequences) (positive : 1 ≤ sequences.sourceFileId) :
    Settles request.metadata db pending drawn next effect := by
  cases e with
  | next now =>
    obtain ⟨⟨⟨effect', next'⟩, drawn'⟩, advanced, same⟩ := Option.map_eq_some_iff.mp executed
    cases same
    exact Phase.advance_settles advanced session nodup below positive
  | openFile now file =>
    obtain ⟨⟨effect', next'⟩, opened, same⟩ := Option.map_eq_some_iff.mp executed
    cases same
    exact Phase.openFile_settles opened session
  | raise error =>
    obtain ⟨next', raised, same⟩ := Option.map_eq_some_iff.mp executed
    cases same
    exact Phase.raise_settles raised session
  | commitRaises error =>
    obtain ⟨next', raised, same⟩ := Option.map_eq_some_iff.mp executed
    cases same
    exact Phase.commitRaises_settles raised session nodup
  | crash =>
    obtain ⟨next', crashed, same⟩ := Option.map_eq_some_iff.mp executed
    cases same
    exact Phase.crash_settles crashed

end Settles

end TaxiPipeline
