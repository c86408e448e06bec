import TaxiPipeline.Ingestion.Program
import TaxiPipeline.Model.Rows

namespace TaxiPipeline

/-- A source status stays, or goes from ready to loaded. -/
def SourceStatus.Reaches (before after : SourceStatus) : Prop :=
  before = after ∨ (before = .ready ∧ after = .loaded)

theorem SourceStatus.Reaches.refl (status : SourceStatus) : status.Reaches status := .inl rfl

theorem SourceStatus.Reaches.trans {a b c : SourceStatus} (first : a.Reaches b) (second : b.Reaches c) :
    a.Reaches c := by
  rcases first with rfl | ⟨rfl, rfl⟩
  · exact second
  · rcases second with rfl | ⟨impossible, -⟩
    · exact .inr ⟨rfl, rfl⟩
    · cases impossible

theorem SourceStatus.Reaches.accepted {status : SourceStatus} (reached : SourceStatus.Reaches .ready status) :
    status = .ready ∨ status = .loaded := by
  rcases reached with rfl | ⟨-, rfl⟩
  · exact .inl rfl
  · exact .inr rfl

theorem SkipReason.reaches_required {reason : SkipReason} {status : SourceStatus}
    (reached : reason.requiredStatus.Reaches status) : status = reason.requiredStatus := by
  rcases reached with rfl | ⟨impossible, -⟩
  · rfl
  · cases reason <;> cases impossible

namespace Database

def replay (db : Database) (writes : List Write) : Database := writes.foldl Write.apply db

@[simp] theorem replay_nil (db : Database) : db.replay [] = db := rfl

@[simp] theorem replay_cons (db : Database) (w : Write) (writes : List Write) :
    db.replay (w :: writes) = (w.apply db).replay writes := rfl

@[simp] theorem replay_append (db : Database) (left right : List Write) :
    db.replay (left ++ right) = (db.replay left).replay right := List.foldl_append

theorem replay_insertRaw (db : Database) (table : RawTable) (rows : List (RawRow table)) :
    db.replay (rows.map (.insertRaw table)) = db.addRaws table rows := by
  induction rows generalizing db with
  | nil => simp
  | cons row rest ih => rw [List.map_cons, replay_cons, ih, Write.apply, addRaw_addRaws]

/-- A committed version of the metadata's file, with a status that the given one may have reached. -/
def Holds (db : Database) (sourceFileId : Nat) (metadata : SourceFileMetadata) (status : SourceStatus) :
    Prop :=
  ∃ row, db.getSourceFile sourceFileId = some row ∧ row.partitionKey = metadata.partitionKey ∧
    row.checksumSha256 = metadata.checksumSha256 ∧ status.Reaches row.status

/-- The database has a source row that was registered as this one was. -/
def Shows (db : Database) (source : SourceFile) : Prop :=
  ∃ row, db.getSourceFile source.sourceFileId = some row ∧ row.asRegistered = source.asRegistered

def HasPartition (db : Database) (partitionKey : String) : Prop :=
  ∃ sourceFileId row, db.getSourceFile sourceFileId = some row ∧ row.partitionKey = partitionKey

def HoldsRun (db : Database) (runId sourceFileId : Nat) : Prop :=
  ∃ run, db.getRun runId = some run ∧ run.sourceFileId = some sourceFileId

/-- What a transaction does to the rows of the others: sources may become loaded, and only the
    runs that it owns change. -/
structure Extends (owned : Nat → Prop) (db db' : Database) : Prop where
  sources : ∀ {sourceFileId row}, db.getSourceFile sourceFileId = some row →
    ∃ row', db'.getSourceFile sourceFileId = some row' ∧ row'.asRegistered = row.asRegistered ∧
      row.status.Reaches row'.status
  runs : ∀ {runId run}, ¬ owned runId → db.getRun runId = some run → db'.getRun runId = some run
  runSources : ∀ {runId run}, db.getRun runId = some run →
    ∃ run', db'.getRun runId = some run' ∧ run'.sourceFileId = run.sourceFileId

variable {db db' : Database} {owned : Nat → Prop} {metadata : SourceFileMetadata}

theorem Extends.refl (owned : Nat → Prop) (db : Database) : db.Extends owned db :=
  ⟨fun found => ⟨_, found, rfl, .refl _⟩, fun _ found => found, fun found => ⟨_, found, rfl⟩⟩

theorem Extends.holds (extended : db.Extends owned db') {sourceFileId : Nat} {status : SourceStatus}
    (held : db.Holds sourceFileId metadata status) : db'.Holds sourceFileId metadata status := by
  obtain ⟨row, found, partition, checksum, reached⟩ := held
  obtain ⟨row', found', same, further⟩ := extended.sources found
  have samePartition := congrArg SourceFile.partitionKey same
  have sameChecksum := congrArg SourceFile.checksumSha256 same
  exact ⟨row', found', samePartition.trans partition, sameChecksum.trans checksum,
    reached.trans further⟩

theorem Extends.shows (extended : db.Extends owned db') {source : SourceFile} (shown : db.Shows source) :
    db'.Shows source := by
  obtain ⟨row, found, same⟩ := shown
  obtain ⟨row', found', same', -⟩ := extended.sources found
  exact ⟨row', found', same'.trans same⟩

theorem Extends.hasPartition (extended : db.Extends owned db') {partitionKey : String}
    (exists_row : db.HasPartition partitionKey) : db'.HasPartition partitionKey := by
  obtain ⟨sourceFileId, row, found, same⟩ := exists_row
  obtain ⟨row', found', registered, -⟩ := extended.sources found
  exact ⟨sourceFileId, row', found', (congrArg SourceFile.partitionKey registered).trans same⟩

theorem Extends.holdsRun (extended : db.Extends owned db') {runId sourceFileId : Nat}
    (held : db.HoldsRun runId sourceFileId) : db'.HoldsRun runId sourceFileId := by
  obtain ⟨run, found, source⟩ := held
  obtain ⟨run', found', same⟩ := extended.runSources found
  exact ⟨run', found', same.trans source⟩

end Database

/-- The constraints that the row of a registration has to meet. -/
def SourceFileMetadata.fits (metadata : SourceFileMetadata) : Bool :=
  (newSourceFile 0 .ready 0 metadata).fits

def SourceFileMetadata.meetsChecks (metadata : SourceFileMetadata) : Bool :=
  (newSourceFile 0 .ready 0 metadata).meetsChecks

/-- The status that `register_source_file` has chosen for a new row of the partition. -/
def StatusChosen (db : Database) (metadata : SourceFileMetadata) (status : SourceStatus) : Prop :=
  status = .ready ∨ (status = .revisionDetected ∧ db.HasPartition metadata.partitionKey)

/-- What a registration knows between two statements, and what it has written. -/
def RegistrationPoint.Session (metadata : SourceFileMetadata) (db : Database) (pending : List Write) :
    RegistrationPoint → Prop
  | .findExactVersion | .findPartition => pending = []
  | .insert status => pending = [] ∧ StatusChosen db metadata status
  | .findRacedVersion error => pending = [] ∧ error.kind = .integrityError ∧
      (metadata.meetsChecks = true → ∃ sourceFileId, db.Holds sourceFileId metadata .revisionDetected ∨
        db.Holds sourceFileId metadata .ready)
  | .commit result => result.decision = decisionForSourceStatus result.sourceStatus ∧
      if result.isNewRegistration then
        (∃ now, pending =
          [.insertSource (newSourceFile result.sourceFileId result.sourceStatus now metadata)]) ∧
          metadata.fits = true ∧ metadata.meetsChecks = true ∧ StatusChosen db metadata result.sourceStatus
      else pending = [] ∧ db.Holds result.sourceFileId metadata result.sourceStatus

/-- What the transaction that records a run knows; `kind` says which rows it may insert. -/
def RecordPoint.Session (kind : PipelineRun → SourceFile → Prop) (sourceFileId : Nat) (db : Database)
    (pending : List Write) : RecordPoint → Prop
  | .select => pending = []
  | .insert source => pending = [] ∧ source.sourceFileId = sourceFileId ∧ db.Shows source
  | .commit runId => ∃ source run, pending = [.insertRun run] ∧ run.runId = runId ∧ kind run source ∧
      source.sourceFileId = sourceFileId ∧ db.Shows source

def IsRunning (run : PipelineRun) (source : SourceFile) : Prop :=
  ∃ now, run = runningRun run.runId source now

def IsSkipped (reason : SkipReason) (run : PipelineRun) (source : SourceFile) : Prop :=
  ∃ now, run = skippedRun run.runId source reason now

/-- The rows that a load copies: those of its own table, numbered from 1, under its run. -/
structure Copies (metadata : SourceFileMetadata) (sourceFileId runId : Nat) (table : RawTable)
    (rows : List (RawRow table)) : Prop where
  dataset : rawTableOf metadata.datasetName = .ok table
  lineage : rows.map (·.lineage) = (List.range' 1 rows.length).map (⟨sourceFileId, ·, runId⟩)

/-- A load that has passed `_validate_counts`. -/
structure Counted (metadata : SourceFileMetadata) (sourceFileId runId : Nat) (table : RawTable)
    (rows : List (RawRow table)) (counts : LoadCounts) : Prop
    extends Copies metadata sourceFileId runId table rows where
  counts_eq : counts = ⟨rows.length, rows.length⟩
  rowCount : metadata.rowCount = some (rows.length : Int)

def LoadPoint.Session (metadata : SourceFileMetadata) (sourceFileId runId : Nat) (db : Database)
    (pending : List Write) : LoadPoint → Prop
  | .openFile => pending = []
  | .copy table progress => ∃ rows, pending = rows.map (.insertRaw table) ∧
      Copies metadata sourceFileId runId table
        (rows ++ (progress.current ++ progress.rest.flatMap (·.rows))) ∧
      progress.rowsLoaded + progress.copied = rows.length ∧
      progress.rowsRead = rows.length + progress.current.length
  | .count table counts => ∃ rows, pending = rows.map (.insertRaw table) ∧
      Copies metadata sourceFileId runId table rows ∧ counts = ⟨rows.length, rows.length⟩
  | .selectRun counts => ∃ table rows, pending = rows.map (.insertRaw table) ∧
      Counted metadata sourceFileId runId table rows counts
  | .selectSource counts run source _ | .updateSource counts run source _ =>
      source = sourceFileId ∧ db.getRun runId = some run ∧
        ∃ table rows, pending = rows.map (.insertRaw table) ∧
          Counted metadata sourceFileId runId table rows counts
  | .updateRun counts run finishedAt => db.getRun runId = some run ∧
      ∃ table rows, pending = rows.map (.insertRaw table) ++ [.loadSource sourceFileId finishedAt] ∧
        Counted metadata sourceFileId runId table rows counts
  | .commit counts => ∃ table rows finishedAt, pending = rows.map (.insertRaw table) ++
        [.loadSource sourceFileId finishedAt, .succeedRun runId finishedAt counts.toRunCounts] ∧
      Counted metadata sourceFileId runId table rows counts

def FailPoint.Session (runId : Nat) (message : String) (db : Database) (pending : List Write) :
    FailPoint → Prop
  | .select => pending = []
  | .update run => pending = [] ∧ db.getRun runId = some run ∧ run.status = .running
  | .commit => ∃ run now, db.getRun runId = some run ∧ run.status = .running ∧
      pending = [.failRun runId now message]

/-- The invariant of one call: what it knows of the committed rows, and what it has written. -/
def Phase.Session (metadata : SourceFileMetadata) (db : Database) (pending : List Write) : Phase → Prop
  | .idle => pending = []
  | .registering point => point.Session metadata db pending
  | .skipping sourceFileId reason point => db.Holds sourceFileId metadata reason.requiredStatus ∧
      point.Session (IsSkipped reason) sourceFileId db pending
  | .starting sourceFileId point => db.Holds sourceFileId metadata .ready ∧
      point.Session IsRunning sourceFileId db pending
  | .loading sourceFileId runId point => db.Holds sourceFileId metadata .ready ∧
      (∃ run, db.getRun runId = some run ∧ run.sourceFileId = some sourceFileId ∧ run.status = .running) ∧
      point.Session metadata sourceFileId runId db pending
  | .failing sourceFileId runId message point => db.Holds sourceFileId metadata .ready ∧
      db.HoldsRun runId sourceFileId ∧ point.Session runId message db pending
  | .finished outcome recorded => pending = [] ∧
      (∀ runId, recorded = some runId → ∃ sourceFileId status,
        db.HoldsRun runId sourceFileId ∧ db.Holds sourceFileId metadata status) ∧
      (∀ result, outcome = .registered result →
        db.Holds result.sourceFileId metadata result.sourceStatus)
  | .crashed _ => pending = []

/-- The run that a call has inserted, committed or not. -/
def Phase.owned : Phase → Option Nat
  | .skipping _ _ (.commit runId) | .starting _ (.commit runId) => some runId
  | phase => phase.recorded

section Stable

variable {db db' : Database} {owned : Nat → Prop} {metadata : SourceFileMetadata} {pending : List Write}

theorem StatusChosen.stable (extended : db.Extends owned db') {status : SourceStatus}
    (chosen : StatusChosen db metadata status) : StatusChosen db' metadata status := by
  rcases chosen with rfl | ⟨rfl, known⟩
  · exact .inl rfl
  · exact .inr ⟨rfl, extended.hasPartition known⟩

theorem RegistrationPoint.Session.stable {point : RegistrationPoint}
    (session : point.Session metadata db pending) (extended : db.Extends owned db') :
    point.Session metadata db' pending := by
  cases point with
  | findExactVersion => exact session
  | findPartition => exact session
  | insert status => exact ⟨session.1, session.2.stable extended⟩
  | findRacedVersion error =>
    obtain ⟨empty, kind, raced⟩ := session
    refine ⟨empty, kind, fun checks => ?_⟩
    obtain ⟨sourceFileId, held⟩ := raced checks
    exact ⟨sourceFileId, held.imp extended.holds extended.holds⟩
  | commit result =>
    obtain ⟨decision, rest⟩ := session
    refine ⟨decision, ?_⟩
    cases isNew : result.isNewRegistration <;> simp only [isNew, Bool.false_eq_true, if_true, if_false] at rest ⊢
    · exact ⟨rest.1, extended.holds rest.2⟩
    · exact ⟨rest.1, rest.2.1, rest.2.2.1, rest.2.2.2.stable extended⟩

theorem RecordPoint.Session.stable {kind : PipelineRun → SourceFile → Prop} {sourceFileId : Nat}
    {point : RecordPoint} (session : point.Session kind sourceFileId db pending)
    (extended : db.Extends owned db') : point.Session kind sourceFileId db' pending := by
  cases point with
  | select => exact session
  | insert source => exact ⟨session.1, session.2.1, extended.shows session.2.2⟩
  | commit runId =>
    obtain ⟨source, run, written, sameId, isKind, same, shown⟩ := session
    exact ⟨source, run, written, sameId, isKind, same, extended.shows shown⟩

theorem LoadPoint.Session.stable {sourceFileId runId : Nat} {point : LoadPoint}
    (session : point.Session metadata sourceFileId runId db pending) (extended : db.Extends owned db')
    (mine : ¬ owned runId) : point.Session metadata sourceFileId runId db' pending := by
  cases point with
  | openFile => exact session
  | copy table progress => exact session
  | count table counts => exact session
  | selectRun counts => exact session
  | selectSource counts run source finishedAt =>
    exact ⟨session.1, extended.runs mine session.2.1, session.2.2⟩
  | updateSource counts run source finishedAt =>
    exact ⟨session.1, extended.runs mine session.2.1, session.2.2⟩
  | updateRun counts run finishedAt => exact ⟨extended.runs mine session.1, session.2⟩
  | commit counts => exact session

theorem FailPoint.Session.stable {runId : Nat} {message : String} {point : FailPoint}
    (session : point.Session runId message db pending) (extended : db.Extends owned db')
    (mine : ¬ owned runId) : point.Session runId message db' pending := by
  cases point with
  | select => exact session
  | update run => exact ⟨session.1, extended.runs mine session.2.1, session.2.2⟩
  | commit =>
    obtain ⟨run, now, found, running, written⟩ := session
    exact ⟨run, now, extended.runs mine found, running, written⟩

/-- The session of a call survives whatever another call commits. -/
theorem Phase.Session.stable {phase : Phase} (session : phase.Session metadata db pending)
    (extended : db.Extends owned db') (mine : ∀ runId, phase.owned = some runId → ¬ owned runId) :
    phase.Session metadata db' pending := by
  cases phase with
  | idle => exact session
  | registering point => exact RegistrationPoint.Session.stable session extended
  | skipping sourceFileId reason point => exact ⟨extended.holds session.1, session.2.stable extended⟩
  | starting sourceFileId point => exact ⟨extended.holds session.1, session.2.stable extended⟩
  | loading sourceFileId runId point =>
    obtain ⟨held, ⟨run, found, source, running⟩, rest⟩ := session
    have apart := mine runId rfl
    exact ⟨extended.holds held, ⟨run, extended.runs apart found, source, running⟩,
      rest.stable extended apart⟩
  | failing sourceFileId runId message point =>
    obtain ⟨held, run, rest⟩ := session
    exact ⟨extended.holds held, extended.holdsRun run, rest.stable extended (mine runId rfl)⟩
  | finished outcome recorded =>
    obtain ⟨empty, ran, registered⟩ := session
    refine ⟨empty, fun runId same => ?_, fun result same => extended.holds (registered result same)⟩
    obtain ⟨sourceFileId, status, run, held⟩ := ran runId same
    exact ⟨sourceFileId, status, extended.holdsRun run, extended.holds held⟩
  | crashed recorded => exact session

end Stable

end TaxiPipeline
