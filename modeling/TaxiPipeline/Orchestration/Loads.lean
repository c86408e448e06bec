import TaxiPipeline.Ingestion.Attempts
import TaxiPipeline.Lifecycle.LoadHistories
import TaxiPipeline.Orchestration.Tasks

namespace TaxiPipeline

open ReadCommitted Stateful StorageAction

section Preparing

variable {w : Workspace} {setup : StorageSetup} {backend : LandingBackend} {around : Surroundings} {now : Timestamp}
  {source : SourcePartition}

/-- Preparing a source changes files and objects only. -/
def Workspace.SameRegistry (w w' : Workspace) : Prop :=
  w'.deployment.session = w.deployment.session ∧ w'.deployment.landing.root = w.deployment.landing.root

theorem Workspace.SameRegistry.trans {w w' w'' : Workspace} (first : w.SameRegistry w')
    (second : w'.SameRegistry w'') : w.SameRegistry w'' :=
  ⟨second.1.trans first.1, second.2.trans first.2⟩

theorem onFiles_registry {α : Type} (script : FileScript α) :
    (onFiles around script).Meets w (fun _ w' => w.SameRegistry w') fun _ w' => w.SameRegistry w' := by
  rcases ran : onFiles around script w with ⟨result, w'⟩
  have same : w.SameRegistry w' := by
    cases congrArg Prod.snd ran
    exact ⟨rfl, rfl⟩
  cases result with
  | ok a => exact .of_ok ran same
  | error error => exact .of_error ran same

theorem recoverPartitionIfKnown_registry (partitionKey : String) :
    (recoverPartitionIfKnown setup around partitionKey).Meets w (fun _ w' => w.SameRegistry w')
      fun _ w' => w.SameRegistry w' := by
  unfold recoverPartitionIfKnown
  split
  · exact ⟨rfl, rfl⟩
  · refine .bind (.of_ok rfl ?_)
    split
    · exact ⟨rfl, rfl⟩
    · refine .bind (Attempt.meets_lift (fun destination _ => ?_) fun _ _ => ⟨rfl, rfl⟩)
      exact .bind ((onFiles_registry _).mono (fun _ _ same => same) fun _ _ same => same)

theorem store_frame (backend : LandingBackend) (metadata : SourceFileMetadata) (file : Option Bytes)
    (d : Deployment) :
    (backend.store setup now metadata file d).2.session = d.session ∧
      (backend.store setup now metadata file d).2.landing = d.landing := by
  cases backend with
  | s3Landing => exact ⟨rfl, rfl⟩
  | localLanding =>
    cases verified : verifyLocal setup.readers file metadata.checksumSha256 <;>
      simp only [LandingBackend.store, Attempt.bind_apply, Attempt.lift_apply, verified, Attempt.pure_apply, and_self]

/-- What a prepared source comes with: its landing file, inspected as it is. -/
structure Workspace.Prepared (w w' : Workspace) (setup : StorageSetup) (source : SourcePartition)
    (prepared : PreparedSource) : Prop where
  same : w.SameRegistry w'
  inspected : ∃ path content, destinationOf w.deployment.landing.root source.landingPath = .ok path ∧
    w'.deployment.landing.files path = some content ∧
    inspectSource setup.readers source content = .ok prepared.metadata

theorem prepareSource_meets :
    (prepareSource setup backend around now source).Meets w (fun prepared w' => w.Prepared w' setup source prepared)
      fun _ w' => w.SameRegistry w' := by
  unfold prepareSource
  refine .bind (.of_ok rfl (.bind (Attempt.meets_lift (fun path destination => ?_) fun _ _ => ⟨rfl, rfl⟩)))
  have rest : ∀ w' : Workspace, w.SameRegistry w' → Attempt.Meets (do
      let _ ← onFiles around (ensureLocal source w.deployment.landing.root)
      let file := (← onDeployment deployment).landing.files path
      let metadata ← Attempt.lift (inspectFile setup.readers source path file)
      let stored ← onDeployment (backend.store setup now metadata file)
      return (⟨metadata, stored⟩ : PreparedSource)) w'
      (fun prepared w' => w.Prepared w' setup source prepared) fun _ w' => w.SameRegistry w' := by
    intro w' before
    refine .bind ((onFiles_registry _).mono (fun _ w₁ same => ?_) fun _ _ same => before.trans same)
    refine .bind (.of_ok rfl ?_)
    refine .bind (Attempt.meets_lift (fun metadata inspected => ?_) fun _ _ => before.trans same)
    obtain ⟨session, landing⟩ :=
      @store_frame setup now backend metadata (w₁.deployment.landing.files path) w₁.deployment
    have kept : w.SameRegistry
        ⟨(backend.store setup now metadata (w₁.deployment.landing.files path) w₁.deployment).2, w₁.opened⟩ :=
      (before.trans same).trans ⟨session, congrArg Landing.root landing⟩
    cases stored : backend.store setup now metadata (w₁.deployment.landing.files path) w₁.deployment with
    | mk result d =>
      rw [stored] at landing kept
      have called : onDeployment (backend.store setup now metadata (w₁.deployment.landing.files path)) w₁ =
          (result, ⟨d, w₁.opened⟩) := by
        rw [onDeployment_apply, stored]
      cases result with
      | error error => exact .bind (.of_error called kept)
      | ok storage =>
        refine .bind (.of_ok called ⟨kept, path, ?_⟩)
        cases there : w₁.deployment.landing.files path with
        | none =>
          rw [there] at inspected
          cases inspected
        | some content =>
          rw [there] at inspected
          exact ⟨content, destination, (congrArg (·.files path) landing).trans there, inspected⟩
  split
  · exact .bind ((recoverPartitionIfKnown_registry _).mono (fun _ w' same => rest w' same) fun _ _ same => same)
  · exact rest w ⟨rfl, rfl⟩

/-- A source whose file is there is inspected and stored as it is. -/
theorem prepareSource_there {content : Bytes} (resolved : Resolved source)
    (there : w.deployment.landing.files (resolvePath w.deployment.landing.root source.landingPath) = some content) :
    prepareSource setup backend around now source w =
      match inspectSource setup.readers source content with
      | .error error => (.error error, w)
      | .ok metadata =>
        let stored := backend.store setup now metadata (some content) w.deployment
        (stored.1.map fun storage => ⟨metadata, storage⟩, { w with deployment := stored.2 }) := by
  have destination : destinationOf w.deployment.landing.root source.landingPath =
      .ok (resolvePath w.deployment.landing.root source.landingPath) := by
    rw [destinationOf, resolved.underLanding]
  have kept := @ensureLocal_there around w source content resolved there
  have found : ¬ (backend = .s3Landing ∧ some content = none) := fun both => Option.some_ne_none _ both.2
  unfold prepareSource
  simp only [Attempt.bind_apply, onDeployment_apply, deployment, Attempt.lift_apply, destination, if_neg found,
    Attempt.pure_apply, kept, there, inspectFile]
  cases inspectSource setup.readers source content with
  | error error => rfl
  | ok metadata =>
    dsimp only
    rcases backend.store setup now metadata (some content) w.deployment with ⟨result, d⟩
    cases result <;> rfl

end Preparing

/-- The status of the version that a result is about. -/
def IngestionResult.sourceStatus (result : IngestionResult) : SourceStatus :=
  match result.statusReason with
  | some .sourceRevisionDetected => .revisionDetected
  | _ => .loaded

/-- What the committed rows tell of a result that a call has returned. -/
structure IngestionResult.Backed (result : IngestionResult) (metadata : SourceFileMetadata) (db : Database) :
    Prop where
  partitionKey : result.partitionKey = metadata.partitionKey
  version : ∃ row, db.getSourceFile result.sourceFileId = some row ∧ row.partitionKey = metadata.partitionKey ∧
    row.checksumSha256 = metadata.checksumSha256 ∧ row.status = result.sourceStatus
  run : ∃ run, db.getRun result.runId = some run ∧ run.sourceFileId = some result.sourceFileId ∧
    run.status = result.status ∧ run.statusReason = result.statusReason
  status : result.status = if result.statusReason = none then .succeeded else .skipped
  rowsLoaded : if result.statusReason = none then metadata.rowCount = some (result.rowsLoaded : Int)
    else result.rowsLoaded = 0

/-- A call that has returned tells what has been committed. -/
def Phase.Answered (metadata : SourceFileMetadata) (db : Database) : Phase → Prop
  | .finished (.returned result) _ => result.Backed metadata db
  | _ => True

section Answers

variable {metadata : SourceFileMetadata} {batchSize : Int} {db : Database} {pending : List Write} {phase next : Phase}
  {sequences drawn : Sequences} {effect : Effect Write}

theorem skipped_backed {sourceFileId runId : Nat} {reason : SkipReason}
    (session : (Phase.skipping sourceFileId reason (.commit runId)).Session metadata db pending)
    (nodup : (db.replay pending).index.Nodup) :
    ((Request.ingest metadata batchSize).afterSkip sourceFileId reason runId).Answered metadata (db.replay pending) := by
  obtain ⟨⟨row, got, partition, checksum, reached⟩, source, run, rfl, rfl, ⟨now, is_skipped⟩, rfl, -⟩ := session
  have required := SkipReason.reaches_required reached
  have inserted := getRun_after_insert nodup
  refine ⟨rfl, ⟨row, got, partition, checksum, ?_⟩, ⟨run, inserted, ?_, ?_, ?_⟩, rfl, rfl⟩
  · rw [required]
    cases reason <;> rfl
  all_goals rw [is_skipped]; rfl

theorem loaded_backed {sourceFileId runId : Nat} {counts : LoadCounts}
    (session : (Phase.loading sourceFileId runId (.commit counts)).Session metadata db pending) :
    ((Request.ingest metadata batchSize).afterLoad sourceFileId runId counts).Answered metadata
      (db.replay pending) := by
  obtain ⟨⟨row, got, partition, checksum, -⟩, ⟨run, gotRun, ofSource, running⟩, table, rows, finishedAt, rfl,
    counted⟩ := session
  rw [Database.replay_append, Database.replay_insertRaw]
  have loaded : (((db.addRaws table rows).updateSourceFile sourceFileId (·.markLoaded finishedAt)).getSourceFile
      sourceFileId) = some (row.markLoaded finishedAt) := by
    rw [Database.getSourceFile_markLoaded, Database.getSourceFile_addRaws, got, Option.map_some, if_pos rfl]
  have succeeded := @Database.getRun_updateRun_self
    ((db.addRaws table rows).updateSourceFile sourceFileId (·.markLoaded finishedAt)) runId
    (·.markSucceeded finishedAt counts.toRunCounts) (fun _ => rfl) run gotRun
  refine ⟨rfl, ⟨_, loaded, partition, checksum, rfl⟩, ⟨_, succeeded, ofSource, rfl, rfl⟩, rfl, ?_⟩
  rw [counted.counts_eq]
  exact counted.rowCount

theorem Phase.advance_answered {now : Timestamp} {outcome : Effect Write × Phase}
    (advanced : phase.advance (.ingest metadata batchSize) (db.replay pending) sequences now = some (outcome, drawn))
    (session : phase.Session metadata db pending) (nodup : (db.replay pending).index.Nodup) :
    outcome.2.Answered metadata (committedAfter db pending outcome.1) := by
  cases phase with
  | idle =>
    cases advanced
    unfold Request.begin
    dsimp only
    split <;> exact True.intro
  | registering point =>
    cases advanced
    refine Reply.proceed_next (fun _ => True.intro) (fun result => ?_) fun _ => True.intro
    unfold Request.afterRegistration
    dsimp only
    split <;> exact True.intro
  | skipping sourceFileId reason point =>
    cases advanced
    cases reply : skippedRunExec sourceFileId reason (db.replay pending) sequences now point with
    | commit runId =>
      cases RecordPoint.exec_commit reply
      exact skipped_backed session nodup
    | read _ | write _ _ | raise _ => exact True.intro
  | starting sourceFileId point =>
    cases advanced
    exact Reply.proceed_next (fun _ => True.intro) (fun _ => True.intro) fun _ => True.intro
  | loading sourceFileId runId point =>
    obtain ⟨reply, executed, same⟩ := Option.map_eq_some_iff.mp advanced
    cases same
    cases reply with
    | commit counts =>
      cases LoadPoint.exec_commit executed
      exact loaded_backed session
    | read _ | write _ _ | raise _ => exact True.intro
  | failing sourceFileId runId message point =>
    cases advanced
    exact Reply.proceed_next (fun _ => True.intro) (fun _ => True.intro) fun _ => True.intro
  | finished outcome recorded => cases advanced
  | crashed recorded => cases advanced

theorem Request.exec_answered {e : Event}
    (executed : (Request.ingest metadata batchSize).exec phase (db.replay pending) sequences e =
      some (effect, next, drawn))
    (session : phase.Session metadata db pending) (nodup : (db.replay pending).index.Nodup) :
    next.Answered metadata (committedAfter db pending effect) := by
  cases e with
  | next now =>
    obtain ⟨⟨outcome, drawn'⟩, advanced, same⟩ := Option.map_eq_some_iff.mp executed
    cases same
    exact Phase.advance_answered advanced session nodup
  | openFile now file =>
    obtain ⟨outcome, opened, same⟩ := Option.map_eq_some_iff.mp executed
    cases same
    obtain ⟨metadata', batchSize', sourceFileId, runId, -, -, rfl⟩ := Phase.openFile_some opened
    have notCommit := Phase.openFile_commit opened
    cases reply : openExec metadata' batchSize' sourceFileId runId now file with
    | commit counts => rw [reply] at notCommit; exact absurd rfl notCommit
    | read _ | write _ _ | raise _ => exact True.intro
  | raise error =>
    obtain ⟨next', raised, same⟩ := Option.map_eq_some_iff.mp executed
    cases same
    cases phase <;> cases raised <;> exact True.intro
  | commitRaises error =>
    obtain ⟨next', raised, same⟩ := Option.map_eq_some_iff.mp executed
    cases same
    unfold Phase.commitRaises at raised
    split at raised <;> cases raised <;> exact True.intro
  | crash =>
    obtain ⟨next', crashed, same⟩ := Option.map_eq_some_iff.mp executed
    cases same
    rw [Phase.crash_some crashed]
    exact True.intro

end Answers

section Ingesting

variable {metadata : SourceFileMetadata} {events : List Event} {s s' : Session} {result : IngestionResult}
  {known : SourceFileMetadata → Prop}

/-- A call alone that has ended, by its result. -/
theorem ingestSource_some {answer : Except PyException IngestionResult}
    (called : ingestSource metadata events s = some (answer, s')) : ∃ t : Platform Unit,
      (Request.ingest metadata defaultBatchSize).program.run (.alone s.db s.sequences .idle []) (events.map ((), ·)) =
        some t ∧ (t.phase ()).ended = true ∧ s' = ⟨t.committed, t.external⟩ ∧
      ∀ result, answer = .ok result → ∃ recorded, t.phase () = .finished (.returned result) recorded := by
  obtain ⟨t, ran, same⟩ := Option.bind_eq_some_iff.mp called
  refine ⟨t, ran, ?_⟩
  split at same
  · rename_i returned recorded at_phase
    cases same
    refine ⟨congrArg Phase.ended at_phase, rfl, fun result is_result => ?_⟩
    cases is_result
    exact ⟨recorded, at_phase⟩
  · rename_i error recorded at_phase
    cases same
    exact ⟨congrArg Phase.ended at_phase, rfl, fun result is_result => by cases is_result⟩
  · rename_i recorded at_phase
    cases same
    exact ⟨congrArg Phase.ended at_phase, rfl, fun result is_result => by cases is_result⟩
  · cases same

theorem ingestSource_calls {answer : Except PyException IngestionResult} (mine : known metadata)
    (called : ingestSource metadata events s = some (answer, s')) : s.CallsWith known s' := by
  obtain ⟨t, ran, ended, rfl, -⟩ := ingestSource_some called
  exact .ingestSource mine ran ended

/-- Whatever a call has met, what it returns is what it has committed. -/
theorem ingestSource_backed (orderly : s.Orderly)
    (called : ingestSource metadata events s = some (.ok result, s')) : result.Backed metadata s'.db := by
  obtain ⟨t, ran, -, rfl, returned⟩ := ingestSource_some called
  have kept := Program.run_preserves
    (I := fun t => s.Calling (.ingest metadata defaultBatchSize) t ∧ (t.phase ()).Answered metadata t.committed)
    (fun t i e t' holds stepped => ?_) ⟨calling_start orderly, True.intro⟩ ran
  · obtain ⟨recorded, at_phase⟩ := returned result rfl
    have answered := kept.2
    rw [at_phase] at answered
    exact answered
  · have coherent := holds.1.accepting.coherent
    refine ⟨holds.1.step orderly.consistent stepped, ?_⟩
    have nodup := coherent.distinct.visible ()
    rw [t.eq_alone, Program.step_alone] at stepped
    obtain ⟨⟨effect, next, drawn⟩, executed, rfl⟩ := Option.map_eq_some_iff.mp stepped
    have answered := Request.exec_answered executed (coherent.sessions ()) nodup
    cases effect <;> exact answered

end Ingesting

def Workspace.session (w : Workspace) : Session := w.deployment.session

/-- The session after `persist_storage_metadata`. -/
def Session.persisted (s : Session) (sourceFileId : Nat) (storage : StorageResult) : Session :=
  (Transaction.atomically (persistStorageMetadata sourceFileId storage) s).2

/-- What one try of `_ensure_loaded` may come to. -/
inductive LoadTried (installed : Installation) (source : SourcePartition) (w : Workspace) :
    Except PyException LoadedPartition → Workspace → Prop where
  | unprepared {error : PyException} {w' : Workspace} (same : w.SameRegistry w') :
      LoadTried installed source w (.error error) w'
  | failed {prepared : PreparedSource} {events : List Event} {error : PyException} {session : Session} {w₁ : Workspace}
      (found : w.Prepared w₁ installed.setup source prepared)
      (called : ingestSource prepared.metadata events w.session = some (.error error, session)) :
      LoadTried installed source w (.error error) (w₁.withSession session)
  | unpersisted {prepared : PreparedSource} {events : List Event} {ingestion : IngestionResult} {session : Session}
      {error : PyException} {w₁ : Workspace} (found : w.Prepared w₁ installed.setup source prepared)
      (called : ingestSource prepared.metadata events w.session = some (.ok ingestion, session)) :
      LoadTried installed source w (.error error)
        (w₁.withSession (session.persisted ingestion.sourceFileId prepared.storage))
  | revised {prepared : PreparedSource} {events : List Event} {ingestion : IngestionResult} {session : Session}
      {w₁ : Workspace} (found : w.Prepared w₁ installed.setup source prepared)
      (called : ingestSource prepared.metadata events w.session = some (.ok ingestion, session))
      (detected : ingestion.statusReason = some .sourceRevisionDetected) :
      LoadTried installed source w (.error (sourceRevisionError
        (s!"Source revision requires review for {ingestion.partitionKey} " ++
          s!"(source_file_id={ingestion.sourceFileId}, run_id={ingestion.runId})")))
        (w₁.withSession (session.persisted ingestion.sourceFileId prepared.storage))
  | returned {prepared : PreparedSource} {events : List Event} {ingestion : IngestionResult} {session : Session}
      {w₁ : Workspace} (found : w.Prepared w₁ installed.setup source prepared)
      (called : ingestSource prepared.metadata events w.session = some (.ok ingestion, session))
      (accepted : ingestion.status = .skipped → ingestion.statusReason ≠ some .sourceRevisionDetected) :
      LoadTried installed source w (.ok (.of ingestion))
        (w₁.withSession (session.persisted ingestion.sourceFileId prepared.storage))

section Tries

variable {installed : Installation} {tried : LoadTry} {source : SourcePartition} {w w' : Workspace}
  {answer : Except PyException LoadedPartition} {contents : Set Bytes}

theorem concludeLoad_apply (storage : StorageResult) (ingestion : IngestionResult) (w : Workspace) :
    concludeLoad storage ingestion w =
      (match (Transaction.atomically (persistStorageMetadata ingestion.sourceFileId storage) w.session).1 with
        | .error error => .error error
        | .ok _ => (raiseForSourceRevision ingestion).map fun _ => .of ingestion,
        w.withSession (w.session.persisted ingestion.sourceFileId storage)) := by
  unfold concludeLoad Session.persisted
  simp only [Attempt.bind_apply, onDeployment_apply, inTransaction]
  rcases persisted : Transaction.atomically (persistStorageMetadata ingestion.sourceFileId storage) w.session with
    ⟨result, session⟩
  rw [show w.deployment.session = w.session from rfl, persisted]
  cases result with
  | error error => rfl
  | ok _ =>
    simp only [Attempt.lift_apply]
    cases raiseForSourceRevision ingestion <;> rfl

/-- The one inversion of `_ensure_loaded`. -/
theorem ensureLoaded_tried (called : ensureLoaded installed tried source w = some (answer, w')) :
    LoadTried installed source w answer w' := by
  unfold ensureLoaded at called
  have meets := @prepareSource_meets w installed.setup installed.backend tried.around tried.now source
  rcases ran : prepareSource installed.setup installed.backend tried.around tried.now source w with ⟨prepared, w₁⟩
  rw [ran] at called
  cases prepared with
  | error error =>
    cases called
    exact .unprepared (meets.error ran)
  | ok prepared =>
    have found := meets.ok ran
    obtain ⟨⟨ingestion, session⟩, ingested, same⟩ := Option.map_eq_some_iff.mp called
    rw [show w₁.deployment.session = w.session from found.same.1] at ingested
    cases ingestion with
    | error error =>
      cases same
      exact .failed found ingested
    | ok ingestion =>
      have concluded := (concludeLoad_apply prepared.storage ingestion (w₁.withSession session)).symm.trans same
      cases concluded
      split
      · exact @LoadTried.unpersisted installed source w prepared tried.events ingestion session _ w₁ found ingested
      · unfold raiseForSourceRevision
        split
        · rename_i detected
          exact @LoadTried.revised installed source w prepared tried.events ingestion session w₁ found ingested detected.2
        · rename_i accepted
          exact @LoadTried.returned installed source w prepared tried.events ingestion session w₁ found ingested
            fun skipped detected => accepted ⟨skipped, detected⟩

/-- The landing files have contents of the given set. -/
def Workspace.Within (w : Workspace) (contents : Set Bytes) : Prop :=
  ∀ path content, w.deployment.landing.files path = some content → content ∈ contents

theorem Workspace.Prepared.known {setup : StorageSetup} {w₁ : Workspace} {prepared : PreparedSource} {session : Session}
    (found : w.Prepared w₁ setup source prepared) (resolved : Resolved source)
    (within : (w₁.withSession session).Within contents) :
    prepared.metadata.Inspected setup.readers contents := by
  obtain ⟨path, content, -, there, inspected⟩ := found.inspected
  exact ⟨source, content, resolved, within path content there, inspected⟩

/-- A source whose file is there leaves all files as they are. -/
theorem ensureLoaded_landing {content : Bytes} (resolved : Resolved source)
    (there : w.deployment.landing.files (resolvePath w.deployment.landing.root source.landingPath) = some content)
    (called : ensureLoaded installed tried source w = some (answer, w')) :
    w'.deployment.landing = w.deployment.landing := by
  have prepared := @prepareSource_there w installed.setup installed.backend tried.around tried.now source content
    resolved there
  unfold ensureLoaded at called
  rw [prepared] at called
  cases inspected : inspectSource installed.setup.readers source content with
  | error error =>
    rw [inspected] at called
    cases called
    rfl
  | ok metadata =>
    rw [inspected] at called
    dsimp only at called
    have frame := (@store_frame installed.setup tried.now installed.backend metadata (some content) w.deployment).2
    rcases stored : installed.backend.store installed.setup tried.now metadata (some content) w.deployment with
      ⟨result, d⟩
    rw [stored] at called frame
    cases result with
    | error error =>
      cases called
      exact frame
    | ok storage =>
      obtain ⟨⟨ingestion, session⟩, -, same⟩ := Option.map_eq_some_iff.mp called
      cases ingestion with
      | error error =>
        cases same
        exact frame
      | ok ingestion =>
        have concluded := (concludeLoad_apply storage ingestion _).symm.trans same
        cases concluded
        exact frame

/-- Every try makes an ingestion call and a call that persists storage metadata, or fewer. -/
theorem LoadTried.leads (tried : LoadTried installed source w answer w') (resolved : Resolved source)
    (within : w'.Within contents) :
    w.session.LeadsWith (·.Inspected installed.setup.readers contents) w'.session := by
  cases tried with
  | unprepared same => rw [show w'.session = w.session from same.1]
  | failed found called => exact .single (ingestSource_calls (found.known resolved within) called)
  | unpersisted found called | revised found called _ | returned found called _ =>
    exact .tail (.single (ingestSource_calls (found.known resolved within) called))
      (.persistStorageMetadata _ _)

end Tries

/-- A result of `_ensure_loaded`, as the database has it. -/
structure LoadedPartition.Stands (loaded : LoadedPartition) (source : SourcePartition) (db : Database) : Prop where
  partitionKey : loaded.partitionKey = source.partitionKey
  version : ∃ row, db.getSourceFile loaded.sourceFileId = some row ∧ row.partitionKey = source.partitionKey ∧
    row.status = .loaded

section Stands

variable {installed : Installation} {source : SourcePartition} {w w' : Workspace} {loaded : LoadedPartition}
  {s s' : Session} {result : IngestionResult} {metadata : SourceFileMetadata}

theorem inspectSource_partition {readers : Readers} {content : Bytes}
    (inspected : inspectSource readers source content = .ok metadata) :
    metadata.partitionKey = source.partitionKey := by
  obtain ⟨-, found, -, rfl⟩ := inspectSource_ok inspected
  rfl

theorem IngestionResult.Backed.stands (backed : result.Backed metadata s.db)
    (accepted : result.status = .skipped → result.statusReason ≠ some .sourceRevisionDetected)
    (partition : metadata.partitionKey = source.partitionKey) : (LoadedPartition.of result).Stands source s.db := by
  obtain ⟨row, got, samePartition, -, status⟩ := backed.version
  refine ⟨backed.partitionKey.trans partition, row, got, samePartition.trans partition, status.trans ?_⟩
  have skips := backed.status
  cases reason : result.statusReason with
  | none =>
    unfold IngestionResult.sourceStatus
    rw [reason]
  | some reason' =>
    rw [reason, if_neg (Option.some_ne_none _)] at skips
    have other := accepted skips
    rw [reason] at other
    cases reason' with
    | alreadyLoaded =>
      unfold IngestionResult.sourceStatus
      rw [reason]
    | sourceRevisionDetected => exact absurd rfl other

/-- What is loaded stays, whatever is called later. -/
theorem LoadedPartition.Stands.later (stands : loaded.Stands source s.db) (orderly : s.Orderly)
    (leads : s.Leads s') : loaded.Stands source s'.db := by
  obtain ⟨row, got, partition, isLoaded⟩ := stands.version
  obtain ⟨row', got', same⟩ := (Session.Leads.keepsSources leads orderly).sources got isLoaded
  exact ⟨stands.partitionKey, row', got', same.partition.trans partition, same.status.trans isLoaded⟩

theorem persisted_leads (s : Session) (sourceFileId : Nat) (storage : StorageResult) :
    s.Leads (s.persisted sourceFileId storage) :=
  .single (.persistStorageMetadata sourceFileId storage)

theorem LoadTried.stands (tried : LoadTried installed source w (.ok loaded) w') (orderly : w.session.Orderly) :
    loaded.Stands source w'.session.db := by
  cases tried with
  | @returned prepared events ingestion session w₁ found called accepted =>
    obtain ⟨path, content, -, -, inspected⟩ := found.inspected
    have backed := ingestSource_backed orderly called
    have call : w.session.CallsWith (fun _ => True) session := ingestSource_calls True.intro called
    have orderly' := (call.calls.keeps orderly).orderly
    exact (backed.stands accepted (inspectSource_partition inspected)).later orderly' (persisted_leads _ _ _)

end Stands

end TaxiPipeline
