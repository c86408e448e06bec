import TaxiPipeline.Ingestion.AllOrNothing

namespace TaxiPipeline

open ReadCommitted

/-- The values that a load has written, each with its table. -/
def insertedValues (writes : List Write) : List (Sigma RawTable.Values) :=
  writes.filterMap fun
    | .insertRaw table row => some ⟨table, row.values⟩
    | _ => none

def taggedValues {table : RawTable} (rows : List (RawRow table)) : List (Sigma RawTable.Values) :=
  rows.map fun row => ⟨table, row.values⟩

/-- The rows of a landing file for one table. -/
def LandingFile.values (file : LandingFile) (table : RawTable) : List (Sigma RawTable.Values) :=
  (file table).flatten.map (Sigma.mk table)

section Values

variable {table : RawTable} {writes writes' : List Write} {rows : List (RawRow table)}

@[simp] theorem insertedValues_nil : insertedValues [] = [] := rfl

theorem insertedValues_append :
    insertedValues (writes ++ writes') = insertedValues writes ++ insertedValues writes' := List.filterMap_append

theorem insertedValues_rows : insertedValues (rows.map (.insertRaw table)) = taggedValues rows := by
  unfold insertedValues taggedValues
  rw [List.filterMap_map, ← List.filterMap_eq_map]
  rfl

theorem taggedValues_append {rows' : List (RawRow table)} :
    taggedValues (rows ++ rows') = taggedValues rows ++ taggedValues rows' := List.map_append

theorem taggedValues_iff {file : LandingFile} :
    taggedValues rows = file.values table ↔ rows.map (·.values) = (file table).flatten := by
  have same : taggedValues rows = (rows.map (·.values)).map (Sigma.mk table) := by
    rw [List.map_map]
    rfl
  rw [same]
  exact (List.map_injective_iff.mpr sigma_mk_injective).eq_iff

end Values

/-- Of the rows of its file, what a load has written and what it still has to write. -/
def LoadPoint.Follows (metadata : SourceFileMetadata) (file : LandingFile) (pending : List Write) :
    LoadPoint → Prop
  | .openFile => True
  | .copy table progress => rawTableOf metadata.datasetName = .ok table ∧
      insertedValues pending ++ taggedValues (progress.current ++ progress.rest.flatMap (·.rows)) =
        file.values table
  | _ => ∃ table, rawTableOf metadata.datasetName = .ok table ∧ insertedValues pending = file.values table

def Phase.Follows (metadata : SourceFileMetadata) (file : LandingFile) (pending : List Write) : Phase → Prop
  | .loading _ _ point => point.Follows metadata file pending
  | _ => True

/-- The writes of a transaction after a statement with the given effect. -/
def pendingAfter (pending : List Write) : Effect Write → List Write
  | .read => pending
  | .write w => pending ++ [w]
  | .commit | .rollback => []

section Statements

variable {metadata : SourceFileMetadata} {file : LandingFile} {pending : List Write} {db : Database}
  {sourceFileId runId : Nat} {now : Timestamp}

theorem CopyProgress.exec_follows {table : RawTable} {progress : CopyProgress table}
    (follows : (LoadPoint.copy table progress).Follows metadata file pending) :
    (progress.exec db).Spec (·.Follows metadata file pending)
      (fun w next => next.Follows metadata file (pending ++ [w])) (fun _ => True) (fun _ => True) := by
  obtain ⟨dataset, values⟩ := follows
  obtain ⟨rowsRead, rowsLoaded, copied, current, rest⟩ := progress
  cases current with
  | cons row current =>
    refine Reply.guarded_spec (fun _ => ⟨dataset, ?_⟩) fun _ _ => True.intro
    have written : insertedValues [.insertRaw table row] = taggedValues [row] := rfl
    rw [insertedValues_append, written, List.append_assoc, ← taggedValues_append]
    exact values
  | nil =>
    cases rest with
    | nil =>
      refine ⟨table, dataset, ?_⟩
      have none_left : taggedValues ([] : List (RawRow table)) = [] := rfl
      rw [← values]
      dsimp only
      rw [List.flatMap_nil, List.append_nil, none_left, List.append_nil]
    | cons batch rest =>
      refine ⟨dataset, ?_⟩
      rw [← values]
      dsimp only
      rw [List.flatMap_cons, List.nil_append]

theorem insertedValues_update {w : Write} (update : w.inserts = []) : insertedValues [w] = [] := by
  cases w with
  | insertRaw table row => cases table <;> cases update
  | _ => rfl

theorem LoadPoint.exec_follows {point : LoadPoint} {reply : Reply LoadPoint LoadCounts}
    (executed : point.exec metadata sourceFileId runId db now = some reply)
    (follows : point.Follows metadata file pending) :
    reply.Spec (·.Follows metadata file pending) (fun w next => next.Follows metadata file (pending ++ [w]))
      (fun _ => True) (fun _ => True) := by
  have updated : ∀ {w : Write}, w.inserts = [] → insertedValues (pending ++ [w]) = insertedValues pending := by
    intro w update
    rw [insertedValues_append, insertedValues_update update, List.append_nil]
  cases point with
  | openFile => cases executed
  | copy table progress =>
    cases executed
    exact CopyProgress.exec_follows follows
  | count table counts =>
    cases executed
    exact Reply.check_spec (fun _ _ => follows) fun _ _ => True.intro
  | selectRun counts =>
    cases executed
    refine Reply.check_spec (fun run _ => ?_) fun _ _ => True.intro
    exact Reply.check_spec (fun _ _ => follows) fun _ _ => True.intro
  | selectSource counts run source finishedAt =>
    cases executed
    refine Reply.check_spec (fun row _ => ?_) fun _ _ => True.intro
    exact Reply.check_spec (fun _ _ => follows) fun _ _ => True.intro
  | updateSource counts run source finishedAt =>
    cases executed
    obtain ⟨table, dataset, values⟩ := follows
    exact ⟨table, dataset, (updated rfl).trans values⟩
  | updateRun counts run finishedAt =>
    cases executed
    obtain ⟨table, dataset, values⟩ := follows
    exact Reply.guarded_spec (fun _ => ⟨table, dataset, (updated rfl).trans values⟩) fun _ _ => True.intro
  | commit counts =>
    cases executed
    exact True.intro

theorem Reply.Spec.follows {Point Result : Type} {reply : Reply Point Result} {next : Point → Phase}
    {finish : Result → Phase} {abort : PyException → Phase} {read : Point → Prop} {write : Write → Point → Prop}
    (spec : reply.Spec read write (fun _ => True) (fun _ => True))
    (onRead : ∀ point, read point → (next point).Follows metadata file pending)
    (onWrite : ∀ w point, write w point → (next point).Follows metadata file (pending ++ [w]))
    (onCommit : ∀ result, (finish result).Follows metadata file [])
    (onRaise : ∀ error, (abort error).Follows metadata file []) :
    (reply.proceed next finish abort).2.Follows metadata file
      (pendingAfter pending (reply.proceed next finish abort).1) := by
  cases reply with
  | read point => exact onRead point spec
  | write w point => exact onWrite w point spec
  | commit result => exact onCommit result
  | raise error => exact onRaise error

theorem Reply.follows_outside {Point Result : Type} {reply : Reply Point Result} {next : Point → Phase}
    {finish : Result → Phase} {abort : PyException → Phase}
    (onNext : ∀ point pending, (next point).Follows metadata file pending)
    (onFinish : ∀ result, (finish result).Follows metadata file [])
    (onAbort : ∀ error, (abort error).Follows metadata file []) :
    (reply.proceed next finish abort).2.Follows metadata file
      (pendingAfter pending (reply.proceed next finish abort).1) := by
  cases reply with
  | read point => exact onNext point _
  | write w point => exact onNext point _
  | commit result => exact onFinish result
  | raise error => exact onAbort error

end Statements

section Requests

variable {request : Request} {metadata : SourceFileMetadata} {file : LandingFile} {pending : List Write}
  {db : Database} {now : Timestamp} {sequences drawn : Sequences} {phase : Phase}

theorem begin_follows : request.begin.Follows metadata file pending := by
  cases request with
  | register metadata => exact True.intro
  | ingest metadata batchSize =>
    unfold Request.begin
    dsimp only
    split <;> exact True.intro

theorem afterRegistration_follows (result : SourceRegistrationResult) :
    (request.afterRegistration result).Follows metadata file pending := by
  cases request with
  | register metadata => exact True.intro
  | ingest metadata batchSize =>
    unfold Request.afterRegistration
    dsimp only
    split <;> exact True.intro

theorem Phase.advance_follows {outcome : Effect Write × Phase}
    (advanced : phase.advance request db sequences now = some (outcome, drawn))
    (follows : phase.Follows request.metadata file pending) :
    outcome.2.Follows request.metadata file (pendingAfter pending outcome.1) := by
  cases phase with
  | idle =>
    cases advanced
    exact begin_follows
  | registering point =>
    cases advanced
    exact Reply.follows_outside (fun _ _ => True.intro) afterRegistration_follows fun _ => True.intro
  | skipping sourceFileId reason point =>
    cases advanced
    exact Reply.follows_outside (fun _ _ => True.intro) (fun _ => True.intro) fun _ => True.intro
  | starting sourceFileId point =>
    cases advanced
    exact Reply.follows_outside (fun _ _ => True.intro) (fun _ => True.intro) fun _ => True.intro
  | loading sourceFileId runId point =>
    obtain ⟨reply, executed, same⟩ := Option.map_eq_some_iff.mp advanced
    cases same
    exact (LoadPoint.exec_follows executed follows).follows (fun _ ahead => ahead) (fun _ _ ahead => ahead)
      (fun _ => True.intro) fun _ => True.intro
  | failing sourceFileId runId message point =>
    cases advanced
    exact Reply.follows_outside (fun _ _ => True.intro) (fun _ => True.intro) fun _ => True.intro
  | finished outcome recorded => cases advanced
  | crashed recorded => cases advanced

theorem Phase.openFile_follows {outcome : Effect Write × Phase}
    (opened : phase.openFile request now file = some outcome)
    (session : phase.Session request.metadata db pending) :
    outcome.2.Follows request.metadata file (pendingAfter pending outcome.1) := by
  obtain ⟨metadata, batchSize, sourceFileId, runId, rfl, rfl, rfl⟩ := Phase.openFile_some opened
  have empty : pending = [] := session.2.2
  refine Reply.Spec.follows
    (?checked : Reply.Spec (fun point : LoadPoint => point.Follows metadata file []) (fun _ _ => False) _ _ _)
    (fun point ahead => ?_) (fun _ _ impossible => impossible.elim) (fun _ => True.intro) fun _ => True.intro
  · refine Reply.check_spec (fun table dataset => ⟨dataset, ?_⟩) fun _ _ => True.intro
    rw [insertedValues_nil, List.nil_append]
    exact taggedValues_iff.mpr (iterBatches_values _ _ file table)
  · rw [empty]
    exact ahead

theorem Request.exec_follows {e : Event} {effect : Effect Write} {next : Phase}
    (executed : request.exec phase db sequences e = some (effect, next, drawn))
    (opens : ∀ now other, e = .openFile now other → other = file) {committed : Database}
    (session : phase.Session request.metadata committed pending)
    (follows : phase.Follows request.metadata file pending) :
    next.Follows request.metadata file (pendingAfter pending effect) := by
  cases e with
  | next now =>
    obtain ⟨⟨outcome, drawn'⟩, advanced, same⟩ := Option.map_eq_some_iff.mp executed
    cases same
    exact Phase.advance_follows advanced follows
  | openFile now other =>
    obtain ⟨outcome, opened, same⟩ := Option.map_eq_some_iff.mp executed
    cases same
    cases opens now other rfl
    exact Phase.openFile_follows opened session
  | raise error =>
    obtain ⟨next', raised, same⟩ := Option.map_eq_some_iff.mp executed
    cases same
    unfold Phase.raise at raised
    split at raised <;> cases raised <;> exact True.intro
  | commitRaises error =>
    obtain ⟨next', raised, same⟩ := Option.map_eq_some_iff.mp executed
    cases same
    unfold Phase.commitRaises at raised
    split at raised <;> cases raised <;> exact True.intro
  | crash =>
    obtain ⟨next', crashed, same⟩ := Option.map_eq_some_iff.mp executed
    cases same
    rw [Phase.crash_some crashed]
    exact True.intro

end Requests

/-- The raw rows of a source are those of the file that a call for its version has opened. -/
def Database.HoldsFile {Client : Type} (requests : Client → Request) (files : Client → LandingFile) (db : Database)
    (row : SourceFile) : Prop :=
  ∃ i table, (requests i).metadata.partitionKey = row.partitionKey ∧
    (requests i).metadata.checksumSha256 = row.checksumSha256 ∧
    rawTableOf (requests i).metadata.datasetName = .ok table ∧
    (db.rowsOf table row.sourceFileId).map (·.values) = (files i table).flatten

/-- Every loaded source holds the rows of its file. -/
def Database.FollowsFiles {Client : Type} (requests : Client → Request) (files : Client → LandingFile)
    (db : Database) : Prop :=
  ∀ row ∈ db.sourceFiles, row.status = .loaded → db.HoldsFile requests files row

section Committed

variable {Client : Type} {requests : Client → Request} {files : Client → LandingFile} {db db' : Database}

theorem Database.HoldsFile.same {row row' : SourceFile} (holds : db.HoldsFile requests files row)
    (registered : row'.asRegistered = row.asRegistered)
    (rows : ∀ table, db'.rowsOf table row.sourceFileId = db.rowsOf table row.sourceFileId) :
    db'.HoldsFile requests files row' := by
  obtain ⟨i, table, partition, checksum, dataset, values⟩ := holds
  have samePartition := congrArg SourceFile.partitionKey registered
  have sameChecksum := congrArg SourceFile.checksumSha256 registered
  have sameId := congrArg SourceFile.sourceFileId registered
  refine ⟨i, table, partition.trans samePartition.symm, checksum.trans sameChecksum.symm, dataset, ?_⟩
  rw [show row'.sourceFileId = row.sourceFileId from sameId, rows table]
  exact values

theorem Database.FollowsFiles.same (follows : db.FollowsFiles requests files)
    (sources : ∀ row ∈ db'.sourceFiles, row.status = .loaded → row ∈ db.sourceFiles) (raw : db'.raw = db.raw) :
    db'.FollowsFiles requests files := by
  intro row member loaded
  refine (follows row (sources row member loaded) loaded).same rfl fun table => ?_
  unfold Database.rowsOf
  rw [raw]

theorem Database.FollowsFiles.commitLoad {known : SourceFileMetadata → Prop} {i : Client} {sourceFileId runId : Nat}
    {table : RawTable} {rows : List (RawRow table)} {counts : LoadCounts} {finishedAt : Timestamp} {run : PipelineRun}
    (follows : db.FollowsFiles requests files) (catalog : Catalog known) (mine : known (requests i).metadata)
    (described : Described known db) (exact_loads : db.LoadsExact)
    (nodup_after : (db.commitLoad rows sourceFileId runId finishedAt counts).index.Nodup)
    (held : db.Holds sourceFileId (requests i).metadata .ready) (got : db.getRun runId = some run)
    (ofSource : run.sourceFileId = some sourceFileId) (running : run.status = .running)
    (counted : Counted (requests i).metadata sourceFileId runId table rows counts)
    (values : rows.map (·.values) = (files i table).flatten) :
    (db.commitLoad rows sourceFileId runId finishedAt counts).FollowsFiles requests files := by
  obtain ⟨source, gotSource, partition, checksum, -⟩ := held
  have notLoaded := counted.not_loaded catalog mine described exact_loads
    (commitLoad_index ▸ nodup_after) gotSource partition
  have empty : db.Untouched sourceFileId := exact_loads.untouched fun other gotOther => by
    cases gotSource.symm.trans gotOther
    exact notLoaded
  intro row member loaded
  obtain ⟨old, gotOld, changed⟩ := Database.getSourceFile_loaded (Database.getSourceFile_of_mem nodup_after member)
  rw [Database.getSourceFile_addRaws] at gotOld
  by_cases same : row.sourceFileId = sourceFileId
  · rw [if_pos same] at changed
    rw [same, gotSource] at gotOld
    cases gotOld
    subst changed
    refine ⟨i, table, partition.symm, checksum.symm, counted.dataset, ?_⟩
    rw [same, commitLoad_rowsOf empty counted]
    exact values
  · rw [if_neg same] at changed
    subst changed
    have others := commitLoad_same nodup_after got ofSource running counted same
    exact (follows row (getSourceFile_some gotOld).1 loaded).same rfl others.1

theorem Database.FollowsFiles.commit {known : SourceFileMetadata → Prop} {i : Client} {phase : Phase}
    {pending : List Write} (follows : db.FollowsFiles requests files) (catalog : Catalog known)
    (mine : known (requests i).metadata) (described : Described known db) (exact_loads : db.LoadsExact)
    (nodup_after : (db.replay pending).index.Nodup)
    (session : phase.Session (requests i).metadata db pending)
    (ahead : phase.Follows (requests i).metadata (files i) pending) (atCommit : phase.AtCommit) :
    (db.replay pending).FollowsFiles requests files := by
  unfold Phase.AtCommit at atCommit
  split at atCommit
  · have rest := session.2
    split at rest
    · obtain ⟨⟨now, rfl⟩, -, -, chosen⟩ := rest
      refine follows.same (fun row member loaded => ?_) rfl
      rcases List.mem_append.mp member with old | new
      · exact old
      · rw [List.mem_singleton.mp new] at loaded
        rcases chosen with ready | ⟨revision, -⟩
        · cases ready.symm.trans loaded
        · cases revision.symm.trans loaded
    · cases rest.1
      exact follows
  · obtain ⟨-, source, run, rfl, -⟩ := session
    exact follows.same (fun _ member _ => member) rfl
  · obtain ⟨-, source, run, rfl, -⟩ := session
    exact follows.same (fun _ member _ => member) rfl
  · obtain ⟨held, ⟨run, got, ofSource, running⟩, table, rows, finishedAt, rfl, counted⟩ := session
    obtain ⟨table', dataset, values⟩ := ahead
    cases counted.dataset.symm.trans dataset
    rw [insertedValues_append, insertedValues_rows] at values
    have written : taggedValues rows = (files i).values table := (List.append_nil _).symm.trans values
    rw [Database.replay_append, Database.replay_insertRaw] at nodup_after ⊢
    exact follows.commitLoad catalog mine described exact_loads nodup_after held got ofSource running counted
      (taggedValues_iff.mp written)
  · obtain ⟨-, -, run, now, -, -, rfl⟩ := session
    exact follows.same (fun _ member _ => member) rfl
  · exact atCommit.elim

end Committed

/-- What holds of every state when the calls open their own files. -/
structure FollowsFiles {Client : Type} (requests : Client → Request) (files : Client → LandingFile)
    (s : Platform Client) : Prop where
  phases : ∀ i, (s.phase i).Follows (requests i).metadata (files i) (s.pending i)
  committed : s.committed.FollowsFiles requests files

section Runs

variable {Client : Type} [Fintype Client] [DecidableEq Client] {requests : Client → Request}
  {files : Client → LandingFile} {known : SourceFileMetadata → Prop} {s s' : Platform Client}

theorem FollowsFiles.step (follows : FollowsFiles requests files s) (catalog : Catalog known)
    (mine : ∀ i, known (requests i).metadata) (ingested : Ingested requests known s) {i : Client} {e : Event}
    (opens : ∀ now file, e = .openFile now file → file = files i)
    (stepped : (ingestion requests).step s i e = some s') : FollowsFiles requests files s' := by
  have coherent := ingested.coherent.step stepped
  obtain ⟨effect, phase, external, executed, -, rfl⟩ := (ingestion requests).step_some stepped
  constructor
  · intro j
    by_cases same : j = i
    · subst same
      have ahead := Request.exec_follows executed opens (ingested.coherent.sessions j) (follows.phases j)
      rw [Program.perform_phase_self]
      cases effect with
      | read => exact ahead
      | write w =>
        rw [Program.perform_write_pending]
        exact ahead
      | commit =>
        rw [Program.perform_commit_pending]
        exact ahead
      | rollback =>
        rw [Program.perform_rollback_pending]
        exact ahead
    · rw [(ingestion requests).perform_phase_other same, (ingestion requests).perform_pending_other same]
      exact follows.phases j
  · cases effect with
    | read => exact follows.committed
    | write w => exact follows.committed
    | rollback => exact follows.committed
    | commit =>
      exact follows.committed.commit catalog (mine i) ingested.described ingested.loads
        coherent.distinct.committed (ingested.coherent.sessions i)
        (follows.phases i) (Request.exec_commit executed)

/-- In every run in which the calls open their own files, the loaded sources hold the rows of these files. -/
theorem follows_run (catalog : Catalog known) (mine : ∀ i, known (requests i).metadata)
    {schedule : List (Client × Event)}
    (opens : ∀ i now file, (i, Event.openFile now file) ∈ schedule → file = files i)
    (ran : (ingestion requests).run startState schedule = some s) : FollowsFiles requests files s := by
  have turns : (ingestion requests).Throughout
      (fun _ i e => ∀ now file, e = .openFile now file → file = files i) startState schedule :=
    Stateful.throughout_of_events fun turn member now file opened => by
      refine opens turn.1 now file ?_
      rw [← opened]
      exact member
  have start : FollowsFiles requests files startState := ⟨fun _ => True.intro, fun _ member => by cases member⟩
  have both : Ingested requests known s ∧ FollowsFiles requests files s := by
    refine Program.run_preserves_throughout (I := fun s => Ingested requests known s ∧ FollowsFiles requests files s)
      (fun _ _ _ _ holds opens stepped => ?_) ⟨ingested_start, start⟩ turns ran
    exact ⟨holds.1.step catalog mine stepped, holds.2.step catalog mine holds.1 opens stepped⟩
  exact both.2

/-- The rows of a loaded version are those of its file, whatever else has run, and in whatever order. -/
theorem loaded_rows_follow_file (readers : Readers) {source : Client → SourcePartition} {content : Client → Bytes}
    (resolved : ∀ i, Resolved (source i))
    (inspected : ∀ i, inspectSource readers (source i) (content i) = .ok (requests i).metadata)
    (collisionFree : ∀ i j, readers.sha256 (content i) = readers.sha256 (content j) → content i = content j)
    (delivered : ∀ i j, content i = content j → (requests i).metadata.datasetName = (requests j).metadata.datasetName →
      ∀ table, (files i table).flatten = (files j table).flatten)
    {schedule : List (Client × Event)}
    (opens : ∀ i now file, (i, Event.openFile now file) ∈ schedule → file = files i)
    (ran : (ingestion requests).run startState schedule = some s) {i : Client} {row : SourceFile}
    (member : row ∈ s.committed.sourceFiles) (partition : row.partitionKey = (requests i).metadata.partitionKey)
    (checksum : row.checksumSha256 = (requests i).metadata.checksumSha256) (loaded : row.status = .loaded)
    {table : RawTable} (dataset : rawTableOf (requests i).metadata.datasetName = .ok table) :
    (s.committed.rowsOf table row.sourceFileId).map (·.values) = (files i table).flatten := by
  have catalog := inspected_catalog resolved inspected collisionFree
  have follows := follows_run catalog (fun i => ⟨i, rfl⟩) opens ran
  obtain ⟨j, other, samePartition, sameChecksum, otherDataset, values⟩ := follows.committed row member loaded
  have names := catalog.dataset ⟨j, rfl⟩ ⟨i, rfl⟩ (samePartition.trans partition)
  rw [names, dataset] at otherDataset
  cases otherDataset
  obtain ⟨-, foundI, -, metadataI⟩ := inspectSource_ok (inspected i)
  obtain ⟨-, foundJ, -, metadataJ⟩ := inspectSource_ok (inspected j)
  have digests : readers.sha256 (content j) = readers.sha256 (content i) := by
    have same := sameChecksum.trans checksum
    rwa [metadataI, metadataJ] at same
  rw [values]
  exact delivered j i (collisionFree j i digests) names table

end Runs

end TaxiPipeline
