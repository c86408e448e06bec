import TaxiPipeline.Ingestion.Sessions

namespace TaxiPipeline

open ReadCommitted

/-- Ids that the sequences have given out. -/
def IndexKey.Below (sequences : Sequences) : IndexKey → Prop
  | .sourceFile sourceFileId => 1 ≤ sourceFileId ∧ sourceFileId < sequences.sourceFileId
  | .run runId => runId < sequences.runId
  | .version .. | .rawRow .. | .zoneLocation .. => True

/-- The entries that a write adds are new, and their ids are drawn. -/
structure Write.Enters (db : Database) (sequences : Sequences) (w : Write) : Prop where
  nodup : w.inserts.Nodup
  absent : ∀ k ∈ w.inserts, k ∉ db.index
  below : ∀ k ∈ w.inserts, k.Below sequences

/-- What holds of a reply, by its kind. -/
def Reply.Spec {Point Result : Type} (read : Point → Prop) (write : Write → Point → Prop)
    (commit : Result → Prop) (raise : PyException → Prop) : Reply Point Result → Prop
  | .read next => read next
  | .write w next => write w next
  | .commit result => commit result
  | .raise error => raise error

section Spec

variable {α Point Result : Type} {read : Point → Prop} {write : Write → Point → Prop}
  {commit : Result → Prop} {raise : PyException → Prop}

theorem Reply.check_spec {result : Except PyException α} {next : α → Reply Point Result}
    (ok : ∀ a, result = .ok a → (next a).Spec read write commit raise)
    (failed : ∀ error, result = .error error → raise error) :
    (Reply.check result next).Spec read write commit raise := by
  cases result with
  | ok a => exact ok a rfl
  | error error => exact failed error rfl

theorem Reply.guarded_spec {failure : Option PyException} {next : Reply Point Result}
    (ok : failure = none → next.Spec read write commit raise)
    (failed : ∀ error, failure = some error → raise error) :
    (Reply.guarded failure next).Spec read write commit raise := by
  cases failure with
  | none => exact ok rfl
  | some error => exact failed error rfl

end Spec

theorem conflicts_false {db : Database} {keys : List IndexKey} :
    db.conflicts keys = false ↔ ∀ k ∈ keys, k ∉ db.index := by
  simp [Database.conflicts]

theorem newSourceFile_fits (sourceFileId : Nat) (status : SourceStatus) (now : Timestamp)
    (metadata : SourceFileMetadata) : (newSourceFile sourceFileId status now metadata).fits = metadata.fits :=
  rfl

theorem newSourceFile_meetsChecks (sourceFileId : Nat) (status : SourceStatus) (now : Timestamp)
    (metadata : SourceFileMetadata) :
    (newSourceFile sourceFileId status now metadata).meetsChecks = metadata.meetsChecks := rfl

section Visible

variable {db : Database} {metadata : SourceFileMetadata}

theorem holds_of_found (nodup : db.index.Nodup) {row : SourceFile}
    (found : db.findExactVersion metadata = some row) :
    db.Holds row.sourceFileId metadata row.status := by
  obtain ⟨member, partition, checksum⟩ := findExactVersion_some found
  exact ⟨row, Database.getSourceFile_of_mem nodup member, partition, checksum, .refl _⟩

theorem hasPartition_of_mem (nodup : db.index.Nodup) {row : SourceFile} (member : row ∈ db.sourceFiles) :
    db.HasPartition row.partitionKey :=
  ⟨row.sourceFileId, row, Database.getSourceFile_of_mem nodup member, rfl⟩

theorem registrationStatus_chosen (nodup : db.index.Nodup) :
    StatusChosen db metadata (registrationStatus (db.findPartition metadata.partitionKey)) := by
  cases found : db.findPartition metadata.partitionKey with
  | none => exact .inl rfl
  | some sourceFileId =>
    obtain ⟨row, member, same, -⟩ := findPartition_some found
    by_cases zero : sourceFileId = 0
    · exact .inl (by simp [registrationStatus, zero])
    · exact .inr ⟨by simp [registrationStatus, zero], same ▸ hasPartition_of_mem nodup member⟩

theorem version_of_conflict {sequences : Sequences} {status : SourceStatus} {now : Timestamp}
    (nodup : db.index.Nodup) (below : ∀ k ∈ db.index, k.Below sequences)
    (conflict : db.conflicts (newSourceFile sequences.sourceFileId status now metadata).keys = true) :
    ∃ sourceFileId, db.Holds sourceFileId metadata .revisionDetected ∨
      db.Holds sourceFileId metadata .ready := by
  simp only [Database.conflicts, SourceFile.keys, List.any_cons, List.any_nil, Bool.or_false,
    Bool.or_eq_true, List.contains_iff_mem] at conflict
  rcases conflict with repeated | repeated
  · have := (below _ repeated).2
    exact absurd this (by simp [newSourceFile])
  · obtain ⟨row, member, partition, checksum⟩ := Database.mem_index_version.mp repeated
    have found := Database.getSourceFile_of_mem nodup member
    refine ⟨row.sourceFileId, ?_⟩
    cases status : row.status with
    | ready => exact .inr ⟨row, found, partition, checksum, .inl status.symm⟩
    | loaded => exact .inr ⟨row, found, partition, checksum, .inr ⟨rfl, status⟩⟩
    | revisionDetected => exact .inl ⟨row, found, partition, checksum, .inl status.symm⟩

theorem newSourceFile_enters {sequences : Sequences} {status : SourceStatus} {now : Timestamp}
    (positive : 1 ≤ sequences.sourceFileId)
    (free : db.conflicts (newSourceFile sequences.sourceFileId status now metadata).keys = false) :
    (Write.insertSource (newSourceFile sequences.sourceFileId status now metadata)).Enters db
      { sequences with sourceFileId := sequences.sourceFileId + 1 } where
  nodup := SourceFile.keys_nodup _
  absent := conflicts_false.mp free
  below := by
    intro k member
    simp only [Write.inserts, SourceFile.keys, List.mem_cons, List.not_mem_nil, or_false] at member
    rcases member with rfl | rfl
    · exact ⟨positive, Nat.lt_succ_self _⟩
    · exact True.intro

end Visible

section Registration

variable {db : Database} {pending : List Write} {metadata : SourceFileMetadata} {sequences : Sequences}
  {now : Timestamp}

theorem sourceFileInsertError_none {row : SourceFile} :
    db.sourceFileInsertError row = none ↔
      row.fits = true ∧ row.meetsChecks = true ∧ db.conflicts row.keys = false := by
  unfold Database.sourceFileInsertError
  cases row.fits <;> cases row.meetsChecks <;> cases db.conflicts row.keys <;> simp

/-- What a registration goes through: a failure comes from the constraints its metadata breaks. -/
theorem RegistrationPoint.exec_spec {point : RegistrationPoint}
    (session : point.Session metadata db pending) (nodup : (db.replay pending).index.Nodup)
    (below : ∀ k ∈ (db.replay pending).index, k.Below sequences) (positive : 1 ≤ sequences.sourceFileId) :
    (point.exec metadata (db.replay pending) sequences now).Spec
      (·.Session metadata db pending)
      (fun w next => w.Enters (db.replay pending) (point.draw sequences) ∧
        next.Session metadata db (pending ++ [w]))
      (fun result => result.decision = decisionForSourceStatus result.sourceStatus ∧
        (db.replay pending).Holds result.sourceFileId metadata result.sourceStatus)
      (fun error => (metadata.fits = true → metadata.meetsChecks = false) ∧
        (error.kind = .integrityError → metadata.meetsChecks = false)) := by
  cases point with
  | findExactVersion =>
    cases session
    simp only [RegistrationPoint.exec, Database.replay_nil] at nodup ⊢
    split
    · rename_i existing found
      exact ⟨rfl, rfl, holds_of_found nodup found⟩
    · exact rfl
  | findPartition =>
    cases session
    exact ⟨rfl, registrationStatus_chosen nodup⟩
  | insert status =>
    obtain ⟨rfl, chosen⟩ := session
    simp only [RegistrationPoint.exec, Database.replay_nil] at nodup below ⊢
    split
    · rename_i inserted
      obtain ⟨fits, checks, free⟩ := sourceFileInsertError_none.mp inserted
      exact ⟨newSourceFile_enters positive free, rfl, ⟨now, rfl⟩, fits, checks, chosen⟩
    · rename_i error failed
      unfold Database.sourceFileInsertError at failed
      rw [newSourceFile_fits, newSourceFile_meetsChecks] at failed
      cases fits : metadata.fits with
      | false =>
        simp only [fits, Bool.not_false, if_true] at failed
        cases failed
        exact ⟨nofun, nofun⟩
      | true =>
        cases checks : metadata.meetsChecks with
        | false =>
          simp only [fits, checks, Bool.not_false, Bool.not_true, Bool.false_eq_true, if_true, if_false] at failed
          cases failed
          exact ⟨rfl, rfl, fun impossible => by simp [checks] at impossible⟩
        | true =>
          simp only [fits, checks, Bool.not_true, Bool.false_eq_true, if_false] at failed
          split at failed
          · rename_i conflict
            cases failed
            exact ⟨rfl, rfl, fun _ => version_of_conflict nodup below conflict⟩
          · cases failed
  | findRacedVersion error =>
    obtain ⟨rfl, kind, raced⟩ := session
    simp only [RegistrationPoint.exec, Database.replay_nil] at nodup ⊢
    split
    · rename_i row found
      exact ⟨rfl, rfl, holds_of_found nodup found⟩
    · rename_i missing
      have absent : metadata.meetsChecks = false := by
        cases checks : metadata.meetsChecks with
        | false => rfl
        | true =>
          obtain ⟨sourceFileId, held⟩ := raced checks
          rcases held with ⟨row, found, partition, checksum, -⟩ | ⟨row, found, partition, checksum, -⟩ <;>
            exact absurd checksum (findExactVersion_none.mp missing row (getSourceFile_some found).1 partition)
      exact ⟨fun _ => absent, fun _ => absent⟩
  | commit result =>
    obtain ⟨decision, rest⟩ := session
    refine ⟨decision, ?_⟩
    cases isNew : result.isNewRegistration with
    | false =>
      simp only [isNew, Bool.false_eq_true, if_false] at rest
      obtain ⟨rfl, held⟩ := rest
      exact held
    | true =>
      simp only [isNew, if_true] at rest
      obtain ⟨⟨stamp, rfl⟩, -⟩ := rest
      have member : newSourceFile result.sourceFileId result.sourceStatus stamp metadata ∈
          (db.replay [.insertSource
            (newSourceFile result.sourceFileId result.sourceStatus stamp metadata)]).sourceFiles := by
        simp [Write.apply, Database.addSourceFile]
      exact ⟨_, Database.getSourceFile_of_mem nodup member, rfl, rfl, .refl _⟩

end Registration

section Record

variable {db : Database} {pending : List Write} {sequences : Sequences} {sourceFileId : Nat}
  {kind : PipelineRun → SourceFile → Prop} {newRun : Nat → SourceFile → PipelineRun}

theorem insertRun_enters (below : ∀ k ∈ db.index, k.Below sequences) {run : PipelineRun}
    (drawn : run.runId = sequences.runId) :
    (Write.insertRun run).Enters db { sequences with runId := sequences.runId + 1 } where
  nodup := by simp [Write.inserts, PipelineRun.keys]
  absent := by
    intro k member used
    cases List.mem_singleton.mp member
    have : run.runId < sequences.runId := below _ used
    omega
  below := by
    intro k member
    cases List.mem_singleton.mp member
    exact drawn ▸ Nat.lt_succ_self _

/-- Recording a run: whatever goes wrong, nothing but the new run is ever written. -/
theorem RecordPoint.exec_spec {point : RecordPoint} (require : SourceFile → Except PyException Unit)
    (session : point.Session kind sourceFileId db pending)
    (below : ∀ k ∈ (db.replay pending).index, k.Below sequences)
    (drawn : ∀ runId source, (newRun runId source).runId = runId)
    (made : ∀ runId source, kind (newRun runId source) source) :
    (RecordPoint.exec require newRun sourceFileId (db.replay pending) sequences point).Spec
      (·.Session kind sourceFileId db pending)
      (fun w next => w.Enters (db.replay pending) (point.draw sequences) ∧
        next.Session kind sourceFileId db (pending ++ [w]))
      (fun runId => ∃ source run, pending = [.insertRun run] ∧ run.runId = runId ∧ kind run source ∧
        source.sourceFileId = sourceFileId)
      (fun _ => True) := by
  cases point with
  | select =>
    cases session
    refine Reply.check_spec (fun source found => ?_) fun _ _ => True.intro
    refine Reply.check_spec (fun _ _ => ?_) fun _ _ => True.intro
    have got := requireSourceFile_ok found
    have same := (getSourceFile_some got).2
    exact ⟨rfl, same, source, same ▸ got, rfl⟩
  | insert source =>
    obtain ⟨rfl, same, shown⟩ := session
    refine Reply.guarded_spec (fun _ => ?_) fun _ _ => True.intro
    exact ⟨insertRun_enters below (drawn _ _), source, _, rfl, rfl, made _ _, same, shown⟩
  | commit runId =>
    obtain ⟨source, run, written, sameId, isKind, same, -⟩ := session
    exact ⟨source, run, written, sameId, isKind, same⟩

theorem startRunExec_spec {point : RecordPoint} (session : point.Session IsRunning sourceFileId db pending)
    (now : Timestamp) (below : ∀ k ∈ (db.replay pending).index, k.Below sequences) :
    (startRunExec sourceFileId (db.replay pending) sequences now point).Spec
      (·.Session IsRunning sourceFileId db pending)
      (fun w next => w.Enters (db.replay pending) (point.draw sequences) ∧
        next.Session IsRunning sourceFileId db (pending ++ [w]))
      (fun runId => ∃ source run, pending = [.insertRun run] ∧ run.runId = runId ∧
        IsRunning run source ∧ source.sourceFileId = sourceFileId)
      (fun _ => True) :=
  RecordPoint.exec_spec _ session below (fun _ _ => rfl) fun _ _ => ⟨now, rfl⟩

theorem skippedRunExec_spec {point : RecordPoint} {reason : SkipReason}
    (session : point.Session (IsSkipped reason) sourceFileId db pending) (now : Timestamp)
    (below : ∀ k ∈ (db.replay pending).index, k.Below sequences) :
    (skippedRunExec sourceFileId reason (db.replay pending) sequences now point).Spec
      (·.Session (IsSkipped reason) sourceFileId db pending)
      (fun w next => w.Enters (db.replay pending) (point.draw sequences) ∧
        next.Session (IsSkipped reason) sourceFileId db (pending ++ [w]))
      (fun runId => ∃ source run, pending = [.insertRun run] ∧ run.runId = runId ∧
        IsSkipped reason run source ∧ source.sourceFileId = sourceFileId)
      (fun _ => True) :=
  RecordPoint.exec_spec _ session below (fun _ _ => rfl) fun _ _ => ⟨now, rfl⟩

end Record

section Load

variable {db : Database} {pending : List Write} {metadata : SourceFileMetadata} {sequences : Sequences}
  {sourceFileId runId : Nat} {now : Timestamp}

theorem rawRow_enters {table : RawTable} {row : RawRow table} (free : db.conflicts row.keys = false) :
    (Write.insertRaw table row).Enters db sequences where
  nodup := row.keys_nodup
  absent := conflicts_false.mp free
  below := by
    intro k member
    cases table <;> simp only [Write.inserts, RawRow.keys, RawRow.primaryKey, List.mem_cons,
      List.not_mem_nil, or_false] at member
    · exact member ▸ True.intro
    · exact member ▸ True.intro
    · rcases member with rfl | rfl <;> exact True.intro

theorem update_enters {w : Write} (inserts : w.inserts = []) : w.Enters db sequences :=
  ⟨by simp [inserts], by simp [inserts], by simp [inserts]⟩

theorem copyError_none {table : RawTable} {row : RawRow table} :
    db.copyError row = none ↔ table.fits row.values = true ∧ db.conflicts row.keys = false := by
  unfold Database.copyError
  cases table.fits row.values <;> cases db.conflicts row.keys <;> simp

theorem CopyProgress.exec_spec {table : RawTable} {progress : CopyProgress table} (sequences : Sequences)
    (session : (LoadPoint.copy table progress).Session metadata sourceFileId runId db pending) :
    (progress.exec (db.replay pending)).Spec
      (·.Session metadata sourceFileId runId db pending)
      (fun w next => w.Enters (db.replay pending) sequences ∧
        next.Session metadata sourceFileId runId db (pending ++ [w]))
      (fun _ => False) (fun _ => True) := by
  obtain ⟨rows, rfl, copies, loaded, read⟩ := session
  obtain ⟨rowsRead, rowsLoaded, copied, current, rest⟩ := progress
  cases current with
  | cons row current =>
    refine Reply.guarded_spec (fun copied => ?_) fun _ _ => True.intro
    refine ⟨rawRow_enters (copyError_none.mp copied).2, rows ++ [row], by simp, ?_, ?_, ?_⟩
    · simpa using copies
    · simp only [List.length_append, List.length_singleton] at loaded ⊢
      omega
    · simp only [List.length_append, List.length_cons, List.length_nil] at read ⊢
      omega
  | nil =>
    cases rest with
    | cons batch rest =>
      refine ⟨rows, rfl, by simpa using copies, by simpa using loaded, ?_⟩
      simp only [List.length_nil, RawBatch.rowCount] at read ⊢
      omega
    | nil =>
      refine ⟨rows, rfl, by simpa using copies, ?_⟩
      simp only [List.length_nil, Nat.add_zero] at read
      rw [read, loaded]

theorem getRun_replay_insertRaw (table : RawTable) (rows : List (RawRow table)) :
    (db.replay (rows.map (.insertRaw table))).getRun runId = db.getRun runId := by
  rw [Database.replay_insertRaw, Database.getRun_addRaws]

/-- The load transaction: the rows it has copied are always its own, numbered from 1. -/
theorem LoadPoint.exec_spec {point : LoadPoint} {reply : Reply LoadPoint LoadCounts}
    (sequences : Sequences) (session : point.Session metadata sourceFileId runId db pending)
    (source : db.HoldsRun runId sourceFileId)
    (executed : point.exec metadata sourceFileId runId (db.replay pending) now = some reply) :
    reply.Spec
      (·.Session metadata sourceFileId runId db pending)
      (fun w next => w.Enters (db.replay pending) sequences ∧
        next.Session metadata sourceFileId runId db (pending ++ [w]))
      (fun _ => True) (fun _ => True) := by
  cases point with
  | openFile => cases executed
  | copy table progress =>
    cases executed
    have spec := CopyProgress.exec_spec sequences session
    cases reply : progress.exec (db.replay pending) <;> rw [reply] at spec
    · exact spec
    · exact spec
    · exact True.intro
    · exact True.intro
  | count table counts =>
    cases executed
    obtain ⟨rows, rfl, copies, rfl⟩ := session
    refine Reply.check_spec (fun _ valid => ?_) fun _ _ => True.intro
    exact ⟨table, rows, rfl, copies, rfl, (validateCounts_ok.mp valid).1⟩
  | selectRun counts =>
    cases executed
    obtain ⟨table, rows, rfl, counted⟩ := session
    refine Reply.check_spec (fun run found => ?_) fun _ _ => True.intro
    refine Reply.check_spec (fun owner same => ?_) fun _ _ => True.intro
    have got := (requireRunningRun_ok found).1
    rw [getRun_replay_insertRaw] at got
    obtain ⟨run', got', ofSource⟩ := source
    cases got.symm.trans got'
    rw [requireSource_ok, ofSource] at same
    exact ⟨(Option.some.inj same).symm, got, table, rows, rfl, counted⟩
  | selectSource counts run owner finishedAt =>
    cases executed
    refine Reply.check_spec (fun row found => ?_) fun _ _ => True.intro
    exact Reply.check_spec (fun _ _ => session) fun _ _ => True.intro
  | updateSource counts run owner finishedAt =>
    cases executed
    obtain ⟨rfl, got, table, rows, rfl, counted⟩ := session
    exact ⟨update_enters rfl, got, table, rows, rfl, counted⟩
  | updateRun counts run finishedAt =>
    cases executed
    obtain ⟨got, table, rows, rfl, counted⟩ := session
    refine Reply.guarded_spec (fun _ => ?_) fun _ _ => True.intro
    refine ⟨update_enters rfl, table, rows, finishedAt, ?_, counted⟩
    simp [(getRun_some got).2]
  | commit counts =>
    cases executed
    exact True.intro

theorem openExec_spec {batchSize : Int} {file : LandingFile} :
    (openExec metadata batchSize sourceFileId runId now file).Spec
      (·.Session metadata sourceFileId runId db []) (fun _ _ => False) (fun _ => False)
      (fun _ => True) := by
  refine Reply.check_spec (fun table dataset => ?_) fun _ _ => True.intro
  refine ⟨[], rfl, ⟨dataset, ?_⟩, rfl, rfl⟩
  have numbers := iterBatches_lineage ⟨sourceFileId, runId, now⟩ batchSize.toNat file table
  have count := congrArg List.length numbers
  simp only [List.length_map, numbered_length] at count
  simp only [CopyProgress.start, List.nil_append, numbers, count]
  rfl

theorem FailPoint.exec_spec {message : String} {point : FailPoint} (sequences : Sequences)
    (session : point.Session runId message db pending) :
    (point.exec runId message (db.replay pending) now).Spec
      (·.Session runId message db pending)
      (fun w next => w.Enters (db.replay pending) sequences ∧
        next.Session runId message db (pending ++ [w]))
      (fun _ => True) (fun _ => True) := by
  cases point with
  | select =>
    cases session
    refine Reply.check_spec (fun _ _ => ?_) fun _ _ => True.intro
    refine Reply.check_spec (fun run found => ?_) fun _ _ => True.intro
    exact ⟨rfl, requireRunningRun_ok found⟩
  | update run =>
    obtain ⟨rfl, got, running⟩ := session
    refine Reply.guarded_spec (fun _ => ?_) fun _ _ => True.intro
    refine ⟨update_enters rfl, run, now, got, running, ?_⟩
    simp [(getRun_some got).2]
  | commit => exact True.intro

end Load

end TaxiPipeline
