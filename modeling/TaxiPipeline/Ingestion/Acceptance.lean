import TaxiPipeline.Ingestion.AllOrNothing

namespace TaxiPipeline

open ReadCommitted

namespace Database

/-- At most one version of a partition is ready or loaded, and a blocked one has no raw rows. -/
structure OneAcceptedVersion (db : Database) : Prop where
  unique : ∀ row ∈ db.sourceFiles, ∀ other ∈ db.sourceFiles, row.partitionKey = other.partitionKey →
    row.status ≠ .revisionDetected → other.status ≠ .revisionDetected → row = other
  blocked : ∀ row ∈ db.sourceFiles, row.status = .revisionDetected →
    ∀ table, db.rowsOf table row.sourceFileId = []

/-- A partition that is known at all has an accepted version. -/
def PartitionsAccepted (db : Database) : Prop :=
  ∀ partitionKey, db.HasPartition partitionKey → ∃ sourceFileId row,
    db.getSourceFile sourceFileId = some row ∧ row.partitionKey = partitionKey ∧
      row.status ≠ .revisionDetected

/-- Raw rows belong to loaded sources. -/
def RowsOfLoaded (db : Database) : Prop :=
  ∀ table, ∀ row ∈ db.raw table, ∃ source,
    db.getSourceFile row.lineage.sourceFileId = some source ∧ source.status = .loaded

/-- The sources stay, up to the step of a ready one to loaded. -/
def AcceptanceKept (db db' : Database) : Prop :=
  ∀ row' ∈ db'.sourceFiles, ∃ row ∈ db.sourceFiles, row'.sourceFileId = row.sourceFileId ∧
    row'.partitionKey = row.partitionKey ∧
      (row'.status = .revisionDetected ↔ row.status = .revisionDetected)

variable {db db' : Database} {owned : Nat → Prop}

theorem AcceptanceKept.refl (db : Database) : db.AcceptanceKept db :=
  fun row member => ⟨row, member, rfl, rfl, Iff.rfl⟩

theorem AcceptanceKept.unique (kept : db.AcceptanceKept db') (nodup : db'.index.Nodup)
    (one : db.OneAcceptedVersion) :
    ∀ row ∈ db'.sourceFiles, ∀ other ∈ db'.sourceFiles, row.partitionKey = other.partitionKey →
      row.status ≠ .revisionDetected → other.status ≠ .revisionDetected → row = other := by
  intro row member other memberOther partition accepted acceptedOther
  obtain ⟨old, inOld, id, partitionOld, statusOld⟩ := kept row member
  obtain ⟨oldOther, inOldOther, idOther, partitionOther, statusOther⟩ := kept other memberOther
  have same := one.unique old inOld oldOther inOldOther
    (partitionOld.symm.trans (partition.trans partitionOther)) (fun revised => accepted (statusOld.mpr revised))
    fun revised => acceptedOther (statusOther.mpr revised)
  exact unique_sourceFile nodup member memberOther (id.trans (same ▸ idOther.symm))

theorem RowsOfLoaded.blocked (loaded : db.RowsOfLoaded) (nodup : db.index.Nodup) :
    ∀ row ∈ db.sourceFiles, row.status = .revisionDetected →
      ∀ table, db.rowsOf table row.sourceFileId = [] := by
  intro row member revised table
  refine List.eq_nil_iff_forall_not_mem.mpr fun raw inRows => ?_
  obtain ⟨inTable, sameId⟩ := mem_rowsOf.mp inRows
  obtain ⟨source, got, isLoaded⟩ := loaded table raw inTable
  rw [sameId, getSourceFile_of_mem nodup member] at got
  cases got
  rw [revised] at isLoaded
  cases isLoaded

theorem Extends.accepted (extended : db.Extends owned db') {sourceFileId : Nat} {row : SourceFile}
    (got : db.getSourceFile sourceFileId = some row) (accepted : row.status ≠ .revisionDetected) :
    ∃ row', db'.getSourceFile sourceFileId = some row' ∧ row'.partitionKey = row.partitionKey ∧
      row'.status ≠ .revisionDetected := by
  obtain ⟨row', got', same, reached⟩ := extended.sources got
  have samePartition := congrArg SourceFile.partitionKey same
  refine ⟨row', got', samePartition, fun revised => ?_⟩
  rcases reached with kept | ⟨-, loaded⟩
  · exact accepted (kept.trans revised)
  · rw [loaded] at revised
    cases revised

end Database

section Step

variable {metadata : SourceFileMetadata} {db db' : Database} {owned : Nat → Prop}

theorem CommitStep.partitionsAccepted (step : CommitStep metadata db db')
    (extended : db.Extends owned db') (nodup_after : db'.index.Nodup)
    (accepted : db.PartitionsAccepted) : db'.PartitionsAccepted := by
  have carry : ∀ partitionKey, db.HasPartition partitionKey → ∃ sourceFileId row,
      db'.getSourceFile sourceFileId = some row ∧ row.partitionKey = partitionKey ∧
        row.status ≠ .revisionDetected := by
    intro partitionKey known
    obtain ⟨sourceFileId, row, got, partition, isAccepted⟩ := accepted partitionKey known
    obtain ⟨row', got', same, stays⟩ := extended.accepted got isAccepted
    exact ⟨sourceFileId, row', got', same.trans partition, stays⟩
  rintro partitionKey ⟨sourceFileId, row, got, partition⟩
  cases step with
  | nothing => exact carry partitionKey ⟨sourceFileId, row, got, partition⟩
  | started held shown => exact carry partitionKey ⟨sourceFileId, row, got, partition⟩
  | skipped held shown => exact carry partitionKey ⟨sourceFileId, row, got, partition⟩
  | failed found running => exact carry partitionKey ⟨sourceFileId, row, got, partition⟩
  | loaded held found ofSource running counted =>
    obtain ⟨old, gotOld, rfl⟩ := Database.getSourceFile_loaded got
    refine carry partitionKey ⟨sourceFileId, old, gotOld, ?_⟩
    rw [← partition]
    split <;> rfl
  | registered fits checks chosen =>
    rcases Database.getSourceFile_added got with old | rfl
    · exact carry partitionKey ⟨sourceFileId, row, old, partition⟩
    · rcases chosen with rfl | ⟨-, known⟩
      · exact ⟨sourceFileId, _, got, partition, nofun⟩
      · exact carry partitionKey (partition ▸ known)

theorem CommitStep.rowsOfLoaded (step : CommitStep metadata db db') (extended : db.Extends owned db')
    (loaded : db.RowsOfLoaded) : db'.RowsOfLoaded := by
  have carry : ∀ table, ∀ row ∈ db.raw table, ∃ source,
      db'.getSourceFile row.lineage.sourceFileId = some source ∧ source.status = .loaded := by
    intro table row member
    obtain ⟨source, got, isLoaded⟩ := loaded table row member
    obtain ⟨source', got', -, reached⟩ := extended.sources got
    refine ⟨source', got', ?_⟩
    rcases reached with kept | ⟨-, loaded⟩
    · exact kept.symm.trans isLoaded
    · exact loaded
  intro table row member
  cases step with
  | nothing => exact carry table row member
  | registered fits checks chosen => exact carry table row member
  | started held shown => exact carry table row member
  | skipped held shown => exact carry table row member
  | failed found running => exact carry table row member
  | @loaded sourceFileId runId table' rows counts finishedAt run held got ofSource running counted =>
    by_cases same : table = table'
    · subst same
      have added : (db.commitLoad rows sourceFileId runId finishedAt counts).raw table =
          db.raw table ++ rows := Function.update_self ..
      rw [added] at member
      rcases List.mem_append.mp member with old | new
      · exact carry table row old
      · obtain ⟨source, gotSource, -⟩ := held
        rw [counted.row_source new]
        refine ⟨source.markLoaded finishedAt, ?_, rfl⟩
        refine (Database.getSourceFile_markLoaded finishedAt).trans ?_
        rw [Database.getSourceFile_addRaws, gotSource, Option.map_some, if_pos rfl]
    · have kept : (db.commitLoad rows sourceFileId runId finishedAt counts).raw table = db.raw table :=
        Function.update_of_ne same ..
      rw [kept] at member
      exact carry table row member

/-- A commit either adds the one row of a registration or keeps which sources are accepted. -/
theorem Phase.Session.commit_sources {phase : Phase} {pending : List Write}
    (session : phase.Session metadata db pending) (atCommit : phase.AtCommit) (nodup : db.index.Nodup) :
    (∃ row, pending = [.insertSource row] ∧ (row.status = .ready ∨ row.status = .revisionDetected)) ∨
      ((∀ row, .insertSource row ∉ pending) ∧ db.AcceptanceKept (db.replay pending)) := by
  unfold Phase.AtCommit at atCommit
  split at atCommit
  · have rest := session.2
    split at rest
    · obtain ⟨⟨now, rfl⟩, -, -, chosen⟩ := rest
      exact .inl ⟨_, rfl, chosen.imp_right And.left⟩
    · cases rest.1
      exact .inr ⟨by simp, .refl db⟩
  · obtain ⟨-, source, run, rfl, -⟩ := session
    exact .inr ⟨by simp, .refl db⟩
  · obtain ⟨-, source, run, rfl, -⟩ := session
    exact .inr ⟨by simp, .refl db⟩
  · obtain ⟨⟨source, gotSource, -, -, reached⟩, -, table, rows, finishedAt, rfl, counted⟩ := session
    refine .inr ⟨by simp, ?_⟩
    rw [Database.replay_append, Database.replay_insertRaw]
    intro row' member
    obtain ⟨row, inFiles, rfl⟩ := List.mem_map.mp (show row' ∈ db.sourceFiles.map _ from member)
    refine ⟨row, inFiles, ?_⟩
    split
    · rename_i same
      have got := Database.getSourceFile_of_mem nodup inFiles
      rw [same, gotSource] at got
      cases got
      refine ⟨rfl, rfl, nofun, fun revised => ?_⟩
      rcases reached.accepted with ready | loaded
      · rw [ready] at revised
        cases revised
      · rw [loaded] at revised
        cases revised
    · exact ⟨rfl, rfl, Iff.rfl⟩
  · obtain ⟨-, -, run, now, -, -, rfl⟩ := session
    exact .inr ⟨by simp, .refl db⟩
  · exact atCommit.elim

theorem Phase.Session.insertSource_registering {phase : Phase} {pending : List Write} {row : SourceFile}
    (session : phase.Session metadata db pending) (atCommit : phase.AtCommit)
    (inserted : .insertSource row ∈ pending) : ∃ result, phase = .registering (.commit result) := by
  unfold Phase.AtCommit at atCommit
  split at atCommit
  · exact ⟨_, rfl⟩
  · obtain ⟨-, source, run, rfl, -⟩ := session
    simp at inserted
  · obtain ⟨-, source, run, rfl, -⟩ := session
    simp at inserted
  · obtain ⟨-, -, table, rows, finishedAt, rfl, -⟩ := session
    simp at inserted
  · obtain ⟨-, -, run, now, -, -, rfl⟩ := session
    simp at inserted
  · exact atCommit.elim

end Step

variable {Client : Type} (requests : Client → Request)

/-- The statement ends its transaction with a commit. -/
def Commits (s : Platform Client) (i : Client) (e : Event) : Prop :=
  ∃ phase external, (ingestion requests).exec i (s.phase i) ((ingestion requests).visible s i) s.external e =
    some (.commit, phase, external)

/-- When a transaction commits a ready version, no version of its partition is committed by then. -/
def StillFirst (s : Platform Client) (i : Client) (e : Event) : Prop :=
  Commits requests s i e → ∀ row, .insertSource row ∈ s.pending i → row.status = .ready →
    ∀ other ∈ s.committed.sourceFiles, other.partitionKey ≠ row.partitionKey

variable {requests} [Fintype Client] [DecidableEq Client] {s s' : Platform Client} {i : Client} {e : Event}

/-- What holds of the committed sources after every step. -/
structure Accepting (requests : Client → Request) (s : Platform Client) : Prop where
  coherent : Coherent requests s
  accepted : s.committed.PartitionsAccepted
  loaded : s.committed.RowsOfLoaded

omit [Fintype Client] [DecidableEq Client] in
theorem accepting_start : Accepting requests startState :=
  ⟨coherent_start requests, fun _ ⟨_, _, got, _⟩ => (by cases got), fun _ _ member => (by cases member)⟩

theorem oneAcceptedVersion_empty : Database.empty.OneAcceptedVersion :=
  ⟨fun _ member => (List.not_mem_nil member).elim, fun _ member => (List.not_mem_nil member).elim⟩

theorem Accepting.step (accepting : Accepting requests s)
    (stepped : (ingestion requests).step s i e = some s') : Accepting requests s' := by
  have step := accepting.coherent.commitStep stepped
  have extended := accepting.coherent.extends stepped
  have coherent := accepting.coherent.step stepped
  exact ⟨coherent, step.partitionsAccepted extended coherent.distinct.committed accepting.accepted,
    step.rowsOfLoaded extended accepting.loaded⟩

/-- One step keeps the versions apart exactly if it commits no ready version too late. -/
theorem Accepting.oneAcceptedVersion_iff (accepting : Accepting requests s)
    (one : s.committed.OneAcceptedVersion) (stepped : (ingestion requests).step s i e = some s') :
    s'.committed.OneAcceptedVersion ↔ StillFirst requests s i e := by
  have accepting' := accepting.step stepped
  have nodup := accepting.coherent.distinct.committed
  have nodup' := accepting'.coherent.distinct.committed
  have session := accepting.coherent.sessions i
  obtain ⟨effect, phase, external, executed, -, rfl⟩ := (ingestion requests).step_some stepped
  have quiet : effect ≠ .commit → StillFirst requests s i e := by
    rintro notCommit ⟨phase', external', executed'⟩
    cases executed.symm.trans executed'
    exact absurd rfl notCommit
  by_cases commits : effect = .commit
  · subst commits
    have blocked := accepting'.loaded.blocked nodup'
    rw [Program.perform_commit_committed] at nodup' blocked ⊢
    rcases session.commit_sources (Request.exec_commit executed) nodup with
      ⟨row, pending, status⟩ | ⟨noInsert, kept⟩
    · have added : (ingestion requests).visible s i = s.committed.addSourceFile row := by
        rw [Program.visible, pending]
        rfl
      rw [added] at nodup' blocked ⊢
      constructor
      · rintro one' - inserted isInserted ready other member partition
        rw [pending, List.mem_singleton] at isInserted
        cases isInserted
        obtain ⟨sourceFileId, old, got, samePartition, accepted⟩ :=
          accepting.accepted row.partitionKey (partition ▸ hasPartition_of_mem nodup member)
        have inOld := (getSourceFile_some got).1
        have same := one'.unique old (List.mem_append_left _ inOld) row
          (List.mem_append_right _ (List.mem_singleton_self _)) samePartition accepted
          (by rw [ready]; decide)
        have inPending : Write.insertSource row ∈ s.pending i := by rw [pending]; simp
        have absent := accepting.coherent.distinct.pending_absent inPending
          (k := .sourceFile row.sourceFileId) (by simp [uniqueIndex, Write.inserts, SourceFile.keys])
        exact absent (Database.mem_index_sourceFile.mpr ⟨old, inOld, congrArg _ same⟩)
      · intro first
        have isFirst := first ⟨_, _, executed⟩ row (by rw [pending]; simp)
        refine ⟨?_, blocked⟩
        have isReady : row.status ≠ .revisionDetected → row.status = .ready := status.resolve_right
        intro left inLeft right inRight partition acceptedLeft acceptedRight
        rcases List.mem_append.mp inLeft with oldLeft | newLeft
        · rcases List.mem_append.mp inRight with oldRight | newRight
          · exact one.unique left oldLeft right oldRight partition acceptedLeft acceptedRight
          · cases List.mem_singleton.mp newRight
            exact absurd partition (isFirst (isReady acceptedRight) left oldLeft)
        · cases List.mem_singleton.mp newLeft
          rcases List.mem_append.mp inRight with oldRight | newRight
          · exact absurd partition.symm (isFirst (isReady acceptedLeft) right oldRight)
          · exact (List.mem_singleton.mp newRight).symm
    · refine ⟨fun _ => ?_, fun _ => ⟨kept.unique nodup' one, blocked⟩⟩
      rintro - row inserted
      exact absurd inserted (noInsert row)
  · rw [Program.perform_committed _ commits]
    exact ⟨fun _ => quiet commits, fun _ => one⟩

/-- Exactly when: a schedule keeps one accepted version per partition if and only if every ready
    version is, at its commit, still the first of its partition. -/
theorem one_accepted_version_iff_first {schedule : List (Client × Event)} :
    (ingestion requests).Always (·.committed.OneAcceptedVersion) startState schedule ↔
      (ingestion requests).Throughout (StillFirst requests) startState schedule := by
  refine Program.always_iff_throughout (I := Accepting requests) (D := fun _ _ _ => True)
    (fun _ _ _ _ accepting _ stepped => accepting.step stepped)
    (fun _ _ _ _ accepting _ one stepped => accepting.oneAcceptedVersion_iff one stepped)
    accepting_start oneAcceptedVersion_empty Program.throughout_true

/-- Two files of one month, with different contents. -/
def zoneRevision : Fin 2 → Request
  | 0 => .ingest zoneMetadata 1
  | 1 => .ingest { zoneMetadata with checksumSha256 := 4 } 1

/-- Each registration looks for other versions before the other one commits. -/
def competingRevisions : List (Fin 2 × Event) :=
  turns clientOne 3 ++ turns clientTwo 3 ++ turns clientOne 2 ++ turns clientTwo 2

set_option maxRecDepth 10000 in
theorem competingRevisions_both_ready :
    ∃ s, (ingestion zoneRevision).run startState competingRevisions = some s ∧
      ¬ s.committed.OneAcceptedVersion := by
  have files : ((ingestion zoneRevision).run startState competingRevisions).map
      (fun s => s.committed.sourceFiles) =
        some [newSourceFile 1 .ready 0 (zoneRevision 0).metadata,
          newSourceFile 2 .ready 0 (zoneRevision 1).metadata] := by decide
  obtain ⟨s, ran, rows⟩ := Option.map_eq_some_iff.mp files
  refine ⟨s, ran, fun one => ?_⟩
  have left : newSourceFile 1 .ready 0 (zoneRevision 0).metadata ∈ s.committed.sourceFiles := by simp [rows]
  have right : newSourceFile 2 .ready 0 (zoneRevision 1).metadata ∈ s.committed.sourceFiles := by simp [rows]
  have same := one.unique _ left _ right rfl (by decide) (by decide)
  exact absurd (congrArg SourceFile.sourceFileId same) (by decide)

end TaxiPipeline
