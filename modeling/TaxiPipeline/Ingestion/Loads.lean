import TaxiPipeline.Ingestion.Coherent
import TaxiPipeline.Model.Landing

namespace TaxiPipeline

open ReadCommitted

namespace Database

/-- The raw rows of a loaded source are the rows `1..rowCount` of its file under one succeeded run. -/
def FullyLoaded (db : Database) (row : SourceFile) : Prop :=
  ∃ (table : RawTable) (run : PipelineRun) (rowCount : Nat),
    rawTableOf row.datasetName = .ok table ∧ row.rowCount = some (rowCount : Int) ∧
    db.succeededRuns row.sourceFileId = [run] ∧
    (db.rowsOf table row.sourceFileId).map (·.lineage) =
      (List.range' 1 rowCount).map (⟨row.sourceFileId, ·, run.runId⟩) ∧
    ∀ other, other ≠ table → db.rowsOf other row.sourceFileId = []

/-- A source without raw rows in any table and without a succeeded run. -/
def Untouched (db : Database) (sourceFileId : Nat) : Prop :=
  (∀ table, db.rowsOf table sourceFileId = []) ∧ db.succeededRuns sourceFileId = []

/-- All-or-nothing: what is not fully loaded is untouched. -/
structure LoadsExact (db : Database) : Prop where
  loaded : ∀ {sourceFileId row}, db.getSourceFile sourceFileId = some row → row.status = .loaded →
    db.FullyLoaded row
  untouched : ∀ {sourceFileId}, (∀ row, db.getSourceFile sourceFileId = some row → row.status ≠ .loaded) →
    db.Untouched sourceFileId

/-- Two databases agree on the rows and the succeeded runs of a source. -/
def SameLoads (db db' : Database) (sourceFileId : Nat) : Prop :=
  (∀ table, db'.rowsOf table sourceFileId = db.rowsOf table sourceFileId) ∧
    db'.succeededRuns sourceFileId = db.succeededRuns sourceFileId

variable {db db' : Database}

theorem SameLoads.fullyLoaded {row : SourceFile} (same : db.SameLoads db' row.sourceFileId)
    (full : db.FullyLoaded row) : db'.FullyLoaded row := by
  obtain ⟨table, run, rowCount, dataset, count, succeeded, lineage, others⟩ := full
  refine ⟨table, run, rowCount, dataset, count, same.2.trans succeeded, ?_, fun other apart => ?_⟩
  · rw [same.1, lineage]
  · rw [same.1, others other apart]

theorem SameLoads.untouched {sourceFileId : Nat} (same : db.SameLoads db' sourceFileId)
    (untouched : db.Untouched sourceFileId) : db'.Untouched sourceFileId :=
  ⟨fun table => (same.1 table).trans (untouched.1 table), same.2.trans untouched.2⟩

theorem addRaws_index (db : Database) {table : RawTable} (rows : List (RawRow table)) :
    (db.addRaws table rows).index.Perm (db.index ++ rows.flatMap RawRow.keys) := by
  induction rows generalizing db with
  | nil => simp
  | cons row rest ih =>
    rw [← addRaw_addRaws]
    have one := (db.addRaw_index row).append_right (rest.flatMap RawRow.keys)
    simpa using (ih _).trans one

theorem succeededRuns_updateRun {runId sourceFileId : Nat} {change : PipelineRun → PipelineRun}
    {run : PipelineRun} (nodup : db.index.Nodup) (got : db.getRun runId = some run)
    (running : run.status = .running)
    (silent : (change run).sourceFileId ≠ some sourceFileId ∨ (change run).status ≠ .succeeded) :
    (db.updateRun runId change).succeededRuns sourceFileId = db.succeededRuns sourceFileId := by
  obtain ⟨member, sameId⟩ := getRun_some got
  refine filter_map_same (fun other inRuns => ?_) (fun other inRuns chosen => ?_)
  · split
    · rename_i hit
      cases unique_run nodup inRuns member (hit.trans sameId.symm)
      have before : (run.status == RunStatus.succeeded) = false := by simp [running]
      rcases silent with apart | unfinished
      · simp [apart, before]
      · simp [unfinished, before]
    · rfl
  · refine if_neg fun hit => ?_
    cases unique_run nodup inRuns member (hit.trans sameId.symm)
    simp [running] at chosen

end Database

/-- Metadata of one version agree on what is loaded for it, and no file is empty. -/
structure Catalog (known : SourceFileMetadata → Prop) : Prop where
  dataset : ∀ {left right}, known left → known right → left.partitionKey = right.partitionKey →
    left.datasetName = right.datasetName
  rowCount : ∀ {left right}, known left → known right → left.partitionKey = right.partitionKey →
    left.checksumSha256 = right.checksumSha256 → left.rowCount = right.rowCount
  nonempty : ∀ {metadata} {rows : Nat}, known metadata → metadata.rowCount = some (rows : Int) → 0 < rows

/-- Every source row stems from the metadata of some call. -/
def Described (known : SourceFileMetadata → Prop) (db : Database) : Prop :=
  ∀ {sourceFileId row}, db.getSourceFile sourceFileId = some row →
    ∃ metadata id now, known metadata ∧ row.asRegistered = newSourceFile id .ready now metadata

section Step

variable {known : SourceFileMetadata → Prop} {metadata : SourceFileMetadata} {db db' : Database}

theorem CommitStep.described (step : CommitStep metadata db db') (mine : known metadata)
    (described : Described known db) : Described known db' := by
  intro sourceFileId row got
  cases step with
  | nothing => exact described got
  | started held shown => exact described got
  | skipped held shown => exact described got
  | failed found running => exact described got
  | registered fits checks chosen =>
    rcases Database.getSourceFile_added got with old | rfl
    · exact described old
    · exact ⟨metadata, _, _, mine, rfl⟩
  | loaded held found ofSource running counted =>
    obtain ⟨old, gotOld, rfl⟩ := Database.getSourceFile_loaded got
    obtain ⟨origin, id, now, ofCall, same⟩ := described gotOld
    refine ⟨origin, id, now, ofCall, ?_⟩
    split
    · exact same
    · exact same

/-- A load that may commit found its source without rows: the first raw key was free. -/
theorem Counted.not_loaded {sourceFileId runId : Nat} {table : RawTable} {rows : List (RawRow table)}
    {counts : LoadCounts} (catalog : Catalog known) (mine : known metadata)
    (described : Described known db) (exact_loads : db.LoadsExact)
    (nodup : (db.addRaws table rows).index.Nodup)
    (counted : Counted metadata sourceFileId runId table rows counts)
    {row : SourceFile} (got : db.getSourceFile sourceFileId = some row)
    (partition : row.partitionKey = metadata.partitionKey) : row.status ≠ .loaded := by
  intro loaded
  obtain ⟨origin, id, now, ofCall, same⟩ := described got
  have datasetName : row.datasetName = metadata.datasetName := by
    have ofOrigin := congrArg SourceFile.datasetName same
    have key := (congrArg SourceFile.partitionKey same).symm.trans partition
    exact ofOrigin.trans (catalog.dataset ofCall mine key)
  obtain ⟨table', run, rowCount, dataset, count, -, lineage, -⟩ := exact_loads.loaded got loaded
  rw [datasetName, counted.dataset] at dataset
  cases dataset
  have sameId := (getSourceFile_some got).2
  have oldRows : 0 < rowCount := by
    refine catalog.nonempty ofCall ?_
    exact (congrArg SourceFile.rowCount same).symm.trans count
  have newRows := catalog.nonempty mine counted.rowCount
  -- both numberings start at 1, so the key of row 1 would be there twice
  have oldKey : IndexKey.rawRow table sourceFileId 1 ∈ db.index := by
    have first : (⟨row.sourceFileId, 1, run.runId⟩ : Lineage) ∈
        (db.rowsOf table row.sourceFileId).map (·.lineage) := by
      rw [lineage]
      exact List.mem_map.mpr ⟨1, by simp [List.mem_range'_1]; omega, rfl⟩
    obtain ⟨old, member, isFirst⟩ := List.mem_map.mp first
    refine Database.mem_index_raw.mpr ⟨old, (Database.mem_rowsOf.mp member).1, ?_, ?_⟩
    · rw [isFirst, sameId]
    · rw [isFirst]
  have newKey : IndexKey.rawRow table sourceFileId 1 ∈ rows.flatMap RawRow.keys := by
    have first : (⟨sourceFileId, 1, runId⟩ : Lineage) ∈ rows.map (·.lineage) := by
      rw [counted.lineage]
      exact List.mem_map.mpr ⟨1, by simp [List.mem_range'_1]; omega, rfl⟩
    obtain ⟨fresh, member, isFirst⟩ := List.mem_map.mp first
    refine List.mem_flatMap.mpr ⟨fresh, member, ?_⟩
    have key := fresh.primaryKey_mem
    rwa [RawRow.primaryKey, isFirst] at key
  rw [(db.addRaws_index rows).nodup_iff, List.nodup_append'] at nodup
  exact nodup.2.2 oldKey newKey

theorem lineage_source {sourceFileId runId : Nat} {table : RawTable} {rows : List (RawRow table)}
    {numbers : List Nat} (lineage : rows.map (·.lineage) = numbers.map (⟨sourceFileId, ·, runId⟩))
    {row : RawRow table} (member : row ∈ rows) : row.lineage.sourceFileId = sourceFileId := by
  have inLineage := List.mem_map_of_mem (f := fun row : RawRow table => row.lineage) member
  rw [lineage] at inLineage
  obtain ⟨number, -, same⟩ := List.mem_map.mp inLineage
  rw [← same]

theorem Counted.row_source {sourceFileId runId : Nat} {table : RawTable} {rows : List (RawRow table)}
    {counts : LoadCounts} (counted : Counted metadata sourceFileId runId table rows counts)
    {row : RawRow table} (member : row ∈ rows) : row.lineage.sourceFileId = sourceFileId :=
  lineage_source counted.lineage member

theorem Counted.rowsOf_self {sourceFileId runId : Nat} {table : RawTable} {rows : List (RawRow table)}
    {counts : LoadCounts} (counted : Counted metadata sourceFileId runId table rows counts) :
    rows.filter (·.lineage.sourceFileId == sourceFileId) = rows :=
  List.filter_eq_self.mpr fun _ member => by simp [counted.row_source member]

theorem Counted.rowsOf_other {sourceFileId runId other : Nat} {table : RawTable}
    {rows : List (RawRow table)} {counts : LoadCounts}
    (counted : Counted metadata sourceFileId runId table rows counts) (apart : other ≠ sourceFileId) :
    rows.filter (·.lineage.sourceFileId == other) = [] :=
  List.filter_eq_nil_iff.mpr fun _ member => by simp [counted.row_source member, apart.symm]

end Step

section CommitLoad

variable {db : Database} {sourceFileId runId : Nat} {table : RawTable} {rows : List (RawRow table)}
  {finishedAt : Timestamp} {counts : LoadCounts} {metadata : SourceFileMetadata} {run : PipelineRun}

theorem commitLoad_index :
    (db.commitLoad rows sourceFileId runId finishedAt counts).index = (db.addRaws table rows).index := by
  simp [Database.commitLoad]

theorem commitLoad_same (nodup : (db.commitLoad rows sourceFileId runId finishedAt counts).index.Nodup)
    (got : db.getRun runId = some run) (ofSource : run.sourceFileId = some sourceFileId)
    (running : run.status = .running) (counted : Counted metadata sourceFileId runId table rows counts)
    {other : Nat} (apart : other ≠ sourceFileId) :
    db.SameLoads (db.commitLoad rows sourceFileId runId finishedAt counts) other := by
  refine ⟨fun table' => ?_, ?_⟩
  · by_cases same : table' = table
    · subst same
      exact (Database.rowsOf_addRaws rows).trans (by rw [counted.rowsOf_other apart, List.append_nil])
    · exact Database.rowsOf_addRaws_other same rows
  · have before : ((db.addRaws table rows).updateSourceFile sourceFileId
        (·.markLoaded finishedAt)).index.Nodup := by
      rwa [Database.markLoaded_index, ← commitLoad_index]
    refine Database.succeededRuns_updateRun before got running (.inl ?_)
    show run.sourceFileId ≠ some other
    rw [ofSource]
    exact fun same => apart (Option.some.inj same).symm

theorem commitLoad_rowsOf (empty : db.Untouched sourceFileId)
    (counted : Counted metadata sourceFileId runId table rows counts) :
    (db.commitLoad rows sourceFileId runId finishedAt counts).rowsOf table sourceFileId = rows := by
  have added : (db.addRaws table rows).rowsOf table sourceFileId = _ := Database.rowsOf_addRaws rows
  rw [empty.1, List.nil_append, counted.rowsOf_self] at added
  exact added

theorem commitLoad_succeededRuns (nodup : db.index.Nodup) (empty : db.Untouched sourceFileId)
    (got : db.getRun runId = some run) (ofSource : run.sourceFileId = some sourceFileId) :
    (db.commitLoad rows sourceFileId runId finishedAt counts).succeededRuns sourceFileId =
      [run.markSucceeded finishedAt counts.toRunCounts] := by
  obtain ⟨member, rfl⟩ := getRun_some got
  have ids : (db.pipelineRuns.map (·.runId)).Nodup := Database.runIds_nodup nodup
  exact filter_map_unique PipelineRun.runId
    (fun run => run.sourceFileId == some sourceFileId && run.status == .succeeded)
    (·.markSucceeded finishedAt counts.toRunCounts) ids member
    (by simp [PipelineRun.markSucceeded, ofSource]) empty.2

end CommitLoad

section Step

variable {known : SourceFileMetadata → Prop} {metadata : SourceFileMetadata} {db db' : Database}

/-- The commit of a load: its source becomes fully loaded, and the others stay as they are. -/
theorem Counted.commit_loadsExact {sourceFileId runId : Nat} {table : RawTable}
    {rows : List (RawRow table)} {counts : LoadCounts} {finishedAt : Timestamp} {run : PipelineRun}
    (catalog : Catalog known) (mine : known metadata) (described : Described known db)
    (nodup : db.index.Nodup)
    (nodup_after : (db.commitLoad rows sourceFileId runId finishedAt counts).index.Nodup)
    (exact_loads : db.LoadsExact) (held : db.Holds sourceFileId metadata .ready)
    (got : db.getRun runId = some run) (ofSource : run.sourceFileId = some sourceFileId)
    (running : run.status = .running) (counted : Counted metadata sourceFileId runId table rows counts) :
    (db.commitLoad rows sourceFileId runId finishedAt counts).LoadsExact := by
  obtain ⟨source, gotSource, partition, checksum, reached⟩ := held
  have notLoaded := counted.not_loaded catalog mine described exact_loads
    (commitLoad_index ▸ nodup_after) gotSource partition
  have empty : db.Untouched sourceFileId := exact_loads.untouched fun row gotRow => by
    cases gotSource.symm.trans gotRow
    exact notLoaded
  have sourceId : source.sourceFileId = sourceFileId := (getSourceFile_some gotSource).2
  have full : (db.commitLoad rows sourceFileId runId finishedAt counts).FullyLoaded
      (source.markLoaded finishedAt) := by
    obtain ⟨origin, id, now, ofCall, same⟩ := described gotSource
    have samePartition := (congrArg SourceFile.partitionKey same).symm.trans partition
    have sameChecksum := (congrArg SourceFile.checksumSha256 same).symm.trans checksum
    have dataset : source.datasetName = metadata.datasetName :=
      (congrArg SourceFile.datasetName same).trans (catalog.dataset ofCall mine samePartition)
    have rowCount : source.rowCount = metadata.rowCount :=
      (congrArg SourceFile.rowCount same).trans (catalog.rowCount ofCall mine samePartition sameChecksum)
    unfold Database.FullyLoaded
    rw [show (source.markLoaded finishedAt).sourceFileId = sourceFileId from sourceId]
    refine ⟨table, run.markSucceeded finishedAt counts.toRunCounts, rows.length,
      (congrArg rawTableOf dataset).trans counted.dataset, rowCount.trans counted.rowCount,
      commitLoad_succeededRuns nodup empty got ofSource, ?_, fun other apart => ?_⟩
    · rw [commitLoad_rowsOf empty counted, counted.lineage]
      rw [show (run.markSucceeded finishedAt counts.toRunCounts).runId = runId from (getRun_some got).2]
    · exact (Database.rowsOf_addRaws_other apart rows).trans (empty.1 other)
  constructor
  · intro other row gotRow loaded
    obtain ⟨old, gotOld, rfl⟩ := Database.getSourceFile_loaded gotRow
    by_cases same : other = sourceFileId
    · subst same
      cases gotSource.symm.trans gotOld
      rw [if_pos rfl]
      exact full
    · rw [if_neg same] at loaded ⊢
      have apart := same
      have sameLoads := commitLoad_same nodup_after got ofSource running counted apart
      have oldFull := exact_loads.loaded gotOld loaded
      rw [← (getSourceFile_some gotOld).2] at sameLoads
      exact sameLoads.fullyLoaded oldFull
  · intro other notLoadedAfter
    have apart : other ≠ sourceFileId := by
      rintro rfl
      refine notLoadedAfter (source.markLoaded finishedAt) ?_ rfl
      refine (Database.getSourceFile_markLoaded finishedAt).trans ?_
      rw [Database.getSourceFile_addRaws, gotSource, Option.map_some, if_pos rfl]
    refine (commitLoad_same nodup_after got ofSource running counted apart).untouched ?_
    refine exact_loads.untouched fun row gotRow loaded => notLoadedAfter row ?_ loaded
    refine (Database.getSourceFile_markLoaded finishedAt).trans ?_
    rw [Database.getSourceFile_addRaws, gotRow, Option.map_some, if_neg apart]

end Step

end TaxiPipeline
