import Mathlib.Data.List.Nodup
import Mathlib.Data.List.Pairwise
import TaxiPipeline.Model.Loading

namespace TaxiPipeline

theorem unique_of_nodup_flatMap {α β : Type} {f : α → List β} {l : List α} (nodup : (l.flatMap f).Nodup)
    {x y : α} (hx : x ∈ l) (hy : y ∈ l) {k : β} (inX : k ∈ f x) (inY : k ∈ f y) : x = y := by
  by_contra different
  have apart := (List.nodup_flatMap.mp nodup).2
  have : Std.Symm (Function.onFun List.Disjoint f) := ⟨fun _ _ disjoint _ right left => disjoint left right⟩
  exact apart.forall hx hy different inX inY

theorem rawKeys_nodup {db : Database} (nodup : db.index.Nodup) (table : RawTable) :
    ((db.raw table).flatMap RawRow.keys).Nodup := by
  simp only [Database.index, List.nodup_append'] at nodup
  cases table with
  | yellowTrips => exact nodup.2.1.2.1.1
  | greenTrips => exact nodup.2.1.2.1.2.1.1
  | taxiZones => exact nodup.2.1.2.1.2.1.2.1

theorem zoneLocations_nodup {db : Database} (nodup : db.index.Nodup) :
    ((db.raw .taxiZones).map fun zone => (zone.lineage.sourceFileId, zone.values.locationId)).Nodup := by
  have keys := rawKeys_nodup nodup .taxiZones
  refine List.Pairwise.map _ (fun zone other apart same => ?_) (List.nodup_flatMap.mp keys).2
  obtain ⟨source, location⟩ := Prod.mk.inj same
  refine apart (a := .zoneLocation zone.lineage.sourceFileId zone.values.locationId) ?_ ?_
  · simp [RawRow.keys]
  · simp [RawRow.keys, source, location]

theorem filter_map_unique {α : Type} (key : α → Nat) (p : α → Bool) (change : α → α) {l : List α} {x : α}
    (nodup : (l.map key).Nodup) (member : x ∈ l) (chosen : p (change x) = true)
    (empty : l.filter p = []) :
    (l.map fun y => if key y = key x then change y else y).filter p = [change x] := by
  induction l with
  | nil => cases member
  | cons head tail ih =>
    simp only [List.map_cons, List.nodup_cons, List.mem_map, not_exists, not_and] at nodup
    have emptyHead : p head = false := by
      cases selected : p head with
      | false => rfl
      | true => simp [selected] at empty
    have emptyTail : tail.filter p = [] := by simpa [emptyHead] using empty
    rw [List.map_cons]
    rcases List.mem_cons.mp member with rfl | member
    · have rest : (tail.map fun y => if key y = key x then change y else y) = tail := by
        refine (List.map_congr_left fun y inTail => ?_).trans (List.map_id _)
        exact if_neg (nodup.1 y inTail)
      rw [rest, if_pos rfl, List.filter_cons_of_pos chosen, emptyTail]
    · have other : key head ≠ key x := fun same => nodup.1 x member same.symm
      rw [if_neg other, List.filter_cons_of_neg (by simp [emptyHead])]
      exact ih nodup.2 member emptyTail

theorem filter_map_same {α : Type} {p : α → Bool} {change : α → α} {l : List α}
    (same : ∀ y ∈ l, p (change y) = p y) (fixed : ∀ y ∈ l, p y = true → change y = y) :
    (l.map change).filter p = l.filter p := by
  induction l with
  | nil => rfl
  | cons head tail ih =>
    have rest := ih (fun y h => same y (List.mem_cons_of_mem _ h))
      (fun y h => fixed y (List.mem_cons_of_mem _ h))
    have headSame := same head (by simp)
    cases selected : p head with
    | false => rw [List.map_cons, List.filter_cons_of_neg (by simp [headSame, selected]),
        List.filter_cons_of_neg (by simp [selected]), rest]
    | true => rw [List.map_cons, fixed head (by simp) selected, List.filter_cons_of_pos selected,
        List.filter_cons_of_pos selected, rest]

/-- A source row as it was registered: loading changes nothing else in it. -/
def SourceFile.asRegistered (row : SourceFile) : SourceFile :=
  { row with status := .ready, loadedAt := none }

@[simp] theorem asRegistered_markLoaded (row : SourceFile) (loadedAt : Timestamp) :
    (row.markLoaded loadedAt).asRegistered = row.asRegistered := rfl

namespace Database

/-- The succeeded runs of one source file. -/
def succeededRuns (db : Database) (sourceFileId : Nat) : List PipelineRun :=
  db.pipelineRuns.filter fun run => run.sourceFileId == some sourceFileId && run.status == .succeeded

def addRaws (db : Database) (table : RawTable) (rows : List (RawRow table)) : Database :=
  { db with raw := Function.update db.raw table (db.raw table ++ rows) }

@[simp] theorem addRaws_nil (db : Database) (table : RawTable) : db.addRaws table [] = db := by
  simp [addRaws]

theorem addRaw_addRaws (db : Database) {table : RawTable} (row : RawRow table)
    (rows : List (RawRow table)) : (db.addRaw table row).addRaws table rows = db.addRaws table (row :: rows) := by
  simp [addRaw, addRaws]

section Sources

variable {db : Database} {sourceFileId other : Nat}

@[simp] theorem getSourceFile_addRun (run : PipelineRun) :
    (db.addRun run).getSourceFile sourceFileId = db.getSourceFile sourceFileId := rfl

@[simp] theorem getSourceFile_addRaw {table : RawTable} (row : RawRow table) :
    (db.addRaw table row).getSourceFile sourceFileId = db.getSourceFile sourceFileId := rfl

@[simp] theorem getSourceFile_addRaws {table : RawTable} (rows : List (RawRow table)) :
    (db.addRaws table rows).getSourceFile sourceFileId = db.getSourceFile sourceFileId := rfl

@[simp] theorem getSourceFile_updateRun (runId : Nat) (change : PipelineRun → PipelineRun) :
    (db.updateRun runId change).getSourceFile sourceFileId = db.getSourceFile sourceFileId := rfl

theorem getSourceFile_addSourceFile (row : SourceFile) :
    (db.addSourceFile row).getSourceFile sourceFileId = (db.getSourceFile sourceFileId).or
      (if row.sourceFileId = sourceFileId then some row else none) := by
  simp only [getSourceFile, addSourceFile, List.find?_append, List.find?_singleton, beq_iff_eq]

theorem getSourceFile_addSourceFile_of_some {row : SourceFile} (added : SourceFile)
    (found : db.getSourceFile sourceFileId = some row) :
    (db.addSourceFile added).getSourceFile sourceFileId = some row := by
  rw [getSourceFile_addSourceFile, found, Option.some_or]

theorem getSourceFile_updateSourceFile {change : SourceFile → SourceFile}
    (keeps : ∀ row, (change row).sourceFileId = row.sourceFileId) :
    (db.updateSourceFile other change).getSourceFile sourceFileId =
      (db.getSourceFile sourceFileId).map fun row => if row.sourceFileId = other then change row else row := by
  simp only [getSourceFile, updateSourceFile, List.find?_map]
  congr 2
  funext row
  simp only [Function.comp_apply]
  split
  · rw [keeps]
  · rfl

theorem getSourceFile_markLoaded (loadedAt : Timestamp) :
    (db.updateSourceFile other (·.markLoaded loadedAt)).getSourceFile sourceFileId =
      (db.getSourceFile sourceFileId).map fun row =>
        if sourceFileId = other then row.markLoaded loadedAt else row := by
  have keeps : ∀ row : SourceFile, (row.markLoaded loadedAt).sourceFileId = row.sourceFileId := fun _ => rfl
  rw [getSourceFile_updateSourceFile keeps]
  cases found : db.getSourceFile sourceFileId with
  | none => rfl
  | some row => rw [Option.map_some, Option.map_some, (getSourceFile_some found).2]

theorem getSourceFile_added {added row : SourceFile}
    (got : (db.addSourceFile added).getSourceFile sourceFileId = some row) :
    db.getSourceFile sourceFileId = some row ∨ row = added := by
  rw [getSourceFile_addSourceFile] at got
  cases before : db.getSourceFile sourceFileId with
  | some old =>
    rw [before, Option.some_or] at got
    exact .inl got
  | none =>
    rw [before, Option.none_or] at got
    split at got
    · exact .inr (Option.some.inj got).symm
    · cases got

theorem getSourceFile_loaded {loadedAt : Timestamp} {found : SourceFile}
    (got : (db.updateSourceFile other (·.markLoaded loadedAt)).getSourceFile sourceFileId = some found) :
    ∃ row, db.getSourceFile sourceFileId = some row ∧
      found = if sourceFileId = other then row.markLoaded loadedAt else row := by
  rw [getSourceFile_markLoaded] at got
  obtain ⟨row, gotRow, same⟩ := Option.map_eq_some_iff.mp got
  exact ⟨row, gotRow, same.symm⟩

@[simp] theorem markLoaded_index (loadedAt : Timestamp) :
    (db.updateSourceFile other (·.markLoaded loadedAt)).index = db.index :=
  db.updateSourceFile_index other fun _ => rfl

theorem unique_sourceFile (nodup : db.index.Nodup) {row row' : SourceFile} (member : row ∈ db.sourceFiles)
    (member' : row' ∈ db.sourceFiles) (same : row.sourceFileId = row'.sourceFileId) : row = row' := by
  rw [index, List.nodup_append'] at nodup
  refine unique_of_nodup_flatMap nodup.1 member member' (k := .sourceFile row.sourceFileId) ?_ ?_
  · simp [SourceFile.keys]
  · simp [SourceFile.keys, same]

theorem unique_version (nodup : db.index.Nodup) {row row' : SourceFile} (member : row ∈ db.sourceFiles)
    (member' : row' ∈ db.sourceFiles) (partition : row.partitionKey = row'.partitionKey)
    (checksum : row.checksumSha256 = row'.checksumSha256) : row = row' := by
  rw [index, List.nodup_append'] at nodup
  refine unique_of_nodup_flatMap nodup.1 member member'
    (k := .version row.partitionKey row.checksumSha256) ?_ ?_
  · simp [SourceFile.keys]
  · simp [SourceFile.keys, partition, checksum]

theorem versions_nodup (nodup : db.index.Nodup) :
    (db.sourceFiles.map fun row => (row.partitionKey, row.checksumSha256)).Nodup := by
  rw [index, List.nodup_append'] at nodup
  refine List.Pairwise.map _ (fun row row' apart same => ?_) (List.nodup_flatMap.mp nodup.1).2
  obtain ⟨partition, checksum⟩ := Prod.mk.inj same
  refine apart (a := .version row.partitionKey row.checksumSha256) ?_ ?_
  · simp [SourceFile.keys]
  · simp [SourceFile.keys, partition, checksum]

theorem sourceFileIds_nodup (nodup : db.index.Nodup) : (db.sourceFiles.map (·.sourceFileId)).Nodup := by
  rw [index, List.nodup_append'] at nodup
  refine List.Pairwise.map _ (fun row row' apart same => ?_) (List.nodup_flatMap.mp nodup.1).2
  refine apart (a := .sourceFile row.sourceFileId) ?_ ?_
  · simp [SourceFile.keys]
  · simp [SourceFile.keys, same]

theorem getSourceFile_of_mem (nodup : db.index.Nodup) {row : SourceFile} (member : row ∈ db.sourceFiles) :
    db.getSourceFile row.sourceFileId = some row := by
  cases found : db.getSourceFile row.sourceFileId with
  | none =>
    rw [getSourceFile, List.find?_eq_none] at found
    exact absurd (by simp) (found row member)
  | some first =>
    obtain ⟨inFiles, sameId⟩ := getSourceFile_some found
    rw [unique_sourceFile nodup inFiles member sameId]

end Sources

section Runs

variable {db : Database} {runId other : Nat}

@[simp] theorem getRun_addSourceFile (row : SourceFile) :
    (db.addSourceFile row).getRun runId = db.getRun runId := rfl

@[simp] theorem getRun_addRaw {table : RawTable} (row : RawRow table) :
    (db.addRaw table row).getRun runId = db.getRun runId := rfl

@[simp] theorem getRun_addRaws {table : RawTable} (rows : List (RawRow table)) :
    (db.addRaws table rows).getRun runId = db.getRun runId := rfl

@[simp] theorem getRun_updateSourceFile (sourceFileId : Nat) (change : SourceFile → SourceFile) :
    (db.updateSourceFile sourceFileId change).getRun runId = db.getRun runId := rfl

theorem getRun_addRun (run : PipelineRun) :
    (db.addRun run).getRun runId =
      (db.getRun runId).or (if run.runId = runId then some run else none) := by
  simp only [getRun, addRun, List.find?_append, List.find?_singleton, beq_iff_eq]

theorem getRun_addRun_of_some {run : PipelineRun} (added : PipelineRun)
    (found : db.getRun runId = some run) : (db.addRun added).getRun runId = some run := by
  rw [getRun_addRun, found, Option.some_or]

theorem getRun_updateRun {change : PipelineRun → PipelineRun}
    (keeps : ∀ run, (change run).runId = run.runId) :
    (db.updateRun other change).getRun runId =
      (db.getRun runId).map fun run => if runId = other then change run else run := by
  have found : (db.updateRun other change).getRun runId =
      (db.getRun runId).map fun run => if run.runId = other then change run else run := by
    simp only [getRun, updateRun, List.find?_map]
    congr 2
    funext run
    simp only [Function.comp_apply]
    split
    · rw [keeps]
    · rfl
  rw [found]
  cases got : db.getRun runId with
  | none => rfl
  | some run => rw [Option.map_some, Option.map_some, (getRun_some got).2]

theorem getRun_changed {change : PipelineRun → PipelineRun} {run : PipelineRun}
    (got : (db.updateRun other change).getRun runId = some run)
    (keeps : ∀ run, (change run).runId = run.runId) :
    ∃ old, db.getRun runId = some old ∧ run = if runId = other then change old else old := by
  rw [getRun_updateRun keeps] at got
  obtain ⟨old, gotOld, same⟩ := Option.map_eq_some_iff.mp got
  exact ⟨old, gotOld, same.symm⟩

theorem getRun_updateRun_other {change : PipelineRun → PipelineRun}
    (keeps : ∀ run, (change run).runId = run.runId) (apart : runId ≠ other) :
    (db.updateRun other change).getRun runId = db.getRun runId := by
  simp [getRun_updateRun keeps, apart]

theorem getRun_updateRun_self {change : PipelineRun → PipelineRun}
    (keeps : ∀ run, (change run).runId = run.runId) {run : PipelineRun}
    (found : db.getRun runId = some run) :
    (db.updateRun runId change).getRun runId = some (change run) := by
  rw [getRun_updateRun keeps, found, Option.map_some, if_pos rfl]

theorem getRun_markSucceeded {run : PipelineRun} (finishedAt : Timestamp) (counts : RunCounts)
    (found : db.getRun runId = some run) :
    (db.updateRun runId (·.markSucceeded finishedAt counts)).getRun runId =
      some (run.markSucceeded finishedAt counts) :=
  @getRun_updateRun_self _ _ (·.markSucceeded finishedAt counts) (fun _ => rfl) _ found

theorem getRun_markFailed {run : PipelineRun} (finishedAt : Timestamp) (message : String)
    (found : db.getRun runId = some run) :
    (db.updateRun runId (·.markFailed finishedAt message)).getRun runId =
      some (run.markFailed finishedAt message) :=
  @getRun_updateRun_self _ _ (·.markFailed finishedAt message) (fun _ => rfl) _ found

theorem getRun_added {added run : PipelineRun} (got : (db.addRun added).getRun runId = some run) :
    db.getRun runId = some run ∨ run = added := by
  rw [getRun_addRun] at got
  cases before : db.getRun runId with
  | some old =>
    rw [before, Option.some_or] at got
    exact .inl got
  | none =>
    rw [before, Option.none_or] at got
    split at got
    · exact .inr (Option.some.inj got).symm
    · cases got

@[simp] theorem markSucceeded_index (finishedAt : Timestamp) (counts : RunCounts) :
    (db.updateRun runId (·.markSucceeded finishedAt counts)).index = db.index :=
  db.updateRun_index runId fun _ => rfl

@[simp] theorem markFailed_index (finishedAt : Timestamp) (message : String) :
    (db.updateRun runId (·.markFailed finishedAt message)).index = db.index :=
  db.updateRun_index runId fun _ => rfl

theorem runIds_nodup (nodup : db.index.Nodup) : (db.pipelineRuns.map (·.runId)).Nodup := by
  rw [index, List.nodup_append', List.nodup_append'] at nodup
  have runs := nodup.2.1.1
  have same : db.pipelineRuns.flatMap PipelineRun.keys =
      (db.pipelineRuns.map (·.runId)).map IndexKey.run := by
    rw [List.map_map, List.map_eq_flatMap]
    rfl
  rw [same] at runs
  exact runs.of_map _

theorem unique_run (nodup : db.index.Nodup) {run run' : PipelineRun} (member : run ∈ db.pipelineRuns)
    (member' : run' ∈ db.pipelineRuns) (same : run.runId = run'.runId) : run = run' :=
  List.inj_on_of_nodup_map (runIds_nodup nodup) member member' same

theorem getRun_of_mem (nodup : db.index.Nodup) {run : PipelineRun} (member : run ∈ db.pipelineRuns) :
    db.getRun run.runId = some run := by
  cases found : db.getRun run.runId with
  | none =>
    rw [getRun, List.find?_eq_none] at found
    exact absurd (by simp) (found run member)
  | some first =>
    obtain ⟨inRuns, sameId⟩ := getRun_some found
    rw [unique_run nodup inRuns member sameId]

theorem succeededRuns_addRun {sourceFileId : Nat} {run : PipelineRun} (open_run : run.status ≠ .succeeded) :
    (db.addRun run).succeededRuns sourceFileId = db.succeededRuns sourceFileId := by
  simp [succeededRuns, addRun, open_run]

theorem mem_succeededRuns {sourceFileId : Nat} {run : PipelineRun} :
    run ∈ db.succeededRuns sourceFileId ↔
      run ∈ db.pipelineRuns ∧ run.sourceFileId = some sourceFileId ∧ run.status = .succeeded := by
  simp [succeededRuns]

end Runs

section Raw

variable {db : Database} {table : RawTable} {sourceFileId : Nat}

theorem rowsOf_addRaws (rows : List (RawRow table)) :
    (db.addRaws table rows).rowsOf table sourceFileId = db.rowsOf table sourceFileId ++
      rows.filter (·.lineage.sourceFileId == sourceFileId) := by
  simp [rowsOf, addRaws]

theorem rowsOf_addRaws_other {other : RawTable} (apart : other ≠ table) (rows : List (RawRow table)) :
    (db.addRaws table rows).rowsOf other sourceFileId = db.rowsOf other sourceFileId := by
  simp [rowsOf, addRaws, Function.update_of_ne apart]

theorem mem_rowsOf {row : RawRow table} :
    row ∈ db.rowsOf table sourceFileId ↔ row ∈ db.raw table ∧ row.lineage.sourceFileId = sourceFileId := by
  simp [rowsOf]

end Raw

end Database

end TaxiPipeline
