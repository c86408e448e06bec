import TaxiPipeline.Ingestion.Alone
import TaxiPipeline.Ingestion.Loads

namespace TaxiPipeline

open ReadCommitted

/-- A landing file that holds what the metadata of its inspection says, in values that the columns of
    its raw table take. -/
structure LandingFile.Matches (file : LandingFile) (metadata : SourceFileMetadata) (table : RawTable) :
    Prop where
  dataset : rawTableOf metadata.datasetName = .ok table
  rowCount : metadata.rowCount = some ((file table).flatten.length : Int)
  sized : (file table).flatten.length < 2 ^ 63
  fits : ∀ values ∈ (file table).flatten, table.fits values = true
  locations : table = .taxiZones → ((file .taxiZones).flatten.map (·.locationId)).Nodup

/-- The rows that a load makes of a file. -/
structure LandingFile.Copied (file : LandingFile) (table : RawTable) (sourceFileId runId : Nat)
    (rows : List (RawRow table)) : Prop where
  lineage : rows.map (·.lineage) =
    (List.range' 1 (file table).flatten.length).map (⟨sourceFileId, ·, runId⟩)
  values : rows.map (·.values) = (file table).flatten

section Keys

variable {file : LandingFile} {metadata : SourceFileMetadata} {table : RawTable}
  {sourceFileId runId : Nat} {rows : List (RawRow table)} {db : Database}

theorem LandingFile.Copied.length (copied : file.Copied table sourceFileId runId rows) :
    rows.length = (file table).flatten.length := by
  have same := congrArg List.length copied.values
  rwa [List.length_map] at same

theorem LandingFile.Copied.source (copied : file.Copied table sourceFileId runId rows)
    {row : RawRow table} (member : row ∈ rows) : row.lineage.sourceFileId = sourceFileId :=
  lineage_source copied.lineage member

theorem LandingFile.Copied.numbers (copied : file.Copied table sourceFileId runId rows) :
    rows.Pairwise fun row other => row.lineage.sourceRowNumber ≠ other.lineage.sourceRowNumber := by
  have numbers : (rows.map (·.lineage)).map (·.sourceRowNumber) =
      List.range' 1 (file table).flatten.length := by
    rw [copied.lineage, List.map_map]
    exact List.map_id _
  rw [List.map_map] at numbers
  have nodup : (rows.map ((·.sourceRowNumber) ∘ (·.lineage))).Nodup := by
    rw [numbers]
    exact List.nodup_range'
  exact List.pairwise_map.mp nodup

theorem mem_index_zoneLocation {locationId : Int} :
    IndexKey.zoneLocation sourceFileId locationId ∈ db.index ↔
      ∃ row ∈ db.raw .taxiZones, row.lineage.sourceFileId = sourceFileId ∧
        row.values.locationId = locationId := by
  simp [Database.index, SourceFile.keys, PipelineRun.keys, RawRow.keys, RawRow.primaryKey, eq_comm]

theorem LandingFile.Copied.keys_nodup (copied : file.Copied table sourceFileId runId rows)
    (matching : file.Matches metadata table) : (rows.flatMap RawRow.keys).Nodup := by
  rw [List.nodup_flatMap]
  refine ⟨fun row _ => row.keys_nodup, ?_⟩
  have numbers := copied.numbers
  cases table with
  | yellowTrips | greenTrips =>
    refine numbers.imp fun apart => ?_
    simp [RawRow.keys, RawRow.primaryKey, Function.onFun, Ne.symm apart]
  | taxiZones =>
    have distinct := matching.locations rfl
    rw [← copied.values, List.map_map] at distinct
    have locations := List.pairwise_map.mp distinct
    refine (numbers.and locations).imp fun apart => ?_
    have location := apart.2.symm
    simp only [Function.comp_apply] at location
    simp [RawRow.keys, RawRow.primaryKey, Function.onFun, Ne.symm apart.1, location]

theorem LandingFile.Copied.index_nodup (copied : file.Copied table sourceFileId runId rows)
    (matching : file.Matches metadata table) (nodup : db.index.Nodup)
    (empty : ∀ table, db.rowsOf table sourceFileId = []) : (db.addRaws table rows).index.Nodup := by
  rw [(db.addRaws_index rows).nodup_iff, List.nodup_append']
  refine ⟨nodup, copied.keys_nodup matching, fun k old new => ?_⟩
  have absent : ∀ (other : RawTable) (row : RawRow other), row ∈ db.raw other →
      row.lineage.sourceFileId ≠ sourceFileId := by
    intro other row member same
    have inRows := Database.mem_rowsOf.mpr ⟨member, same⟩
    rw [empty] at inRows
    cases inRows
  obtain ⟨row, member, inKeys⟩ := List.mem_flatMap.mp new
  have source := copied.source member
  have primary : row.primaryKey ∉ db.index := by
    intro known
    obtain ⟨other, inTable, same, -⟩ := Database.mem_index_raw.mp known
    exact absent _ other inTable (same.trans source)
  cases table with
  | yellowTrips => exact primary (List.mem_singleton.mp inKeys ▸ old)
  | greenTrips => exact primary (List.mem_singleton.mp inKeys ▸ old)
  | taxiZones =>
    simp only [RawRow.keys, List.mem_cons, List.not_mem_nil, or_false] at inKeys
    rcases inKeys with rfl | rfl
    · exact primary old
    · obtain ⟨other, inTable, same, -⟩ := mem_index_zoneLocation.mp old
      exact absent _ other inTable (same.trans source)

end Keys

section Statements

variable {request : Request} {file : LandingFile} {Q : State Unit Phase Database Sequences Write → Prop}
  {db : Database} {sequences : Sequences} {pending : List Write} {sourceFileId runId : Nat}

theorem comes_loading {point : LoadPoint} {reply : Timestamp → Reply LoadPoint LoadCounts}
    (executed : ∀ now, point.exec request.metadata sourceFileId runId (db.replay pending) now = some (reply now))
    (rest : ∀ now, request.Comes file Q (afterReply db pending sequences (.loading sourceFileId runId)
      (request.afterLoad sourceFileId runId) (failingPhase sourceFileId runId) (reply now))) :
    request.Comes file Q (.alone db sequences (.loading sourceFileId runId point) pending) := by
  have turn : ∀ now, file.turn (.loading sourceFileId runId point) now = .next now := by
    intro now
    cases point with
    | openFile => cases executed now
    | _ => rfl
  have executes : ∀ now, request.program.exec () (.loading sourceFileId runId point)
      (request.program.replay db pending) sequences (file.turn (.loading sourceFileId runId point) now) =
        some (((reply now).proceed (.loading sourceFileId runId) (request.afterLoad sourceFileId runId)
          (failingPhase sourceFileId runId)).1, ((reply now).proceed (.loading sourceFileId runId)
          (request.afterLoad sourceFileId runId) (failingPhase sourceFileId runId)).2, sequences) := by
    intro now
    rw [turn]
    have advanced := executed now
    simp only [Database.replay] at advanced
    simp [ingestion, Request.exec, Phase.advance, Program.replay, advanced]
  refine .alone executes fun now => ?_
  rw [settled_proceed]
  exact rest now

theorem comes_opening {metadata : SourceFileMetadata} {batchSize : Int}
    (rest : ∀ now, (Request.ingest metadata batchSize).Comes file Q (afterReply db pending sequences
      (.loading sourceFileId runId) ((Request.ingest metadata batchSize).afterLoad sourceFileId runId)
      (failingPhase sourceFileId runId) (openExec metadata batchSize sourceFileId runId now file))) :
    (Request.ingest metadata batchSize).Comes file Q
      (.alone db sequences (.loading sourceFileId runId .openFile) pending) := by
  refine .alone (fun _ => rfl) fun now => ?_
  rw [settled_proceed]
  exact rest now

theorem copyError_free {table : RawTable} {rows current : List (RawRow table)} {row : RawRow table}
    (fits : table.fits row.values = true) (nodup : (db.addRaws table (rows ++ row :: current)).index.Nodup) :
    (db.addRaws table rows).copyError row = none := by
  refine copyError_none.mpr ⟨fits, conflicts_false.mpr fun k inKeys old => ?_⟩
  rw [(db.addRaws_index _).nodup_iff, List.flatMap_append, List.flatMap_cons, ← List.append_assoc,
    List.nodup_append'] at nodup
  exact nodup.2.2 ((db.addRaws_index rows).mem_iff.mp old) (List.mem_append_left _ inKeys)

theorem copying_batch {table : RawTable} {rowsRead rowsLoaded copied : Nat}
    {rows current : List (RawRow table)} {batches : List (RawBatch table)}
    (fits : ∀ row ∈ current, table.fits row.values = true)
    (nodup : (db.addRaws table (rows ++ current)).index.Nodup)
    (rest : request.Comes file Q (.alone db sequences (.loading sourceFileId runId (.copy table
      ⟨rowsRead, rowsLoaded, copied + current.length, [], batches⟩)) ((rows ++ current).map (.insertRaw table)))) :
    request.Comes file Q (.alone db sequences (.loading sourceFileId runId (.copy table
      ⟨rowsRead, rowsLoaded, copied, current, batches⟩)) (rows.map (.insertRaw table))) := by
  induction current generalizing copied rows with
  | nil => simpa using rest
  | cons row current ih =>
    have free : (db.replay (rows.map (.insertRaw table))).copyError row = none := by
      rw [Database.replay_insertRaw]
      exact copyError_free (fits row (by simp)) nodup
    refine comes_loading (fun _ => rfl) fun _ => ?_
    simp only [CopyProgress.exec, free, Reply.guarded, afterReply]
    rw [← List.map_singleton, ← List.map_append]
    refine ih (fun other member => fits other (List.mem_cons_of_mem _ member)) (by simpa using nodup) ?_
    rw [show copied + 1 + current.length = copied + (row :: current).length by simp; omega]
    simpa using rest

/-- The COPY loop copies all rows that the table takes and whose keys are free. -/
theorem copying_comes {table : RawTable} {rowsRead rowsLoaded copied : Nat} {rows current : List (RawRow table)}
    {batches : List (RawBatch table)}
    (fits : ∀ row ∈ current ++ batches.flatMap (·.rows), table.fits row.values = true)
    (nodup : (db.addRaws table (rows ++ (current ++ batches.flatMap (·.rows)))).index.Nodup)
    (counting : request.Comes file Q (.alone db sequences (.loading sourceFileId runId (.count table
      ⟨rowsRead + (batches.flatMap (·.rows)).length,
        rowsLoaded + copied + (current ++ batches.flatMap (·.rows)).length⟩))
      ((rows ++ (current ++ batches.flatMap (·.rows))).map (.insertRaw table)))) :
    request.Comes file Q (.alone db sequences (.loading sourceFileId runId (.copy table
      ⟨rowsRead, rowsLoaded, copied, current, batches⟩)) (rows.map (.insertRaw table))) := by
  induction batches generalizing rowsRead rowsLoaded copied rows current with
  | nil =>
    simp only [List.flatMap_nil, List.append_nil] at fits nodup counting
    refine copying_batch fits nodup (comes_loading (fun _ => rfl) fun _ => ?_)
    simpa [CopyProgress.exec, afterReply, Nat.add_assoc] using counting
  | cons batch batches ih =>
    have before : (db.addRaws table (rows ++ current)).index.Nodup := by
      rw [(db.addRaws_index _).nodup_iff] at nodup ⊢
      rw [← List.append_assoc, List.flatMap_append, ← List.append_assoc, List.nodup_append'] at nodup
      exact nodup.1
    refine copying_batch (fun row member => fits row (List.mem_append_left _ member)) before ?_
    refine comes_loading (fun _ => rfl) fun _ => ?_
    refine ih (fun row member => fits row (List.mem_append_right _ ?_)) ?_ ?_
    · simpa using member
    · simpa using nodup
    · simp only [List.flatMap_cons, List.length_append, RawBatch.rowCount, List.append_assoc] at counting ⊢
      convert counting using 5 <;> omega

theorem copying_start {table : RawTable} {batches : List (RawBatch table)}
    (fits : ∀ row ∈ batches.flatMap (·.rows), table.fits row.values = true)
    (nodup : (db.addRaws table (batches.flatMap (·.rows))).index.Nodup)
    (counting : request.Comes file Q (.alone db sequences (.loading sourceFileId runId (.count table
      ⟨(batches.flatMap (·.rows)).length, (batches.flatMap (·.rows)).length⟩))
      ((batches.flatMap (·.rows)).map (.insertRaw table)))) :
    request.Comes file Q
      (.alone db sequences (.loading sourceFileId runId (.copy table (.start batches))) []) := by
  have none_before : ([] : List (RawRow table)).map (Write.insertRaw table) = [] := rfl
  rw [← none_before]
  refine copying_comes fits nodup ?_
  simpa using counting

end Statements

section Load

variable {metadata : SourceFileMetadata} {batchSize : Int} {file : LandingFile} {table : RawTable}
  {db : Database} {sequences : Sequences} {sourceFileId runId : Nat} {source : SourceFile} {run : PipelineRun}

theorem markSucceeded_writeError {count : Nat} (writable : run.writeError = none) (sized : count < 2 ^ 63)
    (now : Timestamp) :
    (run.markSucceeded now (LoadCounts.toRunCounts ⟨count, count⟩)).writeError = none := by
  obtain ⟨fits, meets⟩ := writeError_none.mp writable
  simp only [PipelineRun.fits, PipelineRun.meetsChecks, Bool.and_eq_true] at fits meets
  have bigInt : fitsBigInt count = true := by
    simp [fitsBigInt]
    omega
  refine writeError_none.mpr ⟨?_, ?_⟩
  · simp [PipelineRun.fits, PipelineRun.markSucceeded, LoadCounts.toRunCounts, fits, bigInt, fitsInteger]
  · simp [PipelineRun.meetsChecks, PipelineRun.markSucceeded, LoadCounts.toRunCounts, meets]

theorem requireRunningRun_got (gotRun : db.getRun runId = some run) (running : run.status = .running) :
    db.requireRunningRun runId = .ok run := by
  simp [Database.requireRunningRun, Database.requireRun, gotRun, requireRunning_ok.mpr running, Bind.bind,
    Except.bind, pure, Except.pure]

/-- After the COPY loop: the counts are checked, source and run are changed, and all is committed. -/
theorem counting_comes {rows : List (RawRow table)} {count : Nat}
    (gotSource : db.getSourceFile sourceFileId = some source) (ready : source.status = .ready)
    (gotRun : db.getRun runId = some run) (running : run.status = .running)
    (ofSource : run.sourceFileId = some sourceFileId) (writable : run.writeError = none)
    (sized : count < 2 ^ 63)
    (counted : validateCounts metadata ⟨count, count⟩
      ((db.addRaws table rows).persistedCount table sourceFileId) = .ok ()) :
    (Request.ingest metadata batchSize).Comes file
      (fun t => ∃ finishedAt, t = .alone (db.commitLoad rows sourceFileId runId finishedAt ⟨count, count⟩)
        sequences ((Request.ingest metadata batchSize).afterLoad sourceFileId runId ⟨count, count⟩) [])
      (.alone db sequences (.loading sourceFileId runId (.count table ⟨count, count⟩))
        (rows.map (.insertRaw table))) := by
  have sameId : run.runId = runId := (getRun_some gotRun).2
  have checked : ∀ now, LoadPoint.exec metadata sourceFileId runId
      (db.replay (rows.map (.insertRaw table))) now (.count table ⟨count, count⟩) =
        some (.read (.selectRun ⟨count, count⟩)) := by
    intro now
    rw [Database.replay_insertRaw]
    simp only [LoadPoint.exec, counted, Reply.check]
  refine comes_loading checked fun _ => ?_
  have selectsRun : ∀ now, LoadPoint.exec metadata sourceFileId runId
      (db.replay (rows.map (.insertRaw table))) now (.selectRun ⟨count, count⟩) =
        some (.read (.selectSource ⟨count, count⟩ run sourceFileId now)) := by
    intro now
    have found := requireRunningRun_got ((getRun_replay_insertRaw table rows).trans gotRun) running
    simp only [LoadPoint.exec, found, requireSource_ok.mpr ofSource, Reply.check]
  refine comes_loading selectsRun fun finishedAt => ?_
  have selectsSource : ∀ now, LoadPoint.exec metadata sourceFileId runId
      (db.replay (rows.map (.insertRaw table))) now
      (.selectSource ⟨count, count⟩ run sourceFileId finishedAt) =
        some (.read (.updateSource ⟨count, count⟩ run sourceFileId finishedAt)) := by
    intro now
    have found : (db.addRaws table rows).requireSourceFile sourceFileId = .ok source :=
      requireSourceFile_got gotSource
    rw [Database.replay_insertRaw]
    simp only [LoadPoint.exec, found, requireLoadable_ok.mpr ready, Reply.check]
  refine comes_loading selectsSource fun _ => ?_
  refine comes_loading (fun _ => rfl) fun _ => ?_
  have ends : ∀ now, LoadPoint.exec metadata sourceFileId runId
      (db.replay (rows.map (.insertRaw table) ++ [.loadSource sourceFileId finishedAt])) now
      (.updateRun ⟨count, count⟩ run finishedAt) =
        some (.write (.succeedRun runId finishedAt (LoadCounts.toRunCounts ⟨count, count⟩))
          (.commit ⟨count, count⟩)) := by
    intro now
    simp only [LoadPoint.exec, markSucceeded_writeError writable sized finishedAt, Reply.guarded, sameId]
  refine comes_loading ends fun _ => ?_
  refine comes_loading (fun _ => rfl) fun _ => .here ⟨finishedAt, ?_⟩
  simp [afterReply, Database.replay_insertRaw, Write.apply, Database.commitLoad]

/-- A load that meets no fault copies its whole file and commits. -/
theorem loading_comes (matching : file.Matches metadata table)
    (gotSource : db.getSourceFile sourceFileId = some source) (ready : source.status = .ready)
    (gotRun : db.getRun runId = some run) (running : run.status = .running)
    (ofSource : run.sourceFileId = some sourceFileId) (writable : run.writeError = none)
    (nodup : db.index.Nodup) (empty : ∀ table, db.rowsOf table sourceFileId = []) :
    (Request.ingest metadata batchSize).Comes file
      (fun t => ∃ rows finishedAt counts, file.Copied table sourceFileId runId rows ∧
        counts = ⟨rows.length, rows.length⟩ ∧
        t = .alone (db.commitLoad rows sourceFileId runId finishedAt counts) sequences
          ((Request.ingest metadata batchSize).afterLoad sourceFileId runId counts) [])
      (.alone db sequences (.loading sourceFileId runId .openFile) []) := by
  refine comes_opening fun now => ?_
  rw [openExec, matching.dataset]
  let batches := iterBatches ⟨sourceFileId, runId, now⟩ batchSize.toNat file table
  let rows := batches.flatMap (·.rows)
  have copied : file.Copied table sourceFileId runId rows :=
    ⟨iterBatches_lineage _ _ _ _, iterBatches_values _ _ _ _⟩
  have fits : ∀ row ∈ rows, table.fits row.values = true := by
    intro row member
    refine matching.fits _ ?_
    rw [← copied.values]
    exact List.mem_map_of_mem member
  have counted : validateCounts metadata ⟨rows.length, rows.length⟩
      ((db.addRaws table rows).persistedCount table sourceFileId) = .ok () := by
    have all : (db.addRaws table rows).rowsOf table sourceFileId = rows := by
      rw [Database.rowsOf_addRaws, empty, List.nil_append]
      exact List.filter_eq_self.mpr fun row member => by simp [copied.source member]
    refine validateCounts_ok.mpr ⟨?_, rfl, ?_⟩
    · rw [matching.rowCount, copied.length]
    · rw [Database.persistedCount, all]
  refine copying_start fits (copied.index_nodup matching nodup empty) ?_
  have sized : rows.length < 2 ^ 63 := copied.length ▸ matching.sized
  refine (counting_comes gotSource ready gotRun running ofSource writable sized counted).mono fun t ended => ?_
  obtain ⟨finishedAt, rfl⟩ := ended
  exact ⟨rows, finishedAt, _, copied, rfl, rfl⟩

end Load

end TaxiPipeline
