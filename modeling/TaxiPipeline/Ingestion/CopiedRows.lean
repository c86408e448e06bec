import Mathlib.Data.List.Count
import TaxiPipeline.Ingestion.PythonValues

namespace TaxiPipeline

open Relational ColumnTable Stateful

variable {α β σ : Type}

theorem validateYellowSchema_names {schema : List ArrowField} {version : String}
    (valid : validateYellowSchema schema = .ok version) :
    schema.map (·.name) = yellowBaselineFields ∨
      schema.map (·.name) = yellowBaselineFields ++ [yellowAdditiveField] := by
  unfold validateYellowSchema at valid
  dsimp only at valid
  split at valid
  · cases valid
  split at valid
  · cases valid
  split at valid <;> split at valid
  · cases valid
  · exact .inr (not_not.mp ‹_›)
  · cases valid
  · exact .inl (not_not.mp ‹_›)

theorem validateGreenSchema_names {schema : List ArrowField} {version : String}
    (valid : validateGreenSchema schema = .ok version) : schema.map (·.name) = greenBaselineFields := by
  unfold validateGreenSchema at valid
  dsimp only at valid
  split at valid
  · cases valid
  split at valid
  · cases valid
  split at valid
  · cases valid
  rename_i ordered
  exact not_not.mp ordered

theorem yellow_names_nodup {schema : List ArrowField} {version : String}
    (valid : validateYellowSchema schema = .ok version) : (schema.map (·.name)).Nodup := by
  rcases validateYellowSchema_names valid with names | names <;> rw [names] <;> decide

theorem green_names_nodup {schema : List ArrowField} {version : String}
    (valid : validateGreenSchema schema = .ok version) : (schema.map (·.name)).Nodup := by
  rw [validateGreenSchema_names valid]
  decide

theorem zipStrict_ok {first : List β} {others : List (List β)}
    (rectangular : ∀ column ∈ others, column.length = first.length) (fill : β) :
    zipStrict first others =
      .ok ((List.range first.length).map fun i => (first :: others).map (·.getD i fill)) := by
  induction first generalizing others with
  | nil =>
    have ended : others.findIdx? (!·.isEmpty) = none := by
      rw [List.findIdx?_eq_none_iff]
      intro column member
      have empty := List.length_eq_zero_iff.mp (rectangular column member)
      rw [empty]
      rfl
    unfold zipStrict
    rw [ended]
    rfl
  | cons value rest ih =>
    have nonempty : ∀ column ∈ others, ∃ head tail, column = head :: tail ∧ tail.length = rest.length := by
      intro column member
      have same := rectangular column member
      cases column with
      | nil => cases same
      | cons head tail => exact ⟨head, tail, rfl, by simpa using same⟩
    have going : others.findIdx? (·.isEmpty) = none := by
      rw [List.findIdx?_eq_none_iff]
      intro column member
      obtain ⟨head, tail, rfl, -⟩ := nonempty column member
      rfl
    have heads : others.filterMap List.head? = others.map (·.getD 0 fill) := by
      rw [← List.filterMap_eq_map]
      apply List.filterMap_congr
      intro column member
      obtain ⟨head, tail, rfl, -⟩ := nonempty column member
      rfl
    have tails := @ih (others.map List.tail) (by
      intro column member
      obtain ⟨whole, inOthers, rfl⟩ := List.mem_map.mp member
      obtain ⟨head, tail, rfl, same⟩ := nonempty whole inOthers
      exact same)
    unfold zipStrict
    rw [going]
    dsimp only
    rw [tails, heads, List.length_cons, List.range_succ_eq_map]
    simp [Bind.bind, Except.bind, Function.comp_def]

theorem zipColumns_ok {columns : List (List β)} {rowCount : Nat} (some_column : columns ≠ [])
    (rectangular : ∀ column ∈ columns, column.length = rowCount) (fill : β) :
    zipColumns columns = .ok ((List.range rowCount).map fun i => columns.map (·.getD i fill)) := by
  cases columns with
  | nil => exact absurd rfl some_column
  | cons first others =>
    have same := rectangular first List.mem_cons_self
    subst same
    exact zipStrict_ok (fun column member => rectangular column (List.mem_cons_of_mem _ member)) fill

/-- In columns that go on over the batches the rows of the first batch come first. -/
theorem columns_cons (row : Nat → (String → Option α) → β) (batch : RecordBatch α) (rest : List (RecordBatch α)) :
    ((List.range ((batch :: rest).map (·.rowCount)).sum).map fun i =>
      row i fun name => ((batch :: rest).flatMap (·.columnOf name)).getD i none) =
      ((List.range batch.rowCount).map fun i => row i (batch.cell · i)) ++
        (List.range (rest.map (·.rowCount)).sum).map fun i =>
          row (batch.rowCount + i) fun name => (rest.flatMap (·.columnOf name)).getD i none := by
  rw [List.map_cons, List.sum_cons, List.range_add, List.map_append, List.map_map]
  congr 1
  · refine List.map_congr_left fun i inBatch => congrArg (row i) (funext fun name => ?_)
    have bound : i < (batch.columnOf name).length := by
      rw [columnOf_length]
      exact List.mem_range.mp inBatch
    rw [List.flatMap_cons, List.getD_append _ _ _ _ bound]
    rfl
  · refine List.map_congr_left fun i _ => congrArg (row (batch.rowCount + i)) (funext fun name => ?_)
    have beyond : (batch.columnOf name).length ≤ batch.rowCount + i := by
      rw [columnOf_length]
      omega
    rw [List.flatMap_cons, List.getD_append_right _ _ _ _ beyond, columnOf_length, Nat.add_sub_cancel_left]

/-- The tuples of the rows from `first` on, out of columns that go on over the batches. -/
def tuplesFrom (sourceColumns : List String) (identity : LoadIdentity) (first : Nat)
    (batches : List (RecordBatch α)) : List (List (CopyValue α)) :=
  (List.range (batches.map (·.rowCount)).sum).map fun i =>
    copyTuple identity (first + i) (sourceColumns.map fun name => (batches.flatMap (·.columnOf name)).getD i none)

section Batches

variable {sourceColumns : List String} {identity : LoadIdentity} {batch : RecordBatch ArrowCell}
  {rest batches : List (RecordBatch ArrowCell)} {tables : List (RecordBatch α)} {table : RecordBatch α} {first : Nat}

theorem zipColumns_sourceValues (some_column : sourceColumns ≠ []) (nodup : table.names.Nodup) :
    zipColumns (sourceColumns.map (sourceValues (table.names.zip table.columns) table.rowCount)) =
      .ok ((List.range table.rowCount).map fun i => sourceColumns.map fun name => table.cell name i) := by
  have columns : sourceColumns.map (sourceValues (table.names.zip table.columns) table.rowCount) =
      sourceColumns.map table.columnOf := List.map_congr_left fun name _ => sourceValues_eq nodup name
  have rectangular : ∀ column ∈ sourceColumns.map table.columnOf, column.length = table.rowCount := by
    intro column member
    obtain ⟨name, -, rfl⟩ := List.mem_map.mp member
    exact columnOf_length
  rw [columns, zipColumns_ok (by simpa using some_column) rectangular none]
  simp only [List.map_map]
  rfl

theorem tuplesFrom_cons : tuplesFrom sourceColumns identity first (table :: tables) =
    (List.range table.rowCount).map (fun i =>
      copyTuple identity (first + i) (sourceColumns.map fun name => table.cell name i)) ++
    tuplesFrom sourceColumns identity (first + table.rowCount) tables := by
  have rows := columns_cons (fun i cell => copyTuple identity (first + i) (sourceColumns.map cell)) table tables
  simp only [← Nat.add_assoc] at rows
  exact rows

theorem mapIdx_range {γ δ : Type} (rowCount : Nat) (values : Nat → γ) (tuple : Nat → γ → δ) :
    ((List.range rowCount).map values).mapIdx tuple =
      (List.range rowCount).map fun i => tuple i (values i) := by
  apply List.ext_getElem
  · simp
  · intro i _ _
    simp

/-- The tuples of one batch, if its cells can be converted. -/
theorem copyRowsOf_ok (some_column : sourceColumns ≠ []) (nodup : batch.names.Nodup)
    {entries : List (String × List (Option ArrowValue))} (converted : valuesByName batch = .ok entries) :
    copyRowsOf sourceColumns identity first batch = .ok ((List.range batch.rowCount).map fun i =>
      copyTuple identity (first + i) (sourceColumns.map fun name => (pyTable batch).cell name i)) := by
  have zipped := @zipColumns_sourceValues _ sourceColumns (pyTable batch) some_column nodup
  unfold copyRowsOf
  rw [converted, valuesByName_entries converted]
  rw [show (pyTable batch).names = batch.names from rfl, show (pyTable batch).rowCount = batch.rowCount from rfl]
    at zipped
  simp only [Bind.bind, Except.bind, zipped, mapIdx_range]

theorem copyRowsOf_eq {rows : List (List (CopyValue ArrowValue))} (some_column : sourceColumns ≠ [])
    (nodup : batch.names.Nodup) (copied : copyRowsOf sourceColumns identity first batch = .ok rows) :
    rows = (List.range batch.rowCount).map fun i =>
      copyTuple identity (first + i) (sourceColumns.map fun name => (pyTable batch).cell name i) := by
  obtain ⟨entries, converted, -⟩ := bind_ok.mp (show (valuesByName batch >>= _) = _ from copied)
  have given := @copyRowsOf_ok sourceColumns identity batch first some_column nodup entries converted
  exact Except.ok.inj (copied.symm.trans given)

theorem copyRowsOf_returns (some_column : sourceColumns ≠ []) (nodup : batch.names.Nodup) :
    (∃ rows, copyRowsOf sourceColumns identity first batch = .ok rows) ↔
      ∀ column ∈ batch.columns, ∀ cell : ArrowCell, some cell ∈ column → cell.Convertible := by
  rw [← valuesByName_ok]
  constructor
  · rintro ⟨rows, returned⟩
    obtain ⟨entries, converted, -⟩ := bind_ok.mp (show (valuesByName batch >>= _) = _ from returned)
    exact ⟨entries, converted⟩
  · rintro ⟨entries, converted⟩
    exact ⟨_, copyRowsOf_ok some_column nodup converted⟩

theorem copyRecordBatches_cons {rows : List (List (CopyValue ArrowValue))}
    (copied : copyRowsOf sourceColumns identity first batch = .ok rows) :
    copyRecordBatches sourceColumns identity first (batch :: rest) =
      .cons ⟨first, rows⟩ (copyRecordBatches sourceColumns identity (first + batch.rowCount) rest) := by
  conv_lhs => unfold copyRecordBatches
  rw [copied]

theorem copyRecordBatches_fails {error : PyException}
    (copied : copyRowsOf sourceColumns identity first batch = .error error) :
    copyRecordBatches sourceColumns identity first (batch :: rest) = .fail error := by
  conv_lhs => unfold copyRecordBatches
  rw [copied]

/-- The loop raises nothing exactly if every cell of the batches can be converted. -/
theorem copyRecordBatches_finished (some_column : sourceColumns ≠ []) (nodup : ∀ batch ∈ batches, batch.names.Nodup) :
    (copyRecordBatches sourceColumns identity first batches).raised = none ↔
      ∀ batch ∈ batches, ∀ column ∈ batch.columns, ∀ cell : ArrowCell, some cell ∈ column → cell.Convertible := by
  induction batches generalizing first with
  | nil => exact iff_of_true rfl fun batch member => absurd member List.not_mem_nil
  | cons batch rest ih =>
    have head := @copyRowsOf_returns sourceColumns identity batch first some_column (nodup batch List.mem_cons_self)
    have tail := @ih (first + batch.rowCount) fun later member => nodup later (List.mem_cons_of_mem _ member)
    rw [List.forall_mem_cons, ← head, ← tail]
    cases copied : copyRowsOf sourceColumns identity first batch with
    | error error =>
      rw [copyRecordBatches_fails copied]
      refine iff_of_false (fun finished => ?_) fun both => ?_
      · cases finished
      · obtain ⟨rows, impossible⟩ := both.1
        cases impossible
    | ok rows =>
      rw [copyRecordBatches_cons copied]
      exact ⟨fun finished => ⟨⟨rows, rfl⟩, finished⟩, fun both => both.2⟩

/-- A loop that raises nothing yields every row of the batches, numbered on from `first`. -/
theorem copyRecordBatches_rows (some_column : sourceColumns ≠ []) (nodup : ∀ batch ∈ batches, batch.names.Nodup)
    (finished : (copyRecordBatches sourceColumns identity first batches).raised = none) :
    (copyRecordBatches sourceColumns identity first batches).yielded.flatMap (·.rows) =
      tuplesFrom sourceColumns identity first (batches.map pyTable) := by
  induction batches generalizing first with
  | nil => rfl
  | cons batch rest ih =>
    cases copied : copyRowsOf sourceColumns identity first batch with
    | error error =>
      rw [copyRecordBatches_fails copied] at finished
      cases finished
    | ok rows =>
      rw [copyRecordBatches_cons copied] at finished ⊢
      have given := copyRowsOf_eq some_column (nodup batch List.mem_cons_self) copied
      have later := ih (fun later member => nodup later (List.mem_cons_of_mem _ member)) finished
      rw [given]
      dsimp only [Generated.cons]
      rw [List.map_cons, tuplesFrom_cons, List.flatMap_cons]
      exact congrArg _ later

theorem copyRecordBatches_starts {before after : List (CopyBatch ArrowValue)} {found : CopyBatch ArrowValue}
    (some_column : sourceColumns ≠ []) (nodup : ∀ batch ∈ batches, batch.names.Nodup)
    (yielded : (copyRecordBatches sourceColumns identity first batches).yielded = before ++ found :: after) :
    found.startRowNumber = first + (before.flatMap (·.rows)).length := by
  induction batches generalizing first before with
  | nil => exact absurd yielded (by simp [copyRecordBatches])
  | cons batch rest ih =>
    cases copied : copyRowsOf sourceColumns identity first batch with
    | error error =>
      rw [copyRecordBatches_fails copied] at yielded
      exact absurd yielded (by simp [Generated.fail])
    | ok rows =>
      rw [copyRecordBatches_cons copied] at yielded
      have length := congrArg List.length (copyRowsOf_eq some_column (nodup batch List.mem_cons_self) copied)
      rw [List.length_map, List.length_range] at length
      dsimp only [Generated.cons] at yielded
      cases before with
      | nil =>
        cases (List.cons.inj yielded).1
        rfl
      | cons head others =>
        obtain ⟨same, later⟩ := List.cons.inj yielded
        have start := ih (fun other member => nodup other (List.mem_cons_of_mem _ member)) later
        rw [start, ← same, List.flatMap_cons, List.length_append, length, Nat.add_assoc]

end Batches

/-- What a column of COPY holds for a row of the file, told by the column's name. -/
def ParquetFile.copyValue (file : ParquetFile) (identity : LoadIdentity) (row : Nat) (column : String) :
    CopyValue ArrowValue :=
  if column = "_source_file_id" then .number identity.sourceFileId
  else if column = "_source_row_number" then .number (row + 1)
  else if column = "_pipeline_run_id" then .number identity.pipelineRunId
  else if column = "_ingested_at" then .timestamp identity.ingestedAt
  else .source ((file.table.cell column row).bind ArrowCell.value?)

/-- The tuples of the whole file, laid out by the columns of COPY. -/
def ParquetFile.copiedRows (file : ParquetFile) (identity : LoadIdentity) (copyColumns : List String) :
    List (List (CopyValue ArrowValue)) :=
  (List.range file.table.rowCount).map fun row => copyColumns.map (file.copyValue identity row)

/-- The batches hold the rows of the file in its order, each tuple laid out by the columns of COPY. -/
structure FollowsFile (file : ParquetFile) (identity : LoadIdentity) (copyColumns : List String)
    (batches : Generated (CopyBatch ArrowValue)) : Prop where
  finished : batches.raised = none
  rows : batches.yielded.flatMap (·.rows) = file.copiedRows identity copyColumns
  starts : ∀ before batch after, batches.yielded = before ++ batch :: after →
    batch.startRowNumber = 1 + (before.flatMap (·.rows)).length

/-- An exception of psycopg's COPY. -/
def CopyDriver.Raises (driver : CopyDriver σ α) (error : PyException) : Prop :=
  ∃ statement session, driver.start statement session = .error error ∨
    (∃ row, driver.writeRow statement row session = .error error) ∨ driver.finish statement session = .error error

def CopyDriver.rowWriter (driver : CopyDriver σ α) (statement : CopyStatement) (session : σ)
    (row : List (CopyValue α)) : Except PyException σ :=
  driver.writeRow statement row session

/-- One COPY statement writes the rows in their order. -/
def CopyDriver.Writes (driver : CopyDriver σ α) (statement : CopyStatement) (rows : List (List (CopyValue α)))
    (before after : σ) : Prop :=
  ∃ opened written, driver.start statement before = .ok opened ∧
    rows.foldlM (driver.rowWriter statement) opened = .ok written ∧ driver.finish statement written = .ok after

/-- COPY statements, one after another, write the rows in their order. -/
inductive CopyDriver.Copies (driver : CopyDriver σ α) (statement : CopyStatement) (session : σ) :
    List (List (CopyValue α)) → σ → Prop where
  | nothing : CopyDriver.Copies driver statement session [] session
  | more {rows others : List (List (CopyValue α))} {before after : σ}
      (earlier : CopyDriver.Copies driver statement session rows before)
      (writes : driver.Writes statement others before after) :
      CopyDriver.Copies driver statement session (rows ++ others) after

section Loads

variable {driver : CopyDriver σ α} {statement : CopyStatement}

theorem copyRows_ends (rows : List (List (CopyValue α))) (session : σ) :
    Ends (fun copied => copied.1 = rows.length ∧ driver.Writes statement rows session copied.2) driver.Raises
      (copyRows driver statement rows session) := by
  cases opened : driver.start statement session with
  | error error =>
    unfold copyRows
    rw [opened]
    exact ⟨statement, session, .inl opened⟩
  | ok first =>
    have writes : ∀ (done : List (List (CopyValue α))) row (state : Nat × σ),
        (state.1 = done.length ∧ done.foldlM (driver.rowWriter statement) first = .ok state.2) →
        Ends (fun next => next.1 = (done ++ [row]).length ∧
            (done ++ [row]).foldlM (driver.rowWriter statement) first = .ok next.2) driver.Raises
          (copyRow driver statement state row) := by
      intro done row state counted
      unfold copyRow
      cases written : driver.writeRow statement row state.2 with
      | error error => exact ⟨statement, state.2, .inr (.inl ⟨row, written⟩)⟩
      | ok next =>
        have length : state.1 + 1 = (done ++ [row]).length := by
          rw [List.length_append, List.length_singleton, counted.1]
        have session : (done ++ [row]).foldlM (driver.rowWriter statement) first = .ok next := by
          rw [List.foldlM_append, counted.2]
          simp [Bind.bind, Except.bind, CopyDriver.rowWriter, written, pure, Except.pure]
        exact ⟨length, session⟩
    have copied := @Ends.foldlM _ _ _ _ _ (fun done (state : Nat × σ) =>
      state.1 = done.length ∧ done.foldlM (driver.rowWriter statement) first = .ok state.2)
      [] rows (0, first) writes ⟨rfl, rfl⟩
    unfold copyRows
    rw [opened]
    apply copied.bind
    intro state counted
    cases closed : driver.finish statement state.2 with
    | error error => exact ⟨statement, state.2, .inr (.inr closed)⟩
    | ok next => exact ⟨counted.1, ⟨first, state.2, opened, counted.2, closed⟩⟩

theorem loadBatches_ends {batches : Generated (CopyBatch α)} (finished : batches.raised = none) (session : σ) :
    Ends (fun loaded => loaded.1 = ⟨(batches.yielded.flatMap (·.rows)).length,
          (batches.yielded.flatMap (·.rows)).length⟩ ∧
        driver.Copies statement session (batches.yielded.flatMap (·.rows)) loaded.2) driver.Raises
      (loadBatches driver statement batches session) := by
  have loads : ∀ (done : List (CopyBatch α)) batch (state : LoadCounts × σ),
      (state.1 = ⟨(done.flatMap (·.rows)).length, (done.flatMap (·.rows)).length⟩ ∧
        driver.Copies statement session (done.flatMap (·.rows)) state.2) →
      Ends (fun next => next.1 = ⟨((done ++ [batch]).flatMap (·.rows)).length,
            ((done ++ [batch]).flatMap (·.rows)).length⟩ ∧
          driver.Copies statement session ((done ++ [batch]).flatMap (·.rows)) next.2) driver.Raises
        (loadBatch driver statement state batch) := by
    intro done batch state counted
    apply (copyRows_ends batch.rows state.2).bind
    intro copied same
    have rows : (done ++ [batch]).flatMap (·.rows) = done.flatMap (·.rows) ++ batch.rows := by simp
    rw [rows]
    refine ⟨?_, counted.2.more same.2⟩
    show (⟨_, _⟩ : LoadCounts) = _
    rw [same.1, counted.1, List.length_append]
    rfl
  have loaded := @Ends.foldlM _ _ _ _ _ _ [] batches.yielded (⟨0, 0⟩, session) loads ⟨rfl, .nothing⟩
  apply loaded.bind
  intro state counted
  rw [finished]
  exact counted

end Loads

theorem copyTuple_columns (file : ParquetFile) (identity : LoadIdentity) (row : Nat)
    {sourceColumns : List String} (plain : ∀ name ∈ sourceColumns, name ∉ technicalColumns) :
    copyTuple identity (1 + row) (sourceColumns.map fun name => (pyTable file.table).cell name row) =
      (sourceColumns ++ technicalColumns).map (file.copyValue identity row) := by
  unfold copyTuple pyTable
  rw [List.map_append, List.map_map, Nat.add_comm]
  congr 1
  apply List.map_congr_left
  intro name member
  have other := plain name member
  simp only [technicalColumns, List.mem_cons, List.not_mem_nil, or_false, not_or] at other
  simp [ParquetFile.copyValue, other, mapCells_cell]

/-- Every timestamp of the file is a moment of the years 1 to 9999, and every text is UTF-8. -/
def ParquetFile.Converts (file : ParquetFile) : Prop :=
  ∀ column ∈ file.table.columns, ∀ cell : ArrowCell, some cell ∈ column → cell.Convertible

section Sources

variable {iterBatches : ParquetFile → Int → List (RecordBatch ArrowCell)} {file : ParquetFile}
  {identity : LoadIdentity} {batchSize : Int} {sourceColumns : List String}
  {validateSchema : List ArrowField → Except PyException String} {version : String}

theorem slices_names {batches : List (RecordBatch ArrowCell)} (slices : SlicesOf batches file.table)
    (nodup : (file.schema.map (·.name)).Nodup) : ∀ batch ∈ batches, batch.names.Nodup := by
  intro batch member
  rw [slices.names batch member, file.named]
  exact nodup

theorem slices_convert {batches : List (RecordBatch ArrowCell)} (slices : SlicesOf batches file.table) :
    (∀ batch ∈ batches, ∀ column ∈ batch.columns, ∀ cell : ArrowCell, some cell ∈ column → cell.Convertible) ↔
      file.Converts := by
  constructor
  · intro each column member cell inColumn
    obtain ⟨batch, inBatches, other, inBatch, inOther⟩ := slices.some_cell.mpr ⟨column, member, inColumn⟩
    exact each batch inBatches other inBatch cell inOther
  · intro converts batch inBatches column inBatch cell inColumn
    obtain ⟨other, member, inOther⟩ := slices.some_cell.mp ⟨batch, inBatches, column, inBatch, inColumn⟩
    exact converts other member cell inOther

theorem iterParquetBatches_run (positive : 1 ≤ batchSize) (valid : validateSchema file.schema = .ok version) :
    file.iterParquetBatches iterBatches identity batchSize sourceColumns validateSchema =
      copyRecordBatches sourceColumns identity 1 (iterBatches file batchSize) := by
  have sized : ¬ batchSize ≤ 0 := by omega
  unfold ParquetFile.iterParquetBatches
  rw [if_neg sized, valid]

theorem iterParquetBatches_follows (positive : 1 ≤ batchSize)
    (slices : SlicesOf (iterBatches file batchSize) file.table)
    (valid : validateSchema file.schema = .ok version) (nodup : (file.schema.map (·.name)).Nodup)
    (some_column : sourceColumns ≠ []) (plain : ∀ name ∈ sourceColumns, name ∉ technicalColumns) :
    FollowsFile file identity (sourceColumns ++ technicalColumns)
        (file.iterParquetBatches iterBatches identity batchSize sourceColumns validateSchema) ↔ file.Converts := by
  have distinct := slices_names slices nodup
  have ends := @copyRecordBatches_finished sourceColumns identity _ 1 some_column distinct
  rw [slices_convert slices] at ends
  rw [iterParquetBatches_run positive valid]
  constructor
  · intro follows
    exact ends.mp follows.finished
  · intro converts
    have finished := ends.mpr converts
    have rows := copyRecordBatches_rows some_column distinct finished
    refine ⟨finished, ?_, fun before batch after => copyRecordBatches_starts some_column distinct⟩
    have whole := slices.mapCells ArrowCell.value?
    rw [rows, tuplesFrom]
    show (List.range (((iterBatches file batchSize).map (·.mapCells ArrowCell.value?)).map (·.rowCount)).sum).map _ = _
    rw [whole.rowCount]
    apply List.map_congr_left
    intro row _
    rw [← copyTuple_columns file identity row plain]
    congr 1
    apply List.map_congr_left
    intro name _
    exact congrArg (·.getD row none) whole.columnOf

theorem FollowsFile.rowCount {copyColumns : List String} {batches : Generated (CopyBatch ArrowValue)}
    (follows : FollowsFile file identity copyColumns batches) :
    (batches.yielded.flatMap (·.rows)).length = file.table.rowCount := by
  rw [follows.rows]
  unfold ParquetFile.copiedRows
  rw [List.length_map, List.length_range]

theorem FollowsFile.loads {driver : CopyDriver σ ArrowValue} {statement : CopyStatement}
    {batches : Generated (CopyBatch ArrowValue)} (follows : FollowsFile file identity statement.columns batches)
    (session : σ) :
    Ends (fun loaded => loaded.1 = ⟨file.table.rowCount, file.table.rowCount⟩ ∧
        driver.Copies statement session (file.copiedRows identity statement.columns) loaded.2) driver.Raises
      (loadBatches driver statement batches session) := by
  have loaded := @loadBatches_ends _ _ driver statement _ follows.finished session
  rw [follows.rowCount, follows.rows] at loaded
  exact loaded

/-- A loader counts every row that the batches hold when they hold the file, which they do if it converts. -/
theorem iterParquetBatches_copied (positive : 1 ≤ batchSize)
    (slices : SlicesOf (iterBatches file batchSize) file.table)
    (valid : validateSchema file.schema = .ok version) (nodup : (file.schema.map (·.name)).Nodup)
    (some_column : sourceColumns ≠ []) (plain : ∀ name ∈ sourceColumns, name ∉ technicalColumns)
    (driver : CopyDriver σ ArrowValue) (statement : CopyStatement)
    (columns : statement.columns = sourceColumns ++ technicalColumns) (session : σ) :
    (FollowsFile file identity statement.columns
          (file.iterParquetBatches iterBatches identity batchSize sourceColumns validateSchema) ∧
        Ends (fun loaded => loaded.1 = ⟨file.table.rowCount, file.table.rowCount⟩ ∧
            driver.Copies statement session (file.copiedRows identity statement.columns) loaded.2) driver.Raises
          (loadBatches driver statement
            (file.iterParquetBatches iterBatches identity batchSize sourceColumns validateSchema) session)) ↔
      file.Converts := by
  have follows := @iterParquetBatches_follows iterBatches file identity batchSize sourceColumns validateSchema version
    positive slices valid nodup some_column plain
  rw [← columns] at follows
  rw [← follows]
  constructor
  · intro both
    exact both.1
  · intro given
    exact ⟨given, given.loads session⟩

/-- The tuples given to COPY are the rows of the file, each value under its own column, and the loaders
count every row, if and only if Python has a value for every cell of the file. -/
theorem copied_rows_follow_iff (positive : 1 ≤ batchSize)
    (slices : SlicesOf (iterBatches file batchSize) file.table) (driver : CopyDriver σ ArrowValue) (session : σ) :
    (∀ version, validateYellowSchema file.schema = .ok version →
      ((FollowsFile file identity yellowCopyColumns (file.iterYellowBatches iterBatches identity batchSize) ∧
        Ends (fun loaded => loaded.1 = ⟨file.table.rowCount, file.table.rowCount⟩ ∧
            driver.Copies ⟨"raw", "yellow_trips", yellowCopyColumns⟩ session
              (file.copiedRows identity yellowCopyColumns) loaded.2) driver.Raises
          (loadYellow driver (file.iterYellowBatches iterBatches identity batchSize) session)) ↔ file.Converts)) ∧
    ∀ version, validateGreenSchema file.schema = .ok version →
      ((FollowsFile file identity greenCopyColumns (file.iterGreenBatches iterBatches identity batchSize) ∧
        Ends (fun loaded => loaded.1 = ⟨file.table.rowCount, file.table.rowCount⟩ ∧
            driver.Copies ⟨"raw", "green_trips", greenCopyColumns⟩ session
              (file.copiedRows identity greenCopyColumns) loaded.2) driver.Raises
          (loadGreen driver (file.iterGreenBatches iterBatches identity batchSize) session)) ↔ file.Converts) := by
  constructor
  · intro version valid
    have some_column : yellowSourceColumns ≠ [] := by decide
    have plain : ∀ name ∈ yellowSourceColumns, name ∉ technicalColumns := by decide
    exact iterParquetBatches_copied positive slices valid (yellow_names_nodup valid) some_column plain driver
      ⟨"raw", "yellow_trips", yellowCopyColumns⟩ rfl session
  · intro version valid
    have some_column : greenSourceColumns ≠ [] := by decide
    have plain : ∀ name ∈ greenSourceColumns, name ∉ technicalColumns := by decide
    exact iterParquetBatches_copied positive slices valid (green_names_nodup valid) some_column plain driver
      ⟨"raw", "green_trips", greenCopyColumns⟩ rfl session

end Sources

/-- A value of a column's type, timestamps being `moment`. -/
def cellOfType (moment : Int64) : ArrowType → ArrowCell
  | .int32 | .int64 => .int 7
  | .float64 => .double 0x4000000000000000
  | .timestampUs => .timestamp moment
  | .largeString | .other _ => .text "N".toUTF8

theorem oneRow_rectangular (cells : List (Option ArrowCell)) :
    ∀ column ∈ cells.map fun cell => [cell], column.length = 1 := by
  intro column member
  obtain ⟨cell, -, rfl⟩ := List.mem_map.mp member
  rfl

/-- A batch of one row of the first schema version. -/
def baselineRow (cells : List (Option ArrowCell)) (size : cells.length = yellowBaselineFields.length) :
    RecordBatch ArrowCell where
  names := yellowBaselineFields
  columns := cells.map fun cell => [cell]
  rowCount := 1
  one_per_name := (List.length_map _).trans size
  rectangular := oneRow_rectangular cells

def baselineCells (moment : Int64) : List ArrowCell := yellowBaselineTypes.map fun (_, type) => cellOfType moment type

theorem baselineTable_rectangular (moment : Int64) :
    ∀ column ∈ (baselineCells moment).map fun cell => [some cell, none], column.length = 2 := by
  intro column member
  obtain ⟨cell, -, rfl⟩ := List.mem_map.mp member
  rfl

/-- A file of the first schema version with two rows, the second one all null. -/
def baselineFile (moment : Int64) : ParquetFile where
  schema := yellowBaselineTypes.map fun (name, type) => ⟨name, type, true⟩
  table := {
    names := yellowBaselineFields
    columns := (baselineCells moment).map fun cell => [some cell, none]
    rowCount := 2
    one_per_name := (List.length_map _).trans rfl
    rectangular := baselineTable_rectangular moment }
  named := rfl

/-- pyarrow's batches of one row. -/
def baselineBatches (moment : Int64) (_ : ParquetFile) (_ : Int) : List (RecordBatch ArrowCell) := [
  baselineRow ((baselineCells moment).map some) rfl,
  baselineRow (List.replicate 19 none) rfl]

/-- A COPY that keeps the tuples it is given. -/
def keepingDriver : CopyDriver (List (List (CopyValue ArrowValue))) ArrowValue where
  start := fun _ session => .ok session
  writeRow := fun _ row session => .ok (session ++ [row])
  finish := fun _ session => .ok session

theorem baselineBatches_slices (moment : Int64) :
    SlicesOf (baselineBatches moment (baselineFile moment) 1) (baselineFile moment).table where
  names := by
    intro batch member
    simp only [baselineBatches, List.mem_cons, List.not_mem_nil, or_false] at member
    rcases member with rfl | rfl <;> rfl
  rowCount := rfl
  columns := by
    intro position
    show (((baselineCells moment).map some).map fun cell => [cell]).getD position [] ++
        (((List.replicate 19 none).map fun cell => [cell]).getD position [] ++ []) =
      ((baselineCells moment).map fun cell => [some cell, none]).getD position []
    have size : (baselineCells moment).length = 19 := rfl
    simp only [List.getD_eq_getElem?_getD, List.getElem?_map, List.getElem?_replicate, List.append_nil]
    by_cases bound : position < 19
    · rw [List.getElem?_eq_getElem (size ▸ bound), if_pos bound]
      rfl
    · rw [List.getElem?_eq_none (by omega), if_neg bound]
      rfl

theorem baselineFile_converts {moment : Int64} (dated : (ArrowCell.timestamp moment).Convertible) :
    (baselineFile moment).Converts := by
  have typed : ∀ type, (cellOfType moment type).Convertible := by
    intro type
    cases type with
    | int32 | int64 | float64 => exact True.intro
    | timestampUs => exact dated
    | largeString | other name => exact "N".isValidUTF8
  intro column member cell inColumn
  obtain ⟨found, inCells, rfl⟩ := List.mem_map.mp member
  obtain ⟨entry, -, rfl⟩ := List.mem_map.mp inCells
  simp only [List.mem_cons, List.not_mem_nil, or_false, Option.some_inj, reduceCtorEq] at inColumn
  subst inColumn
  exact typed _

theorem baselineRows_follow_file :
    FollowsFile (baselineFile 0) ⟨1, 1, 0⟩ yellowCopyColumns
        ((baselineFile 0).iterYellowBatches (baselineBatches 0) ⟨1, 1, 0⟩ 1) ∧
      Ends (fun loaded => loaded.1 = ⟨2, 2⟩ ∧
          keepingDriver.Copies ⟨"raw", "yellow_trips", yellowCopyColumns⟩ []
            ((baselineFile 0).copiedRows ⟨1, 1, 0⟩ yellowCopyColumns) loaded.2) keepingDriver.Raises
        (loadYellow keepingDriver ((baselineFile 0).iterYellowBatches (baselineBatches 0) ⟨1, 1, 0⟩ 1) []) :=
  ((copied_rows_follow_iff (by decide) (baselineBatches_slices 0) keepingDriver []).1 "yellow_v1" (by decide)).mpr
    (baselineFile_converts ⟨⟨⟨1970, 1, 1, by decide, by decide, by decide⟩, 0, by decide⟩, by decide⟩)

/-- The first microsecond of the year 10000 passes the schema and ends the batches. -/
theorem lateTrip_raises :
    validateYellowSchema (baselineFile 253402300800000000).schema = .ok "yellow_v1" ∧
      SlicesOf (baselineBatches 253402300800000000 (baselineFile 253402300800000000) 1)
        (baselineFile 253402300800000000).table ∧
      (loadYellow keepingDriver ((baselineFile 253402300800000000).iterYellowBatches
          (baselineBatches 253402300800000000) ⟨1, 1, 0⟩ 1) []) =
        .error ⟨.other "OverflowError", "date value out of range"⟩ ∧
      ¬ FollowsFile (baselineFile 253402300800000000) ⟨1, 1, 0⟩ yellowCopyColumns
        ((baselineFile 253402300800000000).iterYellowBatches (baselineBatches 253402300800000000) ⟨1, 1, 0⟩ 1) := by
  refine ⟨by decide, baselineBatches_slices _, by decide +kernel, fun follows => ?_⟩
  have raised : ((baselineFile 253402300800000000).iterYellowBatches (baselineBatches 253402300800000000)
      ⟨1, 1, 0⟩ 1).raised ≠ none := by decide +kernel
  exact raised follows.finished

section Stored

variable {identity : LoadIdentity} {sourceColumns : List String} {table : RawTable}
  {ofColumns : (String → Option ArrowValue) → table.Values} {values : String → Option ArrowValue}

theorem lookup_copyTuple {rowNumber : Nat} {name : String} :
    ((sourceColumns ++ technicalColumns).zip
        (copyTuple identity rowNumber (sourceColumns.map values))).lookup name =
      if name ∈ sourceColumns then some (.source (values name))
      else (technicalColumns.zip (copyTuple identity rowNumber [])).lookup name := by
  induction sourceColumns with
  | nil => rfl
  | cons first rest ih =>
    unfold copyTuple at ih ⊢
    rw [List.map_cons, List.map_cons, List.cons_append, List.cons_append, List.zip_cons_cons, List.lookup_cons, ih]
    by_cases found : name = first
    · simp [found]
    · have other : (name == first) = false := beq_eq_false_iff_ne.mpr found
      simp [found, other]

/-- The loaders read no column of a row but those that they copy. -/
theorem storedRow_copyTuple (plain : ∀ name ∈ sourceColumns, name ∉ technicalColumns) (rowNumber : Nat)
    (reads : ∀ left right : String → Option ArrowValue, (∀ name ∈ sourceColumns, left name = right name) →
      ofColumns left = ofColumns right) :
    storedRow ofColumns (sourceColumns ++ technicalColumns)
        (copyTuple identity rowNumber (sourceColumns.map values)) =
      some (rawRow identity rowNumber (ofColumns values)) := by
  have technical : ∀ name ∈ technicalColumns, name ∉ sourceColumns := fun name tech source => plain name source tech
  have fileId := technical "_source_file_id" (by decide)
  have number := technical "_source_row_number" (by decide)
  have run := technical "_pipeline_run_id" (by decide)
  have ingested := technical "_ingested_at" (by decide)
  have same := reads (fun column => (((sourceColumns ++ technicalColumns).zip
      (copyTuple identity rowNumber (sourceColumns.map values))).lookup column).bind CopyValue.source?) values
    fun name member => by rw [lookup_copyTuple, if_pos member]; rfl
  unfold storedRow
  dsimp only
  rw [same]
  simp only [lookup_copyTuple, if_neg fileId, if_neg number, if_neg run, if_neg ingested]
  rfl

theorem stored_batches (plain : ∀ name ∈ sourceColumns, name ∉ technicalColumns)
    (reads : ∀ left right : String → Option ArrowValue, (∀ name ∈ sourceColumns, left name = right name) →
      ofColumns left = ofColumns right)
    (some_column : sourceColumns ≠ []) {batches : List (RecordBatch ArrowCell)}
    (nodup : ∀ batch ∈ batches, batch.names.Nodup) {first : Nat}
    (finished : (copyRecordBatches sourceColumns identity first batches).raised = none) :
    (copyRecordBatches sourceColumns identity first batches).yielded.map (fun batch =>
        (batch.startRowNumber, batch.rows.map (storedRow ofColumns (sourceColumns ++ technicalColumns)))) =
      (TaxiPipeline.iterParquetBatches identity first (batches.map (batchValues ofColumns))).map fun batch =>
        (batch.startRowNumber, batch.rows.map some) := by
  induction batches generalizing first with
  | nil => rfl
  | cons batch rest ih =>
    have size : (batchValues ofColumns batch).length = batch.rowCount := by simp [batchValues]
    cases copied : copyRowsOf sourceColumns identity first batch with
    | error error =>
      rw [copyRecordBatches_fails copied] at finished
      cases finished
    | ok rows =>
      rw [copyRecordBatches_cons copied] at finished ⊢
      have given := copyRowsOf_eq some_column (nodup batch List.mem_cons_self) copied
      have later := ih (fun other member => nodup other (List.mem_cons_of_mem _ member)) finished
      rw [given, List.map_cons]
      unfold TaxiPipeline.iterParquetBatches
      dsimp only [Generated.cons]
      rw [List.map_cons, List.map_cons, later, size]
      congr 2
      dsimp only [batchValues, pyTable]
      rw [mapIdx_range, List.map_map, List.map_map]
      apply List.map_congr_left
      intro row _
      simp only [mapCells_cell]
      exact storedRow_copyTuple plain _ reads

end Stored

theorem yellow_reads {left right : String → Option ArrowValue}
    (same : ∀ name ∈ yellowSourceColumns, left name = right name) :
    YellowTrip.ofColumns left = YellowTrip.ofColumns right := by
  simp only [yellowSourceColumns, yellowBaselineFields, yellowBaselineTypes, yellowAdditiveField,
    List.map_cons, List.map_nil, List.cons_append, List.nil_append, List.forall_mem_cons] at same
  simp only [YellowTrip.ofColumns, same]

theorem green_reads {left right : String → Option ArrowValue}
    (same : ∀ name ∈ greenSourceColumns, left name = right name) :
    GreenTrip.ofColumns left = GreenTrip.ofColumns right := by
  simp only [greenSourceColumns, greenBaselineFields, greenFieldTypes, List.map_cons, List.map_nil,
    List.forall_mem_cons] at same
  simp only [GreenTrip.ofColumns, same]

/-- The landing file of a Parquet file, as the loads of whole rows read it. -/
def ParquetFile.landing (iterBatches : ParquetFile → Int → List (RecordBatch ArrowCell)) (file : ParquetFile)
    (batchSize : Int) : LandingFile
  | .yellowTrips => (iterBatches file batchSize).map (batchValues YellowTrip.ofColumns)
  | .greenTrips => (iterBatches file batchSize).map (batchValues GreenTrip.ofColumns)
  | .taxiZones => []

/-- The landing file that a load reads, unless a batch on the way holds a cell that Python has no value for. -/
def ParquetFile.opened (iterBatches : ParquetFile → Int → List (RecordBatch ArrowCell)) (file : ParquetFile)
    (batchSize : Int) : Except PyException LandingFile := do
  let _ ← (iterBatches file batchSize).mapM valuesByName
  .ok (file.landing iterBatches batchSize)

section Landing

variable {iterBatches : ParquetFile → Int → List (RecordBatch ArrowCell)} {file : ParquetFile}
  {identity : LoadIdentity} {version : String}

theorem iterParquetBatches_stored {batchSize : Int} {sourceColumns : List String}
    {validateSchema : List ArrowField → Except PyException String} {table : RawTable}
    {ofColumns : (String → Option ArrowValue) → table.Values} (positive : 1 ≤ batchSize)
    (slices : SlicesOf (iterBatches file batchSize) file.table) (converts : file.Converts)
    (valid : validateSchema file.schema = .ok version) (nodup : (file.schema.map (·.name)).Nodup)
    (some_column : sourceColumns ≠ []) (plain : ∀ name ∈ sourceColumns, name ∉ technicalColumns)
    (reads : ∀ left right : String → Option ArrowValue, (∀ name ∈ sourceColumns, left name = right name) →
      ofColumns left = ofColumns right) :
    (file.iterParquetBatches iterBatches identity batchSize sourceColumns validateSchema).yielded.map
        (fun batch => (batch.startRowNumber,
          batch.rows.map (storedRow ofColumns (sourceColumns ++ technicalColumns)))) =
      (TaxiPipeline.iterParquetBatches identity 1 ((iterBatches file batchSize).map (batchValues ofColumns))).map
        fun batch => (batch.startRowNumber, batch.rows.map some) := by
  have distinct := slices_names slices nodup
  have ends := @copyRecordBatches_finished sourceColumns identity _ 1 some_column distinct
  have finished := ends.mpr ((slices_convert slices).mpr converts)
  rw [iterParquetBatches_run positive valid]
  exact stored_batches plain reads some_column distinct finished

theorem opened_iff {batchSize : Int} {landing : LandingFile}
    (slices : SlicesOf (iterBatches file batchSize) file.table) :
    file.opened iterBatches batchSize = .ok landing ↔ file.Converts ∧ landing = file.landing iterBatches batchSize := by
  have converts : (∃ entries, (iterBatches file batchSize).mapM valuesByName = .ok entries) ↔ file.Converts := by
    rw [mapM_exists_iff, ← slices_convert slices]
    simp only [valuesByName_ok]
  rw [← converts]
  unfold ParquetFile.opened
  rw [bind_ok]
  constructor
  · rintro ⟨entries, converted, same⟩
    exact ⟨⟨entries, converted⟩, (Except.ok.inj same).symm⟩
  · rintro ⟨⟨entries, converted⟩, rfl⟩
    exact ⟨entries, converted, rfl⟩

/-- The rows that COPY stores of a trip file are the rows of the row-level loads. -/
theorem trip_tuples_stored {batchSize : Nat} (positive : 1 ≤ batchSize)
    (slices : SlicesOf (iterBatches file batchSize) file.table) (converts : file.Converts) :
    (validateYellowSchema file.schema = .ok version →
      (file.iterYellowBatches iterBatches identity batchSize).yielded.map (fun batch =>
          (batch.startRowNumber, batch.rows.map (storedRow YellowTrip.ofColumns yellowCopyColumns))) =
        (TaxiPipeline.iterBatches identity batchSize (file.landing iterBatches batchSize) .yellowTrips).map
          fun batch => (batch.startRowNumber, batch.rows.map some)) ∧
    (validateGreenSchema file.schema = .ok version →
      (file.iterGreenBatches iterBatches identity batchSize).yielded.map (fun batch =>
          (batch.startRowNumber, batch.rows.map (storedRow GreenTrip.ofColumns greenCopyColumns))) =
        (TaxiPipeline.iterBatches identity batchSize (file.landing iterBatches batchSize) .greenTrips).map
          fun batch => (batch.startRowNumber, batch.rows.map some)) := by
  have sized : (1 : Int) ≤ batchSize := by omega
  constructor
  · intro valid
    exact iterParquetBatches_stored sized slices converts valid (yellow_names_nodup valid) (by decide) (by decide)
      fun left right => yellow_reads
  · intro valid
    exact iterParquetBatches_stored sized slices converts valid (green_names_nodup valid) (by decide) (by decide)
      fun left right => green_reads

end Landing

end TaxiPipeline
