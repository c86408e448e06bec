import TaxiPipeline.Ingestion.CopiedRows
import TaxiPipeline.Model.ZoneBatches
import TaxiPipeline.Stateful.Chunks

namespace TaxiPipeline

open Stateful

namespace CsvLines

/-- The cell of a record under a name. -/
def cell (lines : CsvLines) (record : List String) (name : String) : Option String :=
  ((dictRow lines.fieldnames record).reverse.lookup name).join

/-- What a column of COPY holds for a record, told by the column's name. -/
def copyValue (lines : CsvLines) (identity : LoadIdentity) (sourceRowNumber : Nat) (record : List String)
    (column : String) : CopyValue ZoneCell :=
  if column = "_source_file_id" then .number identity.sourceFileId
  else if column = "_source_row_number" then .number sourceRowNumber
  else if column = "_pipeline_run_id" then .number identity.pipelineRunId
  else if column = "_ingested_at" then .timestamp identity.ingestedAt
  else if column = "LocationID" then .source ((spelledInteger (lines.cell record "LocationID")).map .number)
  else .source ((lines.cell record column).map .text)

/-- The tuples of the whole file, numbered from 1, each laid out by the columns of COPY. -/
def copiedRows (lines : CsvLines) (identity : LoadIdentity) : List (List (CopyValue ZoneCell)) :=
  lines.records.mapIdx fun index record => taxiZoneCopyColumns.map (lines.copyValue identity (1 + index) record)

/-- The batches follow the file, and are cut to the given size. -/
structure BatchesFollow (lines : CsvLines) (identity : LoadIdentity) (batchSize : Nat)
    (batches : Generated (CopyBatch ZoneCell)) : Prop where
  finished : batches.raised = none
  chunks : ChunksOf (·.startRowNumber) (·.rows) batchSize 1 (lines.copiedRows identity) batches.yielded
  starts : ∀ batch ∈ batches.yielded, ∃ tuple others, batch.rows = tuple :: others ∧
    (taxiZoneCopyColumns.zip tuple).lookup "_source_row_number" = some (.number batch.startRowNumber)

section Records

variable {lines : CsvLines} {identity : LoadIdentity} {fieldnames record : List String} {records : List (List String)}
  {batchSize number : Nat} {batchRows : List (List (CopyValue ZoneCell))}

theorem dictRow_lookup (record : List String) {name : String} (named : name ∈ fieldnames) :
    ∃ cell, (dictRow fieldnames record).reverse.lookup name = some cell := by
  have keys : (dictRow fieldnames record).map Prod.fst = fieldnames := by
    unfold dictRow
    rw [List.map_fst_zip]
    rw [List.length_append, List.length_map, List.length_replicate]
    omega
  rw [← keys, List.mem_map] at named
  obtain ⟨⟨key, cell⟩, member, same⟩ := named
  cases found : (dictRow fieldnames record).reverse.lookup name with
  | some given => exact ⟨given, rfl⟩
  | none =>
    rw [List.lookup_eq_none_iff] at found
    have other := found _ (List.mem_reverse.mpr member)
    rw [← same, bne_self_eq_false] at other
    cases other

theorem zoneTuple_ok (number : Nat) {locationId : Int}
    (spelled : spelledInteger (lines.cell record "LocationID") = some locationId)
    (complete : ∀ name ∈ taxiZoneRequiredFields, name ∈ lines.fieldnames) :
    zoneTuple identity number (dictRow lines.fieldnames record) =
      .ok (taxiZoneCopyColumns.map (lines.copyValue identity number record)) := by
  have found : ∀ name ∈ taxiZoneRequiredFields,
      sourceCell (dictRow lines.fieldnames record) name = .ok (lines.cell record name) := by
    intro name member
    obtain ⟨cell, given⟩ := dictRow_lookup record (complete name member)
    simp [sourceCell, CsvLines.cell, given]
  have integer : CsvFile.sourceInt (lines.cell record "LocationID") = .ok locationId := by
    cases text : lines.cell record "LocationID" with
    | none =>
      rw [text] at spelled
      cases spelled
    | some text' =>
      rw [text] at spelled
      exact spelledInteger_some spelled
  unfold zoneTuple
  rw [found "LocationID" (by decide), found "Borough" (by decide), found "Zone" (by decide),
    found "service_zone" (by decide)]
  simp only [Bind.bind, Except.bind, integer]
  simp [taxiZoneCopyColumns, taxiZoneRequiredFields, technicalColumns, copyTuple, copyValue, spelled]

/-- A loop whose records all give tuples cuts these into batches of the given size; the batch in progress holds
    the ones just before. -/
theorem zoneBatches_chunks {tuple : Nat → List String → List (CopyValue ZoneCell)} (room : batchRows.length < batchSize)
    (counted : batchRows.length ≤ number) (sized : ∀ record ∈ records, withinFieldLimit record = true)
    (tuples : ∀ number, ∀ record ∈ records,
      zoneTuple identity number (dictRow fieldnames record) = .ok (tuple number record)) :
    (zoneBatches fieldnames identity batchSize number batchRows records).raised = none ∧
      ChunksOf (·.startRowNumber) (·.rows) batchSize (number - batchRows.length)
        (batchRows ++ records.mapIdx fun index record => tuple (number + index) record)
        (zoneBatches fieldnames identity batchSize number batchRows records).yielded := by
  induction records generalizing number batchRows with
  | nil =>
    refine ⟨rfl, ?_⟩
    unfold zoneBatches
    rw [List.mapIdx_nil, List.append_nil]
    cases batchRows with
    | nil => exact .nil
    | cons head rest =>
      let batch : CopyBatch ZoneCell := ⟨number - (head :: rest).length, head :: rest⟩
      show ChunksOf _ CopyBatch.rows _ _ batch.rows [batch]
      exact .singleton rfl (List.cons_ne_nil _ _) room.le
  | cons record rest ih =>
    have later := fun number record member => tuples number record (List.mem_cons_of_mem _ member)
    have laterSized := fun record member => sized record (List.mem_cons_of_mem _ member)
    have taken : ¬ (!withinFieldLimit record) = true := by simp [sized record List.mem_cons_self]
    have shifted : (batchRows ++ (record :: rest).mapIdx fun index record => tuple (number + index) record) =
        (batchRows ++ [tuple number record]) ++ rest.mapIdx fun index record => tuple (number + 1 + index) record := by
      rw [List.mapIdx_cons, List.append_assoc]
      simp only [Nat.add_zero, List.singleton_append, Nat.add_right_comm _ 1, Nat.add_assoc]
    have size : (batchRows ++ [tuple number record]).length = batchRows.length + 1 := List.length_append
    rw [shifted]
    unfold zoneBatches
    rw [if_neg taken, tuples number record List.mem_cons_self]
    dsimp only
    split
    · rename_i filled
      obtain ⟨finished, chunks⟩ := @ih (number + 1) [] (Nat.lt_of_le_of_lt (Nat.zero_le _) room) (Nat.zero_le _)
        laterSized later
      refine ⟨finished, ?_⟩
      have begins : number + 1 - (batchRows ++ [tuple number record]).length = number - batchRows.length := by omega
      have next : number + 1 - ([] : List (List (CopyValue ZoneCell))).length =
          number - batchRows.length + batchSize := by
        simp
        omega
      rw [next] at chunks
      let batch : CopyBatch ZoneCell :=
        ⟨number + 1 - (batchRows ++ [tuple number record]).length, batchRows ++ [tuple number record]⟩
      show ChunksOf _ CopyBatch.rows _ _ (batch.rows ++ _) (batch :: _)
      exact .cons begins (by simp [batch]) filled chunks
    · rename_i unfilled
      have later := @ih (number + 1) (batchRows ++ [tuple number record]) (by omega) (by omega) laterSized later
      rwa [size, Nat.add_sub_add_right] at later

theorem copiedRows_number {position : Nat} {tuple : List (CopyValue ZoneCell)}
    (found : (lines.copiedRows identity)[position]? = some tuple) :
    (taxiZoneCopyColumns.zip tuple).lookup "_source_row_number" = some (.number (1 + position)) := by
  unfold copiedRows at found
  rw [List.getElem?_mapIdx] at found
  obtain ⟨record, -, rfl⟩ := Option.map_eq_some_iff.mp found
  rfl

theorem iterTaxiZoneBatches_follow {batchSize : Int} (positive : 1 ≤ batchSize)
    (sized : ∀ record ∈ lines, withinFieldLimit record = true)
    (integers : ∀ record ∈ lines.records, (spelledInteger (lines.cell record "LocationID")).isSome)
    (complete : lines.records ≠ [] → ∀ name ∈ taxiZoneRequiredFields, name ∈ lines.fieldnames) :
    lines.BatchesFollow identity batchSize.toNat (lines.iterTaxiZoneBatches identity batchSize) := by
  have some_size : ¬ batchSize ≤ 0 := by omega
  have header : ¬ (!withinFieldLimit lines.fieldnames) = true := by
    cases lines with
    | nil => decide
    | cons first rest => simp [fieldnames, sized first List.mem_cons_self]
  have run : lines.iterTaxiZoneBatches identity batchSize =
      zoneBatches lines.fieldnames identity batchSize.toNat 1 [] lines.records := by
    unfold iterTaxiZoneBatches
    rw [if_neg some_size, if_neg header]
  have recordsSized : ∀ record ∈ lines.records, withinFieldLimit record = true := fun record member =>
    sized record (List.mem_of_mem_tail (List.mem_filter.mp member).1)
  have tuples : ∀ number, ∀ record ∈ lines.records, zoneTuple identity number (dictRow lines.fieldnames record) =
      .ok (taxiZoneCopyColumns.map (lines.copyValue identity number record)) := by
    intro number record member
    obtain ⟨locationId, spelled⟩ := Option.isSome_iff_exists.mp (integers record member)
    exact zoneTuple_ok number spelled (complete (List.ne_nil_of_mem member))
  have room : ([] : List (List (CopyValue ZoneCell))).length < batchSize.toNat := by
    rw [List.length_nil]
    omega
  obtain ⟨finished, chunks⟩ := zoneBatches_chunks room (Nat.zero_le 1) recordsSized tuples
  rw [← run] at finished chunks
  refine ⟨finished, chunks, fun batch member => ?_⟩
  obtain ⟨tuple, others, position, rows, found, number⟩ := chunks.head member
  refine ⟨tuple, others, rows, ?_⟩
  rw [number]
  exact copiedRows_number found

end Records

end CsvLines

/-- The tuples of a file in which every record spells an integer location, under a header with the columns that the
    loader reads and with no cell beyond the limit of `csv`, come in the order of the file and in batches of the given
    size, and the loader gives every one to COPY and counts it. -/
theorem zone_batches_follow_file {σ : Type} {lines : CsvLines} {identity : LoadIdentity} {batchSize : Int}
    (positive : 1 ≤ batchSize) (sized : ∀ record ∈ lines, withinFieldLimit record = true)
    (integers : ∀ record ∈ lines.records, (spelledInteger (lines.cell record "LocationID")).isSome)
    (complete : lines.records ≠ [] → ∀ name ∈ taxiZoneRequiredFields, name ∈ lines.fieldnames)
    (driver : CopyDriver σ ZoneCell) (session : σ) :
    lines.BatchesFollow identity batchSize.toNat (lines.iterTaxiZoneBatches identity batchSize) ∧
      Ends (fun loaded => loaded.1 = ⟨lines.records.length, lines.records.length⟩ ∧
          driver.Copies ⟨"raw", "taxi_zones", taxiZoneCopyColumns⟩ session (lines.copiedRows identity) loaded.2)
        driver.Raises (loadTaxiZones driver (lines.iterTaxiZoneBatches identity batchSize) session) := by
  have follows : lines.BatchesFollow identity _ (lines.iterTaxiZoneBatches identity batchSize) :=
    CsvLines.iterTaxiZoneBatches_follow positive sized integers complete
  have loaded := @loadBatches_ends _ _ driver ⟨"raw", "taxi_zones", taxiZoneCopyColumns⟩ _ follows.finished session
  have length : (lines.copiedRows identity).length = lines.records.length := List.length_mapIdx
  rw [follows.chunks.whole, length] at loaded
  exact ⟨follows, loaded⟩

/-- The lookup file of three zones. -/
def threeZones : CsvLines := [taxiZoneRequiredFields, ["1", "A", "One", "Yellow"], ["2", "B", "Two", "Boro"], [],
  ["3", "C", "Three"]]

/-- A COPY into a column of 32 bits. -/
def integerDriver : CopyDriver Unit ZoneCell where
  start := fun _ _ => .ok ()
  writeRow := fun _ row _ =>
    match row.head? with
    | some (.source (some (.number n))) => if fitsInteger n then .ok () else .error (dataError "integer out of range")
    | _ => .ok ()
  finish := fun _ _ => .ok ()

theorem threeZones_follow :
    threeZones.BatchesFollow ⟨5, 8, 0⟩ 2 (threeZones.iterTaxiZoneBatches ⟨5, 8, 0⟩ 2) ∧
      Ends (fun loaded => loaded.1 = ⟨3, 3⟩ ∧
          integerDriver.Copies ⟨"raw", "taxi_zones", taxiZoneCopyColumns⟩ () (threeZones.copiedRows ⟨5, 8, 0⟩) loaded.2)
        integerDriver.Raises (loadTaxiZones integerDriver (threeZones.iterTaxiZoneBatches ⟨5, 8, 0⟩ 2) ()) := by
  have integers : ∀ record ∈ threeZones.records, (spelledInteger (threeZones.cell record "LocationID")).isSome := by
    decide +kernel
  have complete : threeZones.records ≠ [] → ∀ name ∈ taxiZoneRequiredFields, name ∈ threeZones.fieldnames := by
    decide +kernel
  have positive : (1 : Int) ≤ 2 := by decide
  have sized : ∀ record ∈ threeZones, withinFieldLimit record = true := by decide +kernel
  exact zone_batches_follow_file positive sized integers complete integerDriver ()

def locationsAlone : CsvLines := [["LocationID"], ["1"]]

def largeLocation : CsvLines := [taxiZoneRequiredFields, ["2147483648", "A", "One", "Yellow"]]

def zoneOf (borough : String) : CsvLines := [taxiZoneRequiredFields, ["1", borough, "One", "Yellow"]]

/-- A file with a longer cell than `csv` takes ends in its error. -/
theorem zoneOf_raises {borough : String} (long : fieldSizeLimit < borough.length) :
    ((zoneOf borough).iterTaxiZoneBatches ⟨5, 8, 0⟩ 2).raised = some fieldLimitError := by
  have beyond : withinFieldLimit ["1", borough, "One", "Yellow"] = false := by
    have refused : decide (borough.length ≤ fieldSizeLimit) = false := decide_eq_false (by omega)
    simp [withinFieldLimit, refused]
  have header : ¬ (!withinFieldLimit taxiZoneRequiredFields) = true := by decide
  show (if (2 : Int) ≤ 0 then Generated.fail copyBatchSizeError
    else if !withinFieldLimit taxiZoneRequiredFields then Generated.fail fieldLimitError
    else CsvLines.zoneBatches taxiZoneRequiredFields ⟨5, 8, 0⟩ 2 1 [] [["1", borough, "One", "Yellow"]]).raised = _
  rw [if_neg (by decide), if_neg header]
  unfold CsvLines.zoneBatches
  rw [beyond]
  rfl

theorem integer_locations_raise :
    ((∀ record ∈ locationsAlone.records, (spelledInteger (locationsAlone.cell record "LocationID")).isSome) ∧
      locationsAlone.records.length = 1 ∧
      (locationsAlone.iterTaxiZoneBatches ⟨5, 8, 0⟩ 2).yielded.flatMap (·.rows) = [] ∧
      (locationsAlone.iterTaxiZoneBatches ⟨5, 8, 0⟩ 2).raised = some ⟨.other "KeyError", "'Borough'"⟩) ∧
    ((∀ record ∈ largeLocation.records, (spelledInteger (largeLocation.cell record "LocationID")).isSome) ∧
      loadTaxiZones integerDriver (largeLocation.iterTaxiZoneBatches ⟨5, 8, 0⟩ 2) () =
        .error (dataError "integer out of range")) ∧
    ∃ borough : String, borough.length = 131073 ∧
      (∀ record ∈ (zoneOf borough).records, (spelledInteger ((zoneOf borough).cell record "LocationID")).isSome) ∧
      ((zoneOf borough).iterTaxiZoneBatches ⟨5, 8, 0⟩ 2).raised = some fieldLimitError := by
  have length : (String.ofList (List.replicate 131073 'A')).length = 131073 := by
    rw [String.length_ofList, List.length_replicate]
  refine ⟨by decide +kernel, ⟨by decide +kernel, rfl⟩, _, length, fun record member => ?_, zoneOf_raises ?_⟩
  · rw [List.mem_singleton.mp member]
    rfl
  · rw [length]
    decide

section Agreement

variable {header record : List String} {records : List (List String)} {identity : LoadIdentity}
  {batchSize number : Nat} {rows : List (RawRow .taxiZones)}

/-- The tuple that COPY is given for a raw row. -/
def zoneCopied (row : RawRow .taxiZones) : List (CopyValue ZoneCell) :=
  copyTuple ⟨row.lineage.sourceFileId, row.lineage.pipelineRunId, row.ingestedAt⟩ row.lineage.sourceRowNumber
    [some (.number row.values.locationId), row.values.borough.map .text, row.values.zone.map .text,
      row.values.serviceZone.map .text]

/-- Where no name is repeated and no record is longer than the header, a name has one cell. -/
theorem sourceCell_agrees (nodup : header.Nodup) (bounded : record.length ≤ header.length) (name : String) :
    CsvLines.sourceCell (CsvLines.dictRow header record) name = CsvFile.sourceCell header record name := by
  have length : (record.map some ++ List.replicate (header.length - record.length) none).length = header.length := by
    rw [List.length_append, List.length_map, List.length_replicate]
    omega
  unfold CsvLines.sourceCell CsvLines.dictRow CsvFile.sourceCell CsvFile.cell
  rw [lookup_zip nodup length name none]
  cases position : header.idxOf? name with
  | none =>
    rw [if_neg (List.idxOf?_eq_none_iff.mp position)]
    rfl
  | some i =>
    have named : name ∈ header := by
      by_contra absent
      rw [List.idxOf?_eq_none_iff.mpr absent] at position
      cases position
    rw [if_pos named]
    simp only [Option.map_some, Option.bind_some, List.getD_eq_getElem?_getD]
    by_cases within : i < record.length
    · simp [List.getElem?_append_left, within]
    · rw [List.getElem?_append_right (by simpa using within), List.getElem?_replicate,
        List.getElem?_eq_none (Nat.le_of_not_lt within)]
      split <;> rfl

theorem zoneTuple_agrees (nodup : header.Nodup) (bounded : record.length ≤ header.length) (number : Nat) :
    CsvLines.zoneTuple identity number (CsvLines.dictRow header record) =
      (CsvFile.zoneRow header record).map fun row => zoneCopied (rawRow identity number row) := by
  unfold CsvLines.zoneTuple CsvFile.zoneRow
  simp only [sourceCell_agrees nodup bounded, Bind.bind, Except.bind]
  cases CsvFile.sourceCell header record "LocationID" with
  | error error => rfl
  | ok location =>
    dsimp only
    cases CsvFile.sourceInt location with
    | error error => rfl
    | ok locationId =>
      cases CsvFile.sourceCell header record "Borough" with
      | error error => rfl
      | ok borough =>
        cases CsvFile.sourceCell header record "Zone" with
        | error error => rfl
        | ok zone => cases CsvFile.sourceCell header record "service_zone" <;> rfl

theorem zoneBatches_agree (nodup : header.Nodup) (bounded : ∀ record ∈ records, record.length ≤ header.length)
    (sized : ∀ record ∈ records, withinFieldLimit record = true) :
    CsvLines.zoneBatches header identity batchSize number (rows.map zoneCopied) records =
      ⟨(CsvFile.zoneBatches header identity batchSize number rows records).yielded.map fun batch =>
          ⟨batch.startRowNumber, batch.rows.map zoneCopied⟩,
        (CsvFile.zoneBatches header identity batchSize number rows records).raised⟩ := by
  induction records generalizing number rows with
  | nil =>
    unfold CsvLines.zoneBatches CsvFile.zoneBatches
    cases rows with
    | nil => rfl
    | cons head rest => simp
  | cons record rest ih =>
    have later := fun number rows => @ih number rows (fun other member => bounded other (List.mem_cons_of_mem _ member))
      fun other member => sized other (List.mem_cons_of_mem _ member)
    have taken : ¬ (!withinFieldLimit record) = true := by simp [sized record List.mem_cons_self]
    have tuple := @zoneTuple_agrees _ _ identity nodup (bounded record List.mem_cons_self) number
    unfold CsvLines.zoneBatches CsvFile.zoneBatches
    rw [if_neg taken, tuple]
    cases CsvFile.zoneRow header record with
    | error error => rfl
    | ok row =>
      have batch : rows.map zoneCopied ++ [zoneCopied (rawRow identity number row)] =
          (rows ++ [(rawRow identity number row : RawRow .taxiZones)]).map zoneCopied := by
        rw [List.map_append, List.map_cons, List.map_nil]
      simp only [Except.map, batch, List.length_map]
      split
      · have others := later (number + 1) []
        rw [List.map_nil] at others
        rw [others]
        rfl
      · exact later _ _

end Agreement

end TaxiPipeline
