import TaxiPipeline.Model.ZoneFiles

namespace TaxiPipeline

/-- The records of a file as `csv.reader` splits it, however long the cells; a blank line is a record without cells. -/
abbrev CsvLines := List (List String)

inductive ZoneCell where
  | number (value : Int)
  | text (value : String)
  deriving DecidableEq

def taxiZoneCopyColumns : List String := taxiZoneRequiredFields ++ technicalColumns

namespace CsvLines

/-- `csv.DictReader.fieldnames`. -/
def fieldnames (lines : CsvLines) : List String := lines.headD []

/-- The records that `csv.DictReader` makes rows of: it passes over blank lines. -/
def records (lines : CsvLines) : List (List String) := lines.tail.filter (· ≠ [])

/-- A row of `csv.DictReader`; a short record lacks its last cells. What a record has beyond the header is
    kept under `None`, which is no column's name. -/
def dictRow (fieldnames record : List String) : List (String × Option String) :=
  fieldnames.zip (record.map some ++ List.replicate (fieldnames.length - record.length) none)

/-- `source_row[name]`; a repeated name keeps its last cell. -/
def sourceCell (sourceRow : List (String × Option String)) (name : String) : Except PyException (Option String) :=
  match sourceRow.reverse.lookup name with
  | some cell => .ok cell
  | none => .error ⟨.other "KeyError", s!"'{name}'"⟩

/-- The tuple that `iter_taxi_zone_batches` makes of a row. -/
def zoneTuple (identity : LoadIdentity) (sourceRowNumber : Nat) (sourceRow : List (String × Option String)) :
    Except PyException (List (CopyValue ZoneCell)) := do
  let locationCell ← sourceCell sourceRow "LocationID"
  let locationId ← CsvFile.sourceInt locationCell
  let borough ← sourceCell sourceRow "Borough"
  let zone ← sourceCell sourceRow "Zone"
  let serviceZone ← sourceCell sourceRow "service_zone"
  .ok (copyTuple identity sourceRowNumber
    [some (.number locationId), borough.map .text, zone.map .text, serviceZone.map .text])

/-- The loop of `iter_taxi_zone_batches`, with the tuples of the batch in progress. -/
def zoneBatches (fieldnames : List String) (identity : LoadIdentity) (batchSize : Nat) :
    (sourceRowNumber : Nat) → (batchRows : List (List (CopyValue ZoneCell))) → List (List String) →
      Generated (CopyBatch ZoneCell)
  | sourceRowNumber, batchRows, [] =>
    ⟨if batchRows.isEmpty then [] else [⟨sourceRowNumber - batchRows.length, batchRows⟩], none⟩
  | sourceRowNumber, batchRows, record :: rest =>
    if !withinFieldLimit record then .fail fieldLimitError
    else
      match zoneTuple identity sourceRowNumber (dictRow fieldnames record) with
      | .error error => .fail error
      | .ok tuple =>
        let batchRows := batchRows ++ [tuple]
        let sourceRowNumber := sourceRowNumber + 1
        if batchRows.length = batchSize then
          .cons ⟨sourceRowNumber - batchRows.length, batchRows⟩
            (zoneBatches fieldnames identity batchSize sourceRowNumber [] rest)
        else zoneBatches fieldnames identity batchSize sourceRowNumber batchRows rest

def iterTaxiZoneBatches (lines : CsvLines) (identity : LoadIdentity) (batchSize : Int) :
    Generated (CopyBatch ZoneCell) :=
  if batchSize ≤ 0 then .fail copyBatchSizeError
  else if !withinFieldLimit lines.fieldnames then .fail fieldLimitError
  else zoneBatches lines.fieldnames identity batchSize.toNat 1 [] lines.records

end CsvLines

def loadTaxiZones {σ : Type} (driver : CopyDriver σ ZoneCell) (batches : Generated (CopyBatch ZoneCell)) (session : σ) :
    Except PyException (LoadCounts × σ) :=
  loadBatches driver ⟨"raw", "taxi_zones", taxiZoneCopyColumns⟩ batches session

end TaxiPipeline
