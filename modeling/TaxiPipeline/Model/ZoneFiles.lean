import TaxiPipeline.Model.RecordBatches
import TaxiPipeline.Model.Landing

namespace TaxiPipeline

/-- The zeros of the Unicode decimal digits; each begins a row of ten. -/
def decimalZeros : List Nat := [
  0x30, 0x660, 0x6F0, 0x7C0, 0x966, 0x9E6, 0xA66, 0xAE6, 0xB66, 0xBE6, 0xC66, 0xCE6, 0xD66, 0xDE6,
  0xE50, 0xED0, 0xF20, 0x1040, 0x1090, 0x17E0, 0x1810, 0x1946, 0x19D0, 0x1A80, 0x1A90, 0x1B50, 0x1BB0,
  0x1C40, 0x1C50, 0xA620, 0xA8D0, 0xA900, 0xA9D0, 0xA9F0, 0xAA50, 0xABF0, 0xFF10, 0x104A0, 0x10D30,
  0x11066, 0x110F0, 0x11136, 0x111D0, 0x112F0, 0x11450, 0x114D0, 0x11650, 0x116C0, 0x11730, 0x118E0,
  0x11950, 0x11C50, 0x11D50, 0x11DA0, 0x11F50, 0x16A60, 0x16AC0, 0x16B50, 0x1D7CE, 0x1D7D8, 0x1D7E2,
  0x1D7EC, 0x1D7F6, 0x1E140, 0x1E2F0, 0x1E4F0, 0x1E950, 0x1FBF0]

def decimalDigit (c : Char) : Option Nat :=
  (decimalZeros.find? fun first => first ≤ c.toNat && c.toNat ≤ first + 9).map (c.toNat - ·)

/-- The whitespace that `int` strips; it keeps the four ASCII separators. -/
def isIntSpace (c : Char) : Bool := isWhitespace c && !(28 ≤ c.toNat && c.toNat ≤ 31)

/-- Decimal digits, with single underscores between them. -/
def readDigits (value : Nat) (afterDigit : Bool) : List Char → Option Nat
  | [] => if afterDigit then some value else none
  | c :: rest =>
    if c = '_' then if afterDigit then readDigits value false rest else none
    else
      match decimalDigit c with
      | none => none
      | some digit => readDigits (10 * value + digit) true rest

/-- `int(text)`; the error shows the beginning of `repr(text)`. -/
def pyInt (text : String) : Except PyException Int :=
  let stripped := ((text.toList.dropWhile isIntSpace).reverse.dropWhile isIntSpace).reverse
  let (negative, digits) := match stripped with
    | '-' :: rest => (true, rest)
    | '+' :: rest => (false, rest)
    | _ => (false, stripped)
  let count := (digits.filter (· != '_')).length
  match readDigits 0 false digits with
  | none =>
    let literal := String.ofList ((pyRepr text).toList.take 200)
    .error (valueError s!"invalid literal for int() with base 10: {literal}")
  | some value =>
    if 4300 < count then
      .error (valueError s!"Exceeds the limit (4300 digits) for integer string conversion: value has {count} digits; use sys.set_int_max_str_digits() to increase the limit")
    else .ok (if negative then -value else value)

/-- `csv.field_size_limit()`. -/
def fieldSizeLimit : Nat := 131072

/-- `csv.reader` takes the record: no cell is longer than its limit. -/
def withinFieldLimit (record : List String) : Bool := record.all (·.length ≤ fieldSizeLimit)

/-- The `csv.Error` that ends the reading of a file with a longer cell. -/
def fieldLimitError : PyException := ⟨.other "Error", s!"field larger than field limit ({fieldSizeLimit})"⟩

/-- A CSV file that `csv` and pandas split alike. pandas renames a repeated column, refuses a record
    longer than the header and ends a cell at a NUL; `csv` refuses a cell beyond its limit. -/
structure CsvFile where
  header : List String
  records : List (List String)
  distinct : header.Nodup
  bounded : ∀ record ∈ records, record.length ≤ header.length
  nulFree : ∀ record ∈ records, ∀ cell ∈ record, storable cell = true
  sized : ∀ record ∈ header :: records, withinFieldLimit record = true

namespace CsvFile

/-- The cell of a record under a name; a short record lacks its last cells. -/
def cell (header : List String) (record : List String) (name : String) : Option String :=
  (header.idxOf? name).bind (record[·]?)

/-- `source_row[name]` of `csv.DictReader`. -/
def sourceCell (header : List String) (record : List String) (name : String) :
    Except PyException (Option String) :=
  if name ∈ header then .ok (cell header record name) else .error ⟨.other "KeyError", s!"'{name}'"⟩

/-- `int(source_row["LocationID"])`. -/
def sourceInt : Option String → Except PyException Int
  | none => .error ⟨.other "TypeError",
    "int() argument must be a string, a bytes-like object or a real number, not 'NoneType'"⟩
  | some text => pyInt text

/-- The values of one record that `iter_taxi_zone_batches` gives to COPY. -/
def zoneRow (header : List String) (record : List String) : Except PyException TaxiZone := do
  let locationCell ← sourceCell header record "LocationID"
  let locationId ← sourceInt locationCell
  let borough ← sourceCell header record "Borough"
  let zone ← sourceCell header record "Zone"
  let serviceZone ← sourceCell header record "service_zone"
  .ok ⟨locationId, borough, zone, serviceZone⟩

/-- The loop of `iter_taxi_zone_batches`, with the rows of the batch in progress. -/
def zoneBatches (header : List String) (identity : LoadIdentity) (batchSize : Nat) :
    (sourceRowNumber : Nat) → (batchRows : List (RawRow .taxiZones)) → List (List String) →
      Generated (RawBatch .taxiZones)
  | sourceRowNumber, batchRows, [] =>
    ⟨if batchRows.isEmpty then [] else [⟨sourceRowNumber - batchRows.length, batchRows⟩], none⟩
  | sourceRowNumber, batchRows, record :: rest =>
    match zoneRow header record with
    | .error error => .fail error
    | .ok row =>
      let batchRows := batchRows ++ [(rawRow identity sourceRowNumber row : RawRow .taxiZones)]
      let sourceRowNumber := sourceRowNumber + 1
      if batchRows.length = batchSize then
        .cons ⟨sourceRowNumber - batchRows.length, batchRows⟩
          (zoneBatches header identity batchSize sourceRowNumber [] rest)
      else zoneBatches header identity batchSize sourceRowNumber batchRows rest

def iterTaxiZoneBatches (file : CsvFile) (identity : LoadIdentity) (batchSize : Int) :
    Generated (RawBatch .taxiZones) :=
  if batchSize ≤ 0 then .fail copyBatchSizeError
  else zoneBatches file.header identity batchSize.toNat 1 [] file.records

/-- The landing file of zone rows. -/
def zonesLanding (rows : List TaxiZone) : LandingFile
  | .taxiZones => [rows]
  | .yellowTrips | .greenTrips => []

/-- The landing file as the loads of whole rows read it, if every record gives a row. -/
def landing (file : CsvFile) : Except PyException LandingFile :=
  (file.records.mapM (zoneRow file.header)).map zonesLanding

def column (file : CsvFile) (name : String) : List (Option String) :=
  file.records.map (cell file.header · name)

end CsvFile

/-- The integer that a LocationID cell spells. -/
def spelledInteger (cell : Option String) : Option Int := cell.bind fun text => (pyInt text).toOption

theorem spelledInteger_some {text : String} {n : Int} (spelled : spelledInteger (some text) = some n) :
    pyInt text = .ok n := by
  simp only [spelledInteger, Option.bind_some] at spelled
  cases parsed : pyInt text with
  | error error =>
    rw [parsed] at spelled
    cases spelled
  | ok value =>
    rw [parsed] at spelled
    cases spelled
    rfl

/-- The cells that `pd.read_csv` reads as missing. -/
def pandasNulls : List String := ["", "#N/A", "#N/A N/A", "#NA", "-1.#IND", "-1.#QNAN", "-NaN", "-nan",
  "1.#IND", "1.#QNAN", "<NA>", "N/A", "NA", "NULL", "NaN", "None", "n/a", "nan", "null"]

/-- How pandas reads numbers: which cells it parses, and the number that a cell of a column becomes.
    Cells that spell one integer become one number. -/
structure Pandas where
  isNumber : String → Bool
  number : (column : List String) → String → Rat
  same_integer : ∀ column left right n, pyInt left = .ok n → pyInt right = .ok n →
    number column left = number column right

namespace Pandas

variable (pandas : Pandas)

/-- The cells of a column that are not missing. -/
def present (cells : List (Option String)) : List String :=
  (cells.filterMap id).filter (!pandasNulls.contains ·)

/-- The value of a cell in a column with the given texts. -/
def readCell (texts : List String) (cell : Option String) : Option PandasValue :=
  (cell.filter (!pandasNulls.contains ·)).map fun text =>
    if texts.all pandas.isNumber then .number (pandas.number texts text) else .text text

def readColumn (cells : List (Option String)) : List (Option PandasValue) :=
  cells.map (pandas.readCell (present cells))

variable {pandas} in
theorem readCell_some {texts : List String} {cell : Option String} (kept : pandas.readCell texts cell ≠ none) :
    ∃ text, cell = some text ∧ pandas.readCell texts cell =
      some (if texts.all pandas.isNumber then .number (pandas.number texts text) else .text text) := by
  cases cell with
  | none => exact absurd rfl kept
  | some text =>
    unfold readCell at kept ⊢
    rw [Option.filter_some] at kept ⊢
    by_cases known : (!pandasNulls.contains text) = true
    · rw [if_pos known]
      exact ⟨text, rfl, rfl⟩
    · rw [if_neg known] at kept
      exact absurd rfl kept

/-- `pd.read_csv`. -/
def readCsv (file : CsvFile) : Frame where
  columns := file.header
  locationId := pandas.readColumn (file.column "LocationID")

end Pandas

end TaxiPipeline
