import TaxiPipeline.Model.Contracts

namespace TaxiPipeline

abbrev Bytes := List (BitVec 8)

/-- The libraries that read a landing file: hashing, pyarrow and pandas. -/
structure Readers where
  sha256 : Bytes → Digest
  parquetFile : Bytes → Except PyException (List ArrowField × Nat)
  readCsv : Bytes → Except PyException Frame
  schemaFingerprint : List ArrowField → Digest

/-- The row count, fingerprint and schema version that `inspect_source` records. -/
structure Structure where
  rowCount : Nat
  fingerprint : Option Digest
  schemaVersion : Option String

def validateParquetSchema (datasetName : String) (schema : List ArrowField) :
    Except PyException String :=
  if datasetName = "yellow_tripdata" then validateYellowSchema schema
  else if datasetName = "green_tripdata" then validateGreenSchema schema
  else .error (contractError s!"Unsupported Parquet dataset: {datasetName}")

def inspectParquet (readers : Readers) (datasetName : String) (content : Bytes) :
    Except PyException Structure := do
  let (schema, rowCount) ← readers.parquetFile content
  let schemaVersion ← validateParquetSchema datasetName schema
  if rowCount = 0 then .error (contractError "Parquet source contains zero rows")
  else .ok ⟨rowCount, some (readers.schemaFingerprint schema), some schemaVersion⟩

def inspectCsv (readers : Readers) (content : Bytes) : Except PyException Structure := do
  let frame ← readers.readCsv content
  let rowCount ← validateTaxiZones frame
  .ok ⟨rowCount, none, none⟩

def inspectStructure (readers : Readers) (source : SourcePartition) (content : Bytes) :
    Except PyException Structure :=
  if source.sourceFormat = "parquet" then inspectParquet readers source.datasetName content
  else if source.sourceFormat = "csv" then inspectCsv readers content
  else .error ⟨.valueError, s!"Unsupported source format: {source.sourceFormat}"⟩

/-- `inspect_source` on a landing file with the given content. -/
def inspectSource (readers : Readers) (source : SourcePartition) (content : Bytes) :
    Except PyException SourceFileMetadata := do
  if content.isEmpty then .error (contractError "Source file is empty")
  else
    let found ← inspectStructure readers source content
    .ok {
      datasetName := source.datasetName
      serviceType := source.serviceType
      year := source.year
      month := source.month
      partitionKey := source.partitionKey
      sourceUrl := source.sourceUrl
      landingPath := source.landingPath
      sourceFormat := source.sourceFormat
      checksumSha256 := readers.sha256 content
      fileSizeBytes := content.length
      rowCount := some (found.rowCount : Int)
      schemaFingerprint := found.fingerprint
      schemaVersion := found.schemaVersion }

theorem inspectStructure_pos {readers : Readers} {source : SourcePartition} {content : Bytes}
    {found : Structure} (inspected : inspectStructure readers source content = .ok found) :
    0 < found.rowCount := by
  unfold inspectStructure at inspected
  split at inspected
  · unfold inspectParquet at inspected
    cases parquet : readers.parquetFile content <;>
      simp only [parquet, Bind.bind, Except.bind] at inspected
    · cases inspected
    · rename_i parsed
      cases version : validateParquetSchema source.datasetName parsed.1 <;>
        simp only [version] at inspected
      · cases inspected
      · split at inspected
        · cases inspected
        · cases inspected
          dsimp only
          omega
  · split at inspected
    · unfold inspectCsv at inspected
      cases csv : readers.readCsv content <;> simp only [csv, Bind.bind, Except.bind] at inspected
      · cases inspected
      · split at inspected
        · cases inspected
        · rename_i valid
          cases inspected
          exact validateTaxiZones_pos valid
    · cases inspected

theorem inspectSource_ok {readers : Readers} {source : SourcePartition} {content : Bytes}
    {metadata : SourceFileMetadata} (inspected : inspectSource readers source content = .ok metadata) :
    content ≠ [] ∧ ∃ found, inspectStructure readers source content = .ok found ∧
      metadata = {
        datasetName := source.datasetName
        serviceType := source.serviceType
        year := source.year
        month := source.month
        partitionKey := source.partitionKey
        sourceUrl := source.sourceUrl
        landingPath := source.landingPath
        sourceFormat := source.sourceFormat
        checksumSha256 := readers.sha256 content
        fileSizeBytes := content.length
        rowCount := some (found.rowCount : Int)
        schemaFingerprint := found.fingerprint
        schemaVersion := found.schemaVersion } := by
  unfold inspectSource at inspected
  split at inspected
  · cases inspected
  · rename_i nonempty
    cases structure_ok : inspectStructure readers source content <;>
      simp only [structure_ok, Bind.bind, Except.bind] at inspected
    · cases inspected
    · rename_i found
      cases inspected
      exact ⟨by simpa using nonempty, found, rfl, rfl⟩

/-- Readers for which every file of three bytes is a zone lookup of two rows. -/
def zoneReaders : Readers where
  sha256 := fun content => BitVec.ofNat 256 content.length
  parquetFile := fun _ => .error ⟨.other "ArrowInvalid", "Parquet magic bytes not found"⟩
  readCsv := fun _ => .ok ⟨taxiZoneRequiredFields, [some (.number 1), some (.number 2)]⟩
  schemaFingerprint := fun _ => 0

def zoneMetadata : SourceFileMetadata where
  datasetName := "taxi_zone_lookup"
  serviceType := none
  year := none
  month := none
  partitionKey := "reference/taxi_zones"
  sourceUrl := taxiZoneSource.sourceUrl
  landingPath := taxiZoneSource.landingPath
  sourceFormat := "csv"
  checksumSha256 := 3
  fileSizeBytes := 3
  rowCount := some 2
  schemaFingerprint := none
  schemaVersion := none

end TaxiPipeline
