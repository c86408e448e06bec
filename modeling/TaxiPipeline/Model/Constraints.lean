import Mathlib.Data.List.Perm.Basic
import TaxiPipeline.Model.Tables

namespace TaxiPipeline

def fitsSmallInt (n : Int) : Bool := -32768 ≤ n && n ≤ 32767
def fitsInteger (n : Int) : Bool := -2147483648 ≤ n && n ≤ 2147483647
def fitsBigInt (n : Int) : Bool := -9223372036854775808 ≤ n && n ≤ 9223372036854775807

/-- The values that the column types of `ops.source_files` hold. -/
def SourceFile.fits (row : SourceFile) : Bool :=
  [row.datasetName, row.partitionKey, row.sourceUrl, row.landingPath].all storable &&
    row.serviceType.all storable && row.sourceYear.all fitsSmallInt &&
    row.sourceMonth.all fitsSmallInt && fitsBigInt row.fileSizeBytes && row.rowCount.all fitsBigInt

def monthValid (month : Option Int) : Bool := month.all fun m => 1 ≤ m && m ≤ 12

/-- The check constraints of `ops.source_files`. -/
def SourceFile.meetsChecks (row : SourceFile) : Bool :=
  0 < row.fileSizeBytes && row.rowCount.all (0 ≤ ·) && monthValid row.sourceMonth

def PipelineRun.fits (run : PipelineRun) : Bool :=
  storable run.datasetName && run.serviceType.all storable && run.sourceYear.all fitsSmallInt &&
    run.sourceMonth.all fitsSmallInt && run.rowsRead.all fitsBigInt && run.rowsLoaded.all fitsBigInt &&
    run.warningCount.all fitsInteger && run.errorCount.all fitsInteger && run.errorMessage.all storable

/-- The check constraints of `ops.pipeline_runs`. -/
def PipelineRun.meetsChecks (run : PipelineRun) : Bool :=
  monthValid run.sourceMonth && run.rowsRead.all (0 ≤ ·) && run.rowsLoaded.all (0 ≤ ·) &&
    run.warningCount.all (0 ≤ ·) && run.errorCount.all (0 ≤ ·)

/-- The values that the column types of a raw table hold. -/
def RawTable.fits : (table : RawTable) → table.Values → Bool
  | .yellowTrips, trip =>
    [trip.vendorId, trip.pickupLocationId, trip.dropoffLocationId].all (·.all fitsInteger) &&
      [trip.passengerCount, trip.rateCodeId, trip.paymentType].all (·.all fitsBigInt) &&
      trip.storeAndFwdFlag.all storable
  | .greenTrips, trip =>
    [trip.vendorId, trip.pickupLocationId, trip.dropoffLocationId].all (·.all fitsInteger) &&
      [trip.passengerCount, trip.rateCodeId, trip.paymentType, trip.tripType].all (·.all fitsBigInt) &&
      trip.storeAndFwdFlag.all storable
  | .taxiZones, zone =>
    fitsInteger zone.locationId && [zone.borough, zone.zone, zone.serviceZone].all (·.all storable)

/-- The entries of the primary keys and unique constraints. -/
inductive IndexKey where
  | sourceFile (sourceFileId : Nat)
  | version (partitionKey : String) (checksum : Digest)
  | run (runId : Nat)
  | rawRow (table : RawTable) (sourceFileId sourceRowNumber : Nat)
  | zoneLocation (sourceFileId : Nat) (locationId : Int)
  deriving DecidableEq, Repr

def SourceFile.keys (row : SourceFile) : List IndexKey :=
  [.sourceFile row.sourceFileId, .version row.partitionKey row.checksumSha256]

def PipelineRun.keys (run : PipelineRun) : List IndexKey := [.run run.runId]

def RawRow.primaryKey {table : RawTable} (row : RawRow table) : IndexKey :=
  .rawRow table row.lineage.sourceFileId row.lineage.sourceRowNumber

def RawRow.keys : {table : RawTable} → RawRow table → List IndexKey
  | .yellowTrips, row => [row.primaryKey]
  | .greenTrips, row => [row.primaryKey]
  | .taxiZones, row =>
    [row.primaryKey, .zoneLocation row.lineage.sourceFileId row.values.locationId]

theorem RawRow.primaryKey_mem {table : RawTable} (row : RawRow table) : row.primaryKey ∈ row.keys := by
  cases table <;> simp [RawRow.keys]

theorem RawRow.keys_nodup {table : RawTable} (row : RawRow table) : row.keys.Nodup := by
  cases table <;> simp [RawRow.keys, RawRow.primaryKey]

theorem SourceFile.keys_nodup (row : SourceFile) : row.keys.Nodup := by simp [SourceFile.keys]

namespace Database

/-- Every entry of every unique index. -/
def index (db : Database) : List IndexKey :=
  db.sourceFiles.flatMap SourceFile.keys ++ (db.pipelineRuns.flatMap PipelineRun.keys ++
    ((db.raw .yellowTrips).flatMap RawRow.keys ++ ((db.raw .greenTrips).flatMap RawRow.keys ++
      (db.raw .taxiZones).flatMap RawRow.keys)))

/-- An insert that would repeat an entry of a unique index. -/
def conflicts (db : Database) (keys : List IndexKey) : Bool := keys.any (db.index.contains ·)

theorem mem_index_sourceFile {db : Database} {sourceFileId : Nat} :
    IndexKey.sourceFile sourceFileId ∈ db.index ↔
      ∃ row ∈ db.sourceFiles, row.sourceFileId = sourceFileId := by
  simp [index, SourceFile.keys, PipelineRun.keys, RawRow.keys, RawRow.primaryKey, eq_comm]

theorem mem_index_version {db : Database} {partitionKey : String} {checksum : Digest} :
    IndexKey.version partitionKey checksum ∈ db.index ↔
      ∃ row ∈ db.sourceFiles, row.partitionKey = partitionKey ∧ row.checksumSha256 = checksum := by
  simp [index, SourceFile.keys, PipelineRun.keys, RawRow.keys, RawRow.primaryKey, eq_comm]

theorem mem_index_run {db : Database} {runId : Nat} :
    IndexKey.run runId ∈ db.index ↔ ∃ run ∈ db.pipelineRuns, run.runId = runId := by
  simp [index, SourceFile.keys, PipelineRun.keys, RawRow.keys, RawRow.primaryKey, eq_comm]

theorem mem_index_raw {db : Database} {table : RawTable} {sourceFileId sourceRowNumber : Nat} :
    IndexKey.rawRow table sourceFileId sourceRowNumber ∈ db.index ↔
      ∃ row ∈ db.raw table, row.lineage.sourceFileId = sourceFileId ∧
        row.lineage.sourceRowNumber = sourceRowNumber := by
  cases table <;>
    simp [index, SourceFile.keys, PipelineRun.keys, RawRow.keys, RawRow.primaryKey, eq_comm]

theorem addSourceFile_index (db : Database) (row : SourceFile) :
    (db.addSourceFile row).index.Perm (db.index ++ row.keys) := by
  simp only [index, addSourceFile, List.flatMap_append, List.flatMap_singleton, List.append_assoc]
  refine List.Perm.append_left _ ?_
  exact List.perm_append_comm.trans (by simp)

theorem addRun_index (db : Database) (run : PipelineRun) :
    (db.addRun run).index.Perm (db.index ++ run.keys) := by
  simp only [index, addRun, List.flatMap_append, List.flatMap_singleton, List.append_assoc]
  refine List.Perm.append_left _ (List.Perm.append_left _ ?_)
  exact List.perm_append_comm.trans (by simp)

theorem addRaw_index (db : Database) {table : RawTable} (row : RawRow table) :
    (db.addRaw table row).index.Perm (db.index ++ row.keys) := by
  cases table
  · simp only [index, addRaw, Function.update_self, ne_eq, reduceCtorEq, not_false_eq_true,
      Function.update_of_ne, List.flatMap_append, List.flatMap_singleton, List.append_assoc]
    refine List.Perm.append_left _ (List.Perm.append_left _ (List.Perm.append_left _ ?_))
    exact List.perm_append_comm.trans (by simp)
  · simp only [index, addRaw, Function.update_self, ne_eq, reduceCtorEq, not_false_eq_true,
      Function.update_of_ne, List.flatMap_append, List.flatMap_singleton, List.append_assoc]
    refine List.Perm.append_left _ (List.Perm.append_left _ (List.Perm.append_left _
      (List.Perm.append_left _ ?_)))
    exact List.perm_append_comm.trans (by simp)
  · simp [index, addRaw]

theorem updateSourceFile_index (db : Database) (sourceFileId : Nat) {change : SourceFile → SourceFile}
    (keeps : ∀ row, (change row).keys = row.keys) :
    (db.updateSourceFile sourceFileId change).index = db.index := by
  have same : ∀ row : SourceFile,
      (if row.sourceFileId = sourceFileId then change row else row).keys = row.keys := by
    intro row
    split
    · exact keeps row
    · rfl
  simp only [index, updateSourceFile, List.flatMap_map, same]

theorem updateRun_index (db : Database) (runId : Nat) {change : PipelineRun → PipelineRun}
    (keeps : ∀ run, (change run).keys = run.keys) : (db.updateRun runId change).index = db.index := by
  have same : ∀ run : PipelineRun, (if run.runId = runId then change run else run).keys = run.keys := by
    intro run
    split
    · exact keeps run
    · rfl
  simp only [index, updateRun, List.flatMap_map, same]

end Database

end TaxiPipeline
