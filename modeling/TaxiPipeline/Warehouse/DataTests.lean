import TaxiPipeline.Relational.Checks
import TaxiPipeline.Warehouse.Builds
import TaxiPipeline.Warehouse.Staging

namespace TaxiPipeline

open Relational

/-- The data tests of the dbt project, without `not_null` on columns that cannot be null. -/
inductive DataTest where
  | tlcVendorsUnique
  | tlcRateCodesUnique
  | tlcPaymentTypesUnique
  | stgYellowTripsLineageUnique
  | stgYellowTripsLoadedGrain
  | stgGreenTripsLineageUnique
  | stgGreenTripsLoadedGrain
  | stgTaxiZonesActiveGrain
  | stgTaxiZonesOneLoadedSource
  | stgTaxiZonesLocationUnique
  | intTripsNormalizedLineageUnique
  | intTripsNormalizedServiceType
  | dimZoneKeyUnique
  | dimZoneLocationUnique
  | dimVendorKeyUnique
  | dimDateKeyUnique
  | dimensionsUnknownMembers
  | fctTripsLineageUnique
  | fctTripsSourceGrain
  | fctTripsPickupZone
  | fctTripsDropoffZone
  | fctTripsVendor
  | fctTripsPickupDate
  | fctTripsDropoffDate
  deriving DecidableEq, Repr

def DataTest.all : List DataTest := [
  .tlcVendorsUnique, .tlcRateCodesUnique, .tlcPaymentTypesUnique, .stgYellowTripsLineageUnique,
  .stgYellowTripsLoadedGrain, .stgGreenTripsLineageUnique, .stgGreenTripsLoadedGrain, .stgTaxiZonesActiveGrain,
  .stgTaxiZonesOneLoadedSource, .stgTaxiZonesLocationUnique, .intTripsNormalizedLineageUnique,
  .intTripsNormalizedServiceType, .dimZoneKeyUnique, .dimZoneLocationUnique, .dimVendorKeyUnique, .dimDateKeyUnique,
  .dimensionsUnknownMembers, .fctTripsLineageUnique, .fctTripsSourceGrain, .fctTripsPickupZone, .fctTripsDropoffZone,
  .fctTripsVendor, .fctTripsPickupDate, .fctTripsDropoffDate]

theorem DataTest.mem_all (test : DataTest) : test ∈ DataTest.all := by
  cases test <;> decide

/-- The raw rows of the sources that a test selects, `inner join source_files`. -/
def rawOfSources (db : Database) (table : RawTable) (selects : SourceFile → Bool) : List (RawRow table) :=
  ((innerJoin (db.raw table) db.sourceFiles fun raw row =>
    equal (some raw.lineage.sourceFileId) (some row.sourceFileId)).filter fun joined => selects joined.2).map Prod.fst

/-- `where source_file.dataset_name = 'green_tripdata' and ...`. -/
def SourceFile.isLoadedTrips (datasetName serviceType : String) (row : SourceFile) : Bool :=
  row.datasetName == datasetName && row.serviceType == some serviceType && row.status == .loaded

/-- `where partition_key = 'reference/taxi_zones' and ...`. -/
def SourceFile.isLoadedZones (row : SourceFile) : Bool :=
  row.partitionKey == "reference/taxi_zones" && row.datasetName == "taxi_zone_lookup" && row.status == .loaded

def lineageUnique (rows : List Lineage) : List (Nat × Nat) := repeated (rows.map Lineage.grain)

def stgYellowTripsLoadedGrain (db : Database) : List (Nat × Nat × Nat) :=
  miscounted
    (joinedCounts (loadedSources db "yellow_tripdata" "yellow") ((db.raw .yellowTrips).map (·.lineage.sourceFileId)))
    ((stgTlcYellowTrips db).map (·.lineage.sourceFileId))

def stgGreenTripsLoadedGrain (db : Database) : List (Option Nat × Option Nat × Option Nat) :=
  differingCounts
    ((rawOfSources db .greenTrips (·.isLoadedTrips "green_tripdata" "green")).map (·.lineage.sourceFileId))
    ((stgTlcGreenTrips db).map (·.lineage.sourceFileId))

def stgTaxiZonesActiveGrain (db : Database) : List (Nat × Nat) :=
  [((rawOfSources db .taxiZones (·.isLoadedZones)).length, (stgTlcTaxiZones db).length)].filter
    fun counts => counts.1 ≠ counts.2

def stgTaxiZonesOneLoadedSource (db : Database) : List Nat :=
  [db.sourceFiles.countP (·.isLoadedZones)].filter (· ≠ 1)

/-- One branch of `dimensions_unknown_members`. -/
def unknownMembers {α : Type} (dimensionName : String) (rows : List α) (isUnknown : α → Bool) : List String :=
  if rows.countP isUnknown ≠ 1 then [dimensionName] else []

def dimensionsUnknownMembers (zones : List DimZone) (vendors : List DimVendor) (dates : List DimDate) : List String :=
  unknownMembers "dim_zone" zones (fun row => row.zoneKey == 0 && row.locationId.isNone &&
      row.borough == some "Unknown" && row.zoneName == some "Unknown") ++
    unknownMembers "dim_vendor" vendors (fun row => row.vendorKey == 0 && row.vendorId.isNone &&
      row.vendorName == "Unknown") ++
    unknownMembers "dim_date" dates fun row => row.dateKey == 0 && row.fullDate.isNone

def fctTripsSourceGrain (db : Database) (facts : List FactTrip) : List (Option Nat × Option Nat × Option Nat) :=
  differingCounts ((intTripsNormalized db).map (·.lineage.sourceFileId)) (facts.map (·.lineage.sourceFileId))

/-- `relationships` from a column of `fct_trips` to a column of a dimension. -/
def relationships {α κ : Type} [DecidableEq κ] (facts : Option (List FactTrip)) (key : FactTrip → κ)
    (dimension : Option (List α)) (field : α → κ) : Option Nat :=
  facts.bind fun facts => dimension.map fun rows => (orphans (rows.map field) (facts.map key)).length

/-- How many rows a test finds, where the relations that it reads have been built; it passes when there are none. -/
def DataTest.failures (db : Database) (tables : Tables) : DataTest → Option Nat
  | tlcVendorsUnique => tables.tlcVendors.map fun rows => (repeated (rows.map (·.vendorId))).length
  | tlcRateCodesUnique => tables.tlcRateCodes.map fun rows => (repeated (rows.map (·.rateCodeId))).length
  | tlcPaymentTypesUnique => tables.tlcPaymentTypes.map fun rows => (repeated (rows.map (·.paymentType))).length
  | stgYellowTripsLineageUnique => some (lineageUnique ((stgTlcYellowTrips db).map (·.lineage))).length
  | stgYellowTripsLoadedGrain => some (TaxiPipeline.stgYellowTripsLoadedGrain db).length
  | stgGreenTripsLineageUnique => some (lineageUnique ((stgTlcGreenTrips db).map (·.lineage))).length
  | stgGreenTripsLoadedGrain => some (TaxiPipeline.stgGreenTripsLoadedGrain db).length
  | stgTaxiZonesActiveGrain => some (TaxiPipeline.stgTaxiZonesActiveGrain db).length
  | stgTaxiZonesOneLoadedSource => some (TaxiPipeline.stgTaxiZonesOneLoadedSource db).length
  | stgTaxiZonesLocationUnique => some (repeated ((stgTlcTaxiZones db).map (·.locationId))).length
  | intTripsNormalizedLineageUnique => some (lineageUnique ((intTripsNormalized db).map (·.lineage))).length
  | intTripsNormalizedServiceType =>
    some (outside ["yellow", "green"] ((intTripsNormalized db).map (·.serviceType))).length
  | dimZoneKeyUnique => tables.dimZone.map fun rows => (repeated (rows.map (·.zoneKey))).length
  | dimZoneLocationUnique => tables.dimZone.map fun rows => (repeated (rows.filterMap (·.locationId))).length
  | dimVendorKeyUnique => tables.dimVendor.map fun rows => (repeated (rows.map (·.vendorKey))).length
  | dimDateKeyUnique => tables.dimDate.map fun rows => (repeated (rows.map (·.dateKey))).length
  | dimensionsUnknownMembers => tables.dimZone.bind fun zones => tables.dimVendor.bind fun vendors =>
      tables.dimDate.map fun dates => (TaxiPipeline.dimensionsUnknownMembers zones vendors dates).length
  | fctTripsLineageUnique => tables.fctTrips.map fun facts => (lineageUnique (facts.map (·.lineage))).length
  | fctTripsSourceGrain => tables.fctTrips.map fun facts => (TaxiPipeline.fctTripsSourceGrain db facts).length
  | fctTripsPickupZone => relationships tables.fctTrips (·.pickupZoneKey) tables.dimZone (·.zoneKey)
  | fctTripsDropoffZone => relationships tables.fctTrips (·.dropoffZoneKey) tables.dimZone (·.zoneKey)
  | fctTripsVendor => relationships tables.fctTrips (·.vendorKey) tables.dimVendor (·.vendorKey)
  | fctTripsPickupDate => relationships tables.fctTrips (·.pickupDateKey) tables.dimDate (·.dateKey)
  | fctTripsDropoffDate => relationships tables.fctTrips (·.dropoffDateKey) tables.dimDate (·.dateKey)

/-- The exit status of a `dbt build` that has built its models: 1 if a test finds a row or cannot run. -/
def dbtExitStatus (db : Database) (tables : Tables) : Nat :=
  if DataTest.all.all fun test => test.failures db tables = some 0 then 0 else 1

theorem dbtExitStatus_zero {db : Database} {tables : Tables} :
    dbtExitStatus db tables = 0 ↔ ∀ test : DataTest, test.failures db tables = some 0 := by
  have each : (DataTest.all.all fun test => test.failures db tables = some 0) = true ↔
      ∀ test : DataTest, test.failures db tables = some 0 := by
    rw [List.all_eq_true]
    simp only [decide_eq_true_eq]
    exact ⟨fun passes test => passes test test.mem_all, fun passes test _ => passes test⟩
  rw [← each]
  unfold dbtExitStatus
  split <;> simp_all

end TaxiPipeline
