import Mathlib.Data.List.Sort
import TaxiPipeline.Model.QualityRules
import TaxiPipeline.Model.Transaction
import TaxiPipeline.Relational.Queries

namespace TaxiPipeline

open Relational

namespace Double

def isNaN (x : Double) : Bool := x.toNat / 2 ^ 52 % 2 ^ 11 == 2047 && x.toNat % 2 ^ 52 != 0

/-- The value is zero, of either sign. -/
def isZero (x : Double) : Bool := x.toNat % 2 ^ 63 == 0

/-- `x < 0` in PostgreSQL, where NaN is above every number. -/
def isNegative (x : Double) : Bool := 2 ^ 63 ≤ x.toNat && !x.isZero && !x.isNaN

/-- The representative of the values that `group by` takes as equal to this one. -/
def canonical (x : Double) : Double :=
  if x.isNaN then 0x7FF8000000000000 else if x.isZero then 0 else x

end Double

structure QualityMeasurement where
  rowsChecked : Nat
  rowsFailed : Nat
  details : Option QualityDetails
  deriving DecidableEq

/-- A dictionary of measurements in the order of insertion. -/
abbrev Measurements := List (String × QualityMeasurement)

/-- `date(year, month, 1)`. -/
def firstOfMonth (year month : Int) : Except PyException Date :=
  if yearRange : 1 ≤ year ∧ year ≤ 9999 then
    if monthRange : 1 ≤ month ∧ month ≤ 12 then
      .ok {
        year := year.toNat
        month := month.toNat
        day := 1
        year_range := by omega
        month_range := by omega
        day_range := ⟨le_rfl, by unfold daysInMonth; split <;> split <;> omega⟩ }
    else .error (valueError "month must be in 1..12")
  else .error (valueError s!"year {year} is out of range")

/-- The `end` of `scalar_measurements`: `bool` counts as 0 or 1 in the year. -/
def firstOfNextMonth (year month : Int) : Except PyException Date :=
  firstOfMonth (year + if month = 12 then 1 else 0) (month % 12 + 1)

def DateTime.before (left right : DateTime) : Bool := left.toMicroseconds < right.toMicroseconds

section Conditions

variable {table : RawTable}

/-- A comparison with null is not true. -/
def holds {α : Type} (column : Option α) (condition : α → Bool) : Bool := column.any condition

def outsideMonth (first next : Date) (pickup : Option DateTime) : Bool :=
  holds pickup fun moment => moment.before first.midnight || !moment.before next.midnight

def dropoffBeforePickup (pickup dropoff : Option DateTime) : Bool :=
  holds dropoff fun later => holds pickup fun earlier => later.before earlier

def negative (column : Option Double) : Bool := holds column Double.isNegative

/-- The conditions that `scalar_measurements` counts in one scan. -/
def scalarConditions (model : TripModel table) (first next : Date) : List (String × (table.Values → Bool)) := [
  ("pickup_outside_source_month", fun trip => outsideMonth first next (model.pickupDatetime trip)),
  ("dropoff_before_pickup", fun trip =>
    dropoffBeforePickup (model.pickupDatetime trip) (model.dropoffDatetime trip)),
  ("negative_trip_distance", fun trip => negative (model.tripDistance trip)),
  ("negative_fare_amount", fun trip => negative (model.fareAmount trip)),
  ("negative_total_amount", fun trip => negative (model.totalAmount trip)),
  ("negative_extra", fun trip => negative (model.extra trip)),
  ("negative_mta_tax", fun trip => negative (model.mtaTax trip)),
  ("negative_tip_amount", fun trip => negative (model.tipAmount trip)),
  ("negative_tolls_amount", fun trip => negative (model.tollsAmount trip)),
  ("negative_improvement_surcharge", fun trip => negative (model.improvementSurcharge trip)),
  ("negative_congestion_surcharge", fun trip => negative (model.congestionSurcharge trip)),
  ("negative_cbd_congestion_fee", fun trip => negative (model.cbdCongestionFee trip)),
  ("zero_trip_distance", fun trip => holds (model.tripDistance trip) Double.isZero),
  ("zero_passenger_count", fun trip => holds (model.passengerCount trip) (· == 0)),
  ("passenger_count_null_rate", fun trip => (model.passengerCount trip).isNone),
  ("rate_code_null_rate", fun trip => (model.rateCodeId trip).isNone),
  ("store_and_fwd_null_rate", fun trip => (model.storeAndFwdFlag trip).isNone),
  ("congestion_surcharge_null_rate", fun trip => (model.congestionSurcharge trip).isNone)] ++
  (match model.airportFee with
    | some airportFee => [
      ("negative_airport_fee", fun trip => negative (airportFee trip)),
      ("airport_fee_null_rate", fun trip => (airportFee trip).isNone)]
    | none => []) ++
  (match model.ehailFee with
    | some ehailFee => [
      ("negative_ehail_fee", fun trip => negative (ehailFee trip)),
      ("ehail_fee_null_rate", fun trip => (ehailFee trip).isNone)]
    | none => [])

end Conditions

section Queries

variable {table : RawTable}

/-- The trips of one source file, in the order of the table. -/
def Database.trips (db : Database) (table : RawTable) (sourceFileId : Nat) : List table.Values :=
  (db.rowsOf table sourceFileId).map (·.values)

def scalarMeasurements (db : Database) (model : TripModel table) (sourceFileId : Nat)
    (sourceYear sourceMonth : Int) : Except PyException (Nat × Measurements) := do
  let first ← firstOfMonth sourceYear sourceMonth
  let next ← firstOfNextMonth sourceYear sourceMonth
  let trips := db.trips table sourceFileId
  let measured := (scalarConditions model first next).map fun (name, condition) =>
    (name, (⟨trips.length, trips.countP condition, none⟩ : QualityMeasurement))
  return (trips.length, measured)

/-- The order of a column, which holds numbers or texts but not both; texts go by code point, as in the C collation. -/
def DomainValue.le : DomainValue → DomainValue → Bool
  | .number left, .number right => left ≤ right
  | .text left, .text right => left ≤ right
  | .number _, .text _ => true
  | .text _, .number _ => false

def domainMeasurement (trips : List table.Values) (rowsChecked : Nat) (check : DomainCheck table) :
    QualityMeasurement :=
  let column := (trips.filterMap check.column).filter (!check.allowed.contains ·)
  let unexpected := (groupCounts column).insertionSort fun left right => left.1.le right.1
  ⟨rowsChecked, (unexpected.map (·.2)).sum, some (.unexpectedValues unexpected)⟩

def domainMeasurements (db : Database) (checks : List (DomainCheck table)) (sourceFileId rowsChecked : Nat) :
    Measurements :=
  checks.map fun check => (check.checkName, domainMeasurement (db.trips table sourceFileId) rowsChecked check)

/-- The `on` clause of the two zone joins. -/
def zoneMatches (zoneSourceFileId : Nat) (locationId : Option Int) (zone : RawRow .taxiZones) : Bool :=
  zone.lineage.sourceFileId == zoneSourceFileId && equal (some zone.values.locationId) locationId

def zoneMeasurements (db : Database) (model : TripModel table) (sourceFileId zoneSourceFileId rowsChecked : Nat) :
    Measurements :=
  let zones := db.raw .taxiZones
  let withPickup := leftJoin (db.trips table sourceFileId) zones fun trip zone =>
    zoneMatches zoneSourceFileId (model.pickupLocationId trip) zone
  let joined := leftJoin withPickup zones fun (trip, _) zone =>
    zoneMatches zoneSourceFileId (model.dropoffLocationId trip) zone
  let unknownPickup := joined.countP fun ((trip, pickupZone), _) =>
    (model.pickupLocationId trip).isSome && pickupZone.isNone
  let unknownDropoff := joined.countP fun ((trip, _), dropoffZone) =>
    (model.dropoffLocationId trip).isSome && dropoffZone.isNone
  [("unknown_pickup_zone", ⟨rowsChecked, unknownPickup, none⟩),
    ("unknown_dropoff_zone", ⟨rowsChecked, unknownDropoff, none⟩)]

/-- The source columns of a row, with the values that `group by` takes as equal made equal. -/
def RawTable.groupKey : (table : RawTable) → table.Values → table.Values
  | .yellowTrips, trip =>
    { trip with
      tripDistance := trip.tripDistance.map Double.canonical
      fareAmount := trip.fareAmount.map Double.canonical
      extra := trip.extra.map Double.canonical
      mtaTax := trip.mtaTax.map Double.canonical
      tipAmount := trip.tipAmount.map Double.canonical
      tollsAmount := trip.tollsAmount.map Double.canonical
      improvementSurcharge := trip.improvementSurcharge.map Double.canonical
      totalAmount := trip.totalAmount.map Double.canonical
      congestionSurcharge := trip.congestionSurcharge.map Double.canonical
      airportFee := trip.airportFee.map Double.canonical
      cbdCongestionFee := trip.cbdCongestionFee.map Double.canonical }
  | .greenTrips, trip =>
    { trip with
      tripDistance := trip.tripDistance.map Double.canonical
      fareAmount := trip.fareAmount.map Double.canonical
      extra := trip.extra.map Double.canonical
      mtaTax := trip.mtaTax.map Double.canonical
      tipAmount := trip.tipAmount.map Double.canonical
      tollsAmount := trip.tollsAmount.map Double.canonical
      ehailFee := trip.ehailFee.map Double.canonical
      improvementSurcharge := trip.improvementSurcharge.map Double.canonical
      totalAmount := trip.totalAmount.map Double.canonical
      congestionSurcharge := trip.congestionSurcharge.map Double.canonical
      cbdCongestionFee := trip.cbdCongestionFee.map Double.canonical }
  | .taxiZones, zone => zone

def duplicateMeasurement (db : Database) (table : RawTable) (sourceFileId rowsChecked : Nat) :
    QualityMeasurement :=
  let groups := groupCounts ((db.trips table sourceFileId).map table.groupKey)
  let duplicateGroups := (groups.map (·.2)).filter (1 < ·)
  ⟨rowsChecked, duplicateGroups.sum,
    some (.duplicates (duplicateGroups.map (· - 1)).sum duplicateGroups.length)⟩

end Queries

end TaxiPipeline
