import TaxiPipeline.Model.Constraints
import TaxiPipeline.Relational.Queries

namespace TaxiPipeline

open Relational

/-- A row of `int_trips_normalized`. -/
structure Trip where
  serviceType : String
  vendorId : Option Int
  pickupDatetime : Option DateTime
  dropoffDatetime : Option DateTime
  passengerCount : Option Int
  tripDistanceMiles : Option Double
  rateCodeId : Option Int
  storeAndFwdFlag : Option String
  pickupLocationId : Option Int
  dropoffLocationId : Option Int
  paymentType : Option Int
  tripType : Option Int
  fareAmount : Option Double
  extraAmount : Option Double
  mtaTaxAmount : Option Double
  tipAmount : Option Double
  tollsAmount : Option Double
  improvementSurchargeAmount : Option Double
  congestionSurchargeAmount : Option Double
  airportFeeAmount : Option Double
  cbdCongestionFeeAmount : Option Double
  totalAmount : Option Double
  lineage : Lineage
  ingestedAt : Timestamp
  deriving DecidableEq

/-- A row of `int_trips_enriched`. -/
structure EnrichedTrip extends Trip where
  pickupDate : Option Date
  dropoffDate : Option Date
  tripDurationSeconds : Option Rat
  deriving DecidableEq

/-- A row of `stg_tlc__taxi_zones`. -/
structure StagedZone where
  locationId : Int
  borough : Option String
  zoneName : Option String
  serviceZone : Option String
  lineage : Lineage
  ingestedAt : Timestamp
  deriving DecidableEq

structure TlcVendor where
  vendorId : Int
  vendorName : String
  deriving DecidableEq, Repr

structure TlcRateCode where
  rateCodeId : Int
  rateCodeName : String
  deriving DecidableEq, Repr

structure TlcPaymentType where
  paymentType : Int
  paymentTypeName : String
  deriving DecidableEq, Repr

structure DimDate where
  dateKey : Nat
  fullDate : Option Date
  year : Option Nat
  quarter : Option Nat
  month : Option Nat
  monthName : Option String
  day : Option Nat
  dayOfWeek : Option Nat
  dayName : Option String
  isWeekend : Option Bool
  deriving DecidableEq

structure DimZone where
  zoneKey : Int
  locationId : Option Int
  borough : Option String
  zoneName : Option String
  serviceZone : Option String
  deriving DecidableEq, Repr

structure DimVendor where
  vendorKey : Int
  vendorId : Option Int
  vendorName : String
  deriving DecidableEq, Repr

structure FactTrip where
  serviceType : String
  pickupDateKey : Nat
  dropoffDateKey : Nat
  pickupZoneKey : Int
  dropoffZoneKey : Int
  vendorKey : Int
  pickupDatetime : Option DateTime
  dropoffDatetime : Option DateTime
  tripDurationSeconds : Option Rat
  passengerCount : Option Int
  tripDistanceMiles : Option Double
  rateCodeId : Option Int
  rateCodeName : String
  paymentType : Option Int
  paymentTypeName : String
  tripType : Option Int
  fareAmount : Option Double
  extraAmount : Option Double
  mtaTaxAmount : Option Double
  tipAmount : Option Double
  tollsAmount : Option Double
  improvementSurchargeAmount : Option Double
  congestionSurchargeAmount : Option Double
  airportFeeAmount : Option Double
  cbdCongestionFeeAmount : Option Double
  totalAmount : Option Double
  lineage : Lineage
  deriving DecidableEq

/-- The columns of the `unique_key` of `fct_trips`. -/
def FactTrip.grain (fact : FactTrip) : Nat × Nat := (fact.lineage.sourceFileId, fact.lineage.sourceRowNumber)

/-- The loaded sources of one trip dataset, as the staging models select them. -/
def loadedSources (db : Database) (datasetName serviceType : String) : List Nat :=
  (db.sourceFiles.filter fun row =>
    row.datasetName == datasetName && row.serviceType == some serviceType && row.status == .loaded).map
      (·.sourceFileId)

/-- `inner join ... on raw._source_file_id = loaded.source_file_id`. -/
def ofSources {table : RawTable} (rows : List (RawRow table)) (loaded : List Nat) : List (RawRow table) :=
  (innerJoin rows loaded fun raw sourceFileId =>
    equal (some raw.lineage.sourceFileId) (some sourceFileId)).map Prod.fst

def stgYellowTrip (raw : RawRow .yellowTrips) : Trip where
  serviceType := "yellow"
  vendorId := raw.values.vendorId
  pickupDatetime := raw.values.pickupDatetime
  dropoffDatetime := raw.values.dropoffDatetime
  passengerCount := raw.values.passengerCount
  tripDistanceMiles := raw.values.tripDistance
  rateCodeId := raw.values.rateCodeId
  storeAndFwdFlag := raw.values.storeAndFwdFlag
  pickupLocationId := raw.values.pickupLocationId
  dropoffLocationId := raw.values.dropoffLocationId
  paymentType := raw.values.paymentType
  tripType := none
  fareAmount := raw.values.fareAmount
  extraAmount := raw.values.extra
  mtaTaxAmount := raw.values.mtaTax
  tipAmount := raw.values.tipAmount
  tollsAmount := raw.values.tollsAmount
  improvementSurchargeAmount := raw.values.improvementSurcharge
  congestionSurchargeAmount := raw.values.congestionSurcharge
  airportFeeAmount := raw.values.airportFee
  cbdCongestionFeeAmount := raw.values.cbdCongestionFee
  totalAmount := raw.values.totalAmount
  lineage := raw.lineage
  ingestedAt := raw.ingestedAt

def stgGreenTrip (raw : RawRow .greenTrips) : Trip where
  serviceType := "green"
  vendorId := raw.values.vendorId
  pickupDatetime := raw.values.pickupDatetime
  dropoffDatetime := raw.values.dropoffDatetime
  passengerCount := raw.values.passengerCount
  tripDistanceMiles := raw.values.tripDistance
  rateCodeId := raw.values.rateCodeId
  storeAndFwdFlag := raw.values.storeAndFwdFlag
  pickupLocationId := raw.values.pickupLocationId
  dropoffLocationId := raw.values.dropoffLocationId
  paymentType := raw.values.paymentType
  tripType := raw.values.tripType
  fareAmount := raw.values.fareAmount
  extraAmount := raw.values.extra
  mtaTaxAmount := raw.values.mtaTax
  tipAmount := raw.values.tipAmount
  tollsAmount := raw.values.tollsAmount
  improvementSurchargeAmount := raw.values.improvementSurcharge
  congestionSurchargeAmount := raw.values.congestionSurcharge
  airportFeeAmount := none
  cbdCongestionFeeAmount := raw.values.cbdCongestionFee
  totalAmount := raw.values.totalAmount
  lineage := raw.lineage
  ingestedAt := raw.ingestedAt

def stgTlcYellowTrips (db : Database) : List Trip :=
  (ofSources (db.raw .yellowTrips) (loadedSources db "yellow_tripdata" "yellow")).map stgYellowTrip

def stgTlcGreenTrips (db : Database) : List Trip :=
  (ofSources (db.raw .greenTrips) (loadedSources db "green_tripdata" "green")).map stgGreenTrip

/-- `loaded_taxi_zone_source`. -/
def loadedZoneSources (db : Database) : List Nat :=
  (db.sourceFiles.filter fun row =>
    row.partitionKey == "reference/taxi_zones" && row.datasetName == "taxi_zone_lookup" &&
      row.status == .loaded).map (·.sourceFileId)

def stgZone (raw : RawRow .taxiZones) : StagedZone where
  locationId := raw.values.locationId
  borough := raw.values.borough
  zoneName := raw.values.zone
  serviceZone := raw.values.serviceZone
  lineage := raw.lineage
  ingestedAt := raw.ingestedAt

def stgTlcTaxiZones (db : Database) : List StagedZone :=
  (ofSources (db.raw .taxiZones) (loadedZoneSources db)).map stgZone

/-- `union all` of the staged trips. -/
def intTripsNormalized (db : Database) : List Trip := stgTlcYellowTrips db ++ stgTlcGreenTrips db

def Trip.enriched (trip : Trip) : EnrichedTrip where
  toTrip := trip
  pickupDate := trip.pickupDatetime.map (·.date)
  dropoffDate := trip.dropoffDatetime.map (·.date)
  tripDurationSeconds := trip.pickupDatetime.bind fun pickup =>
    trip.dropoffDatetime.map fun dropoff => secondsBetween pickup dropoff

def intTripsEnriched (db : Database) : List EnrichedTrip := (intTripsNormalized db).map Trip.enriched

/-- `union` of the pickup and the dropoff dates. -/
def observedDates (trips : List EnrichedTrip) : List Date :=
  (trips.filterMap (·.pickupDate) ++ trips.filterMap (·.dropoffDate)).dedup

/-- `to_char(full_date, 'FMMonth')`. -/
def Date.monthName (date : Date) : String :=
  ["January", "February", "March", "April", "May", "June", "July", "August", "September", "October",
    "November", "December"].getD (date.month - 1) ""

/-- `to_char(full_date, 'FMDay')`. -/
def Date.dayName (date : Date) : String :=
  ["Monday", "Tuesday", "Wednesday", "Thursday", "Friday", "Saturday", "Sunday"].getD
    (date.isoWeekday - 1) ""

def knownDate (date : Date) : DimDate where
  dateKey := date.key
  fullDate := some date
  year := some date.year
  quarter := some date.quarter
  month := some date.month
  monthName := some date.monthName
  day := some date.day
  dayOfWeek := some date.isoWeekday
  dayName := some date.dayName
  isWeekend := some (decide (date.isoWeekday ∈ [6, 7]))

def unknownDate : DimDate := ⟨0, none, none, none, none, none, none, none, none, none⟩

def dimDate (db : Database) : List DimDate :=
  unknownDate :: (observedDates (intTripsEnriched db)).map knownDate

def knownZone (zone : StagedZone) : DimZone :=
  ⟨zone.locationId, some zone.locationId, zone.borough, zone.zoneName, zone.serviceZone⟩

def unknownZone : DimZone := ⟨0, none, some "Unknown", some "Unknown", none⟩

def dimZone (db : Database) : List DimZone := unknownZone :: (stgTlcTaxiZones db).map knownZone

def knownVendor (vendor : TlcVendor) : DimVendor := ⟨vendor.vendorId, some vendor.vendorId, vendor.vendorName⟩

def unknownVendor : DimVendor := ⟨0, none, "Unknown"⟩

def dimVendor (tlcVendors : List TlcVendor) : List DimVendor := unknownVendor :: tlcVendors.map knownVendor

/-- The relations that `fct_trips` joins its trips with. -/
structure Dimensions where
  dates : List DimDate
  zones : List DimZone
  vendors : List DimVendor
  rateCodes : List TlcRateCode
  paymentTypes : List TlcPaymentType

/-- The output columns of `fct_trips`, from a trip and the rows that it has been joined with. -/
def factTrip (trip : EnrichedTrip) (pickupDate dropoffDate : Option DimDate)
    (pickupZone dropoffZone : Option DimZone) (vendor : Option DimVendor) (rateCode : Option TlcRateCode)
    (payment : Option TlcPaymentType) : FactTrip where
  serviceType := trip.serviceType
  pickupDateKey := (pickupDate.map (·.dateKey)).getD 0
  dropoffDateKey := (dropoffDate.map (·.dateKey)).getD 0
  pickupZoneKey := (pickupZone.map (·.zoneKey)).getD 0
  dropoffZoneKey := (dropoffZone.map (·.zoneKey)).getD 0
  vendorKey := (vendor.map (·.vendorKey)).getD 0
  pickupDatetime := trip.pickupDatetime
  dropoffDatetime := trip.dropoffDatetime
  tripDurationSeconds := trip.tripDurationSeconds
  passengerCount := trip.passengerCount
  tripDistanceMiles := trip.tripDistanceMiles
  rateCodeId := trip.rateCodeId
  rateCodeName := (rateCode.map (·.rateCodeName)).getD "Unknown"
  paymentType := trip.paymentType
  paymentTypeName := (payment.map (·.paymentTypeName)).getD "Unknown"
  tripType := trip.tripType
  fareAmount := trip.fareAmount
  extraAmount := trip.extraAmount
  mtaTaxAmount := trip.mtaTaxAmount
  tipAmount := trip.tipAmount
  tollsAmount := trip.tollsAmount
  improvementSurchargeAmount := trip.improvementSurchargeAmount
  congestionSurchargeAmount := trip.congestionSurchargeAmount
  airportFeeAmount := trip.airportFeeAmount
  cbdCongestionFeeAmount := trip.cbdCongestionFeeAmount
  totalAmount := trip.totalAmount
  lineage := trip.lineage

/-- The seven left joins of `fct_trips`. -/
def fctTrips (dims : Dimensions) (trips : List EnrichedTrip) : List FactTrip :=
  let byPickupDate := leftJoin trips dims.dates fun trip date => equal trip.pickupDate date.fullDate
  let byDropoffDate := leftJoin byPickupDate dims.dates fun (trip, _) date =>
    equal trip.dropoffDate date.fullDate
  let byPickupZone := leftJoin byDropoffDate dims.zones fun ((trip, _), _) zone =>
    equal trip.pickupLocationId zone.locationId
  let byDropoffZone := leftJoin byPickupZone dims.zones fun (((trip, _), _), _) zone =>
    equal trip.dropoffLocationId zone.locationId
  let byVendor := leftJoin byDropoffZone dims.vendors fun ((((trip, _), _), _), _) vendor =>
    equal trip.vendorId vendor.vendorId
  let byRateCode := leftJoin byVendor dims.rateCodes fun (((((trip, _), _), _), _), _) rateCode =>
    equal trip.rateCodeId (some rateCode.rateCodeId)
  let byPayment := leftJoin byRateCode dims.paymentTypes fun ((((((trip, _), _), _), _), _), _) payment =>
    equal trip.paymentType (some payment.paymentType)
  byPayment.map fun (((((((trip, pickupDate), dropoffDate), pickupZone), dropoffZone), vendor), rateCode),
    payment) => factTrip trip pickupDate dropoffDate pickupZone dropoffZone vendor rateCode payment

/-- The filter of the incremental builds: sources of which the target has no row. -/
def notYetIn (target : List FactTrip) (trips : List EnrichedTrip) : List EnrichedTrip :=
  trips.filter fun trip => trip.lineage.sourceFileId ∉ target.map (·.lineage.sourceFileId)

end TaxiPipeline
