import TaxiPipeline.Model.Tables

namespace TaxiPipeline

structure QualityRule where
  name : String
  severity : QualitySeverity
  deriving DecidableEq, Repr

def warningRule (name : String) : QualityRule := ⟨name, .warning⟩
def infoRule (name : String) : QualityRule := ⟨name, .info⟩

/-- `YELLOW_RULES`. -/
def yellowRules : List QualityRule := [
  warningRule "pickup_outside_source_month",
  warningRule "dropoff_before_pickup",
  warningRule "negative_trip_distance",
  warningRule "negative_fare_amount",
  warningRule "negative_total_amount",
  warningRule "negative_extra",
  warningRule "negative_mta_tax",
  warningRule "negative_tip_amount",
  warningRule "negative_tolls_amount",
  warningRule "negative_improvement_surcharge",
  warningRule "negative_congestion_surcharge",
  warningRule "negative_airport_fee",
  warningRule "negative_cbd_congestion_fee",
  infoRule "zero_trip_distance",
  infoRule "zero_passenger_count",
  infoRule "passenger_count_null_rate",
  infoRule "rate_code_null_rate",
  infoRule "store_and_fwd_null_rate",
  infoRule "congestion_surcharge_null_rate",
  infoRule "airport_fee_null_rate",
  warningRule "unexpected_vendor_id",
  warningRule "unexpected_rate_code",
  warningRule "unexpected_store_and_fwd_flag",
  warningRule "unexpected_payment_type",
  warningRule "unknown_pickup_zone",
  warningRule "unknown_dropoff_zone",
  warningRule "exact_duplicate_source_rows"]

/-- `GREEN_RULES`. -/
def greenRules : List QualityRule :=
  yellowRules.filter (fun rule =>
      !(["negative_airport_fee", "airport_fee_null_rate"].contains rule.name)) ++ [
    warningRule "negative_ehail_fee",
    infoRule "ehail_fee_null_rate",
    warningRule "unexpected_trip_type"]

/-- The attributes of the trip models that the quality queries read. -/
structure TripModel (table : RawTable) where
  pickupDatetime : table.Values → Option DateTime
  dropoffDatetime : table.Values → Option DateTime
  vendorId : table.Values → Option Int
  rateCodeId : table.Values → Option Int
  storeAndFwdFlag : table.Values → Option String
  paymentType : table.Values → Option Int
  passengerCount : table.Values → Option Int
  pickupLocationId : table.Values → Option Int
  dropoffLocationId : table.Values → Option Int
  tripDistance : table.Values → Option Double
  fareAmount : table.Values → Option Double
  totalAmount : table.Values → Option Double
  extra : table.Values → Option Double
  mtaTax : table.Values → Option Double
  tipAmount : table.Values → Option Double
  tollsAmount : table.Values → Option Double
  improvementSurcharge : table.Values → Option Double
  congestionSurcharge : table.Values → Option Double
  cbdCongestionFee : table.Values → Option Double
  -- attributes of one of the two models only
  airportFee : Option (table.Values → Option Double)
  ehailFee : Option (table.Values → Option Double)

def yellowTripModel : TripModel .yellowTrips where
  pickupDatetime := YellowTrip.pickupDatetime
  dropoffDatetime := YellowTrip.dropoffDatetime
  vendorId := YellowTrip.vendorId
  rateCodeId := YellowTrip.rateCodeId
  storeAndFwdFlag := YellowTrip.storeAndFwdFlag
  paymentType := YellowTrip.paymentType
  passengerCount := YellowTrip.passengerCount
  pickupLocationId := YellowTrip.pickupLocationId
  dropoffLocationId := YellowTrip.dropoffLocationId
  tripDistance := YellowTrip.tripDistance
  fareAmount := YellowTrip.fareAmount
  totalAmount := YellowTrip.totalAmount
  extra := YellowTrip.extra
  mtaTax := YellowTrip.mtaTax
  tipAmount := YellowTrip.tipAmount
  tollsAmount := YellowTrip.tollsAmount
  improvementSurcharge := YellowTrip.improvementSurcharge
  congestionSurcharge := YellowTrip.congestionSurcharge
  cbdCongestionFee := YellowTrip.cbdCongestionFee
  airportFee := some YellowTrip.airportFee
  ehailFee := none

def greenTripModel : TripModel .greenTrips where
  pickupDatetime := GreenTrip.pickupDatetime
  dropoffDatetime := GreenTrip.dropoffDatetime
  vendorId := GreenTrip.vendorId
  rateCodeId := GreenTrip.rateCodeId
  storeAndFwdFlag := GreenTrip.storeAndFwdFlag
  paymentType := GreenTrip.paymentType
  passengerCount := GreenTrip.passengerCount
  pickupLocationId := GreenTrip.pickupLocationId
  dropoffLocationId := GreenTrip.dropoffLocationId
  tripDistance := GreenTrip.tripDistance
  fareAmount := GreenTrip.fareAmount
  totalAmount := GreenTrip.totalAmount
  extra := GreenTrip.extra
  mtaTax := GreenTrip.mtaTax
  tipAmount := GreenTrip.tipAmount
  tollsAmount := GreenTrip.tollsAmount
  improvementSurcharge := GreenTrip.improvementSurcharge
  congestionSurcharge := GreenTrip.congestionSurcharge
  cbdCongestionFee := GreenTrip.cbdCongestionFee
  airportFee := none
  ehailFee := some GreenTrip.ehailFee

/-- An entry of `DOMAIN_VALUES`: the check, its column and the values it allows. -/
structure DomainCheck (table : RawTable) where
  checkName : String
  column : table.Values → Option DomainValue
  allowed : List DomainValue

def numbers (values : List Int) : List DomainValue := values.map .number

/-- `DOMAIN_VALUES`; the two models differ in the payment types they allow. -/
def domainValues {table : RawTable} (model : TripModel table) (paymentTypes : List Int) :
    List (DomainCheck table) := [
  ⟨"unexpected_vendor_id", fun trip => (model.vendorId trip).map .number, numbers [1, 2, 6, 7]⟩,
  ⟨"unexpected_rate_code", fun trip => (model.rateCodeId trip).map .number,
    numbers [1, 2, 3, 4, 5, 6, 99]⟩,
  ⟨"unexpected_store_and_fwd_flag", fun trip => (model.storeAndFwdFlag trip).map .text,
    [.text "N", .text "Y"]⟩,
  ⟨"unexpected_payment_type", fun trip => (model.paymentType trip).map .number, numbers paymentTypes⟩]

def yellowDomainValues : List (DomainCheck .yellowTrips) :=
  domainValues yellowTripModel [0, 1, 2, 3, 4, 5]

/-- `GREEN_DOMAIN_VALUES`. -/
def greenDomainValues : List (DomainCheck .greenTrips) :=
  domainValues greenTripModel [1, 2, 3, 4, 5, 6] ++
    [⟨"unexpected_trip_type", fun trip => (GreenTrip.tripType trip).map .number, numbers [1, 2]⟩]

end TaxiPipeline
