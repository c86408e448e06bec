import TaxiPipeline.Relational.Groups
import TaxiPipeline.Warehouse.Models

namespace TaxiPipeline

open Relational

inductive ServiceType where
  | yellow
  | green
  deriving DecidableEq, Repr

def ServiceType.value : ServiceType → String
  | .yellow => "yellow"
  | .green => "green"

/-- The query parameters that the three endpoints share. -/
structure AnalyticsQuery where
  serviceType : Option ServiceType
  startDate : Option Date
  endDate : Option Date
  deriving DecidableEq

/-- The schema `marts` as the endpoints read it. -/
structure Marts where
  facts : List FactTrip
  dates : List DimDate
  zones : List DimZone

inductive ApiError where
  | httpException (statusCode : Nat) (detail : String)
  | responseValidation (fields : List String)
  deriving DecidableEq, Repr

/-- PostgreSQL's `sum` and `avg` of a `double precision` column, assumed to return: they raise where a finite sum
    overflows. -/
structure Aggregates where
  sum : List (Option Double) → Option Double
  avg : List (Option Double) → Option Double

/-- Dates compare by their days. -/
def Date.before (earlier later : Date) : Bool := earlier.toOrdinal ≤ later.toOrdinal

def validateDates (startDate endDate : Option Date) : Except ApiError Unit :=
  match startDate, endDate with
  | some startDate, some endDate =>
    if !startDate.before endDate then .error (.httpException 422 "start_date must be on or before end_date")
    else .ok ()
  | _, _ => .ok ()

/-- A clause of the `WHERE` that `_filters` builds, with its parameter. -/
inductive FilterClause where
  | serviceType (value : String)
  | startDate (date : Date)
  | endDate (date : Date)

/-- The value of a clause on a joined row; `none` is SQL's unknown. -/
def FilterClause.eval (fact : FactTrip) (date : DimDate) : FilterClause → Option Bool
  | .serviceType value => some (fact.serviceType == value)
  | .startDate start => date.fullDate.map start.before
  | .endDate last => date.fullDate.map (·.before last)

def filters (query : AnalyticsQuery) : List FilterClause :=
  query.serviceType.toList.map (.serviceType ·.value) ++ query.startDate.toList.map .startDate ++
    query.endDate.toList.map .endDate

/-- `WHERE` keeps the rows on which every clause is true. -/
def whereHolds (query : AnalyticsQuery) (fact : FactTrip) (date : DimDate) : Bool :=
  (filters query).all fun clause => clause.eval fact date == some true

/-- `date_trunc('month', full_date)::date`. -/
def Date.monthStart (date : Date) : Date where
  year := date.year
  month := date.month
  day := 1
  year_range := date.year_range
  month_range := date.month_range
  day_range := ⟨le_refl 1, le_trans date.day_range.1 date.day_range.2⟩

structure AnalyticsSummaryResponse where
  tripCount : Nat
  totalAmount : Option Double
  averageTripDistanceMiles : Option Double
  averageFareAmount : Option Double
  averageTipAmount : Option Double
  deriving DecidableEq

structure MonthlyAnalyticsResponse where
  month : Option Date
  serviceType : String
  tripCount : Nat
  totalAmount : Option Double
  averageTripDistanceMiles : Option Double
  averageFareAmount : Option Double
  averageTipAmount : Option Double
  deriving DecidableEq

structure ZoneAnalyticsResponse where
  locationId : Option Int
  borough : String
  zoneName : String
  tripCount : Nat
  totalAmount : Option Double
  deriving DecidableEq

namespace Marts

variable (marts : Marts)

/-- `fct_trips` joined with `dim_date` on the pickup date key. -/
def datedFacts : List (FactTrip × DimDate) :=
  innerJoin marts.facts marts.dates fun fact date => equal (some fact.pickupDateKey) (some date.dateKey)

def analyticsSummary (aggregates : Aggregates) (query : AnalyticsQuery) :
    Except ApiError AnalyticsSummaryResponse := do
  validateDates query.startDate query.endDate
  let rows := marts.datedFacts.filter fun (fact, date) => whereHolds query fact date
  .ok {
    tripCount := rows.length
    totalAmount := aggregates.sum (rows.map (·.1.totalAmount))
    averageTripDistanceMiles := aggregates.avg (rows.map (·.1.tripDistanceMiles))
    averageFareAmount := aggregates.avg (rows.map (·.1.fareAmount))
    averageTipAmount := aggregates.avg (rows.map (·.1.tipAmount)) }

/-- The groups of `monthly_analytics`: the rows of each month and service. -/
def monthlyGroups (query : AnalyticsQuery) : List ((Option Date × String) × List (FactTrip × DimDate)) :=
  groupBy (fun (fact, date) => (date.fullDate.map Date.monthStart, fact.serviceType))
    (marts.datedFacts.filter fun (fact, date) => whereHolds query fact date)

/-- `ORDER BY 1, f.service_type`, nulls last. -/
def monthOrder : Option Date × String → Option Date × String → Bool
  | (none, left), (none, right) => left ≤ right
  | (none, _), (some _, _) => false
  | (some _, _), (none, _) => true
  | (some left, leftService), (some right, rightService) =>
    left.toOrdinal < right.toOrdinal || (left.toOrdinal == right.toOrdinal && leftService ≤ rightService)

def monthlyAnalytics (aggregates : Aggregates) (query : AnalyticsQuery) :
    Except ApiError (List MonthlyAnalyticsResponse) := do
  validateDates query.startDate query.endDate
  let groups := (marts.monthlyGroups query).insertionSort fun left right => monthOrder left.1 right.1 = true
  .ok <| groups.map fun ((month, serviceType), rows) => {
    month := month
    serviceType := serviceType
    tripCount := rows.length
    totalAmount := aggregates.sum (rows.map (·.1.totalAmount))
    averageTripDistanceMiles := aggregates.avg (rows.map (·.1.tripDistanceMiles))
    averageFareAmount := aggregates.avg (rows.map (·.1.fareAmount))
    averageTipAmount := aggregates.avg (rows.map (·.1.tipAmount)) }

/-- The columns of `GROUP BY z.zone_key, z.location_id, z.borough, z.zone_name`. -/
structure ZoneGroupKey where
  zoneKey : Int
  locationId : Option Int
  borough : Option String
  zoneName : Option String
  deriving DecidableEq

def zoneGroupKey (zone : DimZone) : ZoneGroupKey := ⟨zone.zoneKey, zone.locationId, zone.borough, zone.zoneName⟩

/-- The groups of `zone_analytics` before its `LIMIT`. -/
def zoneGroups (query : AnalyticsQuery) : List (ZoneGroupKey × List ((FactTrip × DimDate) × DimZone)) :=
  groupBy (fun row => zoneGroupKey row.2)
    ((innerJoin marts.datedFacts marts.zones fun (fact, _) zone =>
      equal (some fact.pickupZoneKey) (some zone.zoneKey)).filter
        fun ((fact, date), _) => whereHolds query fact date)

/-- `ORDER BY trip_count DESC, z.zone_key`. -/
def zoneOrder (left right : ZoneGroupKey × List ((FactTrip × DimDate) × DimZone)) : Prop :=
  right.2.length < left.2.length ∨
    (left.2.length = right.2.length ∧ left.1.zoneKey ≤ right.1.zoneKey)

instance : DecidableRel zoneOrder := fun _ _ => inferInstanceAs (Decidable (_ ∨ _))

/-- The names that the response model refuses. -/
def missingNames (key : ZoneGroupKey) : List String :=
  (if key.borough = none then ["borough"] else []) ++ if key.zoneName = none then ["zone_name"] else []

/-- `ZoneAnalyticsResponse(**row)`. -/
def zoneResponse (aggregates : Aggregates) (group : ZoneGroupKey × List ((FactTrip × DimDate) × DimZone)) :
    Except ApiError ZoneAnalyticsResponse :=
  match group.1.borough, group.1.zoneName with
  | some borough, some zoneName => .ok {
      locationId := group.1.locationId
      borough := borough
      zoneName := zoneName
      tripCount := group.2.length
      totalAmount := aggregates.sum (group.2.map (·.1.1.totalAmount)) }
  | _, _ => .error (.responseValidation (missingNames group.1))

def zoneAnalytics (aggregates : Aggregates) (query : AnalyticsQuery) (limit : Nat) :
    Except ApiError (List ZoneAnalyticsResponse) := do
  validateDates query.startDate query.endDate
  (((marts.zoneGroups query).insertionSort zoneOrder).take limit).mapM (zoneResponse aggregates)

end Marts

end TaxiPipeline
