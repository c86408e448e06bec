import TaxiPipeline.Warehouse.Staging

namespace TaxiPipeline

open Relational

/-- Every join column of `fct_trips` is unique up to nulls. -/
structure Dimensions.Unique (dims : Dimensions) : Prop where
  dates : UniqueKey DimDate.fullDate dims.dates
  zones : UniqueKey DimZone.locationId dims.zones
  vendors : UniqueKey DimVendor.vendorId dims.vendors
  rateCodes : UniqueKey (fun rateCode => some rateCode.rateCodeId) dims.rateCodes
  paymentTypes : UniqueKey (fun payment => some payment.paymentType) dims.paymentTypes

def findDate (dates : List DimDate) (date : Option Date) : Option DimDate :=
  dates.find? fun row => equal date row.fullDate

def findZone (zones : List DimZone) (locationId : Option Int) : Option DimZone :=
  zones.find? fun row => equal locationId row.locationId

/-- The one fact of a trip. -/
def Dimensions.fact (dims : Dimensions) (trip : EnrichedTrip) : FactTrip :=
  factTrip trip (findDate dims.dates trip.pickupDate) (findDate dims.dates trip.dropoffDate)
    (findZone dims.zones trip.pickupLocationId) (findZone dims.zones trip.dropoffLocationId)
    (dims.vendors.find? fun row => equal trip.vendorId row.vendorId)
    (dims.rateCodes.find? fun row => equal trip.rateCodeId (some row.rateCodeId))
    (dims.paymentTypes.find? fun row => equal trip.paymentType (some row.paymentType))

/-- The joins neither drop nor repeat a trip. -/
theorem fctTrips_eq {dims : Dimensions} (unique : dims.Unique) (trips : List EnrichedTrip) :
    fctTrips dims trips = trips.map dims.fact := by
  unfold fctTrips
  dsimp only
  rw [unique.dates.leftJoin, unique.dates.leftJoin, unique.zones.leftJoin, unique.zones.leftJoin,
    unique.vendors.leftJoin, unique.rateCodes.leftJoin, unique.paymentTypes.leftJoin]
  simp only [List.map_map]
  rfl

theorem fctTrips_lineage {dims : Dimensions} (unique : dims.Unique) (trips : List EnrichedTrip) :
    (fctTrips dims trips).map (·.lineage) = trips.map (·.lineage) := by
  rw [fctTrips_eq unique, List.map_map]
  rfl

section Facts

variable {dims : Dimensions} {trips later : List EnrichedTrip}

/-- The facts of one trip. -/
def Dimensions.factsOf (dims : Dimensions) (trip : EnrichedTrip) : List FactTrip := fctTrips dims [trip]

theorem fctTrips_append : fctTrips dims (trips ++ later) = fctTrips dims trips ++ fctTrips dims later := by
  unfold fctTrips
  dsimp only
  simp only [leftJoin_append, List.map_append]

theorem fctTrips_flatMap : fctTrips dims trips = trips.flatMap dims.factsOf := by
  induction trips with
  | nil => rfl
  | cons trip rest ih =>
    rw [List.flatMap_cons, ← ih]
    exact @fctTrips_append dims [trip] rest

theorem mem_fctTrips {fact : FactTrip} (member : fact ∈ fctTrips dims trips) :
    ∃ trip ∈ trips, ∃ pickupDate dropoffDate pickupZone dropoffZone vendor rateCode payment,
      (trip, pickupDate) ∈ leftJoin [trip] dims.dates
        (fun (trip : EnrichedTrip) (date : DimDate) => equal trip.pickupDate date.fullDate) ∧
      (trip, dropoffDate) ∈ leftJoin [trip] dims.dates
        (fun (trip : EnrichedTrip) (date : DimDate) => equal trip.dropoffDate date.fullDate) ∧
      fact = factTrip trip pickupDate dropoffDate pickupZone dropoffZone vendor rateCode payment := by
  unfold fctTrips at member
  dsimp only at member
  obtain ⟨⟨⟨⟨⟨⟨⟨⟨trip, pickupDate⟩, dropoffDate⟩, pickupZone⟩, dropoffZone⟩, vendor⟩, rateCode⟩, payment⟩,
    joined, rfl⟩ := List.mem_map.mp member
  have byDropoff := (mem_leftJoin.mp (mem_leftJoin.mp (mem_leftJoin.mp (mem_leftJoin.mp
    (mem_leftJoin.mp joined).1).1).1).1).1
  obtain ⟨byPickup, dropoff⟩ := mem_leftJoin.mp byDropoff
  obtain ⟨inTrips, pickup⟩ := mem_leftJoin.mp byPickup
  refine ⟨trip, inTrips, pickupDate, dropoffDate, pickupZone, dropoffZone, vendor, rateCode, payment, ?_, ?_,
    rfl⟩
  · exact mem_leftJoin.mpr ⟨List.mem_singleton.mpr rfl, pickup⟩
  · exact mem_leftJoin.mpr ⟨List.mem_singleton.mpr rfl, dropoff⟩

theorem factsOf_lineage {trip : EnrichedTrip} {fact : FactTrip} (member : fact ∈ dims.factsOf trip) :
    fact.lineage = trip.lineage := by
  obtain ⟨own, inTrips, _, _, _, _, _, _, _, -, -, rfl⟩ := mem_fctTrips member
  rw [List.mem_singleton.mp inTrips]
  rfl

theorem dropoffJoin_dates {joined : List (EnrichedTrip × Option DimDate)} {dates dates' : List DimDate}
    (same : ∀ row ∈ joined, dates.filter (fun date => equal row.1.dropoffDate date.fullDate) =
      dates'.filter fun date => equal row.1.dropoffDate date.fullDate) :
    leftJoin joined dates (fun (trip, _) date => equal trip.dropoffDate date.fullDate) =
      leftJoin joined dates' (fun (trip, _) date => equal trip.dropoffDate date.fullDate) :=
  leftJoin_congr same

/-- The facts see of `dim_date` only the dates of their trips. -/
theorem fctTrips_dates {dates : List DimDate}
    (same : ∀ trip ∈ trips, ∀ date ∈ [trip.pickupDate, trip.dropoffDate],
      dims.dates.filter (fun row => equal date row.fullDate) = dates.filter fun row => equal date row.fullDate) :
    fctTrips dims trips = fctTrips { dims with dates := dates } trips := by
  unfold fctTrips
  dsimp only
  have byPickup : leftJoin trips dims.dates (fun trip date => equal trip.pickupDate date.fullDate) =
      leftJoin trips dates (fun trip date => equal trip.pickupDate date.fullDate) :=
    leftJoin_congr fun trip member => same trip member _ (by simp)
  rw [byPickup]
  have byDropoff := @dropoffJoin_dates (leftJoin trips dates fun trip date => equal trip.pickupDate date.fullDate)
    dims.dates dates fun row member => same row.1 (mem_leftJoin.mp member).1 _ (by simp)
  rw [byDropoff]

end Facts

section Dimensions

variable {db : Database}

theorem dimDate_unique : UniqueKey DimDate.fullDate (dimDate db) := by
  have dates : (dimDate db).filterMap DimDate.fullDate = observedDates (intTripsEnriched db) := by
    simp only [dimDate, unknownDate, knownDate, List.filterMap_cons, List.filterMap_map, Function.comp_def]
    exact List.filterMap_some
  unfold UniqueKey
  rw [dates]
  exact List.nodup_dedup _

theorem mem_observedDates {trips : List EnrichedTrip} {date : Date} :
    date ∈ observedDates trips ↔ ∃ trip ∈ trips, some date ∈ [trip.pickupDate, trip.dropoffDate] := by
  simp only [observedDates, List.mem_dedup, List.mem_append, List.mem_filterMap, List.mem_cons,
    List.not_mem_nil, or_false]
  constructor
  · rintro (⟨trip, member, same⟩ | ⟨trip, member, same⟩)
    · exact ⟨trip, member, .inl same.symm⟩
    · exact ⟨trip, member, .inr same.symm⟩
  · rintro ⟨trip, member, same | same⟩
    · exact .inl ⟨trip, member, same.symm⟩
    · exact .inr ⟨trip, member, same.symm⟩

theorem mem_dimDate {date : Date} :
    some date ∈ (dimDate db).map (·.fullDate) ↔ date ∈ observedDates (intTripsEnriched db) := by
  simp [dimDate, unknownDate, knownDate]

theorem dimDate_filter {date : Date} (found : some date ∈ (dimDate db).map (·.fullDate)) :
    (dimDate db).filter (fun row => equal (some date) row.fullDate) = [knownDate date] := by
  have observed := mem_dimDate.mp found
  have one : (observedDates (intTripsEnriched db)).filter (date == ·) = [date] := by
    have distinct : (observedDates (intTripsEnriched db)).Nodup := List.nodup_dedup _
    have sameTest : (date == ·) = (· == date) := by
      funext other
      rw [Bool.eq_iff_iff, beq_iff_eq, beq_iff_eq, eq_comm]
    rw [sameTest, List.filter_beq, List.count_eq_one_of_mem distinct observed]
    rfl
  have rows : (dimDate db).filter (fun row => equal (some date) row.fullDate) =
      ((observedDates (intTripsEnriched db)).filter (date == ·)).map knownDate := by
    unfold dimDate
    rw [List.filter_cons_of_neg (by simp [unknownDate, equal]), List.filter_map]
    rfl
  rw [rows, one]
  rfl

theorem stagedLocations_eq (nodup : db.index.Nodup) :
    (stgTlcTaxiZones db).map (·.locationId) =
      ((db.raw .taxiZones).filter (·.lineage.sourceFileId ∈ loadedZoneSources db)).map
        (·.values.locationId) := by
  have distinct : (loadedZoneSources db).Nodup := selected_nodup nodup _
  rw [← ofSources_eq distinct]
  unfold stgTlcTaxiZones
  rw [List.map_map]
  rfl

theorem stagedLocations_nodup (nodup : db.index.Nodup) (sources : (loadedZoneSources db).length ≤ 1) :
    ((stgTlcTaxiZones db).map (·.locationId)).Nodup := by
  rw [stagedLocations_eq nodup]
  have pairs := (zoneLocations_nodup nodup).sublist
    ((List.filter_sublist (p := (·.lineage.sourceFileId ∈ loadedZoneSources db))).map _)
  rw [List.Nodup, List.pairwise_map] at pairs ⊢
  refine pairs.imp_of_mem fun {row other} inRows inOther apart same => apart ?_
  have sameSource : row.lineage.sourceFileId = other.lineage.sourceFileId :=
    mem_unique sources (of_decide_eq_true (List.mem_filter.mp inRows).2)
      (of_decide_eq_true (List.mem_filter.mp inOther).2)
  rw [sameSource, same]

theorem dimZone_unique (nodup : db.index.Nodup) (versions : db.loadedZoneVersions ≤ 1) :
    UniqueKey DimZone.locationId (dimZone db) := by
  have sources : (loadedZoneSources db).length ≤ 1 := le_trans loadedZoneSources_le versions
  have locations : (dimZone db).filterMap DimZone.locationId = (stgTlcTaxiZones db).map (·.locationId) := by
    simp only [dimZone, unknownZone, knownZone, List.filterMap_cons, List.filterMap_map, Function.comp_def]
    exact congrFun List.filterMap_eq_map _
  unfold UniqueKey
  rw [locations]
  exact stagedLocations_nodup nodup sources

theorem dimVendor_unique {tlcVendors : List TlcVendor} (codes : (tlcVendors.map (·.vendorId)).Nodup) :
    UniqueKey DimVendor.vendorId (dimVendor tlcVendors) := by
  have ids : (dimVendor tlcVendors).filterMap DimVendor.vendorId = tlcVendors.map (·.vendorId) := by
    simp only [dimVendor, unknownVendor, knownVendor, List.filterMap_cons, List.filterMap_map,
      Function.comp_def]
    exact congrFun List.filterMap_eq_map tlcVendors
  unfold UniqueKey
  rwa [ids]

end Dimensions

end TaxiPipeline
