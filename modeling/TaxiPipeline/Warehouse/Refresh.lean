import TaxiPipeline.Warehouse.Grain

namespace TaxiPipeline

open ReadCommitted Relational Stateful

/-- The contents of the seed files. -/
structure Seeds where
  vendors : List TlcVendor
  rateCodes : List TlcRateCode
  paymentTypes : List TlcPaymentType

/-- The seed files of the project. -/
def tlcSeeds : Seeds where
  vendors := [⟨1, "Creative Mobile Technologies, LLC"⟩, ⟨2, "Curb Mobility, LLC"⟩, ⟨6, "Myle Technologies Inc"⟩,
    ⟨7, "Helix"⟩]
  rateCodes := [⟨1, "Standard rate"⟩, ⟨2, "JFK"⟩, ⟨3, "Newark"⟩, ⟨4, "Nassau or Westchester"⟩,
    ⟨5, "Negotiated fare"⟩, ⟨6, "Group ride"⟩, ⟨99, "Null/unknown"⟩]
  paymentTypes := [⟨0, "Flex Fare trip"⟩, ⟨1, "Credit card"⟩, ⟨2, "Cash"⟩, ⟨3, "No charge"⟩, ⟨4, "Dispute"⟩,
    ⟨5, "Unknown"⟩, ⟨6, "Voided trip"⟩]

namespace Seeds

def dimensions (seeds : Seeds) (db : Database) : Dimensions :=
  ⟨dimDate db, dimZone db, dimVendor seeds.vendors, seeds.rateCodes, seeds.paymentTypes⟩

/-- `fct_trips` after a full refresh on rebuilt dimensions. -/
def fullRefresh (seeds : Seeds) (db : Database) : List FactTrip :=
  fctTrips (seeds.dimensions db) (intTripsEnriched db)

/-- A seed step loads the rows of the seed files. -/
def Loads (seeds : Seeds) : ModelStep → Prop
  | .seedVendors rows => rows = seeds.vendors
  | .seedRateCodes rows => rows = seeds.rateCodes
  | .seedPaymentTypes rows => rows = seeds.paymentTypes
  | _ => True

instance (seeds : Seeds) : DecidablePred seeds.Loads
  | .seedVendors _ | .seedRateCodes _ | .seedPaymentTypes _ => inferInstanceAs (Decidable (_ = _))
  | .dimDate | .dimZone | .dimVendor | .startFacts _ | .commitFacts | .rollbackFacts =>
    inferInstanceAs (Decidable True)

end Seeds

/-- The given `dim_date` has the dates of the trip. -/
def EnrichedTrip.DatedBy (trip : EnrichedTrip) (dates : List DimDate) : Prop :=
  ∀ date ∈ [trip.pickupDate, trip.dropoffDate], date ≠ none → date ∈ dates.map (·.fullDate)

instance (trip : EnrichedTrip) (dates : List DimDate) : Decidable (trip.DatedBy dates) :=
  inferInstanceAs (Decidable (∀ date ∈ [trip.pickupDate, trip.dropoffDate],
    date ≠ none → date ∈ dates.map (·.fullDate)))

/-- The `dim_date` that the execution joins has the dates of all trips that it adds. -/
def Execution.Dated (x : Execution) : Prop := ∀ trip ∈ x.trips, trip.DatedBy x.dims.dates

instance (x : Execution) : Decidable x.Dated :=
  inferInstanceAs (Decidable (∀ trip ∈ x.trips, trip.DatedBy x.dims.dates))

section Dates

variable {db old : Database} {trip : EnrichedTrip}

theorem datedBy_own (member : trip ∈ intTripsEnriched db) : trip.DatedBy (dimDate db) := by
  intro date ofTrip known
  cases date with
  | none => exact absurd rfl known
  | some date => exact mem_dimDate.mpr (mem_observedDates.mpr ⟨trip, member, ofTrip⟩)

theorem EnrichedTrip.DatedBy.same (first : trip.DatedBy (dimDate old)) (second : trip.DatedBy (dimDate db)) :
    ∀ date ∈ [trip.pickupDate, trip.dropoffDate],
      (dimDate old).filter (fun row => equal date row.fullDate) =
        (dimDate db).filter fun row => equal date row.fullDate := by
  intro date ofTrip
  cases date with
  | none => rw [filter_equal_none, filter_equal_none]
  | some date =>
    rw [dimDate_filter (first _ ofTrip nofun), dimDate_filter (second _ ofTrip nofun)]

theorem fctTrips_dated {dims : Dimensions} {trips : List EnrichedTrip} (dates : dims.dates = dimDate old)
    (dated : ∀ trip ∈ trips, trip.DatedBy (dimDate old)) (now : ∀ trip ∈ trips, trip.DatedBy (dimDate db)) :
    fctTrips dims trips = fctTrips { dims with dates := dimDate db } trips := by
  refine fctTrips_dates fun trip member => ?_
  rw [dates]
  exact (dated trip member).same (now trip member)

end Dates

/-- A fact's date key is zero exactly when its time is null. -/
structure FactTrip.DateKeys (fact : FactTrip) : Prop where
  pickup : fact.pickupDateKey = 0 ↔ fact.pickupDatetime = none
  dropoff : fact.dropoffDateKey = 0 ↔ fact.dropoffDatetime = none

section DateKeys

variable {db : Database}

theorem dateKey_zero {date : Option Date} (dated : date ≠ none → date ∈ (dimDate db).map (·.fullDate))
    {found : Option DimDate}
    (joined : found = none ∧ (dimDate db).filter (fun row => equal date row.fullDate) = [] ∨
      ∃ row ∈ (dimDate db).filter (fun row => equal date row.fullDate), found = some row) :
    (found.map (·.dateKey)).getD 0 = 0 ↔ date = none := by
  cases date with
  | none =>
    rcases joined with ⟨rfl, -⟩ | ⟨row, member, -⟩
    · exact ⟨fun _ => rfl, fun _ => rfl⟩
    · cases (List.mem_filter.mp member).2
  | some date =>
    have only := dimDate_filter (dated nofun)
    refine ⟨fun zero => ?_, nofun⟩
    rcases joined with ⟨-, empty⟩ | ⟨row, member, rfl⟩
    · rw [only] at empty
      cases empty
    · rw [only] at member
      cases List.mem_singleton.mp member
      exact absurd zero (Nat.ne_of_gt date.key_pos)

theorem Seeds.fullRefresh_dateKeys {seeds : Seeds} {fact : FactTrip} (member : fact ∈ seeds.fullRefresh db) :
    fact.DateKeys := by
  obtain ⟨trip, inTrips, pickupDate, dropoffDate, _, _, _, _, _, pickup, dropoff, rfl⟩ := mem_fctTrips member
  have dated := datedBy_own inTrips
  obtain ⟨source, -, rfl⟩ := List.mem_map.mp inTrips
  have pickupKey := dateKey_zero (dated _ (by simp)) (mem_leftJoin.mp pickup).2
  have dropoffKey := dateKey_zero (dated _ (by simp)) (mem_leftJoin.mp dropoff).2
  exact ⟨pickupKey.trans Option.map_eq_none_iff, dropoffKey.trans Option.map_eq_none_iff⟩

end DateKeys

section FullRefresh

variable {seeds : Seeds} {db db' : Database}

/-- Facts that have been refreshed stay right while the sources grow. -/
theorem Seeds.fullRefresh_whole
    (whole : WholeBatches (·.lineage.sourceFileId) (intTripsEnriched db) (intTripsEnriched db'))
    (zones : dimZone db' = dimZone db) :
    WholeBatches (·.lineage.sourceFileId) (seeds.fullRefresh db) (seeds.fullRefresh db') := by
  unfold fullRefresh
  rw [fctTrips_flatMap, fctTrips_flatMap]
  refine whole.flatMap (fun trip _ fact member => ?_) (fun trip _ fact member => ?_) fun trip member => ?_
  · rw [factsOf_lineage member]
  · rw [factsOf_lineage member]
  · have later : { seeds.dimensions db with dates := dimDate db' } = seeds.dimensions db' := by
      unfold dimensions
      rw [zones]
    rw [← later]
    refine fctTrips_dated rfl (fun other same => ?_) fun other same => ?_
    · rw [List.mem_singleton.mp same]
      exact datedBy_own member
    · rw [List.mem_singleton.mp same]
      exact datedBy_own (whole.subset member)

theorem notYetIn_facts {dims : Dimensions} {facts : List FactTrip} {trips : List EnrichedTrip} :
    fctTrips dims (notYetIn facts trips) =
      missing (fun fact : FactTrip => fact.lineage.sourceFileId) facts (fctTrips dims trips) := by
  rw [fctTrips_flatMap, fctTrips_flatMap]
  have keeps : ∀ trip ∈ trips, ∀ fact ∈ dims.factsOf trip,
      fact.lineage.sourceFileId = trip.lineage.sourceFileId := by
    intro trip _ fact member
    rw [factsOf_lineage member]
  exact (filter_flatMap keeps fun source =>
    decide (source ∉ facts.map fun fact => fact.lineage.sourceFileId)).symm

end FullRefresh

namespace Execution

/-- What the snapshot of an execution keeps: dimensions of its own database, but for an older `dim_date`. -/
structure Steady (seeds : Seeds) (x : Execution) (target : Option (List FactTrip)) (committed : Database) :
    Prop where
  target : x.target = target
  dims : ∃ old, x.dims = { seeds.dimensions x.db with dates := dimDate old }
  known : WholeBatches (·.lineage.sourceFileId) (x.target.getD []) (seeds.fullRefresh x.db)
  older : WholeBatches (·.lineage.sourceFileId) (seeds.fullRefresh x.db) (seeds.fullRefresh committed)

variable {x : Execution} {seeds : Seeds} {target : Option (List FactTrip)} {committed : Database}

theorem trips_subset {trip : EnrichedTrip} (member : trip ∈ x.trips) : trip ∈ intTripsEnriched x.db := by
  unfold trips at member
  split at member
  · exact (List.mem_filter.mp member).1
  · exact member

theorem Steady.rows_fresh (steady : x.Steady seeds target committed) (dated : x.Dated) :
    x.rows = fctTrips (seeds.dimensions x.db) x.trips := by
  obtain ⟨old, dims⟩ := steady.dims
  unfold rows
  have dates : x.dims.dates = dimDate old := by rw [dims]
  have fresh : { x.dims with dates := dimDate x.db } = seeds.dimensions x.db := by
    rw [dims]
    rfl
  rw [← fresh]
  refine fctTrips_dated dates (fun trip member => ?_) fun trip member => datedBy_own (trips_subset member)
  rw [← dates]
  exact dated trip member

/-- After a dated execution the table is what a full refresh would have made of its snapshot. -/
theorem Steady.refreshed {merge : List FactTrip → List FactTrip → List FactTrip}
    (steady : x.Steady seeds target committed) (dated : x.Dated) (documented : DeleteInsert merge) :
    (x.result merge (target.getD [])).Perm (seeds.fullRefresh x.db) := by
  unfold result
  rw [← steady.target, steady.rows_fresh dated]
  unfold trips
  by_cases incremental : x.isIncremental = true
  · rw [if_pos incremental, if_pos incremental, notYetIn_facts]
    have apart : ∀ row ∈ missing (·.lineage.sourceFileId) (x.target.getD []) (seeds.fullRefresh x.db),
        row.lineage.sourceFileId ∉ (x.target.getD []).map (·.lineage.sourceFileId) :=
      fun row member => of_decide_eq_true (List.mem_filter.mp member).2
    have merged := documented (x.target.getD [])
      (missing (·.lineage.sourceFileId) (x.target.getD []) (seeds.fullRefresh x.db))
    rw [deletes_nothing apart] at merged
    exact merged.trans steady.known.complete
  · rw [if_neg incremental, if_neg incremental]
    exact .refl _

end Execution

end TaxiPipeline
