import TaxiPipeline.Warehouse.DataTests
import TaxiPipeline.Warehouse.Keys

namespace TaxiPipeline

open Relational

section Joins

variable {α β γ : Type} {left : List α} {right : List β} {on : α → β → Bool}

theorem innerJoin_selected (selects : β → Bool) :
    ((innerJoin left right on).filter fun joined => selects joined.2) = innerJoin left (right.filter selects) on := by
  unfold innerJoin
  rw [List.filter_flatMap]
  apply List.flatMap_congr
  intro a _
  rw [List.filter_map, List.filter_filter, List.filter_filter]
  refine congrArg _ (List.filter_congr fun b _ => ?_)
  exact Bool.and_comm _ _

theorem innerJoin_keys {on : α → γ → Bool} (key : β → γ) :
    (innerJoin left (right.map key) on).map Prod.fst = (innerJoin left right fun a b => on a (key b)).map Prod.fst := by
  unfold innerJoin
  rw [List.map_flatMap, List.map_flatMap]
  apply List.flatMap_congr
  intro a _
  rw [List.filter_map, List.map_map, List.map_map, List.map_map]
  rfl

end Joins

section Staged

variable {db : Database} {table : RawTable}

/-- The tests select the rows that the staging models select. -/
theorem rawOfSources_eq (db : Database) (table : RawTable) (selects : SourceFile → Bool) :
    rawOfSources db table selects =
      ofSources (db.raw table) ((db.sourceFiles.filter selects).map (·.sourceFileId)) := by
  unfold rawOfSources ofSources
  rw [innerJoin_selected, innerJoin_keys]

theorem ofSources_grain (nodup : db.index.Nodup) {loaded : List Nat} (distinct : loaded.Nodup) :
    (((ofSources (db.raw table) loaded).map (·.lineage)).map Lineage.grain).Nodup := by
  rw [ofSources_eq distinct]
  exact (raw_nodup nodup table).sublist ((List.filter_sublist.map _).map _)

theorem loadedSources_nodup (nodup : db.index.Nodup) (datasetName serviceType : String) :
    (loadedSources db datasetName serviceType).Nodup :=
  selected_nodup nodup _

theorem staged_lineageUnique (nodup : db.index.Nodup) {datasetName serviceType : String} {stage : RawRow table → Trip}
    (keeps : ∀ raw, (stage raw).lineage = raw.lineage) :
    lineageUnique (((ofSources (db.raw table) (loadedSources db datasetName serviceType)).map stage).map (·.lineage)) =
      [] := by
  have same : ((ofSources (db.raw table) (loadedSources db datasetName serviceType)).map stage).map (·.lineage) =
      (ofSources (db.raw table) (loadedSources db datasetName serviceType)).map (·.lineage) := by
    rw [List.map_map]
    exact List.map_congr_left fun raw _ => keeps raw
  unfold lineageUnique
  rw [repeated_nil, same]
  exact ofSources_grain nodup (loadedSources_nodup nodup datasetName serviceType)

/-- Of every loaded source the staged rows are as many as the raw ones. -/
theorem stgYellowTrips_loadedGrain (nodup : db.index.Nodup) : stgYellowTripsLoadedGrain db = [] := by
  have distinct := loadedSources_nodup nodup "yellow_tripdata" "yellow"
  unfold stgYellowTripsLoadedGrain
  rw [miscounted_nil]
  intro entry member
  obtain ⟨isLoaded, counted⟩ := (mem_joinedCounts distinct).mp member
  have staged : (stgTlcYellowTrips db).map (·.lineage.sourceFileId) =
      ((db.raw .yellowTrips).map (·.lineage.sourceFileId)).filter
        (· ∈ loadedSources db "yellow_tripdata" "yellow") := by
    unfold stgTlcYellowTrips
    rw [ofSources_eq distinct, List.map_map, List.filter_map]
    rfl
  have kept : ∀ selects : Nat → Bool, selects entry.1 = true → ∀ column : List Nat,
      (column.filter selects).count entry.1 = column.count entry.1 := fun _ selected _ => List.count_filter selected
  rw [counted, staged]
  exact (kept _ (decide_eq_true isLoaded) _).symm

theorem stgGreenTrips_loadedGrain : stgGreenTripsLoadedGrain db = [] := by
  unfold stgGreenTripsLoadedGrain stgTlcGreenTrips
  rw [differingCounts_nil, rawOfSources_eq, List.map_map]
  intro key
  rfl

theorem stgTaxiZones_activeGrain : stgTaxiZonesActiveGrain db = [] := by
  have same : (rawOfSources db .taxiZones (·.isLoadedZones)).length = (stgTlcTaxiZones db).length := by
    unfold stgTlcTaxiZones
    rw [rawOfSources_eq, List.length_map]
    rfl
  unfold stgTaxiZonesActiveGrain
  rw [same]
  simp

theorem stgTaxiZones_oneLoadedSource (versions : db.loadedZoneVersions ≤ 1) :
    stgTaxiZonesOneLoadedSource db = [] ↔ ∃ row ∈ db.sourceFiles, row.isLoadedZones = true := by
  have counted : (loadedZoneSources db).length = db.sourceFiles.countP (·.isLoadedZones) := by
    unfold loadedZoneSources
    rw [List.length_map, List.countP_eq_length_filter]
    rfl
  have few := loadedZoneSources_le.trans versions
  rw [counted] at few
  unfold stgTaxiZonesOneLoadedSource
  rw [List.filter_eq_nil_iff]
  simp only [List.mem_singleton, forall_eq, decide_not, Bool.not_eq_true', decide_eq_false_iff_not, not_not]
  rw [show (∃ row ∈ db.sourceFiles, row.isLoadedZones = true) ↔ 0 < db.sourceFiles.countP (·.isLoadedZones) from
    List.countP_pos_iff.symm]
  omega

theorem intTripsNormalized_serviceType :
    outside ["yellow", "green"] ((intTripsNormalized db).map (·.serviceType)) = [] := by
  rw [outside_nil]
  intro serviceType member
  obtain ⟨trip, inTrips, rfl⟩ := List.mem_map.mp member
  rcases List.mem_append.mp inTrips with yellow | green
  · obtain ⟨raw, -, rfl⟩ := List.mem_map.mp yellow
    exact List.mem_cons_self
  · obtain ⟨raw, -, rfl⟩ := List.mem_map.mp green
    exact List.mem_cons_of_mem _ List.mem_cons_self

theorem intTripsNormalized_lineage : (intTripsNormalized db).map (·.lineage) =
    (intTripsEnriched db).map (·.lineage) := by
  unfold intTripsEnriched
  rw [List.map_map]
  rfl

end Staged

section Dimensions

variable {db old : Database} {zones : List DimZone} {facts : List FactTrip}

/-- Known members never pass for the Unknown ones, whatever their keys are. -/
theorem dimensions_unknownMembers (zonesOf datesOf : Database) (vendors : List TlcVendor) :
    dimensionsUnknownMembers (dimZone zonesOf) (dimVendor vendors) (dimDate datesOf) = [] := by
  have zones : (dimZone zonesOf).countP (fun row => row.zoneKey == 0 && row.locationId.isNone &&
      row.borough == some "Unknown" && row.zoneName == some "Unknown") = 1 := by
    unfold dimZone
    rw [List.countP_cons_of_pos (by rfl), List.countP_eq_zero.mpr]
    intro row member
    obtain ⟨zone, -, rfl⟩ := List.mem_map.mp member
    simp [knownZone]
  have vendors : (dimVendor vendors).countP (fun row => row.vendorKey == 0 && row.vendorId.isNone &&
      row.vendorName == "Unknown") = 1 := by
    unfold dimVendor
    rw [List.countP_cons_of_pos (by rfl), List.countP_eq_zero.mpr]
    intro row member
    obtain ⟨vendor, -, rfl⟩ := List.mem_map.mp member
    simp [knownVendor]
  have dates : (dimDate datesOf).countP (fun row => row.dateKey == 0 && row.fullDate.isNone) = 1 := by
    unfold dimDate
    rw [List.countP_cons_of_pos (by rfl), List.countP_eq_zero.mpr]
    intro row member
    obtain ⟨date, -, rfl⟩ := List.mem_map.mp member
    simp [knownDate]
  unfold dimensionsUnknownMembers unknownMembers
  rw [zones, vendors, dates]
  rfl

theorem dimZone_locations : (dimZone db).filterMap (·.locationId) = (stgTlcTaxiZones db).map (·.locationId) := by
  unfold dimZone
  rw [List.filterMap_cons_none (by rfl), List.filterMap_map]
  exact congrFun List.filterMap_eq_map (stgTlcTaxiZones db)

/-- The zone keys are distinct unless a loaded location has the key of the Unknown zone. -/
theorem dimZone_keyUnique (distinct : ((stgTlcTaxiZones db).map (·.locationId)).Nodup) :
    repeated ((dimZone db).map (·.zoneKey)) = [] ↔ ∀ row ∈ dimZone db, row.locationId ≠ some 0 := by
  rw [repeated_nil, zoneKeys_eq, List.nodup_cons, and_iff_left distinct]
  constructor
  · intro fresh row member isZero
    refine fresh ?_
    rw [← dimZone_locations]
    exact List.mem_filterMap.mpr ⟨row, member, isZero⟩
  · intro fresh member
    rw [← dimZone_locations] at member
    obtain ⟨row, inRows, isZero⟩ := List.mem_filterMap.mp member
    exact fresh row inRows isZero

theorem orphans_length {κ : Type} [DecidableEq κ] {parents children : List κ} :
    (orphans parents children).length = 0 ↔ ∀ key ∈ children, key ∈ parents := by
  rw [List.length_eq_zero_iff, orphans_nil]

/-- The facts agree with the canonical trips once they have every source that those have. -/
theorem fctTrips_sourceGrain (lineage : (intTripsEnriched db).map (·.lineage) = db.loadedTrips)
    (whole : WholeBatches Lineage.sourceFileId (facts.map (·.lineage)) db.loadedTrips) :
    fctTripsSourceGrain db facts = [] ↔
      ∀ trip ∈ intTripsNormalized db, trip.lineage.sourceFileId ∈ facts.map (·.lineage.sourceFileId) := by
  have trips : (intTripsNormalized db).map (·.lineage.sourceFileId) = db.loadedTrips.map (·.sourceFileId) := by
    rw [← lineage, ← intTripsNormalized_lineage, List.map_map]
    rfl
  have ofFacts : facts.map (·.lineage.sourceFileId) = (facts.map (·.lineage)).map (·.sourceFileId) := by
    rw [List.map_map]
    rfl
  have counts : ∀ (rows : List Lineage) (key : Nat),
      (rows.map (·.sourceFileId)).count key = (ofBatch Lineage.sourceFileId key rows).length := by
    intro rows key
    unfold ofBatch
    rw [List.count, List.countP_map, List.countP_eq_length_filter]
    refine congrArg List.length (List.filter_congr fun row _ => ?_)
    exact Bool.beq_eq_decide_eq _ _
  unfold fctTripsSourceGrain
  rw [differingCounts_nil, trips, ofFacts]
  constructor
  · intro same trip member
    have inTrips : trip.lineage.sourceFileId ∈ db.loadedTrips.map (·.sourceFileId) := by
      rw [← trips]
      exact List.mem_map_of_mem member
    rw [← List.count_pos_iff, ← same]
    exact List.count_pos_iff.mpr inTrips
  · intro covered key
    rw [counts, counts]
    rcases whole key with nothing | all
    · by_cases inTrips : key ∈ db.loadedTrips.map (·.sourceFileId)
      · rw [← trips] at inTrips
        obtain ⟨trip, member, rfl⟩ := List.mem_map.mp inTrips
        have inFacts := List.count_pos_iff.mpr (covered trip member)
        rw [counts, nothing] at inFacts
        cases inFacts
      · have none_there := List.count_eq_zero_of_not_mem inTrips
        rw [counts] at none_there
        rw [none_there, nothing]
        rfl
    · exact all.length_eq.symm

end Dimensions

end TaxiPipeline
