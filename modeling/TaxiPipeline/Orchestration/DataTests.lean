import TaxiPipeline.Orchestration.Completion
import TaxiPipeline.Warehouse.StagedTests

namespace TaxiPipeline

open ReadCommitted Relational Stateful

/-- The keys of the first dimensions are among those of the second ones. -/
structure Dimensions.KeysWithin (dims dims' : Dimensions) : Prop where
  zones : dims.zones.map (·.zoneKey) ⊆ dims'.zones.map (·.zoneKey)
  vendors : dims.vendors.map (·.vendorKey) ⊆ dims'.vendors.map (·.vendorKey)
  dates : dims.dates.map (·.dateKey) ⊆ dims'.dates.map (·.dateKey)

/-- Every key of the fact is the key of a row. -/
structure FactTrip.KeyedBy (fact : FactTrip) (dims : Dimensions) : Prop where
  pickupZone : fact.pickupZoneKey ∈ dims.zones.map (·.zoneKey)
  dropoffZone : fact.dropoffZoneKey ∈ dims.zones.map (·.zoneKey)
  vendor : fact.vendorKey ∈ dims.vendors.map (·.vendorKey)
  pickupDate : fact.pickupDateKey ∈ dims.dates.map (·.dateKey)
  dropoffDate : fact.dropoffDateKey ∈ dims.dates.map (·.dateKey)

/-- No key of the dimensions is lost from the one database to the other. -/
structure Database.KeepsKeys (db db' : Database) : Prop where
  zones : (dimZone db).map (·.zoneKey) ⊆ (dimZone db').map (·.zoneKey)
  dates : (dimDate db).map (·.dateKey) ⊆ (dimDate db').map (·.dateKey)

/-- The dimensions are those of the seeds and of older databases, and the facts have their keys. -/
structure Warehouse.Keyed (warehouse : Warehouse) (db : Database) : Prop where
  tlcVendors : ∀ rows, warehouse.tables.tlcVendors = some rows → rows = tlcSeeds.vendors
  dimVendor : ∀ rows, warehouse.tables.dimVendor = some rows →
    rows = TaxiPipeline.dimVendor tlcSeeds.vendors ∧ warehouse.tables.tlcVendors.isSome = true
  dimDate : ∀ rows, warehouse.tables.dimDate = some rows → ∃ old, rows = TaxiPipeline.dimDate old ∧
    (TaxiPipeline.dimDate old).map (·.dateKey) ⊆ (TaxiPipeline.dimDate db).map (·.dateKey)
  dimZone : ∀ rows, warehouse.tables.dimZone = some rows → ∃ old, rows = TaxiPipeline.dimZone old ∧
    ((stgTlcTaxiZones old).map (·.locationId)).Nodup ∧
    (TaxiPipeline.dimZone old).map (·.zoneKey) ⊆ (TaxiPipeline.dimZone db).map (·.zoneKey)
  execution : ∀ x, warehouse.execution = some x →
    ∃ dims, warehouse.tables.dimensions = some dims ∧ x.dims.KeysWithin dims
  facts : ∀ fact ∈ warehouse.facts, ∃ dims, warehouse.tables.dimensions = some dims ∧ fact.KeyedBy dims

section Keys

variable {dims dims' dims'' : Dimensions} {fact : FactTrip} {db db' db'' : Database} {trips : List EnrichedTrip}

theorem Dimensions.KeysWithin.refl (dims : Dimensions) : dims.KeysWithin dims :=
  ⟨List.Subset.refl _, List.Subset.refl _, List.Subset.refl _⟩

theorem Dimensions.KeysWithin.trans (first : dims.KeysWithin dims') (second : dims'.KeysWithin dims'') :
    dims.KeysWithin dims'' :=
  ⟨List.Subset.trans first.zones second.zones, List.Subset.trans first.vendors second.vendors,
    List.Subset.trans first.dates second.dates⟩

theorem FactTrip.KeyedBy.within (keyed : fact.KeyedBy dims) (within : dims.KeysWithin dims') : fact.KeyedBy dims' :=
  ⟨within.zones keyed.pickupZone, within.zones keyed.dropoffZone, within.vendors keyed.vendor,
    within.dates keyed.pickupDate, within.dates keyed.dropoffDate⟩

theorem factVendor_known (member : fact ∈ fctTrips dims trips) :
    fact.vendorKey = 0 ∨ ∃ row ∈ dims.vendors, fact.vendorKey = row.vendorKey := by
  unfold fctTrips at member
  dsimp only at member
  obtain ⟨⟨⟨⟨⟨⟨⟨⟨trip, pickupDate⟩, dropoffDate⟩, pickupZone⟩, dropoffZone⟩, vendor⟩, rateCode⟩, payment⟩,
    joined, rfl⟩ := List.mem_map.mp member
  exact joined_key (mem_leftJoin.mp (mem_leftJoin.mp joined).1).1 _ 0

/-- The facts of an execution have the keys of dimensions that have those of its own, and the Unknown members. -/
theorem fctTrips_keyed (member : fact ∈ fctTrips dims trips) (within : dims.KeysWithin dims')
    (zone : 0 ∈ dims'.zones.map (·.zoneKey)) (vendor : 0 ∈ dims'.vendors.map (·.vendorKey))
    (date : 0 ∈ dims'.dates.map (·.dateKey)) : fact.KeyedBy dims' := by
  obtain ⟨zones, dates⟩ := factKeys_known member
  have ofZone : ∀ key ∈ [fact.pickupZoneKey, fact.dropoffZoneKey], key ∈ dims'.zones.map (·.zoneKey) := by
    intro key ofFact
    rcases zones key ofFact with rfl | ⟨row, inZones, rfl⟩
    · exact zone
    · exact within.zones (List.mem_map_of_mem inZones)
  have ofDate : ∀ key ∈ [fact.pickupDateKey, fact.dropoffDateKey], key ∈ dims'.dates.map (·.dateKey) := by
    intro key ofFact
    rcases dates key ofFact with rfl | ⟨row, inDates, rfl⟩
    · exact date
    · exact within.dates (List.mem_map_of_mem inDates)
  have ofVendor : fact.vendorKey ∈ dims'.vendors.map (·.vendorKey) := by
    rcases factVendor_known member with isZero | ⟨row, inVendors, same⟩
    · rw [isZero]
      exact vendor
    · rw [same]
      exact within.vendors (List.mem_map_of_mem inVendors)
  exact ⟨ofZone _ List.mem_cons_self, ofZone _ (List.mem_cons_of_mem _ List.mem_cons_self), ofVendor,
    ofDate _ List.mem_cons_self, ofDate _ (List.mem_cons_of_mem _ List.mem_cons_self)⟩

theorem Database.KeepsKeys.refl (db : Database) : db.KeepsKeys db := ⟨List.Subset.refl _, List.Subset.refl _⟩

/-- Calls add keys only: loaded zones stay, and so do the trips of loaded sources. -/
theorem Database.KeepsSources.keepsKeys (keeps : db.KeepsSources db') (nodup : db.index.Nodup)
    (nodup_after : db'.index.Nodup)
    (trips : WholeBatches (·.lineage.sourceFileId) (intTripsEnriched db) (intTripsEnriched db')) :
    db.KeepsKeys db' where
  zones := by
    have staged : (stgTlcTaxiZones db).map (·.locationId) ⊆ (stgTlcTaxiZones db').map (·.locationId) := by
      intro location member
      rw [stagedLocations_eq nodup] at member
      rw [stagedLocations_eq nodup_after]
      obtain ⟨raw, inRaw, rfl⟩ := List.mem_map.mp member
      rw [List.mem_filter, decide_eq_true_eq] at inRaw
      obtain ⟨row, got, partition, dataset, loaded⟩ := (mem_loadedZoneSources nodup).mp inRaw.2
      obtain ⟨row', got', same⟩ := keeps.sources got loaded
      have inRows : raw ∈ db'.rowsOf .taxiZones raw.lineage.sourceFileId := by
        rw [keeps.rows got loaded]
        exact List.mem_filter.mpr ⟨inRaw.1, decide_eq_true rfl⟩
      refine List.mem_map_of_mem (List.mem_filter.mpr ⟨(List.mem_filter.mp inRows).1, decide_eq_true ?_⟩)
      exact (mem_loadedZoneSources nodup_after).mpr ⟨row', got', same.partition.trans partition,
        same.datasetName.trans dataset, same.status.trans loaded⟩
    rw [zoneKeys_eq, zoneKeys_eq]
    exact List.cons_subset_cons _ staged
  dates := by
    intro key member
    unfold dimDate at member ⊢
    rw [List.map_cons] at member ⊢
    refine List.mem_cons.mpr ((List.mem_cons.mp member).imp_right fun known => ?_)
    obtain ⟨row, inRows, rfl⟩ := List.mem_map.mp known
    obtain ⟨date, observed, rfl⟩ := List.mem_map.mp inRows
    obtain ⟨trip, inTrips, ofTrip⟩ := mem_observedDates.mp observed
    exact List.mem_map_of_mem (List.mem_map_of_mem (mem_observedDates.mpr ⟨trip, trips.subset inTrips, ofTrip⟩))

end Keys

section Keyed

variable {warehouse built : Warehouse} {s : Session} {db db' : Database} {dims : Dimensions} {step : ModelStep}
  {merge : List FactTrip → List FactTrip → List FactTrip}

theorem warehouse_keyed_empty : Warehouse.empty.Keyed db :=
  ⟨nofun, nofun, nofun, nofun, nofun, fun _ member => (List.not_mem_nil member).elim⟩

theorem Warehouse.Keyed.calls (keyed : warehouse.Keyed db) (keeps : db.KeepsKeys db') : warehouse.Keyed db' where
  tlcVendors := keyed.tlcVendors
  dimVendor := keyed.dimVendor
  dimDate := by
    intro rows isBuilt
    obtain ⟨old, same, known⟩ := keyed.dimDate rows isBuilt
    exact ⟨old, same, List.Subset.trans known keeps.dates⟩
  dimZone := by
    intro rows isBuilt
    obtain ⟨old, same, distinct, known⟩ := keyed.dimZone rows isBuilt
    exact ⟨old, same, distinct, List.Subset.trans known keeps.zones⟩
  execution := keyed.execution
  facts := keyed.facts

/-- The dimensions as they are have the Unknown members. -/
theorem Warehouse.Keyed.unknown (keyed : warehouse.Keyed db) (joined : warehouse.tables.dimensions = some dims) :
    0 ∈ dims.zones.map (·.zoneKey) ∧ 0 ∈ dims.vendors.map (·.vendorKey) ∧ 0 ∈ dims.dates.map (·.dateKey) := by
  obtain ⟨dates, zones, vendors, -, -⟩ := Tables.dimensions_some joined
  obtain ⟨zonesOf, sameZones, -, -⟩ := keyed.dimZone _ zones
  obtain ⟨datesOf, sameDates, -⟩ := keyed.dimDate _ dates
  rw [sameZones, (keyed.dimVendor _ vendors).1, sameDates]
  exact ⟨List.mem_cons_self, List.mem_cons_self, List.mem_cons_self⟩

/-- A step of dbt keeps the relations that it does not build, and the keys of those that it does. -/
theorem Warehouse.Keyed.grows (keyed : warehouse.Keyed s.db) (seeded : tlcSeeds.Loads step)
    (done : warehouse.build merge s step = some built) (joined : warehouse.tables.dimensions = some dims) :
    ∃ dims', built.tables.dimensions = some dims' ∧ dims.KeysWithin dims' := by
  obtain ⟨dates, zones, vendors, rateCodes, paymentTypes⟩ := Tables.dimensions_some joined
  have joins : ∀ (tables : Tables) {a b c d e}, tables.dimDate = some a → tables.dimZone = some b →
      tables.dimVendor = some c → tables.tlcRateCodes = some d → tables.tlcPaymentTypes = some e →
        tables.dimensions = some ⟨a, b, c, d, e⟩ := by
    intro tables a b c d e first second third fourth fifth
    unfold Tables.dimensions
    rw [first, second, third, fourth, fifth]
  obtain ⟨a, after, same⟩ := Option.map_eq_some_iff.mp done
  subst same
  cases step with
  | seedVendors rows =>
    obtain rfl := Option.some.inj after
    exact ⟨dims, joined, .refl dims⟩
  | seedRateCodes rows =>
    obtain rfl := Option.some.inj after
    exact ⟨_, joins _ dates zones vendors rfl paymentTypes, List.Subset.refl _, List.Subset.refl _, List.Subset.refl _⟩
  | seedPaymentTypes rows =>
    obtain rfl := Option.some.inj after
    exact ⟨_, joins _ dates zones vendors rateCodes rfl, List.Subset.refl _, List.Subset.refl _, List.Subset.refl _⟩
  | dimDate =>
    obtain rfl := Option.some.inj after
    refine ⟨_, joins _ rfl zones vendors rateCodes paymentTypes, List.Subset.refl _, List.Subset.refl _, ?_⟩
    obtain ⟨old, same, known⟩ := keyed.dimDate _ dates
    rw [same]
    exact known
  | dimZone =>
    obtain rfl := Option.some.inj after
    refine ⟨_, joins _ dates rfl vendors rateCodes paymentTypes, ?_, List.Subset.refl _, List.Subset.refl _⟩
    obtain ⟨old, same, -, known⟩ := keyed.dimZone _ zones
    rw [same]
    exact known
  | dimVendor =>
    obtain ⟨tlcVendors, isSeeded, same⟩ := Option.map_eq_some_iff.mp after
    subst same
    refine ⟨_, joins _ dates zones rfl rateCodes paymentTypes, List.Subset.refl _, ?_, List.Subset.refl _⟩
    rw [(keyed.dimVendor _ vendors).1, keyed.tlcVendors _ isSeeded]
    exact List.Subset.refl _
  | startFacts fullRefresh =>
    simp only [Analytics.build] at after
    split at after
    · obtain rfl := Option.some.inj after
      exact ⟨dims, joined, .refl dims⟩
    · cases after
  | commitFacts | rollbackFacts =>
    obtain ⟨x, -, same⟩ := Option.map_eq_some_iff.mp after
    subst same
    exact ⟨dims, joined, .refl dims⟩

/-- A step of dbt over known seeds leaves the facts with the keys of the dimensions. -/
theorem Warehouse.Keyed.build (keyed : warehouse.Keyed s.db) (documented : DeleteInsert merge)
    (locations : ((stgTlcTaxiZones s.db).map (·.locationId)).Nodup) (seeded : tlcSeeds.Loads step)
    (done : warehouse.build merge s step = some built) : built.Keyed s.db := by
  have kept : ∀ {x}, x ∈ warehouse.facts → ∃ dims, built.tables.dimensions = some dims ∧ x.KeyedBy dims := by
    intro fact member
    obtain ⟨dims, joined, ofFact⟩ := keyed.facts fact member
    obtain ⟨dims', joined', within⟩ := keyed.grows seeded done joined
    exact ⟨dims', joined', ofFact.within within⟩
  have executing : ∀ x, warehouse.execution = some x →
      ∃ dims, built.tables.dimensions = some dims ∧ x.dims.KeysWithin dims := by
    intro x isRunning
    obtain ⟨dims, joined, ofRun⟩ := keyed.execution x isRunning
    obtain ⟨dims', joined', within⟩ := keyed.grows seeded done joined
    exact ⟨dims', joined', ofRun.trans within⟩
  obtain ⟨a, after, same⟩ := Option.map_eq_some_iff.mp done
  subst same
  cases step with
  | seedVendors rows =>
    obtain rfl := Option.some.inj after
    exact ⟨fun _ same => (Option.some.inj same) ▸ seeded, fun _ same => ⟨(keyed.dimVendor _ same).1, rfl⟩,
      keyed.dimDate, keyed.dimZone, executing, fun _ => kept⟩
  | seedRateCodes rows | seedPaymentTypes rows =>
    obtain rfl := Option.some.inj after
    exact ⟨keyed.tlcVendors, keyed.dimVendor, keyed.dimDate, keyed.dimZone, executing, fun _ => kept⟩
  | dimDate =>
    obtain rfl := Option.some.inj after
    exact ⟨keyed.tlcVendors, keyed.dimVendor,
      fun _ same => ⟨s.db, (Option.some.inj same).symm, List.Subset.refl _⟩, keyed.dimZone, executing, fun _ => kept⟩
  | dimZone =>
    obtain rfl := Option.some.inj after
    exact ⟨keyed.tlcVendors, keyed.dimVendor, keyed.dimDate,
      fun _ same => ⟨s.db, (Option.some.inj same).symm, locations, List.Subset.refl _⟩, executing, fun _ => kept⟩
  | dimVendor =>
    obtain ⟨tlcVendors, isSeeded, same⟩ := Option.map_eq_some_iff.mp after
    subst same
    refine ⟨keyed.tlcVendors, fun _ same => ⟨?_, Option.isSome_iff_exists.mpr ⟨tlcVendors, isSeeded⟩⟩, keyed.dimDate,
      keyed.dimZone, executing, fun _ => kept⟩
    rw [← Option.some.inj same, keyed.tlcVendors _ isSeeded]
  | startFacts fullRefresh =>
    simp only [Analytics.build] at after
    split at after
    · rename_i dims idle joined
      obtain rfl := Option.some.inj after
      refine ⟨keyed.tlcVendors, keyed.dimVendor, keyed.dimDate, keyed.dimZone, fun x same => ?_, fun _ => kept⟩
      obtain rfl := Option.some.inj same
      exact ⟨dims, joined, .refl dims⟩
    · cases after
  | rollbackFacts =>
    obtain ⟨x, isRunning, same⟩ := Option.map_eq_some_iff.mp after
    subst same
    exact ⟨keyed.tlcVendors, keyed.dimVendor, keyed.dimDate, keyed.dimZone, fun _ same => (by cases same),
      fun _ => kept⟩
  | commitFacts =>
    obtain ⟨x, isRunning, same⟩ := Option.map_eq_some_iff.mp after
    subst same
    refine ⟨keyed.tlcVendors, keyed.dimVendor, keyed.dimDate, keyed.dimZone, fun _ same => (by cases same),
      fun fact member => ?_⟩
    obtain ⟨dims, joined, within⟩ := keyed.execution x isRunning
    obtain ⟨zone, vendor, date⟩ := keyed.unknown joined
    have fresh : fact ∈ x.rows → fact.KeyedBy dims := fun inRows => fctTrips_keyed inRows within zone vendor date
    have old : fact ∈ warehouse.facts → ∃ dims, warehouse.tables.dimensions = some dims ∧ fact.KeyedBy dims :=
      keyed.facts fact
    have result : fact ∈ x.result merge warehouse.facts := member
    unfold Execution.result at result
    split at result
    · rcases List.mem_append.mp ((documented _ _).mem_iff.mp result) with before | added
      · exact old (List.mem_filter.mp before).1
      · exact ⟨dims, joined, fresh added⟩
    · exact ⟨dims, joined, fresh result⟩

end Keyed

/-- When a test passes, as far as it does not always pass. -/
def DataTest.Passes (db : Database) (tables : Tables) : DataTest → Prop
  | stgTaxiZonesOneLoadedSource => ∃ row ∈ db.sourceFiles, row.isLoadedZones = true
  | dimZoneKeyUnique => ∀ rows, tables.dimZone = some rows → ∀ row ∈ rows, row.locationId ≠ some 0
  | fctTripsSourceGrain => ∀ facts, tables.fctTrips = some facts →
      ∀ trip ∈ intTripsNormalized db, trip.lineage.sourceFileId ∈ facts.map (·.lineage.sourceFileId)
  | _ => True

section Tests

variable {readers : Readers} {contents : Set Bytes} {s : Session} {warehouse : Warehouse} {n : Nat} {test : DataTest}

theorem Session.Accounted.locations (accounted : s.Accounted readers contents) :
    ((stgTlcTaxiZones s.db).map (·.locationId)).Nodup :=
  stagedLocations_nodup accounted.ingested.orderly.consistent.nodup
    (loadedZoneSources_le.trans accounted.ingested.orderly.loadedZoneVersions_le)

theorem length_zero_iff {α : Type} {rows : List α} {n : Nat} {passes : Prop} (counted : rows.length = n)
    (found : rows = [] ↔ passes) : n = 0 ↔ passes := by
  rw [← counted, List.length_eq_zero_iff]
  exact found

theorem relationships_pass {α κ : Type} [DecidableEq κ] {facts : Option (List FactTrip)} {key : FactTrip → κ}
    {dimension : Option (List α)} {field : α → κ}
    (keyed : ∀ built rows, facts = some built → dimension = some rows →
      ∀ fact ∈ built, key fact ∈ rows.map field)
    (ran : relationships facts key dimension field = some n) : n = 0 ↔ True := by
  obtain ⟨built, isBuilt, rest⟩ := Option.bind_eq_some_iff.mp ran
  obtain ⟨rows, areRows, counted⟩ := Option.map_eq_some_iff.mp rest
  refine length_zero_iff counted (iff_true_intro (orphans_nil.mpr fun value member => ?_))
  obtain ⟨fact, inFacts, rfl⟩ := List.mem_map.mp member
  exact keyed built rows isBuilt areRows fact inFacts

/-- Over exact loads, sound facts and keyed dimensions every test passes exactly when it should. -/
theorem Session.Accounted.tests (accounted : s.Accounted readers contents)
    (collisionFree : Set.InjOn readers.sha256 contents) (sound : warehouse.Sound s.db) (keyed : warehouse.Keyed s.db)
    (ran : test.failures s.db warehouse.tables = some n) : n = 0 ↔ test.Passes s.db warehouse.tables := by
  have ingested := accounted.ingested
  have nodup := ingested.orderly.consistent.nodup
  have lineage := ingested.lineage (inspections collisionFree).serviced
  have grains := loadedTrips_grain nodup ingested.loads
  have known : ∀ {facts : List FactTrip}, warehouse.tables.fctTrips = some facts → warehouse.facts = facts := by
    intro facts built
    unfold Warehouse.facts
    rw [built, Option.getD_some]
  have keys : ∀ facts, warehouse.tables.fctTrips = some facts → ∀ fact ∈ facts,
      ∃ dims, warehouse.tables.dimensions = some dims ∧ fact.KeyedBy dims := by
    intro facts built fact member
    rw [← known built] at member
    exact keyed.facts fact member
  cases test with
  | tlcVendorsUnique =>
    obtain ⟨rows, built, counted⟩ := Option.map_eq_some_iff.mp ran
    exact length_zero_iff counted (iff_true_intro (repeated_nil.mpr (sound.unique.tlcVendors built)))
  | tlcRateCodesUnique =>
    obtain ⟨rows, built, counted⟩ := Option.map_eq_some_iff.mp ran
    exact length_zero_iff counted (iff_true_intro (repeated_nil.mpr (sound.unique.tlcRateCodes built)))
  | tlcPaymentTypesUnique =>
    obtain ⟨rows, built, counted⟩ := Option.map_eq_some_iff.mp ran
    exact length_zero_iff counted (iff_true_intro (repeated_nil.mpr (sound.unique.tlcPaymentTypes built)))
  | stgYellowTripsLineageUnique | stgGreenTripsLineageUnique =>
    exact length_zero_iff (Option.some.inj ran) (iff_true_intro (staged_lineageUnique nodup fun _ => rfl))
  | stgYellowTripsLoadedGrain =>
    exact length_zero_iff (Option.some.inj ran) (iff_true_intro (stgYellowTrips_loadedGrain nodup))
  | stgGreenTripsLoadedGrain =>
    exact length_zero_iff (Option.some.inj ran) (iff_true_intro stgGreenTrips_loadedGrain)
  | stgTaxiZonesActiveGrain =>
    exact length_zero_iff (Option.some.inj ran) (iff_true_intro stgTaxiZones_activeGrain)
  | stgTaxiZonesOneLoadedSource =>
    exact length_zero_iff (Option.some.inj ran)
      (stgTaxiZones_oneLoadedSource ingested.orderly.loadedZoneVersions_le)
  | stgTaxiZonesLocationUnique =>
    exact length_zero_iff (Option.some.inj ran) (iff_true_intro (repeated_nil.mpr accounted.locations))
  | intTripsNormalizedLineageUnique =>
    refine length_zero_iff (Option.some.inj ran) (iff_true_intro (repeated_nil.mpr ?_))
    rw [intTripsNormalized_lineage, lineage]
    exact grains
  | intTripsNormalizedServiceType =>
    exact length_zero_iff (Option.some.inj ran) (iff_true_intro intTripsNormalized_serviceType)
  | dimZoneKeyUnique =>
    obtain ⟨rows, built, counted⟩ := Option.map_eq_some_iff.mp ran
    obtain ⟨old, rfl, distinct, -⟩ := keyed.dimZone rows built
    refine (length_zero_iff counted (dimZone_keyUnique distinct)).trans ⟨fun passes other same => ?_, fun passes => ?_⟩
    · obtain rfl := Option.some.inj (built.symm.trans same)
      exact passes
    · exact passes _ built
  | dimZoneLocationUnique =>
    obtain ⟨rows, built, counted⟩ := Option.map_eq_some_iff.mp ran
    exact length_zero_iff counted (iff_true_intro (repeated_nil.mpr (sound.unique.dimZone built)))
  | dimVendorKeyUnique =>
    obtain ⟨rows, built, counted⟩ := Option.map_eq_some_iff.mp ran
    refine length_zero_iff counted (iff_true_intro (repeated_nil.mpr ?_))
    rw [(keyed.dimVendor rows built).1]
    decide
  | dimDateKeyUnique =>
    obtain ⟨rows, built, counted⟩ := Option.map_eq_some_iff.mp ran
    obtain ⟨old, rfl, -⟩ := keyed.dimDate rows built
    exact length_zero_iff counted (iff_true_intro (repeated_nil.mpr dateKeys_nodup))
  | dimensionsUnknownMembers =>
    obtain ⟨zones, zonesBuilt, rest⟩ := Option.bind_eq_some_iff.mp ran
    obtain ⟨vendors, vendorsBuilt, rest⟩ := Option.bind_eq_some_iff.mp rest
    obtain ⟨dates, datesBuilt, counted⟩ := Option.map_eq_some_iff.mp rest
    obtain ⟨zonesOf, rfl, -⟩ := keyed.dimZone zones zonesBuilt
    obtain ⟨datesOf, rfl, -⟩ := keyed.dimDate dates datesBuilt
    obtain rfl := (keyed.dimVendor vendors vendorsBuilt).1
    exact length_zero_iff counted (iff_true_intro (dimensions_unknownMembers zonesOf datesOf _))
  | fctTripsLineageUnique =>
    obtain ⟨facts, built, counted⟩ := Option.map_eq_some_iff.mp ran
    refine length_zero_iff counted (iff_true_intro (repeated_nil.mpr ?_))
    have whole := sound.facts
    rw [known built] at whole
    refine (whole.nodup (grains.of_map _)).map_on fun left inLeft right inRight same => ?_
    exact List.inj_on_of_nodup_map grains (whole.subset inLeft) (whole.subset inRight) same
  | fctTripsSourceGrain =>
    obtain ⟨facts, built, counted⟩ := Option.map_eq_some_iff.mp ran
    have whole := sound.facts
    rw [known built] at whole
    refine (length_zero_iff counted (fctTrips_sourceGrain lineage whole)).trans
      ⟨fun passes other same => ?_, fun passes => passes _ built⟩
    obtain rfl := Option.some.inj (built.symm.trans same)
    exact passes
  | fctTripsPickupZone =>
    refine relationships_pass (fun facts rows built zonesBuilt fact member => ?_) ran
    obtain ⟨dims, joined, ofFact⟩ := keys facts built fact member
    obtain ⟨-, zones, -⟩ := Tables.dimensions_some joined
    obtain rfl := Option.some.inj (zones.symm.trans zonesBuilt)
    exact ofFact.pickupZone
  | fctTripsDropoffZone =>
    refine relationships_pass (fun facts rows built zonesBuilt fact member => ?_) ran
    obtain ⟨dims, joined, ofFact⟩ := keys facts built fact member
    obtain ⟨-, zones, -⟩ := Tables.dimensions_some joined
    obtain rfl := Option.some.inj (zones.symm.trans zonesBuilt)
    exact ofFact.dropoffZone
  | fctTripsVendor =>
    refine relationships_pass (fun facts rows built vendorsBuilt fact member => ?_) ran
    obtain ⟨dims, joined, ofFact⟩ := keys facts built fact member
    obtain ⟨-, -, vendors, -⟩ := Tables.dimensions_some joined
    obtain rfl := Option.some.inj (vendors.symm.trans vendorsBuilt)
    exact ofFact.vendor
  | fctTripsPickupDate =>
    refine relationships_pass (fun facts rows built datesBuilt fact member => ?_) ran
    obtain ⟨dims, joined, ofFact⟩ := keys facts built fact member
    obtain ⟨dates, -⟩ := Tables.dimensions_some joined
    obtain rfl := Option.some.inj (dates.symm.trans datesBuilt)
    exact ofFact.pickupDate
  | fctTripsDropoffDate =>
    refine relationships_pass (fun facts rows built datesBuilt fact member => ?_) ran
    obtain ⟨dims, joined, ofFact⟩ := keys facts built fact member
    obtain ⟨dates, -⟩ := Tables.dimensions_some joined
    obtain rfl := Option.some.inj (dates.symm.trans datesBuilt)
    exact ofFact.dropoffDate

end Tests

section Worlds

variable {installed : Installation} {contents : Set Bytes} {w w' : World}
  {merge : List FactTrip → List FactTrip → List FactTrip}

theorem World.Reachable.keyed (reached : World.Reachable installed contents merge w)
    (collisionFree : Set.InjOn installed.setup.readers.sha256 contents) (documented : DeleteInsert merge) :
    w.warehouse.Keyed w.session.db := by
  induction reached with
  | start empty within run => exact warehouse_keyed_empty
  | @step w w' reached step keyed =>
    have sound := reached.sound collisionFree documented
    have ingested := sound.accounted.ingested
    have calls : ∀ {s' : Session}, w.session.LeadsWith (·.Inspected installed.setup.readers contents) s' →
        w.warehouse.Keyed s'.db := by
      intro s' leads
      have later := leads.keepsLoads (inspections collisionFree) ingested
      exact keyed.calls ((leads.leads.keepsSources ingested.orderly).keepsKeys ingested.orderly.consistent.nodup
        later.ingested.orderly.consistent.nodup later.trips)
    cases step with
    | triggered run idle | cleared keeps | startsBuild upstream idle => exact keyed
    | exits exitStatus building complete =>
      exact ⟨keyed.tlcVendors, keyed.dimVendor, keyed.dimDate, keyed.dimZone, fun _ same => (by cases same), keyed.facts⟩
    | builds step seeded done => exact keyed.build documented sound.accounted.locations seeded done
    | others leads within => exact calls leads
    | tried task tried within =>
      obtain ⟨same, leads⟩ := World.attempt_leads tried within
      rw [same]
      exact calls leads

/-- The data tests of dbt pass in every world, but for three: one asks for loaded zones, one for zones without
    LocationID 0, and one for a build after the last load. -/
theorem data_tests_pass_iff {test : DataTest} {n : Nat}
    (collisionFree : Set.InjOn installed.setup.readers.sha256 contents) (documented : DeleteInsert merge)
    (reached : World.Reachable installed contents merge w)
    (ran : test.failures w.session.db w.warehouse.tables = some n) :
    n = 0 ↔ test.Passes w.session.db w.warehouse.tables := by
  have sound := reached.sound collisionFree documented
  exact sound.accounted.tests collisionFree sound.warehouse (reached.keyed collisionFree documented) ran

end Worlds

section Undisturbed

variable {installed : Installation} {contents : Set Bytes} {w : World} {warehouse built : Warehouse} {s : Session}
  {merge : List FactTrip → List FactTrip → List FactTrip} {step : ModelStep} {steps : List ModelStep}
  {readers : Readers}

/-- A build in which no session works keeps the warehouse sound and keyed. -/
theorem Session.Accounted.builds (accounted : s.Accounted readers contents)
    (collisionFree : Set.InjOn readers.sha256 contents) (documented : DeleteInsert merge)
    (seeded : ∀ step ∈ steps, tlcSeeds.Loads step) (sound : warehouse.Sound s.db) (keyed : warehouse.Keyed s.db)
    (done : steps.foldlM (Warehouse.build merge s) warehouse = some built) : built.Sound s.db ∧ built.Keyed s.db := by
  induction steps generalizing warehouse with
  | nil =>
    cases done
    exact ⟨sound, keyed⟩
  | cons step rest ih =>
    obtain ⟨next, first, done⟩ := Option.bind_eq_some_iff.mp (List.foldlM_cons.symm.trans done)
    have loads := seeded step List.mem_cons_self
    exact ih (fun step member => seeded step (List.mem_cons_of_mem _ member))
      (sound.build accounted.ingested (inspections collisionFree).serviced documented
        (ModelStep.uniqueCodes_of_loads loads) first)
      (keyed.build documented accounted.locations loads first) done

theorem Warehouse.build_dimZone (done : warehouse.build merge s step = some built) :
    (built.tables.dimZone = warehouse.tables.dimZone ∧ step ≠ .dimZone) ∨
      built.tables.dimZone = some (dimZone s.db) := by
  obtain ⟨a, after, same⟩ := Option.map_eq_some_iff.mp done
  subst same
  cases step with
  | seedVendors rows | seedRateCodes rows | seedPaymentTypes rows | dimDate =>
    obtain rfl := Option.some.inj after
    exact .inl ⟨rfl, ModelStep.noConfusion⟩
  | dimZone =>
    obtain rfl := Option.some.inj after
    exact .inr rfl
  | dimVendor =>
    obtain ⟨tlcVendors, -, same⟩ := Option.map_eq_some_iff.mp after
    subst same
    exact .inl ⟨rfl, ModelStep.noConfusion⟩
  | startFacts fullRefresh =>
    simp only [Analytics.build] at after
    split at after
    · obtain rfl := Option.some.inj after
      exact .inl ⟨rfl, ModelStep.noConfusion⟩
    · cases after
  | commitFacts | rollbackFacts =>
    obtain ⟨x, -, same⟩ := Option.map_eq_some_iff.mp after
    subst same
    exact .inl ⟨rfl, ModelStep.noConfusion⟩

theorem Warehouse.builds_dimZone (done : steps.foldlM (Warehouse.build merge s) warehouse = some built)
    (ready : .dimZone ∈ steps ∨ warehouse.tables.dimZone = some (dimZone s.db)) :
    built.tables.dimZone = some (dimZone s.db) := by
  induction steps generalizing warehouse with
  | nil =>
    cases done
    exact ready.resolve_left List.not_mem_nil
  | cons step rest ih =>
    obtain ⟨next, first, done⟩ := Option.bind_eq_some_iff.mp (List.foldlM_cons.symm.trans done)
    refine ih done ?_
    rcases Warehouse.build_dimZone first with ⟨same, apart⟩ | fresh
    · rcases ready with member | before
      · exact .inl ((List.mem_cons.mp member).resolve_left fun same => apart same.symm)
      · exact .inr (same.trans before)
    · exact .inr fresh

/-- The last two steps of a build make the facts those of all loaded trips. -/
theorem Warehouse.Sound.lastSteps (sound : warehouse.Sound s.db) (accounted : s.Accounted readers contents)
    (collisionFree : Set.InjOn readers.sha256 contents) (documented : DeleteInsert merge)
    (done : [.startFacts false, .commitFacts].foldlM (Warehouse.build merge s) warehouse = some built) :
    ∃ dims facts, warehouse.tables.dimensions = some dims ∧
      built.tables = { warehouse.tables with fctTrips := some facts } ∧
      (facts.map (·.lineage)).Perm s.db.loadedTrips := by
  obtain ⟨started, first, done⟩ := Option.bind_eq_some_iff.mp (List.foldlM_cons.symm.trans done)
  obtain ⟨committed, second, done⟩ := Option.bind_eq_some_iff.mp (List.foldlM_cons.symm.trans done)
  cases done
  have codes : (ModelStep.startFacts false).UniqueCodes := True.intro
  have startedSound := sound.build accounted.ingested (inspections collisionFree).serviced documented codes first
  obtain ⟨a, after, same⟩ := Option.map_eq_some_iff.mp first
  subst same
  simp only [Analytics.build] at after
  split at after
  · rename_i dims idle joined
    obtain rfl := Option.some.inj after
    obtain rfl := Option.some.inj second
    have running := startedSound.execution _ rfl
    exact ⟨dims, _, joined, rfl, running.complete documented⟩
  · cases after

/-- What the data tests find after a `dbt build` during which nothing is called. -/
structure Database.Tested (db : Database) (tables : Tables) : Prop where
  runs : ∀ test : DataTest, ∃ n, test.failures db tables = some n
  passes : ∀ test : DataTest, test.failures db tables = some 0 ↔ test.Passes db tables
  zones : tables.dimZone = some (dimZone db)
  grain : DataTest.fctTripsSourceGrain.Passes db tables

theorem undisturbed_build_tested (collisionFree : Set.InjOn installed.setup.readers.sha256 contents)
    (documented : DeleteInsert merge) (reached : World.Reachable installed contents merge w)
    (complete : CompleteBuild steps.reverse) (seeded : ∀ step ∈ steps, tlcSeeds.Loads step)
    (done : steps.foldlM (Warehouse.build merge w.session) w.warehouse = some built) :
    w.session.db.Tested built.tables := by
  have sound := reached.sound collisionFree documented
  have accounted := sound.accounted
  have after := accounted.builds collisionFree documented seeded sound.warehouse
    (reached.keyed collisionFree documented) done
  obtain ⟨⟨earlier, isSteps, -⟩, -, -, hasZones, -⟩ := complete
  have are_steps : steps = earlier.reverse ++ [.startFacts false, .commitFacts] := by
    rw [← List.reverse_reverse steps, isSteps, List.reverse_cons, List.reverse_cons, List.append_assoc]
    rfl
  have zonesBuilt := Warehouse.builds_dimZone done (.inl (List.mem_reverse.mp hasZones))
  rw [are_steps, List.foldlM_append] at done
  obtain ⟨prepared, first, last⟩ := Option.bind_eq_some_iff.mp done
  have before := accounted.builds collisionFree documented
    (fun step member => seeded step (are_steps ▸ List.mem_append_left _ member)) sound.warehouse
    (reached.keyed collisionFree documented) first
  obtain ⟨dims, facts, joined, tables, perm⟩ := before.1.lastSteps accounted collisionFree documented last
  obtain ⟨dates, zones, vendors, rateCodes, paymentTypes⟩ := Tables.dimensions_some joined
  obtain ⟨seedVendors, isSeeded⟩ := Option.isSome_iff_exists.mp (before.2.dimVendor _ vendors).2
  have runs : ∀ test : DataTest, ∃ n, test.failures w.session.db built.tables = some n := by
    intro test
    unfold DataTest.failures relationships
    rw [tables]
    simp only [dates, zones, vendors, rateCodes, paymentTypes, isSeeded, Option.map_some, Option.bind_some]
    cases test <;> exact ⟨_, rfl⟩
  refine ⟨runs, fun test => ?_, zonesBuilt, fun other isOther trip member => ?_⟩
  · obtain ⟨n, ran⟩ := runs test
    rw [ran, Option.some.injEq]
    exact accounted.tests collisionFree after.1 after.2 ran
  · rw [tables] at isOther
    obtain rfl := Option.some.inj isOther
    have inTrips : trip.lineage ∈ w.session.db.loadedTrips := by
      rw [← accounted.ingested.lineage (inspections collisionFree).serviced, ← intTripsNormalized_lineage]
      exact List.mem_map_of_mem member
    obtain ⟨fact, inFacts, same⟩ := List.mem_map.mp (perm.mem_iff.mpr inTrips)
    rw [← same]
    exact List.mem_map_of_mem inFacts

theorem Database.Tested.all_pass {db : Database} {tables : Tables} (tested : db.Tested tables)
    (loaded : ∃ row ∈ db.sourceFiles, row.isLoadedZones = true)
    (fresh : ∀ zone ∈ stgTlcTaxiZones db, zone.locationId ≠ 0) (test : DataTest) :
    test.failures db tables = some 0 := by
  refine (tested.passes test).mpr ?_
  cases test with
  | stgTaxiZonesOneLoadedSource => exact loaded
  | dimZoneKeyUnique =>
    intro rows areRows row member isZero
    obtain rfl := Option.some.inj (tested.zones.symm.trans areRows)
    have inLocations : 0 ∈ (dimZone db).filterMap (·.locationId) := List.mem_filterMap.mpr ⟨row, member, isZero⟩
    rw [dimZone_locations] at inLocations
    obtain ⟨zone, inStaged, zero⟩ := List.mem_map.mp inLocations
    exact fresh zone inStaged zero
  | fctTripsSourceGrain => exact tested.grain
  | _ => exact True.intro

/-- After a `dbt build` during which nothing is called, every data test runs; all pass exactly if a version of the
    zones is loaded and has no LocationID 0. -/
theorem undisturbed_build_passes (collisionFree : Set.InjOn installed.setup.readers.sha256 contents)
    (documented : DeleteInsert merge) (reached : World.Reachable installed contents merge w)
    (complete : CompleteBuild steps.reverse) (seeded : ∀ step ∈ steps, tlcSeeds.Loads step)
    (done : steps.foldlM (Warehouse.build merge w.session) w.warehouse = some built) :
    (∀ test : DataTest, ∃ n, test.failures w.session.db built.tables = some n) ∧
      ((∀ test : DataTest, test.failures w.session.db built.tables = some 0) ↔
        (∃ row ∈ w.session.db.sourceFiles, row.isLoadedZones = true) ∧
          ∀ zone ∈ stgTlcTaxiZones w.session.db, zone.locationId ≠ 0) := by
  have tested := undisturbed_build_tested collisionFree documented reached complete seeded done
  refine ⟨tested.runs, ?_, ?_⟩
  · intro allPass
    refine ⟨(tested.passes .stgTaxiZonesOneLoadedSource).mp (allPass _), fun zone member isZero => ?_⟩
    have fresh := (tested.passes .dimZoneKeyUnique).mp (allPass _) _ tested.zones (knownZone zone)
      (List.mem_cons_of_mem _ (List.mem_map_of_mem member))
    exact fresh (congrArg some isZero)
  · rintro ⟨loaded, fresh⟩ test
    exact tested.all_pass loaded fresh test

end Undisturbed

section Month

set_option maxRecDepth 10000 in
theorem monthRun_tested :
    monthRun.map (fun w => DataTest.fctTripsSourceGrain.failures w.session.db w.warehouse.tables) = some (some 0) := by
  decide +kernel

theorem monthRun_passesGrain : ∃ w, monthRun = some w ∧
    DataTest.fctTripsSourceGrain.Passes w.session.db w.warehouse.tables := by
  obtain ⟨w, ran, tested⟩ := Option.map_eq_some_iff.mp monthRun_tested
  obtain ⟨w', ran', reached⟩ := monthRun_reached
  obtain rfl := Option.some.inj (ran'.symm.trans ran)
  exact ⟨w', ran, (data_tests_pass_iff monthContents_collisionFree (fun _ _ => .refl _) reached tested).mp rfl⟩

set_option maxRecDepth 10000 in
theorem monthLoaded_zones : monthLoaded.map (fun (w : World) => ((buildSteps.foldlM (Warehouse.build deleteInsert w.session)
    w.warehouse).isSome, decide (∃ row ∈ w.session.db.sourceFiles, row.isLoadedZones = true),
      decide (∀ zone ∈ stgTlcTaxiZones w.session.db, zone.locationId ≠ 0))) = some (true, true, true) := by
  decide +kernel

theorem monthBuild_passes : ∃ w built, monthLoaded = some w ∧
    buildSteps.foldlM (Warehouse.build deleteInsert w.session) w.warehouse = some built ∧
      ∀ test : DataTest, test.failures w.session.db built.tables = some 0 := by
  obtain ⟨w, ran, ends⟩ := Option.map_eq_some_iff.mp monthLoaded_zones
  simp only [Prod.mk.injEq, decide_eq_true_eq] at ends
  obtain ⟨builds, loaded, fresh⟩ := ends
  obtain ⟨built, done⟩ := Option.isSome_iff_exists.mp builds
  have passes := undisturbed_build_passes monthContents_collisionFree (fun _ _ => .refl _) (monthLoaded_reached ran).1
    buildSteps_complete buildSteps_seeded done
  exact ⟨w, built, ran, done, passes.2.mpr ⟨loaded, fresh⟩⟩

end Month

end TaxiPipeline
