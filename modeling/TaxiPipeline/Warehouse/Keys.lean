import TaxiPipeline.Lifecycle.ZoneLoads
import TaxiPipeline.Warehouse.Refresh

namespace TaxiPipeline

open ReadCommitted Relational Stateful

/-- Exactly one row has the key. -/
def KeyOnce {α κ : Type} [DecidableEq κ] (key : α → κ) (rows : List α) (k : κ) : Prop :=
  (rows.filter fun row => key row = k).length = 1

/-- The keys of the dimensions are distinct, 0 is the key of the Unknown members alone, and every key of a
    fact is the key of exactly one row. -/
structure KeysSound (dims : Dimensions) (facts : List FactTrip) : Prop where
  zones : (dims.zones.map (·.zoneKey)).Nodup
  dates : (dims.dates.map (·.dateKey)).Nodup
  unknownZone : dims.zones.filter (fun row => row.zoneKey = 0) = [TaxiPipeline.unknownZone]
  unknownDate : dims.dates.filter (fun row => row.dateKey = 0) = [TaxiPipeline.unknownDate]
  facts : ∀ fact ∈ facts,
    (∀ key ∈ [fact.pickupZoneKey, fact.dropoffZoneKey], KeyOnce DimZone.zoneKey dims.zones key) ∧
      ∀ key ∈ [fact.pickupDateKey, fact.dropoffDateKey], KeyOnce DimDate.dateKey dims.dates key

section Keys

variable {db : Database}

theorem keyOnce_of_mem {α κ : Type} [DecidableEq κ] {key : α → κ} {rows : List α}
    (nodup : (rows.map key).Nodup) {row : α} (member : row ∈ rows) : KeyOnce key rows (key row) := by
  have one : (rows.map key).count (key row) = 1 :=
    List.count_eq_one_of_mem nodup (List.mem_map_of_mem member)
  rw [List.count, List.countP_map, List.countP_eq_length_filter] at one
  exact one

theorem dateKeys_nodup : ((dimDate db).map (·.dateKey)).Nodup := by
  have keys : (dimDate db).map (·.dateKey) = 0 :: (observedDates (intTripsEnriched db)).map Date.key := by
    simp [dimDate, unknownDate, knownDate, Function.comp_def]
  rw [keys, List.nodup_cons]
  constructor
  · intro zeroKey
    obtain ⟨date, -, zero⟩ := List.mem_map.mp zeroKey
    exact absurd zero date.key_pos.ne'
  · apply List.Nodup.map_on
    · intro left _ right _ same
      exact Date.key_injective same
    · exact List.nodup_dedup _

theorem unknownDate_only : (dimDate db).filter (fun row => row.dateKey = 0) = [unknownDate] := by
  unfold dimDate
  rw [List.filter_cons_of_pos (by rfl)]
  congr 1
  apply List.filter_eq_nil_iff.mpr
  intro row member
  obtain ⟨date, -, rfl⟩ := List.mem_map.mp member
  have positive : (knownDate date).dateKey ≠ 0 := date.key_pos.ne'
  simp [positive]

theorem zoneKeys_eq : (dimZone db).map (·.zoneKey) = 0 :: (stgTlcTaxiZones db).map (·.locationId) := by
  simp [dimZone, unknownZone, knownZone, Function.comp_def]

theorem joined_key {α β : Type} {left : List α} {right : List β} {on : α → β → Bool} {a : α} {found : Option β}
    (joined : (a, found) ∈ leftJoin left right on) {κ : Type} (key : β → κ) (zero : κ) :
    (found.map key).getD zero = zero ∨ ∃ row ∈ right, (found.map key).getD zero = key row := by
  rcases (mem_leftJoin.mp joined).2 with ⟨rfl, -⟩ | ⟨row, met, rfl⟩
  · exact .inl rfl
  · exact .inr ⟨row, (List.mem_filter.mp met).1, rfl⟩

theorem factKeys_known {dims : Dimensions} {trips : List EnrichedTrip} {fact : FactTrip}
    (member : fact ∈ fctTrips dims trips) :
    (∀ key ∈ [fact.pickupZoneKey, fact.dropoffZoneKey], key = 0 ∨ ∃ row ∈ dims.zones, key = row.zoneKey) ∧
      ∀ key ∈ [fact.pickupDateKey, fact.dropoffDateKey], key = 0 ∨ ∃ row ∈ dims.dates, key = row.dateKey := by
  unfold fctTrips at member
  dsimp only at member
  obtain ⟨⟨⟨⟨⟨⟨⟨⟨trip, pickupDate⟩, dropoffDate⟩, pickupZone⟩, dropoffZone⟩, vendor⟩, rateCode⟩, payment⟩,
    joined, rfl⟩ := List.mem_map.mp member
  have byDropoffZone := (mem_leftJoin.mp (mem_leftJoin.mp (mem_leftJoin.mp joined).1).1).1
  have byPickupZone := (mem_leftJoin.mp byDropoffZone).1
  have byDropoffDate := (mem_leftJoin.mp byPickupZone).1
  have byPickupDate := (mem_leftJoin.mp byDropoffDate).1
  simp only [List.forall_mem_cons, List.not_mem_nil, false_imp_iff, implies_true, and_true]
  exact ⟨⟨joined_key byPickupZone _ 0, joined_key byDropoffZone _ 0⟩,
    joined_key byPickupDate _ 0, joined_key byDropoffDate _ 0⟩

/-- With one zone source loaded, the known zone keys are the locations of its raw rows. -/
theorem zoneKeys_of_source {zones : Nat} (nodup : db.index.Nodup) (one : loadedZoneSources db = [zones]) :
    (stgTlcTaxiZones db).map (·.locationId) = (db.rowsOf .taxiZones zones).map (·.values.locationId) := by
  rw [stagedLocations_eq nodup, one]
  unfold Database.rowsOf
  congr 1
  apply List.filter_congr
  intro row _
  rw [Bool.eq_iff_iff]
  simp

/-- The keys of one build are sound exactly when the loaded zones do not use LocationID 0. -/
theorem star_keys_sound_iff {zones : Nat} (nodup : db.index.Nodup) (one : loadedZoneSources db = [zones])
    (seeds : Seeds) (target : List FactTrip) :
    KeysSound (seeds.dimensions db) (fctTrips (seeds.dimensions db) (notYetIn target (intTripsEnriched db))) ↔
      ∀ row ∈ db.rowsOf .taxiZones zones, row.values.locationId ≠ 0 := by
  have locations := zoneKeys_of_source nodup one
  constructor
  · intro sound row member zeroLocation
    have keys : ((dimZone db).map (·.zoneKey)).Nodup := sound.zones
    rw [zoneKeys_eq, List.nodup_cons, locations] at keys
    apply keys.1
    rw [← zeroLocation]
    exact List.mem_map_of_mem member
  · intro known
    have fresh : ∀ zone ∈ stgTlcTaxiZones db, zone.locationId ≠ 0 := by
      intro zone member
      have inLocations : zone.locationId ∈ (stgTlcTaxiZones db).map (·.locationId) := List.mem_map_of_mem member
      rw [locations] at inLocations
      obtain ⟨row, inRows, same⟩ := List.mem_map.mp inLocations
      rw [← same]
      exact known row inRows
    have zoneKeys : ((dimZone db).map (·.zoneKey)).Nodup := by
      rw [zoneKeys_eq, List.nodup_cons]
      constructor
      · intro zeroKey
        obtain ⟨zone, member, zeroLocation⟩ := List.mem_map.mp zeroKey
        exact fresh zone member zeroLocation
      · exact stagedLocations_nodup nodup (by rw [one]; exact le_refl 1)
    have onlyUnknown : (dimZone db).filter (fun row => row.zoneKey = 0) = [unknownZone] := by
      unfold dimZone
      rw [List.filter_cons_of_pos (by rfl)]
      congr 1
      apply List.filter_eq_nil_iff.mpr
      intro row member
      obtain ⟨zone, inStaged, rfl⟩ := List.mem_map.mp member
      have other : (knownZone zone).zoneKey ≠ 0 := fresh zone inStaged
      simp [other]
    refine ⟨zoneKeys, dateKeys_nodup, onlyUnknown, unknownDate_only, fun fact member => ?_⟩
    obtain ⟨zones, dates⟩ := factKeys_known member
    constructor
    · intro key ofFact
      rcases zones key ofFact with rfl | ⟨row, inZones, rfl⟩
      · exact congrArg List.length onlyUnknown
      · exact keyOnce_of_mem zoneKeys inZones
    · intro key ofFact
      rcases dates key ofFact with rfl | ⟨row, inDates, rfl⟩
      · exact congrArg List.length unknownDate_only
      · exact keyOnce_of_mem dateKeys_nodup inDates

end Keys

/-- One call on a zone lookup of one row, from its registration to the commit of its load. -/
def oneZoneLoad (file : LandingFile) : List (Unit × Event) :=
  List.replicate 8 ((), .next 0) ++ ((), .openFile 1 file) :: List.replicate 9 ((), .next 0)

/-- Readers for which every file is the lookup of one zone. -/
def newarkReaders (location : String) (stored : storable location = true ∧ location.length ≤ fieldSizeLimit) :
    Readers where
  sha256 := zoneReaders.sha256
  parquetFile := zoneReaders.parquetFile
  readCsv := fun _ => .ok (plainPandas.readCsv (newarkZone location stored))
  schemaFingerprint := zoneReaders.schemaFingerprint

def newarkMetadata : SourceFileMetadata := { zoneMetadata with rowCount := some 1 }

def newarkLanding (locationId : Int) : LandingFile :=
  CsvFile.zonesLanding [⟨locationId, some "EWR", some "Newark Airport", some "EWR"⟩]

set_option maxRecDepth 10000 in
theorem newarkZone_keys_sound : ∃ s : State Unit Phase Database Sequences Write,
    (ingestion fun _ => .ingest newarkMetadata 1).run startState (oneZoneLoad (newarkLanding 1)) = some s ∧
      (KeysSound (tlcSeeds.dimensions s.committed)
          (fctTrips (tlcSeeds.dimensions s.committed) (notYetIn [] (intTripsEnriched s.committed))) ↔
        ∀ row ∈ s.committed.rowsOf .taxiZones 1, row.values.locationId ≠ 0) := by
  have loads : ((ingestion fun _ : Unit => .ingest newarkMetadata 1).run startState
      (oneZoneLoad (newarkLanding 1))).map (fun s =>
        (decide s.committed.index.Nodup, loadedZoneSources s.committed)) = some (true, [1]) := by decide
  obtain ⟨s, ran, same⟩ := Option.map_eq_some_iff.mp loads
  obtain ⟨nodup, one⟩ := Prod.mk.inj same
  exact ⟨s, ran, star_keys_sound_iff (of_decide_eq_true nodup) one tlcSeeds []⟩

set_option maxRecDepth 10000 in
/-- A lookup with LocationID 0 is accepted and loaded, and gives a second zone with the key 0. -/
theorem zeroZone_keys_clash :
    (newarkZone "0" (by decide)).landing = .ok (newarkLanding 0) ∧
      inspectSource (newarkReaders "0" (by decide)) taxiZoneSource [1, 2, 3] = .ok newarkMetadata ∧
      ∃ s : State Unit Phase Database Sequences Write,
        (ingestion fun _ => .ingest newarkMetadata 1).run startState (oneZoneLoad (newarkLanding 0)) = some s ∧
        loadedZoneSources s.committed = [1] ∧
        ¬ KeysSound (tlcSeeds.dimensions s.committed)
          (fctTrips (tlcSeeds.dimensions s.committed) (notYetIn [] (intTripsEnriched s.committed))) := by
  have loads : ((ingestion fun _ : Unit => .ingest newarkMetadata 1).run startState
      (oneZoneLoad (newarkLanding 0))).map (fun s =>
        (loadedZoneSources s.committed, (dimZone s.committed).map (·.zoneKey))) = some ([1], [0, 0]) := by decide
  obtain ⟨s, ran, same⟩ := Option.map_eq_some_iff.mp loads
  obtain ⟨one, keys⟩ := Prod.mk.inj same
  refine ⟨rfl, rfl, s, ran, one, fun sound => ?_⟩
  have distinct : ((dimZone s.committed).map (·.zoneKey)).Nodup := sound.zones
  rw [keys] at distinct
  exact absurd distinct (by decide)

end TaxiPipeline
