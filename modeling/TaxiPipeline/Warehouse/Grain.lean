import TaxiPipeline.Warehouse.Builds
import TaxiPipeline.Warehouse.Growth
import TaxiPipeline.Warehouse.Joins

namespace TaxiPipeline

open ReadCommitted Relational Stateful

/-- A seed has one row for a code. -/
def ModelStep.UniqueCodes : ModelStep → Prop
  | .seedVendors rows => (rows.map (·.vendorId)).Nodup
  | .seedRateCodes rows => (rows.map (·.rateCodeId)).Nodup
  | .seedPaymentTypes rows => (rows.map (·.paymentType)).Nodup
  | _ => True

def Move.UniqueCodes {Client : Type} : Move Client → Prop
  | .ingestion .. => True
  | .model step => step.UniqueCodes

instance : DecidablePred ModelStep.UniqueCodes
  | .seedVendors _ | .seedRateCodes _ | .seedPaymentTypes _ => inferInstanceAs (Decidable (List.Nodup _))
  | .dimDate | .dimZone | .dimVendor | .startFacts _ | .commitFacts | .rollbackFacts =>
    inferInstanceAs (Decidable True)

instance {Client : Type} : DecidablePred (Move.UniqueCodes : Move Client → Prop)
  | .ingestion .. => inferInstanceAs (Decidable True)
  | .model step => inferInstanceAs (Decidable step.UniqueCodes)

/-- The relations that have been built are unique on their codes. -/
structure Tables.Unique (tables : Tables) : Prop where
  tlcVendors : ∀ {rows}, tables.tlcVendors = some rows → (rows.map (·.vendorId)).Nodup
  tlcRateCodes : ∀ {rows}, tables.tlcRateCodes = some rows → (rows.map (·.rateCodeId)).Nodup
  tlcPaymentTypes : ∀ {rows}, tables.tlcPaymentTypes = some rows → (rows.map (·.paymentType)).Nodup
  dimDate : ∀ {rows}, tables.dimDate = some rows → UniqueKey DimDate.fullDate rows
  dimZone : ∀ {rows}, tables.dimZone = some rows → UniqueKey DimZone.locationId rows
  dimVendor : ∀ {rows}, tables.dimVendor = some rows → UniqueKey DimVendor.vendorId rows

theorem uniqueKey_code {α : Type} {key : α → Int} {rows : List α} (codes : (rows.map key).Nodup) :
    UniqueKey (fun row => some (key row)) rows := by
  unfold UniqueKey
  rwa [show rows.filterMap (fun row => some (key row)) = rows.map key from
    congrFun List.filterMap_eq_map rows]

theorem Tables.dimensions_some {tables : Tables} {dims : Dimensions}
    (built : tables.dimensions = some dims) :
    tables.dimDate = some dims.dates ∧ tables.dimZone = some dims.zones ∧
      tables.dimVendor = some dims.vendors ∧ tables.tlcRateCodes = some dims.rateCodes ∧
      tables.tlcPaymentTypes = some dims.paymentTypes := by
  unfold Tables.dimensions at built
  split at built
  · rename_i dates zones vendors rateCodes paymentTypes
    cases built
    exact ⟨dates, zones, vendors, rateCodes, paymentTypes⟩
  · cases built

theorem Tables.Unique.dimensions {tables : Tables} {dims : Dimensions} (unique : tables.Unique)
    (built : tables.dimensions = some dims) : dims.Unique := by
  obtain ⟨dates, zones, vendors, rateCodes, paymentTypes⟩ := Tables.dimensions_some built
  exact ⟨unique.dimDate dates, unique.dimZone zones, unique.dimVendor vendors,
    uniqueKey_code (unique.tlcRateCodes rateCodes), uniqueKey_code (unique.tlcPaymentTypes paymentTypes)⟩

namespace Execution

/-- What the snapshot of an execution keeps until it commits. -/
structure Sound (x : Execution) (target : Option (List FactTrip)) (committed : Database) : Prop where
  target : x.target = target
  unique : x.dims.Unique
  lineage : (intTripsEnriched x.db).map (·.lineage) = x.db.loadedTrips
  known : WholeBatches Lineage.sourceFileId ((x.target.getD []).map (·.lineage)) x.db.loadedTrips
  older : WholeBatches Lineage.sourceFileId x.db.loadedTrips committed.loadedTrips

variable {x : Execution} {target : Option (List FactTrip)} {committed : Database}

theorem notYetIn_lineage (facts : List FactTrip) (trips : List EnrichedTrip) :
    (notYetIn facts trips).map (·.lineage) =
      missing Lineage.sourceFileId (facts.map (·.lineage)) (trips.map (·.lineage)) := by
  simp [notYetIn, missing, List.filter_map, Function.comp_def]

theorem Sound.rows_lineage (sound : x.Sound target committed) (incremental : x.isIncremental = true) :
    x.rows.map (·.lineage) =
      missing Lineage.sourceFileId ((x.target.getD []).map (·.lineage)) x.db.loadedTrips := by
  unfold rows trips
  rw [fctTrips_lineage sound.unique, if_pos incremental, notYetIn_lineage, sound.lineage]

/-- New rows of other sources than the target's share no key with it, so the strategy deletes nothing. -/
theorem deletes_nothing {facts rows : List FactTrip}
    (apart : ∀ row ∈ rows, row.lineage.sourceFileId ∉ facts.map (·.lineage.sourceFileId)) :
    facts.filter (·.grain ∉ rows.map FactTrip.grain) = facts := by
  refine List.filter_eq_self.mpr fun fact inFacts => decide_eq_true fun inRows => ?_
  obtain ⟨row, member, same⟩ := List.mem_map.mp inRows
  exact apart row member (List.mem_map.mpr ⟨fact, inFacts, (Prod.mk.inj same).1.symm⟩)

theorem Sound.keeps (sound : x.Sound target committed) (incremental : x.isIncremental = true) :
    (x.target.getD []).filter (·.grain ∉ x.rows.map FactTrip.grain) = x.target.getD [] := by
  refine deletes_nothing fun row member => ?_
  have inMissing : row.lineage ∈ x.rows.map (·.lineage) := List.mem_map_of_mem member
  rw [sound.rows_lineage incremental] at inMissing
  have apart := of_decide_eq_true (List.mem_filter.mp inMissing).2
  rwa [List.map_map] at apart

/-- After an execution the table has each trip of its snapshot once. -/
theorem Sound.complete {merge : List FactTrip → List FactTrip → List FactTrip}
    (sound : x.Sound target committed) (documented : DeleteInsert merge) :
    ((x.result merge (target.getD [])).map (·.lineage)).Perm x.db.loadedTrips := by
  unfold result
  rw [← sound.target]
  by_cases incremental : x.isIncremental = true
  · rw [if_pos incremental]
    have merged := (documented (x.target.getD []) x.rows).map (·.lineage)
    rw [sound.keeps incremental, List.map_append, sound.rows_lineage incremental] at merged
    exact merged.trans sound.known.complete
  · rw [if_neg incremental]
    unfold rows trips
    rw [fctTrips_lineage sound.unique, if_neg incremental, sound.lineage]

end Execution

/-- The state of the warehouse over an ingestion whose metadata are known. -/
structure Consistent {Client : Type} (requests : Client → Request) (known : SourceFileMetadata → Prop)
    (s : Analytics Client) : Prop where
  ingested : Ingested requests known s.platform
  unique : s.tables.Unique
  facts : WholeBatches Lineage.sourceFileId (s.facts.map (·.lineage)) s.platform.committed.loadedTrips
  execution : ∀ x, s.execution = some x → x.Sound s.tables.fctTrips s.platform.committed

section Steps

variable {Client : Type} {requests : Client → Request} {known : SourceFileMetadata → Prop}
  {merge : List FactTrip → List FactTrip → List FactTrip} {s s' : Analytics Client}

theorem consistent_analytics_start : Consistent requests known Analytics.start :=
  ⟨ingested_start, ⟨nofun, nofun, nofun, nofun, nofun, nofun⟩, fun _ => .inl rfl, nofun⟩

theorem Consistent.build (consistent : Consistent requests known s) (documented : DeleteInsert merge)
    (serviced : Serviced known) (versions : s.platform.committed.loadedZoneVersions ≤ 1) {step : ModelStep}
    (codes : step.UniqueCodes) (built : s.build merge step = some s') : Consistent requests known s' := by
  obtain ⟨ingested, unique, facts, execution⟩ := consistent
  have nodup := ingested.coherent.distinct.committed
  cases step with
  | seedVendors rows =>
    cases built
    exact ⟨ingested, { unique with tlcVendors := fun same => Option.some.inj same ▸ codes }, facts, execution⟩
  | seedRateCodes rows =>
    cases built
    exact ⟨ingested, { unique with tlcRateCodes := fun same => Option.some.inj same ▸ codes }, facts, execution⟩
  | seedPaymentTypes rows =>
    cases built
    exact ⟨ingested, { unique with tlcPaymentTypes := fun same => Option.some.inj same ▸ codes }, facts,
      execution⟩
  | dimDate =>
    cases built
    exact ⟨ingested, { unique with dimDate := fun same => Option.some.inj same ▸ dimDate_unique }, facts,
      execution⟩
  | dimZone =>
    cases built
    exact ⟨ingested, { unique with dimZone := fun same => Option.some.inj same ▸ dimZone_unique nodup versions },
      facts, execution⟩
  | dimVendor =>
    obtain ⟨tlcVendors, seeded, same⟩ := Option.map_eq_some_iff.mp built
    cases same
    have codes := unique.tlcVendors seeded
    exact ⟨ingested, { unique with dimVendor := fun same => Option.some.inj same ▸ dimVendor_unique codes },
      facts, execution⟩
  | startFacts fullRefresh =>
    simp only [Analytics.build] at built
    split at built
    · rename_i dims idle joined
      cases built
      refine ⟨ingested, unique, facts, fun x same => ?_⟩
      cases same
      exact ⟨rfl, unique.dimensions joined, ingested.lineage serviced, facts, .refl _⟩
    · cases built
  | commitFacts =>
    obtain ⟨x, executing, same⟩ := Option.map_eq_some_iff.mp built
    cases same
    have sound := execution x executing
    have complete : WholeBatches Lineage.sourceFileId _ _ := .of_perm (sound.complete documented)
    exact ⟨ingested, { unique with }, complete.trans sound.older, nofun⟩
  | rollbackFacts =>
    obtain ⟨x, executing, same⟩ := Option.map_eq_some_iff.mp built
    cases same
    exact ⟨ingested, unique, facts, nofun⟩

variable [Fintype Client] [DecidableEq Client]

theorem Consistent.step (consistent : Consistent requests known s) (documented : DeleteInsert merge)
    (catalog : Catalog known) (serviced : Serviced known) (mine : ∀ i, known (requests i).metadata)
    {move : Move Client} (versions : s.platform.committed.loadedZoneVersions ≤ 1) (codes : move.UniqueCodes)
    (stepped : analytics requests merge s move = some s') : Consistent requests known s' := by
  cases move with
  | model step => exact consistent.build documented serviced versions codes stepped
  | ingestion i e =>
    obtain ⟨platform, moved, same⟩ := Option.map_eq_some_iff.mp stepped
    cases same
    have ingested := consistent.ingested.step catalog mine moved
    have grown : WholeBatches Lineage.sourceFileId s.platform.committed.loadedTrips
        platform.committed.loadedTrips := by
      rw [← consistent.ingested.lineage serviced, ← ingested.lineage serviced]
      exact (consistent.ingested.whole catalog serviced (mine i) moved).map fun _ => rfl
    refine ⟨ingested, consistent.unique,
      consistent.facts.trans grown, fun x executing => ?_⟩
    have sound := consistent.execution x executing
    exact { sound with older := sound.older.trans grown }

theorem consistent_run (documented : DeleteInsert merge) (catalog : Catalog known)
    (serviced : Serviced known) (mine : ∀ i, known (requests i).metadata) {schedule : List (Move Client)}
    (codes : ∀ move ∈ schedule, move.UniqueCodes)
    (versions : Always (analytics requests merge) (·.platform.committed.loadedZoneVersions ≤ 1)
      Analytics.start schedule)
    (ran : run (analytics requests merge) Analytics.start schedule = some s) :
    Consistent requests known s := by
  have conditions := versions.throughout.and (throughout_of_events codes)
  exact run_preserves_throughout (fun _ _ _ consistent conditions stepped =>
    consistent.step documented catalog serviced mine conditions.1.1 conditions.2 stepped)
    consistent_analytics_start conditions ran

end Steps

/-- The contract of `fct_trips`: no two rows of one source row, all rows of a source or none, only loaded
    sources, and after an execution exactly the rows of the sources that its snapshot has loaded. -/
structure Analytics.ExactFacts {Client : Type} (merge : List FactTrip → List FactTrip → List FactTrip)
    (s : Analytics Client) : Prop where
  grain : (s.facts.map FactTrip.grain).Nodup
  whole : ∀ sourceFileId, ofBatch Lineage.sourceFileId sourceFileId (s.facts.map (·.lineage)) = [] ∨
    (ofBatch Lineage.sourceFileId sourceFileId (s.facts.map (·.lineage))).Perm
      (ofBatch Lineage.sourceFileId sourceFileId s.platform.committed.rawTrips)
  loaded : ∀ fact ∈ s.facts, s.platform.committed.isLoaded fact.lineage.sourceFileId = true
  complete : ∀ x s', s.execution = some x → s.build merge .commitFacts = some s' →
    (s'.facts.map (·.lineage)).Perm x.db.loadedTrips

theorem Consistent.exactFacts {Client : Type} {requests : Client → Request}
    {known : SourceFileMetadata → Prop} {merge : List FactTrip → List FactTrip → List FactTrip}
    {s : Analytics Client} (consistent : Consistent requests known s) (documented : DeleteInsert merge) :
    s.ExactFacts merge := by
  have grains := loadedTrips_grain consistent.ingested.coherent.distinct.committed consistent.ingested.loads
  have isLoaded : ∀ fact ∈ s.facts, s.platform.committed.isLoaded fact.lineage.sourceFileId = true :=
    fun fact member =>
      (Database.mem_loadedTrips.mp (consistent.facts.subset (List.mem_map_of_mem member))).2
  refine ⟨?_, fun sourceFileId => ?_, isLoaded, fun x s' executing built => ?_⟩
  · have facts : s.facts.map FactTrip.grain = (s.facts.map (·.lineage)).map Lineage.grain := by
      rw [List.map_map]
      rfl
    rw [facts]
    refine (consistent.facts.nodup (grains.of_map _)).map_on fun left inLeft right inRight same => ?_
    exact List.inj_on_of_nodup_map grains (consistent.facts.subset inLeft)
      (consistent.facts.subset inRight) same
  · by_cases loaded : s.platform.committed.isLoaded sourceFileId = true
    · rw [← Database.loadedTrips_ofBatch loaded]
      exact consistent.facts sourceFileId
    · refine .inl (List.filter_eq_nil_iff.mpr fun lineage member => ?_)
      obtain ⟨fact, inFacts, rfl⟩ := List.mem_map.mp member
      intro ofSource
      rw [← of_decide_eq_true ofSource] at loaded
      exact loaded (isLoaded fact inFacts)
  · obtain ⟨_, executing', same⟩ := Option.map_eq_some_iff.mp built
    cases executing.symm.trans executing'
    cases same
    exact (consistent.execution x executing).complete documented

/-- The facts are exact over every interleaving of the ingestion with the executions of the models. -/
theorem fct_trips_exact {Client : Type} [Fintype Client] [DecidableEq Client] {requests : Client → Request}
    (readers : Readers) (source : Client → SourcePartition) (content : Client → Bytes)
    (resolved : ∀ i, Resolved (source i))
    (inspected : ∀ i, inspectSource readers (source i) (content i) = .ok (requests i).metadata)
    (collisionFree : ∀ i j,
      readers.sha256 (content i) = readers.sha256 (content j) → content i = content j)
    {merge : List FactTrip → List FactTrip → List FactTrip} (documented : DeleteInsert merge)
    {schedule : List (Move Client)} {s : Analytics Client} (codes : ∀ move ∈ schedule, move.UniqueCodes)
    (versions : Always (analytics requests merge) (·.platform.committed.loadedZoneVersions ≤ 1)
      Analytics.start schedule)
    (ran : run (analytics requests merge) Analytics.start schedule = some s) : s.ExactFacts merge := by
  have catalog := inspected_catalog resolved inspected collisionFree
  have consistent := consistent_run documented catalog (inspected_serviced resolved inspected)
    (fun i => ⟨i, rfl⟩) codes versions ran
  exact consistent.exactFacts documented

def zonesAndTrips : Fin 2 → Request
  | 0 => .ingest zoneMetadata 1
  | 1 => .ingest yellowMetadata 1

def zonesAndTripsSource : Fin 2 → SourcePartition
  | 0 => taxiZoneSource
  | 1 => yellowSource

def zonesAndTripsContent : Fin 2 → Bytes
  | 0 => [1, 2, 3]
  | 1 => [1]

theorem zonesAndTrips_resolved : ∀ i, Resolved (zonesAndTripsSource i)
  | 0 => .zones
  | 1 => .yellow (show yellowTripSource 2025 1 = .ok yellowSource by decide)

theorem zonesAndTrips_inspected : ∀ i, inspectSource tripReaders (zonesAndTripsSource i)
    (zonesAndTripsContent i) = .ok (zonesAndTrips i).metadata
  | 0 => rfl
  | 1 => rfl

theorem zonesAndTrips_collisionFree : ∀ i j, tripReaders.sha256 (zonesAndTripsContent i) =
    tripReaders.sha256 (zonesAndTripsContent j) → zonesAndTripsContent i = zonesAndTripsContent j := by
  decide

/-- A whole call of `ingest_source` whose load has `n` statements after the opening of its file. -/
def ingestFile (i : Fin 2) (file : LandingFile) (n : Nat) : List (Move (Fin 2)) :=
  (turns i 8 ++ (i, .openFile 0 file) :: turns i n).map fun (i, e) => .ingestion i e

def dbtRun (steps : List ModelStep) : List (Move (Fin 2)) := steps.map .model

def zonesFirst : List (Move (Fin 2)) := ingestFile clientOne zoneFile 11

/-- The first build, with a load between its `dim_date` and its `fct_trips`, and a later one. -/
def tripsBetween : List (Move (Fin 2)) :=
  dbtRun [.seedVendors [], .seedRateCodes [], .seedPaymentTypes [], .dimZone, .dimVendor, .dimDate] ++
    ingestFile clientTwo yellowFile 9 ++
    dbtRun [.startFacts false, .commitFacts, .dimZone, .dimVendor, .dimDate, .startFacts false]

set_option maxRecDepth 10000 in
theorem tripsBetween_exact :
    ∃ s, run (analytics zonesAndTrips deleteInsert) Analytics.start (zonesFirst ++ tripsBetween) = some s ∧
      s.ExactFacts deleteInsert := by
  have runs : (run (analytics zonesAndTrips deleteInsert) Analytics.start
      (zonesFirst ++ tripsBetween)).isSome = true := by decide
  obtain ⟨s, ran⟩ := Option.isSome_iff_exists.mp runs
  exact ⟨s, ran, fct_trips_exact tripReaders zonesAndTripsSource zonesAndTripsContent
    zonesAndTrips_resolved zonesAndTrips_inspected zonesAndTrips_collisionFree (fun _ _ => .refl _)
    (by decide) (by decide) ran⟩

end TaxiPipeline
