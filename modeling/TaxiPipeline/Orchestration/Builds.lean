import TaxiPipeline.Orchestration.PartitionQuality
import TaxiPipeline.Warehouse.Grain
import TaxiPipeline.Warehouse.Refresh

namespace TaxiPipeline

open ReadCommitted Relational Stateful

/-- The relations of dbt with the execution of `fct_trips` under way. -/
structure Warehouse where
  tables : Tables
  execution : Option Execution

namespace Warehouse

def empty : Warehouse := ⟨Tables.empty, none⟩

def facts (warehouse : Warehouse) : List FactTrip := warehouse.tables.fctTrips.getD []

/-- The warehouse beside a session, with no ingestion under way. -/
def beside (warehouse : Warehouse) (s : Session) : Analytics Empty :=
  ⟨.initial s.db s.sequences .idle, warehouse.tables, warehouse.execution⟩

/-- A step of dbt between the calls of a session. -/
def build (merge : List FactTrip → List FactTrip → List FactTrip) (s : Session) (warehouse : Warehouse)
    (step : ModelStep) : Option Warehouse :=
  ((warehouse.beside s).build merge step).map fun built => ⟨built.tables, built.execution⟩

end Warehouse

def Session.unstored (s : Session) : Session := { s with db := s.db.unstored }

def Execution.unstored (x : Execution) : Execution := { x with db := x.db.unstored }

def Warehouse.unstored (warehouse : Warehouse) : Warehouse :=
  { warehouse with execution := warehouse.execution.map Execution.unstored }

section Unstored

variable {db : Database} {s : Session} {warehouse built : Warehouse} {step : ModelStep} {x : Execution}
  {merge : List FactTrip → List FactTrip → List FactTrip}

theorem dimDate_unstored : dimDate db.unstored = dimDate db := by
  unfold dimDate
  rw [intTripsEnriched_unstored]

theorem dimZone_unstored : dimZone db.unstored = dimZone db := by
  have sources : loadedZoneSources db.unstored = loadedZoneSources db := by
    unfold loadedZoneSources Database.unstored
    rw [List.filter_map, List.map_map]
    rfl
  unfold dimZone stgTlcTaxiZones
  rw [sources]
  rfl

theorem Execution.result_unstored (target : List FactTrip) :
    x.unstored.result merge target = x.result merge target := by
  unfold Execution.result Execution.rows Execution.trips Execution.unstored
  rw [intTripsEnriched_unstored]
  rfl

/-- dbt builds the same without the storage metadata. -/
theorem Warehouse.build_unstored (done : warehouse.build merge s step = some built) :
    (warehouse.unstored.beside s.unstored).build merge step = some (built.unstored.beside s.unstored) := by
  obtain ⟨a, after, same⟩ := Option.map_eq_some_iff.mp done
  subst same
  cases step with
  | seedVendors rows | seedRateCodes rows | seedPaymentTypes rows =>
    obtain rfl := Option.some.inj after
    rfl
  | dimDate =>
    obtain rfl := Option.some.inj after
    rw [Analytics.build, show TaxiPipeline.dimDate (warehouse.unstored.beside s.unstored).platform.committed = dimDate s.db
      from dimDate_unstored]
    rfl
  | dimZone =>
    obtain rfl := Option.some.inj after
    rw [Analytics.build, show TaxiPipeline.dimZone (warehouse.unstored.beside s.unstored).platform.committed = dimZone s.db
      from dimZone_unstored]
    rfl
  | dimVendor =>
    obtain ⟨tlcVendors, seeded, same⟩ := Option.map_eq_some_iff.mp after
    subst same
    exact Option.map_eq_some_iff.mpr ⟨tlcVendors, seeded, rfl⟩
  | startFacts fullRefresh =>
    simp only [Analytics.build] at after
    split at after
    · rename_i dims idle joined
      obtain rfl := Option.some.inj after
      have idle' : warehouse.unstored.execution = none := congrArg (Option.map Execution.unstored) idle
      have joined' : warehouse.unstored.tables.dimensions = some dims := joined
      simp only [Analytics.build, Warehouse.beside, idle', joined']
      rfl
    · cases after
  | commitFacts =>
    obtain ⟨x, executing, same⟩ := Option.map_eq_some_iff.mp after
    subst same
    refine Option.map_eq_some_iff.mpr ⟨x.unstored, congrArg (Option.map Execution.unstored) executing, ?_⟩
    rw [Execution.result_unstored]
    rfl
  | rollbackFacts =>
    obtain ⟨x, executing, same⟩ := Option.map_eq_some_iff.mp after
    subst same
    exact Option.map_eq_some_iff.mpr ⟨x.unstored, congrArg (Option.map Execution.unstored) executing, rfl⟩

theorem Execution.unstored_sound {target : Option (List FactTrip)} :
    x.unstored.Sound target db.unstored ↔ x.Sound target db := by
  have lineage : intTripsEnriched x.unstored.db = intTripsEnriched x.db := intTripsEnriched_unstored
  have snapshot : x.unstored.db.loadedTrips = x.db.loadedTrips := Database.loadedTrips_unstored
  constructor
  · rintro ⟨sameTarget, unique, sameLineage, known, older⟩
    rw [lineage, snapshot] at sameLineage
    rw [snapshot] at known
    rw [snapshot, Database.loadedTrips_unstored] at older
    exact ⟨sameTarget, unique, sameLineage, known, older⟩
  · rintro ⟨sameTarget, unique, sameLineage, known, older⟩
    rw [← lineage, ← snapshot] at sameLineage
    rw [← snapshot] at known
    rw [← snapshot, ← @Database.loadedTrips_unstored db] at older
    exact ⟨sameTarget, unique, sameLineage, known, older⟩

end Unstored

/-- The relations are unique on their codes, and the facts are those of whole loaded sources. -/
structure Warehouse.Sound (warehouse : Warehouse) (db : Database) : Prop where
  unique : warehouse.tables.Unique
  facts : WholeBatches Lineage.sourceFileId (warehouse.facts.map (·.lineage)) db.loadedTrips
  execution : ∀ x, warehouse.execution = some x → x.Sound warehouse.tables.fctTrips db

/-- The facts have all rows of the source, each once. -/
def Warehouse.Covers (warehouse : Warehouse) (db : Database) (sourceFileId : Nat) : Prop :=
  (ofBatch Lineage.sourceFileId sourceFileId (warehouse.facts.map (·.lineage))).Perm
    (ofBatch Lineage.sourceFileId sourceFileId db.loadedTrips)

section Sound

variable {known : SourceFileMetadata → Prop} {s s' : Session} {warehouse built : Warehouse} {step : ModelStep}
  {merge : List FactTrip → List FactTrip → List FactTrip} {sourceFileId : Nat}

theorem warehouse_sound_empty {db : Database} : Warehouse.empty.Sound db :=
  ⟨⟨nofun, nofun, nofun, nofun, nofun, nofun⟩, fun _ => .inl rfl, nofun⟩

theorem Warehouse.Sound.beside (sound : warehouse.Sound s.db) (ingested : s.Ingested known) :
    Consistent Empty.elim known (warehouse.unstored.beside s.unstored) where
  ingested := by
    have consistent : s.unstored.Consistent := by
      obtain ⟨nodup, below, positive⟩ := ingested.orderly.consistent
      have same : s.unstored.db.index = s.db.index := Database.unstored_index
      exact ⟨by rwa [same], by rwa [same], positive⟩
    exact ⟨coherent_initial consistent, ingested.described, Database.unstored_loadsExact.mpr ingested.loads⟩
  unique := sound.unique
  facts := by
    have facts := sound.facts
    rw [← Database.loadedTrips_unstored] at facts
    exact facts
  execution := by
    intro x executing
    obtain ⟨running, at_work, same⟩ := Option.map_eq_some_iff.mp executing
    rw [← same]
    exact Execution.unstored_sound.mpr (sound.execution running at_work)

theorem Warehouse.sound_of_beside (consistent : Consistent Empty.elim known (warehouse.unstored.beside s.unstored)) :
    warehouse.Sound s.db where
  unique := consistent.unique
  facts := by
    have facts := consistent.facts
    rw [show (warehouse.unstored.beside s.unstored).platform.committed.loadedTrips = s.db.loadedTrips
      from Database.loadedTrips_unstored] at facts
    exact facts
  execution := by
    intro x executing
    exact Execution.unstored_sound.mp
      (consistent.execution x.unstored (congrArg (Option.map Execution.unstored) executing))

theorem Session.Ingested.lineage (ingested : s.Ingested known) (serviced : Serviced known) :
    (intTripsEnriched s.db).map (·.lineage) = s.db.loadedTrips := by
  have nodup : s.db.unstored.index.Nodup := by
    rw [Database.unstored_index]
    exact ingested.orderly.consistent.nodup
  have same := intTripsEnriched_lineage nodup serviced ingested.described
    (Database.unstored_loadsExact.mpr ingested.loads)
  rwa [intTripsEnriched_unstored, Database.loadedTrips_unstored] at same

theorem ModelStep.uniqueCodes_of_loads (seeded : tlcSeeds.Loads step) : step.UniqueCodes := by
  cases step with
  | seedVendors rows | seedRateCodes rows | seedPaymentTypes rows =>
    unfold Seeds.Loads at seeded
    rw [seeded]
    decide
  | dimDate | dimZone | dimVendor | startFacts _ | commitFacts | rollbackFacts => exact True.intro

/-- A step of dbt keeps the facts exact. -/
theorem Warehouse.Sound.build (sound : warehouse.Sound s.db) (ingested : s.Ingested known) (serviced : Serviced known)
    (documented : DeleteInsert merge) (codes : step.UniqueCodes) (done : warehouse.build merge s step = some built) :
    built.Sound s.db := by
  have consistent := sound.beside ingested
  have versions : (warehouse.unstored.beside s.unstored).platform.committed.loadedZoneVersions ≤ 1 := by
    have same : s.unstored.db.loadedZoneVersions = s.db.loadedZoneVersions := by
      unfold Database.loadedZoneVersions Session.unstored Database.unstored
      rw [List.countP_map]
      rfl
    exact same.le.trans ingested.orderly.loadedZoneVersions_le
  exact Warehouse.sound_of_beside
    (consistent.build documented serviced versions codes (Warehouse.build_unstored done))

/-- The calls of a session leave the warehouse sound. -/
theorem Warehouse.Sound.calls (sound : warehouse.Sound s.db)
    (grown : WholeBatches Lineage.sourceFileId s.db.loadedTrips s'.db.loadedTrips) : warehouse.Sound s'.db where
  unique := sound.unique
  facts := sound.facts.trans grown
  execution := by
    intro x executing
    have running := sound.execution x executing
    exact { running with older := running.older.trans grown }

theorem Session.KeepsLoads.loadedTrips (keeps : s.KeepsLoads known s') (ingested : s.Ingested known)
    (serviced : Serviced known) : WholeBatches Lineage.sourceFileId s.db.loadedTrips s'.db.loadedTrips := by
  rw [← ingested.lineage serviced, ← keeps.ingested.lineage serviced]
  exact keeps.trips.map fun _ => rfl

theorem Database.rawTrips_ofBatch {db : Database} : ofBatch Lineage.sourceFileId sourceFileId db.rawTrips =
    (db.rowsOf .yellowTrips sourceFileId).map (·.lineage) ++ (db.rowsOf .greenTrips sourceFileId).map (·.lineage) := by
  have of_table : ∀ table, ofBatch Lineage.sourceFileId sourceFileId ((db.raw table).map (·.lineage)) =
      (db.rowsOf table sourceFileId).map (·.lineage) := by
    intro table
    unfold ofBatch Database.rowsOf
    rw [List.filter_map]
    rfl
  unfold Database.rawTrips ofBatch
  rw [List.filter_append]
  exact congrArg₂ (· ++ ·) (of_table .yellowTrips) (of_table .greenTrips)

theorem Database.KeepsSources.loadedTrips_ofBatch {db db' : Database} (keeps : db.KeepsSources db')
    (loaded : db.isLoaded sourceFileId = true) :
    ofBatch Lineage.sourceFileId sourceFileId db'.loadedTrips =
      ofBatch Lineage.sourceFileId sourceFileId db.loadedTrips := by
  obtain ⟨row, got, isLoaded⟩ := Database.isLoaded_iff.mp loaded
  obtain ⟨row', got', same⟩ := keeps.sources got isLoaded
  have loaded' : db'.isLoaded sourceFileId = true :=
    Database.isLoaded_iff.mpr ⟨row', got', same.status.trans isLoaded⟩
  rw [Database.loadedTrips_ofBatch loaded, Database.loadedTrips_ofBatch loaded', Database.rawTrips_ofBatch,
    Database.rawTrips_ofBatch, keeps.rows got isLoaded, keeps.rows got isLoaded]

/-- What is covered stays covered, whatever dbt builds. -/
theorem Warehouse.Covers.build (covers : warehouse.Covers s.db sourceFileId) (sound : warehouse.Sound s.db)
    (documented : DeleteInsert merge) (done : warehouse.build merge s step = some built) :
    built.Covers s.db sourceFileId := by
  obtain ⟨a, after, same⟩ := Option.map_eq_some_iff.mp done
  subst same
  cases step with
  | seedVendors rows | seedRateCodes rows | seedPaymentTypes rows | dimDate | dimZone =>
    obtain rfl := Option.some.inj after
    exact covers
  | dimVendor =>
    obtain ⟨tlcVendors, -, same⟩ := Option.map_eq_some_iff.mp after
    subst same
    exact covers
  | startFacts fullRefresh =>
    simp only [Analytics.build] at after
    split at after
    · obtain rfl := Option.some.inj after
      exact covers
    · cases after
  | rollbackFacts =>
    obtain ⟨x, -, same⟩ := Option.map_eq_some_iff.mp after
    subst same
    exact covers
  | commitFacts =>
    obtain ⟨x, executing, same⟩ := Option.map_eq_some_iff.mp after
    subst same
    have running := sound.execution x executing
    have complete := running.complete documented
    have known := running.known
    rw [running.target] at known
    have between := known.between running.older covers
    exact (complete.filter _).trans between

theorem Warehouse.Covers.calls (covers : warehouse.Covers s.db sourceFileId) (keeps : s.db.KeepsSources s'.db)
    (loaded : s.db.isLoaded sourceFileId = true) : warehouse.Covers s'.db sourceFileId := by
  unfold Warehouse.Covers
  rw [keeps.loadedTrips_ofBatch loaded]
  exact covers

/-- Where a `dbt build` stands for a source that it has found loaded, by its steps, the latest first. -/
def Warehouse.Reaches (warehouse : Warehouse) (db : Database) (sourceFileId : Nat) : List ModelStep → Prop
  | .startFacts _ :: _ => ∃ x, warehouse.execution = some x ∧
      (ofBatch Lineage.sourceFileId sourceFileId x.db.loadedTrips).Perm
        (ofBatch Lineage.sourceFileId sourceFileId db.loadedTrips)
  | .commitFacts :: .startFacts _ :: _ => warehouse.Covers db sourceFileId
  | _ => True

theorem Warehouse.Reaches.build {steps : List ModelStep} (reaches : warehouse.Reaches s.db sourceFileId steps)
    (sound : warehouse.Sound s.db) (documented : DeleteInsert merge)
    (done : warehouse.build merge s step = some built) : built.Reaches s.db sourceFileId (step :: steps) := by
  obtain ⟨a, after, same⟩ := Option.map_eq_some_iff.mp done
  subst same
  cases step with
  | seedVendors _ | seedRateCodes _ | seedPaymentTypes _ | dimDate | dimZone | dimVendor | rollbackFacts => exact True.intro
  | startFacts fullRefresh =>
    simp only [Analytics.build] at after
    split at after
    · obtain rfl := Option.some.inj after
      exact ⟨_, rfl, .refl _⟩
    · cases after
  | commitFacts =>
    obtain ⟨x, executing, same⟩ := Option.map_eq_some_iff.mp after
    subst same
    have complete := (sound.execution x executing).complete documented
    cases steps with
    | nil => exact True.intro
    | cons last rest =>
      cases last with
      | startFacts fullRefresh =>
        obtain ⟨x', executing', snapshot⟩ := reaches
        cases executing.symm.trans executing'
        exact (complete.filter _).trans snapshot
      | seedVendors _ | seedRateCodes _ | seedPaymentTypes _ | dimDate | dimZone | dimVendor | rollbackFacts
      | commitFacts => exact True.intro

theorem Warehouse.Reaches.calls {steps : List ModelStep} (reaches : warehouse.Reaches s.db sourceFileId steps)
    (keeps : s.db.KeepsSources s'.db) (loaded : s.db.isLoaded sourceFileId = true) :
    warehouse.Reaches s'.db sourceFileId steps := by
  unfold Warehouse.Reaches at reaches ⊢
  split
  · rw [keeps.loadedTrips_ofBatch loaded]
    exact reaches
  · exact Warehouse.Covers.calls reaches keeps loaded
  · exact True.intro

end Sound

end TaxiPipeline
