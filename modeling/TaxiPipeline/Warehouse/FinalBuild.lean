import TaxiPipeline.Warehouse.Refresh

namespace TaxiPipeline

open ReadCommitted Relational Stateful

/-- The steps of dbt in a schedule. -/
def Move.step? {Client : Type} : Move Client → Option ModelStep
  | .ingestion .. => none
  | .model step => some step

def modelSteps {Client : Type} (schedule : List (Move Client)) : List ModelStep := schedule.filterMap Move.step?

/-- The steps of a build before `fct_trips`. -/
def ModelStep.prepares : ModelStep → Bool
  | .startFacts _ | .commitFacts | .rollbackFacts => false
  | _ => true

/-- Only an execution of `fct_trips` that commits has a condition to meet. -/
def Analytics.Dated {Client : Type} (s : Analytics Client) : Move Client → Prop
  | .model .commitFacts => ∀ x ∈ s.execution, x.Dated
  | _ => True

instance {Client : Type} (s : Analytics Client) : DecidablePred s.Dated
  | .model .commitFacts => inferInstanceAs (Decidable (∀ x ∈ s.execution, x.Dated))
  | .ingestion .. | .model (.seedVendors _) | .model (.seedRateCodes _) | .model (.seedPaymentTypes _)
  | .model .dimDate | .model .dimZone | .model .dimVendor | .model (.startFacts _)
  | .model .rollbackFacts => inferInstanceAs (Decidable True)

/-- The relations that have been built, while the seeds and the loaded zones stay. -/
structure Tables.Steady (seeds : Seeds) (tables : Tables) (committed : Database) : Prop where
  tlcVendors : ∀ rows ∈ tables.tlcVendors, rows = seeds.vendors
  tlcRateCodes : ∀ rows ∈ tables.tlcRateCodes, rows = seeds.rateCodes
  tlcPaymentTypes : ∀ rows ∈ tables.tlcPaymentTypes, rows = seeds.paymentTypes
  dimDate : ∀ rows ∈ tables.dimDate, ∃ old, rows = TaxiPipeline.dimDate old
  dimZone : ∀ rows ∈ tables.dimZone, rows = TaxiPipeline.dimZone committed
  dimVendor : ∀ rows ∈ tables.dimVendor, rows = TaxiPipeline.dimVendor seeds.vendors

theorem Tables.Steady.dimensions {seeds : Seeds} {tables : Tables} {committed : Database} {dims : Dimensions}
    (steady : tables.Steady seeds committed) (built : tables.dimensions = some dims) :
    dims = { seeds.dimensions committed with dates := dims.dates } := by
  obtain ⟨-, zones, vendors, rateCodes, paymentTypes⟩ := Tables.dimensions_some built
  have sameZones := steady.dimZone _ zones
  have sameVendors := steady.dimVendor _ vendors
  have sameRateCodes := steady.tlcRateCodes _ rateCodes
  have samePaymentTypes := steady.tlcPaymentTypes _ paymentTypes
  obtain ⟨dates, zones, vendors, rateCodes, paymentTypes⟩ := dims
  dsimp only at sameZones sameVendors sameRateCodes samePaymentTypes
  rw [sameZones, sameVendors, sameRateCodes, samePaymentTypes]
  rfl

/-- What holds between the builds as long as every execution is dated. -/
structure Steady {Client : Type} (requests : Client → Request) (known : SourceFileMetadata → Prop)
    (seeds : Seeds) (s : Analytics Client) : Prop where
  ingested : Ingested requests known s.platform
  tables : s.tables.Steady seeds s.platform.committed
  facts : WholeBatches (·.lineage.sourceFileId) s.facts (seeds.fullRefresh s.platform.committed)
  execution : ∀ x ∈ s.execution, x.Steady seeds s.tables.fctTrips s.platform.committed

section Steps

variable {Client : Type} {requests : Client → Request} {known : SourceFileMetadata → Prop}
  {merge : List FactTrip → List FactTrip → List FactTrip} {seeds : Seeds} {s s' : Analytics Client}

theorem Steady.build (steady : Steady requests known seeds s) (documented : DeleteInsert merge)
    {step : ModelStep} (loads : seeds.Loads step) (dated : s.Dated (.model step))
    (built : s.build merge step = some s') : Steady requests known seeds s' := by
  obtain ⟨ingested, tables, facts, execution⟩ := steady
  cases step with
  | seedVendors rows =>
    cases built
    exact ⟨ingested, { tables with tlcVendors := fun _ same => Option.some.inj same ▸ loads }, facts, execution⟩
  | seedRateCodes rows =>
    cases built
    exact ⟨ingested, { tables with tlcRateCodes := fun _ same => Option.some.inj same ▸ loads }, facts,
      execution⟩
  | seedPaymentTypes rows =>
    cases built
    exact ⟨ingested, { tables with tlcPaymentTypes := fun _ same => Option.some.inj same ▸ loads }, facts,
      execution⟩
  | dimDate =>
    cases built
    exact ⟨ingested, { tables with dimDate := fun _ same => ⟨_, (Option.some.inj same).symm⟩ }, facts,
      execution⟩
  | dimZone =>
    cases built
    exact ⟨ingested, { tables with dimZone := fun _ same => (Option.some.inj same).symm }, facts, execution⟩
  | dimVendor =>
    obtain ⟨tlcVendors, seeded, same⟩ := Option.map_eq_some_iff.mp built
    cases same
    have ofSeeds := tables.tlcVendors _ seeded
    exact ⟨ingested, { tables with dimVendor := fun _ same => ofSeeds ▸ (Option.some.inj same).symm }, facts,
      execution⟩
  | startFacts fullRefresh =>
    simp only [Analytics.build] at built
    split at built
    · rename_i dims idle joined
      cases built
      refine ⟨ingested, tables, facts, fun x same => ?_⟩
      cases same
      obtain ⟨old, dates⟩ := tables.dimDate _ (Tables.dimensions_some joined).1
      exact ⟨rfl, ⟨old, dates ▸ tables.dimensions joined⟩, facts, .refl _⟩
    · cases built
  | commitFacts =>
    obtain ⟨x, executing, same⟩ := Option.map_eq_some_iff.mp built
    cases same
    have executed := execution x executing
    have refreshed := executed.refreshed (dated x executing) documented
    refine ⟨ingested, { tables with }, (WholeBatches.of_perm refreshed).trans executed.older, fun x running => ?_⟩
    cases running
  | rollbackFacts =>
    obtain ⟨x, executing, same⟩ := Option.map_eq_some_iff.mp built
    cases same
    refine ⟨ingested, tables, facts, fun x running => ?_⟩
    cases running

variable [Fintype Client] [DecidableEq Client]

theorem Steady.step (steady : Steady requests known seeds s) (documented : DeleteInsert merge)
    (catalog : Catalog known) (serviced : Serviced known) (mine : ∀ i, known (requests i).metadata)
    {move : Move Client} (version : s.platform.committed.loadedZoneVersions = 1)
    (version_after : s'.platform.committed.loadedZoneVersions = 1)
    (loads : ∀ step ∈ move.step?, seeds.Loads step) (dated : s.Dated move)
    (stepped : analytics requests merge s move = some s') : Steady requests known seeds s' := by
  cases move with
  | model step => exact steady.build documented (loads step rfl) dated stepped
  | ingestion i e =>
    obtain ⟨platform, moved, same⟩ := Option.map_eq_some_iff.mp stepped
    cases same
    have zones := steady.ingested.dimZone_stays catalog (mine i) version version_after moved
    have grown : WholeBatches (·.lineage.sourceFileId) (seeds.fullRefresh s.platform.committed)
        (seeds.fullRefresh platform.committed) :=
      Seeds.fullRefresh_whole (steady.ingested.whole catalog serviced (mine i) moved) zones
    refine ⟨steady.ingested.step catalog mine moved, { steady.tables with dimZone := fun rows built => ?_ },
      steady.facts.trans grown, fun x executing => ?_⟩
    · exact (steady.tables.dimZone rows built).trans zones.symm
    · have executed := steady.execution x executing
      exact { executed with older := executed.older.trans grown }

theorem steady_ingested (catalog : Catalog known) (mine : ∀ i, known (requests i).metadata)
    {schedule : List (Move Client)} (ingestionOnly : modelSteps schedule = [])
    (ran : run (analytics requests merge) Analytics.start schedule = some s) :
    Steady requests known seeds s := by
  have quiet : ∀ move ∈ schedule, move.step? = none := List.filterMap_eq_nil_iff.mp ingestionOnly
  have kept : Ingested requests known s.platform ∧ s.tables = Tables.empty ∧ s.execution = none := by
    refine run_preserves_throughout (I := fun s =>
      Ingested requests known s.platform ∧ s.tables = Tables.empty ∧ s.execution = none)
      (fun s move s' kept ingests stepped => ?_) ⟨ingested_start, rfl, rfl⟩ (throughout_of_events quiet) ran
    cases move with
    | model step => cases ingests
    | ingestion i e =>
      obtain ⟨platform, moved, same⟩ := Option.map_eq_some_iff.mp stepped
      cases same
      exact ⟨kept.1.step catalog mine moved, kept.2⟩
  obtain ⟨ingested, tables, execution⟩ := kept
  have noFacts : s.facts = [] := by
    unfold Analytics.facts
    rw [tables]
    rfl
  refine ⟨ingested, ?_, ?_, ?_⟩
  · rw [tables]
    exact ⟨nofun, nofun, nofun, nofun, nofun, nofun⟩
  · rw [noFacts]
    exact fun _ => .inl rfl
  · rw [execution]
    exact nofun

end Steps

/-- The last build: the seeds and the dimensions, then `fct_trips`, while no ingestion commits. -/
structure FinalBuild {Client : Type} [Fintype Client] [DecidableEq Client] (requests : Client → Request)
    (merge : List FactTrip → List FactTrip → List FactTrip) (s : Analytics Client)
    (schedule : List (Move Client)) : Prop where
  steps : ∃ prepared fullRefresh, modelSteps schedule = prepared ++ [.startFacts fullRefresh, .commitFacts] ∧
    (∀ step ∈ prepared, step.prepares = true) ∧
      .dimZone ∈ prepared ∧ .dimVendor ∈ prepared ∧ .dimDate ∈ prepared
  quiet : Throughout (analytics requests merge) (fun s move => ∀ s', analytics requests merge s move = some s' →
    s'.platform.committed = s.platform.committed) s schedule

/-- The table is what a full refresh would make of it now, and its date keys are zero only for null times. -/
structure Analytics.Refreshed {Client : Type} (seeds : Seeds) (s : Analytics Client) : Prop where
  dimensions : s.tables.dimensions = some (seeds.dimensions s.platform.committed)
  facts : s.facts.Perm (seeds.fullRefresh s.platform.committed)
  dateKeys : ∀ fact ∈ s.facts, fact.DateKeys

/-- Where the last build stands, by the steps that it has still to run. -/
inductive Finishing {Client : Type} (seeds : Seeds) (s : Analytics Client) : List ModelStep → Prop
  | preparing {prepared : List ModelStep} {fullRefresh : Bool}
      (prepares : ∀ step ∈ prepared, step.prepares = true)
      (dates : .dimDate ∈ prepared ∨ s.tables.dimDate = some (dimDate s.platform.committed)) :
      Finishing seeds s (prepared ++ [.startFacts fullRefresh, .commitFacts])
  | executing {x : Execution} (running : s.execution = some x) (snapshot : x.db = s.platform.committed)
      (dates : x.dims.dates = dimDate s.platform.committed)
      (built : s.tables.dimensions = some (seeds.dimensions s.platform.committed)) :
      Finishing seeds s [.commitFacts]
  | finished (facts : s.facts.Perm (seeds.fullRefresh s.platform.committed))
      (built : s.tables.dimensions = some (seeds.dimensions s.platform.committed)) : Finishing seeds s []

section Final

variable {Client : Type} {requests : Client → Request} {known : SourceFileMetadata → Prop}
  {merge : List FactTrip → List FactTrip → List FactTrip} {seeds : Seeds} {s s' : Analytics Client}

theorem Execution.dated_now {x : Execution} {db : Database} (snapshot : x.db = db)
    (dates : x.dims.dates = dimDate db) : x.Dated := by
  intro trip member
  rw [dates, ← snapshot]
  exact datedBy_own (Execution.trips_subset member)

theorem Finishing.dated {step : ModelStep} {rest : List ModelStep}
    (finishing : Finishing seeds s (step :: rest)) : s.Dated (.model step) := by
  generalize same : step :: rest = steps at finishing
  cases finishing with
  | @preparing prepared fullRefresh prepares dates =>
    cases prepared with
    | nil => cases same; exact True.intro
    | cons head prepared =>
      cases same
      have prepares := prepares step (by simp)
      cases step <;> first | exact True.intro | cases prepares
  | executing running snapshot dates built =>
    cases same
    intro x executing
    cases running.symm.trans executing
    exact Execution.dated_now snapshot dates
  | finished facts built => cases same

theorem Analytics.build_frame {step : ModelStep} (built : s.build merge step = some s') :
    s'.platform = s.platform ∧ (step ≠ .dimDate → s'.tables.dimDate = s.tables.dimDate) := by
  cases step with
  | seedVendors | seedRateCodes | seedPaymentTypes | dimZone => cases built; exact ⟨rfl, fun _ => rfl⟩
  | dimDate => cases built; exact ⟨rfl, fun other => absurd rfl other⟩
  | dimVendor | commitFacts | rollbackFacts =>
    obtain ⟨_, -, same⟩ := Option.map_eq_some_iff.mp built
    cases same
    exact ⟨rfl, fun _ => rfl⟩
  | startFacts fullRefresh =>
    simp only [Analytics.build] at built
    split at built
    · cases built
      exact ⟨rfl, fun _ => rfl⟩
    · cases built

theorem Finishing.build {step : ModelStep} {rest : List ModelStep}
    (finishing : Finishing seeds s (step :: rest)) (steady : Steady requests known seeds s)
    (documented : DeleteInsert merge) (built : s.build merge step = some s') : Finishing seeds s' rest := by
  generalize same : step :: rest = steps at finishing
  cases finishing with
  | @preparing prepared fullRefresh prepares dates =>
    cases prepared with
    | cons head prepared =>
      cases same
      obtain ⟨platform, others⟩ := Analytics.build_frame built
      refine .preparing (fun other member => prepares other (List.mem_cons_of_mem _ member)) ?_
      by_cases isDate : step = .dimDate
      · rw [isDate] at built
        cases built
        exact .inr rfl
      · rw [platform, others isDate]
        refine dates.imp_left fun member => ?_
        exact (List.mem_cons.mp member).resolve_left fun same => isDate same.symm
    | nil =>
      cases same
      have fresh := dates.resolve_left List.not_mem_nil
      simp only [Analytics.build] at built
      split at built
      · rename_i dims idle joined
        cases built
        have dates : dims.dates = dimDate s.platform.committed :=
          Option.some.inj ((Tables.dimensions_some joined).1.symm.trans fresh)
        have same : dims = seeds.dimensions s.platform.committed := by
          rw [steady.tables.dimensions joined, dates]
          rfl
        exact .executing rfl rfl dates (same ▸ joined)
      · cases built
  | @executing x running snapshot dates dims =>
    cases same
    obtain ⟨_, running', same⟩ := Option.map_eq_some_iff.mp built
    cases running.symm.trans running'
    cases same
    have refreshed := (steady.execution x running).refreshed (Execution.dated_now snapshot dates) documented
    rw [snapshot] at refreshed
    exact .finished refreshed dims
  | finished facts dims => cases same

variable [Fintype Client] [DecidableEq Client]

theorem Finishing.quiet {steps : List ModelStep} {i : Client} {e : Event} (finishing : Finishing seeds s steps)
    (stepped : analytics requests merge s (.ingestion i e) = some s')
    (unchanged : s'.platform.committed = s.platform.committed) : Finishing seeds s' steps := by
  obtain ⟨platform, moved, same⟩ := Option.map_eq_some_iff.mp stepped
  cases same
  cases finishing with
  | preparing prepares dates => exact .preparing prepares (by rwa [unchanged])
  | executing running snapshot dates dims =>
    exact .executing running (by rwa [unchanged]) (by rwa [unchanged]) (by rwa [unchanged])
  | finished facts dims => exact .finished (by rwa [unchanged]) (by rwa [unchanged])

/-- The last build ends refreshed, wherever steady builds have left the warehouse. -/
theorem Finishing.run (documented : DeleteInsert merge) (catalog : Catalog known) (serviced : Serviced known)
    (mine : ∀ i, known (requests i).metadata) {schedule : List (Move Client)}
    (loads : ∀ step ∈ modelSteps schedule, seeds.Loads step)
    (version : Always (analytics requests merge) (·.platform.committed.loadedZoneVersions = 1) s schedule)
    (quiet : Throughout (analytics requests merge) (fun s move => ∀ s',
      analytics requests merge s move = some s' → s'.platform.committed = s.platform.committed) s schedule)
    (steady : Steady requests known seeds s) (finishing : Finishing seeds s (modelSteps schedule))
    (ran : run (analytics requests merge) s schedule = some s') : Finishing seeds s' [] := by
  induction schedule generalizing s with
  | nil => cases ran; exact finishing
  | cons move rest ih =>
    obtain ⟨next, stepped, ranRest⟩ := run_cons.mp ran
    obtain ⟨unchanged, quietRest⟩ := quiet _ stepped
    have version_after := version.2 _ stepped
    cases move with
    | ingestion i e =>
      have unconditional : s.Dated (.ingestion i e) := True.intro
      have steady' := steady.step documented catalog serviced mine version.1 version_after.head
        (fun _ absent => by cases absent) unconditional stepped
      exact ih loads version_after quietRest steady' (finishing.quiet stepped (unchanged _ stepped)) ranRest
    | model step =>
      have steady' := steady.build documented (loads step (by simp [modelSteps, Move.step?]))
        finishing.dated stepped
      have loads' : ∀ step ∈ modelSteps rest, seeds.Loads step :=
        fun other member => loads other (List.mem_cons_of_mem _ member)
      exact ih loads' version_after quietRest steady' (finishing.build steady documented stepped) ranRest

theorem steady_run (documented : DeleteInsert merge) (catalog : Catalog known) (serviced : Serviced known)
    (mine : ∀ i, known (requests i).metadata) {schedule : List (Move Client)}
    (loads : ∀ step ∈ modelSteps schedule, seeds.Loads step)
    (version : Always (analytics requests merge) (·.platform.committed.loadedZoneVersions = 1) s schedule)
    (dated : Throughout (analytics requests merge) Analytics.Dated s schedule)
    (steady : Steady requests known seeds s)
    (ran : run (analytics requests merge) s schedule = some s') : Steady requests known seeds s' := by
  have ofSeeds : ∀ move ∈ schedule, ∀ step ∈ move.step?, seeds.Loads step := fun move member step ofMove =>
    loads step (List.mem_filterMap.mpr ⟨move, member, ofMove⟩)
  have conditions := (version.throughout.and (throughout_of_events ofSeeds)).and dated
  refine run_preserves_throughout (fun s move s' steady conditions stepped => ?_) steady conditions ran
  exact steady.step documented catalog serviced mine conditions.1.1.1 (conditions.1.1.2 _ stepped)
    conditions.1.2 conditions.2 stepped

end Final

/-- Loads, with them any builds over seeds that stay and one loaded version of the zones, and a last build. -/
structure BuildHistory {Client : Type} [Fintype Client] [DecidableEq Client] (requests : Client → Request)
    (merge : List FactTrip → List FactTrip → List FactTrip) (seeds : Seeds)
    (loads builds last : List (Move Client)) (s₀ s₁ s : Analytics Client) : Prop where
  ingestionOnly : modelSteps loads = []
  loaded : run (analytics requests merge) Analytics.start loads = some s₀
  built : run (analytics requests merge) s₀ builds = some s₁
  final : run (analytics requests merge) s₁ last = some s
  finalBuild : FinalBuild requests merge s₁ last
  seeded : ∀ step ∈ modelSteps (builds ++ last), seeds.Loads step
  zones : Always (analytics requests merge) (·.platform.committed.loadedZoneVersions = 1) s₀ (builds ++ last)

/-- An incremental table equals its full refresh after the last build, when every earlier execution of
    `fct_trips` joined a `dim_date` with all the dates of the trips that it added. -/
theorem fct_trips_refreshed_when_dated {Client : Type} [Fintype Client] [DecidableEq Client]
    {requests : Client → Request} (readers : Readers) (source : Client → SourcePartition)
    (content : Client → Bytes) (resolved : ∀ i, Resolved (source i))
    (inspected : ∀ i, inspectSource readers (source i) (content i) = .ok (requests i).metadata)
    (collisionFree : ∀ i j,
      readers.sha256 (content i) = readers.sha256 (content j) → content i = content j)
    {merge : List FactTrip → List FactTrip → List FactTrip} (documented : DeleteInsert merge) {seeds : Seeds}
    {loads builds last : List (Move Client)} {s₀ s₁ s : Analytics Client}
    (history : BuildHistory requests merge seeds loads builds last s₀ s₁ s)
    (dated : Throughout (analytics requests merge) Analytics.Dated s₀ builds) : s.Refreshed seeds := by
  have catalog := inspected_catalog resolved inspected collisionFree
  have mine : ∀ i, ∃ j, (requests j).metadata = (requests i).metadata := fun i => ⟨i, rfl⟩
  obtain ⟨zonesBefore, zonesLast⟩ := history.zones.append history.built
  have seeded : ∀ {schedule}, schedule = builds ∨ schedule = last →
      ∀ step ∈ modelSteps schedule, seeds.Loads step := by
    intro schedule part step member
    refine history.seeded step ?_
    unfold modelSteps at member ⊢
    rw [List.filterMap_append, List.mem_append]
    rcases part with rfl | rfl
    · exact .inl member
    · exact .inr member
  have steady := steady_run documented catalog (inspected_serviced resolved inspected) mine
    (seeded (.inl rfl)) zonesBefore dated (steady_ingested catalog mine history.ingestionOnly history.loaded)
    history.built
  obtain ⟨prepared, fullRefresh, steps, prepares, -, -, dates⟩ := history.finalBuild.steps
  have finishing : Finishing seeds s₁ (modelSteps last) := by
    rw [steps]
    exact .preparing prepares (.inl dates)
  have finished := finishing.run documented catalog (inspected_serviced resolved inspected) mine
    (seeded (.inr rfl)) zonesLast history.finalBuild.quiet steady history.final
  generalize none_left : ([] : List ModelStep) = steps at finished
  cases finished with
  | @preparing prepared _ => cases prepared <;> cases none_left
  | executing => cases none_left
  | finished facts built =>
    exact ⟨built, facts, fun fact member => seeds.fullRefresh_dateKeys (facts.mem_iff.mp member)⟩

theorem quiet_dbtRun {steps : List ModelStep} {requests : Fin 2 → Request}
    {merge : List FactTrip → List FactTrip → List FactTrip} {s : Analytics (Fin 2)} :
    Throughout (analytics requests merge) (fun s move => ∀ s', analytics requests merge s move = some s' →
      s'.platform.committed = s.platform.committed) s (dbtRun steps) := by
  have modelOnly : ∀ move ∈ (dbtRun steps), ∃ step, move = .model step := by
    intro move member
    obtain ⟨step, -, same⟩ := List.mem_map.mp member
    exact ⟨step, same.symm⟩
  refine (throughout_of_events modelOnly).mono fun s move isModel s' stepped => ?_
  obtain ⟨step, rfl⟩ := isModel
  rw [(Analytics.build_frame stepped).1]

/-- The seeds and the dimensions, in one of the orders that dbt may choose. -/
def preparation : List ModelStep :=
  [.seedVendors tlcSeeds.vendors, .seedRateCodes tlcSeeds.rateCodes, .seedPaymentTypes tlcSeeds.paymentTypes,
    .dimZone, .dimVendor, .dimDate]

def buildSteps : List ModelStep := preparation ++ [.startFacts false, .commitFacts]

theorem buildSteps_final {requests : Fin 2 → Request} {merge : List FactTrip → List FactTrip → List FactTrip}
    {s : Analytics (Fin 2)} : FinalBuild requests merge s (dbtRun buildSteps) :=
  ⟨⟨preparation, false, rfl, by decide, by simp [preparation], by simp [preparation], by simp [preparation]⟩,
    quiet_dbtRun⟩

/-- A history of the zones and one file of trips, told by its builds up to the last one. -/
theorem twoBuilds_history {builds : List (Move (Fin 2))}
    (runs : (run (analytics zonesAndTrips deleteInsert) Analytics.start
      (zonesFirst ++ (builds ++ dbtRun buildSteps))).isSome = true)
    (seeded : ∀ step ∈ modelSteps (builds ++ dbtRun buildSteps), tlcSeeds.Loads step)
    (zones : ∀ s ∈ run (analytics zonesAndTrips deleteInsert) Analytics.start zonesFirst,
      Always (analytics zonesAndTrips deleteInsert) (·.platform.committed.loadedZoneVersions = 1) s
        (builds ++ dbtRun buildSteps)) :
    ∃ s₀ s₁ s, run (analytics zonesAndTrips deleteInsert) Analytics.start zonesFirst = some s₀ ∧
      BuildHistory zonesAndTrips deleteInsert tlcSeeds zonesFirst builds (dbtRun buildSteps) s₀ s₁ s := by
  obtain ⟨s, ran⟩ := Option.isSome_iff_exists.mp runs
  obtain ⟨s₀, loaded, ran⟩ := run_append.mp ran
  obtain ⟨s₁, built, ran⟩ := run_append.mp ran
  exact ⟨s₀, s₁, s, loaded, rfl, loaded, built, ran, buildSteps_final, seeded, zones s₀ loaded⟩

set_option maxRecDepth 10000 in
theorem earlyTrips_refreshed :
    ∃ s₀ s₁ s, BuildHistory zonesAndTrips deleteInsert tlcSeeds zonesFirst
        (ingestFile 1 yellowFile 9 ++ dbtRun buildSteps) (dbtRun buildSteps) s₀ s₁ s ∧
      s.Refreshed tlcSeeds := by
  obtain ⟨s₀, s₁, s, loaded, history⟩ := @twoBuilds_history (ingestFile 1 yellowFile 9 ++ dbtRun buildSteps)
    (by decide) (by decide) (by decide)
  have dated : ∀ s ∈ run (analytics zonesAndTrips deleteInsert) Analytics.start zonesFirst,
      Throughout (analytics zonesAndTrips deleteInsert) Analytics.Dated s
        (ingestFile 1 yellowFile 9 ++ dbtRun buildSteps) := by decide
  exact ⟨s₀, s₁, s, history, fct_trips_refreshed_when_dated tripReaders zonesAndTripsSource
    zonesAndTripsContent zonesAndTrips_resolved zonesAndTrips_inspected zonesAndTrips_collisionFree
    (fun _ _ => .refl _) history (dated s₀ loaded)⟩

/-- A build in which a load commits after `dim_date` and before `fct_trips`. -/
def lateTrips : List (Move (Fin 2)) :=
  dbtRun preparation ++ ingestFile clientTwo yellowFile 9 ++ dbtRun [.startFacts false, .commitFacts]

set_option maxRecDepth 10000 in
/-- The late trips keep date key zero for a known date, and no later build revisits them. -/
theorem lateTrips_not_refreshed :
    (∀ i, Resolved (zonesAndTripsSource i)) ∧
      (∀ i, inspectSource tripReaders (zonesAndTripsSource i) (zonesAndTripsContent i) =
        .ok (zonesAndTrips i).metadata) ∧
      ∃ s₀ s₁ s, BuildHistory zonesAndTrips deleteInsert tlcSeeds zonesFirst lateTrips (dbtRun buildSteps)
        s₀ s₁ s ∧ ¬ s.Refreshed tlcSeeds := by
  refine ⟨zonesAndTrips_resolved, zonesAndTrips_inspected, ?_⟩
  obtain ⟨s₀, s₁, s, loaded, history⟩ := @twoBuilds_history lateTrips (by decide) (by decide) (by decide)
  refine ⟨s₀, s₁, s, history, fun refreshed => ?_⟩
  have stale : ∀ s ∈ run (analytics zonesAndTrips deleteInsert) Analytics.start
      (zonesFirst ++ (lateTrips ++ dbtRun buildSteps)),
      ∃ fact ∈ s.facts, fact.pickupDateKey = 0 ∧ fact.pickupDatetime ≠ none := by decide
  have ran := run_append.mpr ⟨s₀, loaded, run_append.mpr ⟨s₁, history.built, history.final⟩⟩
  obtain ⟨fact, member, zero, known⟩ := stale s ran
  exact known ((refreshed.dateKeys fact member).pickup.mp zero)

end TaxiPipeline
