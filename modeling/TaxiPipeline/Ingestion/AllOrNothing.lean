import Mathlib.Data.Fintype.Basic
import TaxiPipeline.Ingestion.Loads

namespace TaxiPipeline

open ReadCommitted

section Step

variable {known : SourceFileMetadata → Prop} {metadata : SourceFileMetadata} {db db' : Database}

theorem Database.LoadsExact.addRun (exact_loads : db.LoadsExact) {run : PipelineRun}
    (unfinished : run.status ≠ .succeeded) : (db.addRun run).LoadsExact := by
  have same : ∀ sourceFileId, db.SameLoads (db.addRun run) sourceFileId := fun _ =>
    ⟨fun _ => rfl, Database.succeededRuns_addRun unfinished⟩
  exact ⟨fun got loaded => (same _).fullyLoaded (exact_loads.loaded got loaded),
    fun idle => (same _).untouched (exact_loads.untouched idle)⟩

/-- Every transaction keeps loads exact, when its unique constraints hold. -/
theorem CommitStep.loadsExact (step : CommitStep metadata db db') (catalog : Catalog known)
    (mine : known metadata) (described : Described known db) (nodup : db.index.Nodup)
    (nodup_after : db'.index.Nodup) (exact_loads : db.LoadsExact) : db'.LoadsExact := by
  cases step with
  | nothing => exact exact_loads
  | registered fits checks chosen =>
    constructor
    · intro sourceFileId row got loaded
      rcases Database.getSourceFile_added got with old | rfl
      · exact exact_loads.loaded old loaded
      · rcases chosen with rfl | ⟨rfl, -⟩ <;> cases loaded
    · intro sourceFileId idle
      exact exact_loads.untouched fun row got =>
        idle row (Database.getSourceFile_addSourceFile_of_some _ got)
  | started held shown => exact exact_loads.addRun nofun
  | skipped held shown => exact exact_loads.addRun nofun
  | loaded held got ofSource running counted =>
    exact counted.commit_loadsExact catalog mine described nodup nodup_after exact_loads held got
      ofSource running
  | @failed runId message now run got running =>
    have same : ∀ sourceFileId, db.SameLoads (db.updateRun runId (·.markFailed now message)) sourceFileId :=
      fun _ => ⟨fun _ => rfl, Database.succeededRuns_updateRun nodup got running (.inr nofun)⟩
    exact ⟨fun got loaded => (same _).fullyLoaded (exact_loads.loaded got loaded),
      fun idle => (same _).untouched (exact_loads.untouched idle)⟩

theorem loadsExact_empty : Database.empty.LoadsExact :=
  ⟨nofun, fun _ => ⟨fun _ => rfl, rfl⟩⟩

theorem described_empty (known : SourceFileMetadata → Prop) : Described known Database.empty :=
  nofun

end Step

variable {Client : Type} {requests : Client → Request}

/-- The metadata of inspected landing files form a catalog, as long as their checksums tell
    their contents apart. -/
theorem inspected_catalog {readers : Readers} {source : Client → SourcePartition}
    {content : Client → Bytes} (resolved : ∀ i, Resolved (source i))
    (inspected : ∀ i, inspectSource readers (source i) (content i) = .ok (requests i).metadata)
    (collisionFree : ∀ i j,
      readers.sha256 (content i) = readers.sha256 (content j) → content i = content j) :
    Catalog fun metadata => ∃ i, (requests i).metadata = metadata where
  dataset := by
    rintro _ _ ⟨i, rfl⟩ ⟨j, rfl⟩ partition
    obtain ⟨-, foundI, -, metadataI⟩ := inspectSource_ok (inspected i)
    obtain ⟨-, foundJ, -, metadataJ⟩ := inspectSource_ok (inspected j)
    rw [metadataI, metadataJ] at partition ⊢
    exact ((resolved i).dataset_of_partition (resolved j) partition).1
  rowCount := by
    rintro _ _ ⟨i, rfl⟩ ⟨j, rfl⟩ partition checksum
    obtain ⟨-, foundI, structureI, metadataI⟩ := inspectSource_ok (inspected i)
    obtain ⟨-, foundJ, structureJ, metadataJ⟩ := inspectSource_ok (inspected j)
    rw [metadataI, metadataJ] at partition checksum ⊢
    have sameContent := collisionFree i j checksum
    obtain ⟨sameDataset, sameFormat⟩ := (resolved i).dataset_of_partition (resolved j) partition
    have sameStructure : inspectStructure readers (source i) (content i) =
        inspectStructure readers (source j) (content j) := by
      unfold inspectStructure
      rw [sameContent, sameFormat, sameDataset]
    rw [structureI, structureJ] at sameStructure
    cases sameStructure
    rfl
  nonempty := by
    rintro _ rows ⟨i, rfl⟩ count
    obtain ⟨-, found, structure_ok, metadata⟩ := inspectSource_ok (inspected i)
    rw [metadata] at count
    have positive := inspectStructure_pos structure_ok
    have same := Int.ofNat.inj (Option.some.inj count)
    omega

/-- A coherent state whose sources are described by known metadata and exactly loaded. -/
structure Ingested (requests : Client → Request) (known : SourceFileMetadata → Prop)
    (s : Platform Client) : Prop where
  coherent : Coherent requests s
  described : Described known s.committed
  loads : s.committed.LoadsExact

theorem ingested_start {known : SourceFileMetadata → Prop} : Ingested requests known startState :=
  ⟨coherent_start requests, described_empty known, loadsExact_empty⟩

variable [Fintype Client] [DecidableEq Client]

theorem Ingested.step {known : SourceFileMetadata → Prop} (catalog : Catalog known)
    (mine : ∀ i, known (requests i).metadata) {s s' : Platform Client} {i : Client} {e : Event}
    (ingested : Ingested requests known s) (stepped : (ingestion requests).step s i e = some s') :
    Ingested requests known s' := by
  have step := ingested.coherent.commitStep stepped
  have coherent := ingested.coherent.step stepped
  exact ⟨coherent, step.described (mine i) ingested.described, step.loadsExact catalog (mine i)
    ingested.described ingested.coherent.distinct.committed coherent.distinct.committed ingested.loads⟩

theorem ingested_run {known : SourceFileMetadata → Prop} (catalog : Catalog known)
    (mine : ∀ i, known (requests i).metadata) {schedule : List (Client × Event)} {s : Platform Client}
    (ran : (ingestion requests).run startState schedule = some s) : Ingested requests known s :=
  Program.run_preserves (fun _ _ _ _ ingested stepped => ingested.step catalog mine stepped)
    ingested_start ran

/-- All-or-nothing loading: in every reachable state a loaded source has exactly one succeeded run and
    exactly its file's rows, and any other source has no rows and no succeeded run. -/
theorem sources_load_all_or_nothing (readers : Readers) (source : Client → SourcePartition)
    (content : Client → Bytes) (resolved : ∀ i, Resolved (source i))
    (inspected : ∀ i, inspectSource readers (source i) (content i) = .ok (requests i).metadata)
    (collisionFree : ∀ i j,
      readers.sha256 (content i) = readers.sha256 (content j) → content i = content j)
    {schedule : List (Client × Event)} {s : Platform Client}
    (ran : (ingestion requests).run startState schedule = some s) :
    ∀ row ∈ s.committed.sourceFiles,
      (row.status = .loaded → s.committed.FullyLoaded row) ∧
        (row.status ≠ .loaded → s.committed.Untouched row.sourceFileId) := by
  have catalog := inspected_catalog resolved inspected collisionFree
  have ingested := ingested_run catalog (fun i => ⟨i, rfl⟩) ran
  have exact_loads := ingested.loads
  have nodup := ingested.coherent.distinct.committed
  intro row member
  have got := Database.getSourceFile_of_mem nodup member
  refine ⟨exact_loads.loaded got, fun notLoaded => exact_loads.untouched fun other gotOther => ?_⟩
  cases got.symm.trans gotOther
  exact notLoaded

def zoneFile : LandingFile
  | .taxiZones => [[⟨1, some "EWR", some "Newark Airport", some "EWR"⟩,
      ⟨2, some "Queens", some "Jamaica Bay", some "Boro Zone"⟩]]
  | _ => []

def yellowSource : SourcePartition where
  datasetName := "yellow_tripdata"
  serviceType := some "yellow"
  year := some 2025
  month := some 1
  partitionKey := "yellow/2025/01"
  sourceUrl := tlcBaseUrl ++ "/trip-data/yellow_tripdata_2025-01.parquet"
  landingPath := "data/landing/yellow/2025/01.parquet"
  sourceFormat := "parquet"

def yellowMetadata : SourceFileMetadata where
  datasetName := "yellow_tripdata"
  serviceType := some "yellow"
  year := some 2025
  month := some 1
  partitionKey := "yellow/2025/01"
  sourceUrl := yellowSource.sourceUrl
  landingPath := yellowSource.landingPath
  sourceFormat := "parquet"
  checksumSha256 := 1
  fileSizeBytes := 1
  rowCount := some 1
  schemaFingerprint := some 0
  schemaVersion := some "yellow_v1"

/-- Readers for which a CSV file is a zone lookup of two rows and a Parquet file has one Yellow trip. -/
def tripReaders : Readers where
  sha256 := zoneReaders.sha256
  parquetFile := fun _ => .ok (yellowBaselineTypes.map fun (name, type) => ⟨name, type, true⟩, 1)
  readCsv := zoneReaders.readCsv
  schemaFingerprint := zoneReaders.schemaFingerprint

def newYear : DateTime := Date.midnight ⟨2025, 1, 1, by decide, by decide, by decide⟩

def yellowFile : LandingFile
  | .yellowTrips => [[{
      vendorId := some 1
      pickupDatetime := some newYear
      dropoffDatetime := none
      passengerCount := some 1
      tripDistance := none
      rateCodeId := some 1
      storeAndFwdFlag := none
      pickupLocationId := some 1
      dropoffLocationId := none
      paymentType := none
      fareAmount := none
      extra := none
      mtaTax := none
      tipAmount := none
      tollsAmount := none
      improvementSurcharge := none
      totalAmount := none
      congestionSurcharge := none
      airportFee := none
      cbdCongestionFee := none }]]
  | _ => []

/-- The two clients of the schedules below. -/
def clientOne : Fin 2 := 0

def clientTwo : Fin 2 := 1

/-- The next `n` statements of one client. -/
def turns (i : Fin 2) (n : Nat) : List (Fin 2 × Event) := List.replicate n (i, .next 0)

/-- Both calls are told to proceed; the second meets the first one's rows and fails. -/
def competingLoads : List (Fin 2 × Event) :=
  turns clientOne 8 ++ turns clientTwo 6 ++ (clientOne, .openFile 1 zoneFile) :: turns clientOne 11 ++
    (clientTwo, .openFile 1 zoneFile) :: turns clientTwo 5

set_option maxRecDepth 10000 in
theorem competingLoads_all_or_nothing :
    ∃ s, (ingestion fun _ : Fin 2 => .ingest zoneMetadata 1).run startState competingLoads = some s ∧
      ∀ row ∈ s.committed.sourceFiles, (row.status = .loaded → s.committed.FullyLoaded row) ∧
        (row.status ≠ .loaded → s.committed.Untouched row.sourceFileId) := by
  have runs : ((ingestion fun _ : Fin 2 => .ingest zoneMetadata 1).run startState
      competingLoads).isSome = true := by decide +kernel
  obtain ⟨s, ran⟩ := Option.isSome_iff_exists.mp runs
  exact ⟨s, ran, sources_load_all_or_nothing zoneReaders (fun _ => taxiZoneSource)
    (fun _ => [1, 2, 3]) (fun _ => .zones) (fun _ => rfl) (fun _ _ _ => rfl) ran⟩

end TaxiPipeline
