import TaxiPipeline.Operations.DurableStorage

namespace TaxiPipeline

open ObjectStore ReadCommitted Stateful StorageAction Transaction

/-- What `register` has answered, as the database has it. -/
structure SourceRegistrationResult.Stands (registration : SourceRegistrationResult) (metadata : SourceFileMetadata)
    (db : Database) : Prop where
  version : ∃ row, db.getSourceFile registration.sourceFileId = some row ∧ row.partitionKey = metadata.partitionKey ∧
    row.checksumSha256 = metadata.checksumSha256 ∧ row.status = registration.sourceStatus
  decision : registration.decision = decisionForSourceStatus registration.sourceStatus

/-- Whether the file of a row is in the landing area. -/
def Landing.has (landing : Landing) (row : SourceFile) : Bool :=
  match landing.file row.landingPath with
  | .ok (some _) => true
  | _ => false

/-- What `verify_bucket` has reported, as the bucket has it. -/
structure BucketReport.Stands (report : BucketReport) (safeguards : BucketSafeguards) : Prop where
  versioned : safeguards.versioning = .ok (some "Enabled") ∧ report.versioning = "Enabled"
  blocked : safeguards.publicAccess = .ok ⟨true, true, true, true⟩ ∧ report.publicAccess = "blocked"
  encrypted : ∃ others, safeguards.encryption = .ok (report.encryption :: others)

section Sources

variable {setup : StorageSetup} {backend : LandingBackend} {contents : Set Bytes} {w w' : Workspace}
  {source : SourcePartition} {run : CommandRun} {action : SourceAction} {report : CommandReport}
  {metadata : SourceFileMetadata} {s : Session} {storage : StorageResult} {row : SourceFile}

/-- Storage metadata is all that persisting changes. -/
theorem persisted_got {sourceFileId : Nat} (s : Session) (other : Nat) (storage : StorageResult)
    (got : s.db.getSourceFile sourceFileId = some row) :
    ∃ row', (s.persisted other storage).db.getSourceFile sourceFileId = some row' ∧
      row'.partitionKey = row.partitionKey ∧ row'.checksumSha256 = row.checksumSha256 ∧ row'.status = row.status := by
  have same : ∀ s' : Session, s'.db = s.db → ∃ row', s'.db.getSourceFile sourceFileId = some row' ∧
      row'.partitionKey = row.partitionKey ∧ row'.checksumSha256 = row.checksumSha256 ∧ row'.status = row.status :=
    fun s' is_db => ⟨row, by rw [is_db]; exact got, rfl, rfl, rfl⟩
  have meets : (persistStorageMetadata other storage).Meets s
      (fun _ s' => ∃ row', s'.db.getSourceFile sourceFileId = some row' ∧ row'.partitionKey = row.partitionKey ∧
        row'.checksumSha256 = row.checksumSha256 ∧ row'.status = row.status)
      fun _ s' => ∃ row', ({ s' with db := s.db } : Session).db.getSourceFile sourceFileId = some row' ∧
        row'.partitionKey = row.partitionKey ∧ row'.checksumSha256 = row.checksumSha256 ∧ row'.status = row.status := by
    refine (persistStorageMetadata_meets s other storage).mono (fun _ s' persisted => ?_) fun _ s' _ => same _ rfl
    subst persisted
    refine ⟨_, (Database.getSourceFile_updateSourceFile fun row => (mergeStorageMetadata_same storage row).1).trans
      (by rw [got]; rfl), ?_⟩
    dsimp only
    split
    · obtain ⟨-, partition, checksum, status, -⟩ := mergeStorageMetadata_same storage row
      exact ⟨partition, checksum, status⟩
    · exact ⟨rfl, rfl, rfl⟩
  exact (meets_atomically meets).ends

theorem persisted_runs (s : Session) (other : Nat) (storage : StorageResult) :
    (s.persisted other storage).db.pipelineRuns = s.db.pipelineRuns := by
  have meets : (persistStorageMetadata other storage).Meets s (fun _ s' => s'.db.pipelineRuns = s.db.pipelineRuns)
      fun _ s' => ({ s' with db := s.db } : Session).db.pipelineRuns = s.db.pipelineRuns :=
    (persistStorageMetadata_meets s other storage).mono (fun _ s' persisted => by subst persisted; rfl) fun _ _ _ => rfl
  exact (meets_atomically meets).ends

theorem IngestionResult.Backed.persisted {result : IngestionResult} (backed : result.Backed metadata s.db) (other : Nat)
    (storage : StorageResult) : result.Backed metadata (s.persisted other storage).db where
  partitionKey := backed.partitionKey
  version := by
    obtain ⟨row, got, partition, checksum, status⟩ := backed.version
    obtain ⟨row', got', partition', checksum', status'⟩ := persisted_got s other storage got
    exact ⟨row', got', partition'.trans partition, checksum'.trans checksum, status'.trans status⟩
  run := by
    have runs := persisted_runs s other storage
    unfold Database.getRun
    rw [runs]
    exact backed.run
  status := backed.status
  rowsLoaded := backed.rowsLoaded

theorem SourceRegistrationResult.Stands.persisted {registration : SourceRegistrationResult}
    (stands : registration.Stands metadata s.db) (other : Nat) (storage : StorageResult) :
    registration.Stands metadata (s.persisted other storage).db where
  version := by
    obtain ⟨row, got, partition, checksum, status⟩ := stands.version
    obtain ⟨row', got', partition', checksum', status'⟩ := persisted_got s other storage got
    exact ⟨row', got', partition'.trans partition, checksum'.trans checksum, status'.trans status⟩
  decision := stands.decision

end Sources

section Storage

variable {setup : StorageSetup} {contents : Set Bytes} {d d' : Deployment} {w w' : Workspace} {row : SourceFile}
  {backend : LandingBackend} {clock : Nat → Timestamp} {run : CommandRun} {report : CommandReport}
  {built : Except PyException LandingBackend}

theorem Deployment.Custody.verified (custody : d.Custody setup contents)
    (got : d.session.db.getSourceFile row.sourceFileId = some row) (s3 : row.storageBackend = "s3") :
    row.Verified d.bucket row.storageUri := by
  obtain ⟨key, object, has, -, -⟩ := custody.held row (getSourceFile_some got).1 s3
  exact ⟨s3, rfl, key, object, has⟩

/-- The rows done so far whose files are there are stored, and counted. -/
structure Deployment.SyncedSome (d : Deployment) (setup : StorageSetup) (contents : Set Bytes) (done : List SourceFile)
    (count : Nat) (d' : Deployment) : Prop where
  maintains : d.Maintains setup contents d'
  count : count = done.countP d.landing.has
  stored : ∀ row ∈ done, d.landing.has row = true →
    ∃ row', d'.session.db.getSourceFile row.sourceFileId = some row' ∧ row'.storageBackend = "s3"

theorem Deployment.SyncedSome.turn {done : List SourceFile} {results : List (Nat × StorageResult)}
    (within : ∀ path content, d.landing.files path = some content → content ∈ contents)
    (synced : d.SyncedSome setup contents done results.length d') (row : SourceFile) :
    (syncIfPresent setup backend clock results row).Meets d'
      (fun results' d'' => d.SyncedSome setup contents (done ++ [row]) results'.length d'') fun _ _ => True := by
  have landing := synced.maintains.landing
  unfold syncIfPresent
  refine .bind (.of_ok rfl (.bind (Attempt.meets_lift (fun file found => ?_) fun _ _ => True.intro)))
  rw [landing] at found
  have counted : ∀ present : Bool, d.landing.has row = present → (done ++ [row]).countP d.landing.has =
      done.countP d.landing.has + if present then 1 else 0 := by
    intro present is_present
    rw [List.countP_append, List.countP_singleton, is_present]
  cases file with
  | none =>
    have absent : d.landing.has row = false := by
      unfold Landing.has
      rw [found]
    refine ⟨synced.maintains, synced.count.trans (counted false absent).symm, fun other member present => ?_⟩
    rcases List.mem_append.mp member with old | new
    · exact synced.stored other old present
    · rw [List.mem_singleton.mp new, absent] at present
      cases present
  | some content =>
    have there : d.landing.has row = true := by
      unfold Landing.has
      rw [found]
    have within' : ∀ path content, d'.landing.files path = some content → content ∈ contents := by
      rw [landing]
      exact within
    refine .bind ((syncSource_maintains row.sourceFileId synced.maintains.keeps.custody within').mono
      (fun result d'' after => ?_) fun _ _ _ => True.intro)
    obtain ⟨maintains, row', got, verified⟩ := after
    refine ⟨synced.maintains.trans maintains, ?_, fun other member present => ?_⟩
    · rw [List.length_append, List.length_singleton, synced.count, counted true there, if_pos rfl]
    · rcases List.mem_append.mp member with old | new
      · obtain ⟨row₁, got₁, s3⟩ := synced.stored other old present
        exact maintains.keeps.stored _ row₁ got₁ s3
      · rw [List.mem_singleton.mp new]
        exact ⟨row', got, verified.s3⟩

end Storage

section Commands

variable {setup : StorageSetup} {contents : Set Bytes} {w₀ w w' : Workspace} {run : CommandRun} {command : Command}
  {report : CommandReport} {built : Except PyException LandingBackend} {backend : LandingBackend}

end Commands

end TaxiPipeline
