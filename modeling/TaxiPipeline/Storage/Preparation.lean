import TaxiPipeline.Downloads.Served
import TaxiPipeline.Model.StorageService

namespace TaxiPipeline

open ObjectStore Stateful StorageAction

/-- What `prepare_source` finds around the platform: the value of `DATABASE_URL`, how bodies come in chunks, the
    random part of temporary names, and what the source URLs answer. -/
structure Surroundings where
  databaseUrl : Option String
  chunks : Bytes → List Bytes
  token : List Char
  upstream : String → Except PyException Response

/-- A platform, and the URLs that have been opened from it. -/
structure Workspace where
  deployment : Deployment
  opened : List String

structure PreparedSource where
  metadata : SourceFileMetadata
  storage : StorageResult

abbrev Preparation (α : Type) : Type := Attempt Workspace PyException α

/-- The URL that a request opens. -/
def FileRequest.opens : FileRequest → Option String
  | .openUrl url => some url
  | _ => none

def onFiles {α : Type} (around : Surroundings) (script : FileScript α) : Preparation α := fun w =>
  let served := serve w.deployment.bucket around.chunks around.token around.upstream
  let (result, files, opened) :=
    script.eval (Script.noting FileRequest.opens served) (w.deployment.landing.files, w.opened)
  (result, ⟨{ w.deployment with landing := { w.deployment.landing with files := files } }, opened⟩)

def onDeployment {α : Type} (body : StorageAction α) : Preparation α := fun w =>
  let (result, deployment) := body w.deployment
  (result, { w with deployment := deployment })

theorem onDeployment_apply {α : Type} (body : StorageAction α) (w : Workspace) :
    onDeployment body w = ((body w.deployment).1, { w with deployment := (body w.deployment).2 }) := rfl

/-- The row that `_recover_partition_if_known` selects: the one with the greatest id. -/
def Database.recoverable (db : Database) (partitionKey : String) : Option SourceFile :=
  let rows := db.sourceFiles.filter fun row =>
    row.partitionKey == partitionKey && row.storageBackend == "s3" && row.storageUri.isSome
  (rows.mergeSort fun left right => right.sourceFileId ≤ left.sourceFileId).head?

theorem Database.recoverable_of_backed {db : Database} {row : SourceFile} (member : row ∈ db.sourceFiles)
    (backed : row.storageBackend = "s3") (located : row.storageUri.isSome = true) :
    ∃ chosen, db.recoverable row.partitionKey = some chosen ∧ chosen ∈ db.sourceFiles ∧
      chosen.partitionKey = row.partitionKey ∧ chosen.storageBackend = "s3" := by
  unfold recoverable
  generalize is_rows : (db.sourceFiles.filter fun other => other.partitionKey == row.partitionKey &&
    other.storageBackend == "s3" && other.storageUri.isSome) = rows
  have among : row ∈ rows := by
    rw [← is_rows, List.mem_filter]
    exact ⟨member, by simp [backed, located]⟩
  dsimp only
  cases sorted : rows.mergeSort fun left right => right.sourceFileId ≤ left.sourceFileId with
  | nil => exact absurd (List.mem_mergeSort.mpr among) (sorted ▸ List.not_mem_nil)
  | cons chosen rest =>
    have inRows : chosen ∈ rows := List.mem_mergeSort.mp (sorted ▸ List.mem_cons_self)
    rw [← is_rows, List.mem_filter] at inRows
    simp only [Bool.and_eq_true, beq_iff_eq] at inRows
    exact ⟨chosen, rfl, inRows.1, inRows.2.1.1, inRows.2.1.2⟩

/-- `_recover_partition_if_known`. -/
def recoverPartitionIfKnown (setup : StorageSetup) (around : Surroundings) (partitionKey : String) :
    Preparation Unit := do
  if around.databaseUrl.getD "" = "" then return
  else
    let platform ← onDeployment deployment
    match platform.session.db.recoverable partitionKey with
    | none => return
    | some source =>
      let destination ← Attempt.lift (destinationOf platform.landing.root source.landingPath)
      let _ ← onFiles around
        (setup.materialize source.storageUri destination source.checksumSha256 source.fileSizeBytes)
      return

/-- `storage.store`. -/
def LandingBackend.store (backend : LandingBackend) (setup : StorageSetup) (now : Timestamp)
    (metadata : SourceFileMetadata) (file : Option Bytes) : StorageAction StorageResult :=
  match backend with
  | .s3Landing => onBucket (setup.store now metadata file)
  | .localLanding => do
    let _ ← Attempt.lift (verifyLocal setup.readers file metadata.checksumSha256)
    return localResult now

/-- `inspect_source` on what its path holds. -/
def inspectFile (readers : Readers) (source : SourcePartition) (path : Path) (file : Option Bytes) :
    Except PyException SourceFileMetadata :=
  match file with
  | none => .error (fileNotFound path)
  | some content => inspectSource readers source content

def prepareSource (setup : StorageSetup) (backend : LandingBackend) (around : Surroundings) (now : Timestamp)
    (source : SourcePartition) : Preparation PreparedSource := do
  let landing := (← onDeployment deployment).landing
  let destination ← Attempt.lift (destinationOf landing.root source.landingPath)
  if backend = .s3Landing ∧ landing.files destination = none then
    recoverPartitionIfKnown setup around source.partitionKey
  let _ ← onFiles around (ensureLocal source landing.root)
  let file := (← onDeployment deployment).landing.files destination
  let metadata ← Attempt.lift (inspectFile setup.readers source destination file)
  let stored ← onDeployment (backend.store setup now metadata file)
  return ⟨metadata, stored⟩

section Quiet

variable {setup : StorageSetup} {destination part : Path} {checksum : Digest} {fileSize : Int}

theorem copyChunks_quiet (size : Nat) (reads : StreamReads) :
    (copyChunks part size reads).Quiet FileRequest.opens := by
  induction reads generalizing size with
  | nil => exact Script.quiet_done _
  | cons read reads ih =>
    cases read with
    | error error => exact Script.quiet_done _
    | ok chunk =>
      rw [copyChunks]
      split
      · exact Script.quiet_done _
      · exact Script.quiet_bind (Script.quiet_request rfl) fun _ => ih _

theorem materializeThrough_quiet (body : StreamReads) :
    (setup.materializeThrough destination part checksum fileSize body).Quiet FileRequest.opens := by
  refine Script.quiet_bind (Script.quiet_andFinally (copyChunks_quiet 0 body) (Script.quiet_request rfl)) fun size => ?_
  refine Script.quiet_bind ?_ fun _ => Script.quiet_bind (Script.quiet_request rfl) fun _ => Script.quiet_done _
  unfold StorageSetup.checkObject
  split
  · exact Script.quiet_done _
  · refine Script.quiet_bind (Script.quiet_request rfl) fun file => ?_
    split
    · exact Script.quiet_done _
    · split <;> exact Script.quiet_done _

theorem materialize_quiet (storageUri : Option String) :
    (setup.materialize storageUri destination checksum fileSize).Quiet FileRequest.opens := by
  refine Script.quiet_bind (Script.quiet_request rfl) fun found => ?_
  split
  · refine Script.quiet_bind (Script.quiet_request rfl) fun file => ?_
    exact Script.quiet_bind (Script.quiet_done _) fun _ => Script.quiet_done _
  · refine Script.quiet_bind (Script.quiet_done _) fun location => ?_
    obtain ⟨bucket, key⟩ := location
    dsimp only
    split
    · exact Script.quiet_done _
    · refine Script.quiet_bind (Script.quiet_request rfl) fun _ => ?_
      refine Script.quiet_bind (Script.quiet_request rfl) fun body => ?_
      refine Script.quiet_bind (Script.quiet_request rfl) fun part => ?_
      exact Script.quiet_andFinally (materializeThrough_quiet body) (Script.quiet_request rfl)

end Quiet

/-- The workspace with a file more. -/
def Workspace.placed (w : Workspace) (path : Path) (content : Bytes) : Workspace :=
  let landing := w.deployment.landing
  { w with deployment :=
      { w.deployment with landing := { landing with files := Function.update landing.files path (some content) } } }

section Recovered

variable {setup : StorageSetup} {around : Surroundings} {w : Workspace} {source : SourcePartition} {row : SourceFile}
  {metadata : SourceFileMetadata} {object : S3Object} {key url : String} {path : Path} {content : Bytes}
  {now : Timestamp}

/-- A quiet call opens no URL, and answers as it does where nothing is noted down. -/
theorem onFiles_quiet {α : Type} {script : FileScript α} {result : Except PyException α}
    (quiet : script.Quiet FileRequest.opens)
    (served : script.eval (serve w.deployment.bucket around.chunks around.token around.upstream)
      w.deployment.landing.files = (result, Function.update w.deployment.landing.files path (some content))) :
    onFiles around script w = (result, w.placed path content) := by
  have noted : script.eval (Script.noting FileRequest.opens (serve w.deployment.bucket around.chunks around.token
      around.upstream)) (w.deployment.landing.files, w.opened) = _ := Script.eval_noting quiet _ _
  rw [served] at noted
  unfold onFiles
  simp only [noted]
  rfl

theorem ensureLocal_there (resolved : Resolved source)
    (there : w.deployment.landing.files (resolvePath w.deployment.landing.root source.landingPath) = some content) :
    onFiles around (ensureLocal source w.deployment.landing.root) w =
      (.ok (resolvePath w.deployment.landing.root source.landingPath), w) := by
  generalize is_destination : resolvePath w.deployment.landing.root source.landingPath = destination at there
  have found : serve w.deployment.bucket around.chunks around.token around.upstream (.pathExists destination)
      w.deployment.landing.files = (.ok true, w.deployment.landing.files) :=
    serve_pathExists (congrArg Option.isSome there)
  have taken : (ensureLocal source w.deployment.landing.root).eval (Script.noting FileRequest.opens
      (serve w.deployment.bucket around.chunks around.token around.upstream))
      (w.deployment.landing.files, w.opened) = (.ok destination, w.deployment.landing.files, w.opened) := by
    unfold ensureLocal
    rw [resolved.underLanding, is_destination]
    refine (Script.eval_ask (Script.noting_unnoted rfl found w.opened)).trans ?_
    rfl
  unfold onFiles
  simp only [taken]

/-- The newest row that is stored in the bucket is chosen. -/
theorem recoverPartitionIfKnown_served (chunked : IsChunking around.chunks) (configured : around.databaseUrl = some url)
    (nonempty : url ≠ "") (resolved : Resolved source)
    (chosen : w.deployment.session.db.recoverable source.partitionKey = some row)
    (landing : row.landingPath = source.landingPath)
    (parsed : parseS3Uri row.storageUri = .ok (setup.bucket, key))
    (found : w.deployment.bucket.latest key = some object) (sized : (object.body.length : Int) = row.fileSizeBytes)
    (hashed : setup.readers.sha256 object.body = row.checksumSha256)
    (is_path : resolvePath w.deployment.landing.root source.landingPath = path)
    (missing : w.deployment.landing.files path = none)
    (unused : w.deployment.landing.files (partialPath path around.token) = none) :
    recoverPartitionIfKnown setup around source.partitionKey w = (.ok (), w.placed path object.body) := by
  have known : around.databaseUrl.getD "" ≠ "" := by
    rw [configured]
    exact nonempty
  have destination : destinationOf w.deployment.landing.root row.landingPath = .ok path := by
    rw [landing, destinationOf, resolved.underLanding, is_path]
  have restored : onFiles around (setup.materialize row.storageUri path row.checksumSha256 row.fileSizeBytes) w =
      (.ok path, w.placed path object.body) :=
    onFiles_quiet (materialize_quiet row.storageUri)
      (materialize_served chunked parsed found sized hashed missing unused)
  unfold recoverPartitionIfKnown
  rw [if_neg known]
  simp only [Attempt.bind_apply, onDeployment_apply, deployment, chosen, Attempt.lift_apply, destination, restored,
    Attempt.pure_apply]

/-- A partition whose file is missing is prepared from the bucket: no URL is opened, and nothing but the file
    is changed. -/
theorem prepareSource_restores (chunked : IsChunking around.chunks) (configured : around.databaseUrl = some url)
    (nonempty : url ≠ "") (resolved : Resolved source)
    (chosen : w.deployment.session.db.recoverable source.partitionKey = some row)
    (landing : row.landingPath = source.landingPath)
    (parsed : parseS3Uri row.storageUri = .ok (setup.bucket, key))
    (found : w.deployment.bucket.latest key = some object) (sized : (object.body.length : Int) = row.fileSizeBytes)
    (hashed : setup.readers.sha256 object.body = row.checksumSha256)
    (inspected : inspectSource setup.readers source object.body = .ok metadata)
    (keyed : s3Key metadata = .ok key) (matched : object.Matches metadata)
    (is_path : resolvePath w.deployment.landing.root source.landingPath = path)
    (missing : w.deployment.landing.files path = none)
    (unused : w.deployment.landing.files (partialPath path around.token) = none) :
    prepareSource setup .s3Landing around now source w =
      (.ok ⟨metadata, setup.result key object.id now⟩, w.placed path object.body) := by
  have recovered := recoverPartitionIfKnown_served chunked configured nonempty resolved chosen landing parsed found
    sized hashed is_path missing unused
  have there : (w.placed path object.body).deployment.landing.files path = some object.body := Function.update_self ..
  have kept : onFiles around (ensureLocal source w.deployment.landing.root) (w.placed path object.body) =
      (.ok path, w.placed path object.body) := by
    have taken := @ensureLocal_there around (w.placed path object.body) source object.body resolved
    rw [show (w.placed path object.body).deployment.landing.root = w.deployment.landing.root from rfl, is_path] at taken
    exact taken there
  have stored : LandingBackend.s3Landing.store setup now metadata (some object.body)
      (w.placed path object.body).deployment =
        (.ok (setup.result key object.id now), (w.placed path object.body).deployment) := by
    have described := (inspectSource_describes inspected).2.1
    have inBucket : (w.placed path object.body).deployment.bucket.latest key = some object := found
    simp only [LandingBackend.store, onBucket_apply, store_found setup now described.symm keyed inBucket matched]
  have destination : destinationOf w.deployment.landing.root source.landingPath = .ok path := by
    rw [destinationOf, resolved.underLanding, is_path]
  unfold prepareSource
  simp only [Attempt.bind_apply, onDeployment_apply, deployment, Attempt.lift_apply, destination, missing, and_self,
    if_true, recovered, kept, there, inspectFile, inspected, stored, Attempt.pure_apply]

end Recovered

end TaxiPipeline
