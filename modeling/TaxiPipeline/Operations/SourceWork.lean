import TaxiPipeline.Operations.Custody

namespace TaxiPipeline

open ObjectStore ReadCommitted Stateful StorageAction Transaction

/-- What tries and commands that prepare a source may leave behind. -/
inductive SourceWork (setup : StorageSetup) (source : SourcePartition) (w : Workspace) : Workspace → Prop where
  | fetched {w' : Workspace} (fetched : w.Fetched setup source w') : SourceWork setup source w w'
  | registered {prepared : PreparedSource} {w₁ : Workspace} (fetched : w.Fetched setup source w₁)
      (found : w.Prepared w₁ setup source prepared) (now : Timestamp) :
      SourceWork setup source w (w₁.withSession (atomically (registerSourceFile now prepared.metadata) w.session).2)
  | ingested {prepared : PreparedSource} {w₁ : Workspace} {events : List Event}
      {answer : Except PyException IngestionResult} {session : Session} (fetched : w.Fetched setup source w₁)
      (found : w.Prepared w₁ setup source prepared)
      (called : ingestSource prepared.metadata events w.session = some (answer, session)) :
      SourceWork setup source w (w₁.withSession session)
  | registeredAndStored {prepared : PreparedSource} {w₁ : Workspace} {registration : SourceRegistrationResult}
      {session : Session} {now : Timestamp} (fetched : w.Fetched setup source w₁)
      (found : w.Prepared w₁ setup source prepared)
      (located : prepared.storage.Located setup prepared.metadata w₁.deployment.bucket)
      (called : atomically (registerSourceFile now prepared.metadata) w.session = (.ok registration, session)) :
      SourceWork setup source w (w₁.withSession (session.persisted registration.sourceFileId prepared.storage))
  | ingestedAndStored {prepared : PreparedSource} {w₁ : Workspace} {events : List Event} {result : IngestionResult}
      {session : Session} (fetched : w.Fetched setup source w₁) (found : w.Prepared w₁ setup source prepared)
      (located : prepared.storage.Located setup prepared.metadata w₁.deployment.bucket)
      (called : ingestSource prepared.metadata events w.session = some (.ok result, session)) :
      SourceWork setup source w (w₁.withSession (session.persisted result.sourceFileId prepared.storage))

section Work

variable {setup : StorageSetup} {contents : Set Bytes} {w w' w₁ : Workspace} {source : SourcePartition}
  {metadata : SourceFileMetadata} {storage : StorageResult} {bucket : S3Bucket} {row : SourceFile}

theorem StorageResult.Located.of_recorded (located : storage.Located setup metadata bucket)
    (record : metadataFromRecord row = metadata.recorded) : storage.Located setup (metadataFromRecord row) bucket := by
  rw [record]
  cases located with
  | onDisk now => exact .onDisk now
  | @inBucket key object has now =>
    have recorded : bucket.Has metadata.recorded key object := ⟨has.keyed, has.found, has.matched⟩
    exact .inBucket recorded now

theorem Workspace.Fetched.custody (fetched : w.Fetched setup source w') (custody : w.deployment.Custody setup contents)
    (resolved : Resolved source) (within : w'.Within contents) :
    Deployment.Custody { w'.deployment with session := w.session } setup contents := by
  rcases fetched.bucket with same | ⟨path, content, metadata, there, inspected, stored⟩
  · exact ⟨custody.orderly, custody.records, by rw [same]; exact custody.supplied, by rw [same]; exact custody.held⟩
  · have member := within path content there
    have uploaded := custody.uploads (.inl ⟨source, content, resolved, member, inspected⟩)
      (fun _ same => Option.some.inj same ▸ member) stored
    exact ⟨uploaded.orderly, uploaded.records, uploaded.supplied, uploaded.held⟩

theorem SourceWork.keepsCustody (work : SourceWork setup source w w')
    (collisionFree : Set.InjOn setup.readers.sha256 contents) (custody : w.deployment.Custody setup contents)
    (resolved : Resolved source) (within : w'.Within contents) :
    w.deployment.KeepsCustody setup contents w'.deployment := by
  cases work with
  | fetched fetched =>
    have after := fetched.custody custody resolved within
    have same : { w'.deployment with session := w.session } = w'.deployment := by
      rw [show w.session = w'.deployment.session from fetched.session.symm]
    rw [same] at after
    have keeps := custody.keeps
    refine ⟨after, ?_, ?_, ?_⟩
    · rw [fetched.session]
      exact keeps.records
    · rw [fetched.session]
      exact keeps.stored
    · rw [fetched.session]
  | @registered prepared w₁ fetched found now =>
    have after := fetched.custody custody resolved within
    have known := found.known resolved within
    have registers := after.registers known now
    exact ⟨registers.custody, registers.records, registers.stored, registers.leads⟩
  | ingested fetched found called =>
    have after := fetched.custody custody resolved within
    have ingests := after.ingests (found.known resolved within) called
    exact ⟨ingests.custody, ingests.records, ingests.stored, ingests.leads⟩
  | @registeredAndStored prepared w₁ registration session now fetched found located called =>
    have after := fetched.custody custody resolved within
    have known := found.known resolved within
    have registers := after.registers known now
    rw [show (Deployment.session { w₁.deployment with session := w.session }) = w.session from rfl, called] at registers
    have persists : Deployment.KeepsCustody { w₁.deployment with session := session } setup contents
        { w₁.deployment with session := session.persisted registration.sourceFileId prepared.storage } :=
      registers.custody.persists fun row got => by
        obtain ⟨row', got', record⟩ := registerSourceFile_records collisionFree custody.orderly custody.records known called
        cases got.symm.trans got'
        exact located.of_recorded record
    have keeps := registers.trans persists
    exact ⟨keeps.custody, keeps.records, keeps.stored, keeps.leads⟩
  | @ingestedAndStored prepared w₁ events result session fetched found located called =>
    have after := fetched.custody custody resolved within
    have known := found.known resolved within
    have ingests := after.ingests known called
    have persists : Deployment.KeepsCustody { w₁.deployment with session := session } setup contents
        { w₁.deployment with session := session.persisted result.sourceFileId prepared.storage } :=
      ingests.custody.persists fun row got => by
        obtain ⟨row', got', partition, checksum, -⟩ := (ingestSource_backed custody.orderly called).version
        cases got.symm.trans got'
        exact located.of_recorded (ingests.custody.records.of_version collisionFree known (getSourceFile_some got).1
          partition checksum)
    have keeps := ingests.trans persists
    exact ⟨keeps.custody, keeps.records, keeps.stored, keeps.leads⟩

end Work

section Inversions

variable {setup : StorageSetup} {backend : LandingBackend} {w w' : Workspace} {source : SourcePartition}

theorem ensureLoaded_works {installed : Installation} {tried : LoadTry} {answer : Except PyException LoadedPartition}
    (called : ensureLoaded installed tried source w = some (answer, w')) :
    SourceWork installed.setup source w w' := by
  unfold ensureLoaded at called
  have fetches := @prepareSource_fetches w installed.setup installed.backend tried.around tried.now source
  have meets := @prepareSource_meets w installed.setup installed.backend tried.around tried.now source
  rcases ran : prepareSource installed.setup installed.backend tried.around tried.now source w with ⟨prepared, w₁⟩
  rw [ran] at called
  cases prepared with
  | error error =>
    cases called
    exact .fetched (fetches.error ran)
  | ok prepared =>
    have found := meets.ok ran
    obtain ⟨fetched, located⟩ := fetches.ok ran
    obtain ⟨⟨ingestion, session⟩, ingested, same⟩ := Option.map_eq_some_iff.mp called
    rw [show w₁.deployment.session = w.session from fetched.session] at ingested
    cases ingestion with
    | error error =>
      cases same
      exact .ingested fetched found ingested
    | ok ingestion =>
      have concluded := (concludeLoad_apply prepared.storage ingestion (w₁.withSession session)).symm.trans same
      cases concluded
      exact @SourceWork.ingestedAndStored installed.setup source w prepared w₁ tried.events ingestion session fetched
        found located ingested

theorem persistStorage_apply (sourceFileId : Nat) (storage : StorageResult) (w : Workspace) :
    persistStorage sourceFileId storage w =
      ((atomically (persistStorageMetadata sourceFileId storage) w.session).1,
        w.withSession (w.session.persisted sourceFileId storage)) := by
  rfl

theorem sourceCommand_works {run : CommandRun} {action : SourceAction} {answer : Except PyException CommandReport}
    (called : sourceCommand setup backend run action source w = some (answer, w')) : SourceWork setup source w w' := by
  unfold sourceCommand at called
  have fetches := @prepareSource_fetches w setup backend run.tried.around run.tried.now source
  have meets := @prepareSource_meets w setup backend run.tried.around run.tried.now source
  rcases ran : prepareSource setup backend run.tried.around run.tried.now source w with ⟨prepared, w₁⟩
  rw [ran] at called
  cases prepared with
  | error error =>
    cases called
    exact .fetched (fetches.error ran)
  | ok prepared =>
    have found := meets.ok ran
    obtain ⟨fetched, located⟩ := fetches.ok ran
    have same : w₁.deployment.session = w.session := fetched.session
    cases action with
    | fetch =>
      cases called
      exact .fetched fetched
    | register =>
      have ended := Option.some.inj called
      simp only [Attempt.bind_apply, onDeployment_apply, inTransaction, prepareIngestion, same] at ended
      rcases registered : atomically (registerSourceFile run.tried.now prepared.metadata) w.session with
        ⟨registration, session⟩
      rw [registered] at ended
      cases registration with
      | error error =>
        cases ended
        have work := SourceWork.registered fetched found run.tried.now
        rwa [registered] at work
      | ok registration =>
        have work := SourceWork.registeredAndStored fetched found located registered
        have stored := persistStorage_apply registration.sourceFileId prepared.storage (w₁.withSession session)
        rcases persisted : persistStorage registration.sourceFileId prepared.storage (w₁.withSession session) with
          ⟨result, w₂⟩
        have kept : ({ w₁ with deployment := { w₁.deployment with session := session } } : Workspace) =
            w₁.withSession session := rfl
        simp only [kept, persisted, Attempt.pure_apply] at ended
        rw [persisted] at stored
        cases congrArg Prod.snd stored
        cases result <;> cases ended <;> exact work
    | ingest =>
      obtain ⟨⟨ingestion, session⟩, ingested, ended⟩ := Option.map_eq_some_iff.mp called
      rw [same] at ingested
      cases ingestion with
      | error error =>
        cases ended
        exact .ingested fetched found ingested
      | ok result =>
        have work := SourceWork.ingestedAndStored fetched found located ingested
        have stored := persistStorage_apply result.sourceFileId prepared.storage (w₁.withSession session)
        rcases persisted : persistStorage result.sourceFileId prepared.storage (w₁.withSession session) with ⟨answer', w₂⟩
        simp only [Attempt.bind_apply, persisted, Attempt.pure_apply] at ended
        rw [persisted] at stored
        cases congrArg Prod.snd stored
        cases answer' <;> cases ended <;> exact work

end Inversions

end TaxiPipeline
