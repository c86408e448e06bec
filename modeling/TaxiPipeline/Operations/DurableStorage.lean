import TaxiPipeline.Operations.SourceWork
import TaxiPipeline.Orchestration.Reruns

namespace TaxiPipeline

open ObjectStore ReadCommitted Stateful StorageAction Transaction

/-- What a storage command keeps: the custody, and the files. -/
structure Deployment.Maintains (d : Deployment) (setup : StorageSetup) (contents : Set Bytes) (d' : Deployment) :
    Prop where
  keeps : d.KeepsCustody setup contents d'
  landing : d'.landing = d.landing

/-- The row relies on the bucket, under the URI that it records. -/
structure SourceFile.Verified (row : SourceFile) (bucket : S3Bucket) (uri : Option String) : Prop where
  s3 : row.storageBackend = "s3"
  uri : row.storageUri = uri
  has : ∃ key object, bucket.Has (metadataFromRecord row) key object

section Syncs

variable {setup : StorageSetup} {contents : Set Bytes} {d d' d'' : Deployment} {backend : LandingBackend}
  {now : Timestamp} {clock : Nat → Timestamp} {bucket : S3Bucket} {row : SourceFile}

theorem Deployment.Custody.maintains (custody : d.Custody setup contents) : d.Maintains setup contents d :=
  ⟨custody.keeps, rfl⟩

theorem Deployment.Maintains.trans (first : d.Maintains setup contents d') (second : d'.Maintains setup contents d'') :
    d.Maintains setup contents d'' :=
  ⟨first.keeps.trans second.keeps, second.landing.trans first.landing⟩

theorem Deployment.Custody.known (custody : d.Custody setup contents) (member : row ∈ d.session.db.sourceFiles) :
    (metadataFromRecord row).Known setup.readers contents := by
  obtain ⟨metadata, inspected, record⟩ := custody.records row member
  exact .inr ⟨metadata, inspected, record⟩

theorem Landing.file_some {landing : Landing} {text : String} {content : Bytes}
    (found : landing.file text = .ok (some content)) : ∃ path, landing.files path = some content := by
  unfold Landing.file at found
  cases destination : destinationOf landing.root text with
  | error error =>
    rw [destination] at found
    cases found
  | ok path =>
    rw [destination] at found
    exact ⟨path, Except.ok.inj found⟩

/-- A sync that returns has recorded where the object of its version is. -/
theorem persisted_verified {storage : StorageResult} {session : Session}
    (got : d.session.db.getSourceFile row.sourceFileId = some row)
    (located : storage.Located setup (metadataFromRecord row) bucket) (s3 : storage.backend = "s3")
    (persisted : atomically (persistStorageMetadata row.sourceFileId storage) d.session = (.ok (), session)) :
    ∃ row', session.db.getSourceFile row.sourceFileId = some row' ∧ row'.Verified bucket storage.uri := by
  have updated := (persistStorageMetadata_meets d.session row.sourceFileId storage).ok (atomically_ok persisted)
  refine ⟨row.withStorage storage, ?_, ⟨s3, rfl, ?_⟩⟩
  · rw [updated, Database.getSourceFile_updateSourceFile fun row => (mergeStorageMetadata_same storage row).1, got,
      Option.map_some, if_pos rfl, mergeStorageMetadata_s3 s3]
  · cases located with
    | onDisk now => exact absurd s3 onDisk_apart
    | @inBucket key object has now => exact ⟨key, object, has.keyed, has.found, has.matched⟩

theorem syncSource_maintains (sourceFileId : Nat) (custody : d.Custody setup contents)
    (within : ∀ path content, d.landing.files path = some content → content ∈ contents) :
    (syncSource setup backend now sourceFileId).Meets d
      (fun result d' => d.Maintains setup contents d' ∧
        ∃ row, d'.session.db.getSourceFile sourceFileId = some row ∧ row.Verified d'.bucket result.uri)
      fun _ d' => d.Maintains setup contents d' := by
  have same := custody.maintains
  unfold syncSource
  cases backend with
  | localLanding => exact .bind (.of_error rfl same)
  | s3Landing =>
    refine .bind (.of_ok rfl ?_)
    cases got : d.session.db.getSourceFile sourceFileId with
    | none =>
      have refused : getSource sourceFileId d = (.error (unknownSource sourceFileId), d) := by
        unfold getSource
        simp only [Attempt.bind_apply, deployment, got, Attempt.raise_apply]
      exact .bind (.of_error refused same)
    | some row =>
      have member := (getSourceFile_some got).1
      refine .bind (.of_ok (getSource_got got) (.bind (.of_ok rfl ?_)))
      refine .bind (Attempt.meets_lift (fun file found => ?_) fun _ _ => same)
      have isWithin : ∀ content, file = some content → content ∈ contents := by
        intro content is_file
        obtain ⟨path, there⟩ := Landing.file_some (found.trans (congrArg Except.ok is_file))
        exact within path content there
      have meets := @store_meets setup (metadataFromRecord row) file d.bucket now
      rcases stored : setup.store now (metadataFromRecord row) file d.bucket with ⟨result, bucket⟩
      have called : onBucket (setup.store now (metadataFromRecord row) file) d = (result, { d with bucket := bucket }) := by
        rw [onBucket_apply, stored]
      have uploaded : ∀ uploads : Stored setup (metadataFromRecord row) file d.bucket bucket,
          d.Maintains setup contents { d with bucket := bucket } := fun uploads =>
        ⟨⟨custody.uploads (custody.known member) isWithin uploads, custody.keeps.records, custody.keeps.stored,
          .refl⟩, rfl⟩
      cases result with
      | error error => exact .bind (.of_error called (uploaded (meets.error stored)))
      | ok storage =>
        obtain ⟨uploads, located, s3⟩ := meets.ok stored
        have before := uploaded uploads
        have persists : Deployment.KeepsCustody { d with bucket := bucket } setup contents
            { d with bucket := bucket, session := d.session.persisted sourceFileId storage } :=
          before.keeps.custody.persists fun row' got' => by
            cases got.symm.trans got'
            exact located
        have after : d.Maintains setup contents
            { d with bucket := bucket, session := d.session.persisted sourceFileId storage } :=
          ⟨before.keeps.trans persists, rfl⟩
        refine .bind (.of_ok called (.bind ?_))
        rcases persisted : atomically (persistStorageMetadata sourceFileId storage) d.session with ⟨answer, session⟩
        have ended : inTransaction (persistStorageMetadata sourceFileId storage) { d with bucket := bucket } =
            (answer, { d with bucket := bucket, session := d.session.persisted sourceFileId storage }) := by
          unfold inTransaction Session.persisted
          simp only [persisted]
        cases answer with
        | ok _ =>
          have sameId := (getSourceFile_some got).2
          rw [← sameId] at got persisted
          have verified := persisted_verified got located s3 persisted
          rw [sameId] at verified
          refine .of_ok ended ⟨after, ?_⟩
          unfold Session.persisted
          rw [← sameId, persisted, sameId]
          exact verified
        | error error => exact .of_error ended after

theorem syncAllBuilt_maintains {built : Except PyException LandingBackend} (custody : d.Custody setup contents)
    (within : ∀ path content, d.landing.files path = some content → content ∈ contents) :
    (syncAllBuilt setup built clock).Meets d (fun _ d' => d.Maintains setup contents d')
      fun _ d' => d.Maintains setup contents d' := by
  unfold syncAllBuilt
  cases built with
  | ok backend =>
    unfold syncAllSources
    refine .bind (.of_ok rfl ?_)
    refine @Attempt.Meets.foldlM _ _ _ _ _ _ _ (fun _ _ d' => d.Maintains setup contents d') [] _ _
      (fun done row results d' _ before => ?_) custody.maintains
    unfold syncIfPresent
    refine .bind (.of_ok rfl (.bind (Attempt.meets_lift (fun file _ => ?_) fun _ _ => before)))
    cases file with
    | none => exact before
    | some content =>
      have within' : ∀ path content, d'.landing.files path = some content → content ∈ contents := by
        rw [before.landing]
        exact within
      exact .bind ((syncSource_maintains row.sourceFileId before.keeps.custody within').mono
        (fun _ _ after => before.trans after.1) fun _ _ after => before.trans after)
  | error error =>
    refine .bind (.of_ok rfl ?_)
    refine @Attempt.Meets.foldlM _ _ _ _ _ _ _ (fun _ _ d' => d.Maintains setup contents d') [] _ _
      (fun done row results d' _ before => ?_) custody.maintains
    refine .bind (.of_ok rfl (.bind (Attempt.meets_lift (fun file _ => ?_) fun _ _ => before)))
    cases file with
    | none => exact before
    | some content => exact before

theorem inspect_same {metadata : SourceFileMetadata} : (setup.inspect now metadata).Meets bucket
    (fun _ bucket' => bucket' = bucket) fun _ bucket' => bucket' = bucket := by
  unfold StorageSetup.inspect
  refine .bind (Attempt.meets_lift (fun key _ => ?_) fun _ _ => rfl)
  refine .bind (.of_ok rfl ?_)
  cases bucket.latest key with
  | none => exact rfl
  | some head => exact .bind (Attempt.meets_lift (fun _ _ => rfl) fun _ _ => rfl)

theorem verifySourceStorage_same (sourceFileId : Nat) : (verifySourceStorage setup backend now sourceFileId).Meets d
    (fun _ d' => d' = d) fun _ d' => d' = d := by
  unfold verifySourceStorage
  cases backend with
  | localLanding => exact .bind (.of_error rfl rfl)
  | s3Landing =>
    refine .bind (.of_ok rfl (.bind ?_))
    have gets : (getSource sourceFileId).Meets d (fun _ d' => d' = d) fun _ d' => d' = d := by
      unfold getSource
      refine .bind (.of_ok rfl ?_)
      split <;> exact rfl
    refine gets.mono (fun row d' same => ?_) fun _ _ same => same
    subst same
    split
    · exact rfl
    · have inspects := @inspect_same setup now d'.bucket (metadataFromRecord row)
      rcases ran : setup.inspect now (metadataFromRecord row) d'.bucket with ⟨result, bucket⟩
      have called : onBucket (setup.inspect now (metadataFromRecord row)) d' = (result, { d' with bucket := bucket }) := by
        rw [onBucket_apply, ran]
      cases result with
      | error error =>
        have same := inspects.error ran
        subst same
        exact .bind (.of_error called rfl)
      | ok result =>
        have same := inspects.ok ran
        subst same
        refine .bind (.of_ok called ?_)
        split
        · exact rfl
        · split <;> exact rfl

end Syncs

section Operations

variable {setup : StorageSetup} {contents : Set Bytes} {w w' : Workspace} {backend : LandingBackend}
  {around : Surroundings} {row : SourceFile} {run : CommandRun} {command : Command}

/-- What a row records comes back from the bucket. -/
theorem Deployment.Custody.restores (custody : w.deployment.Custody setup contents) (named : IsBucketName setup.bucket)
    (collisionFree : Set.InjOn setup.readers.sha256 contents) (chunked : IsChunking around.chunks)
    (got : w.session.db.getSourceFile row.sourceFileId = some row) (s3 : row.storageBackend = "s3")
    (missing : w.deployment.landing.files (resolvePath w.deployment.landing.root row.landingPath) = none)
    (unused : w.deployment.landing.files
      (partialPath (resolvePath w.deployment.landing.root row.landingPath) around.token) = none) :
    ∃ content, setup.readers.sha256 content = row.checksumSha256 ∧
      materializeSource setup .s3Landing around row.sourceFileId w =
        (.ok (resolvePath w.deployment.landing.root row.landingPath),
          w.placed (resolvePath w.deployment.landing.root row.landingPath) content) := by
  have member := (getSourceFile_some got).1
  obtain ⟨key, object, has, uri, -⟩ := custody.held row member s3
  obtain ⟨metadata, ⟨source, content, resolved, within, inspected⟩, record⟩ := custody.records row member
  obtain ⟨described, checksum, size⟩ := inspectSource_describes inspected
  have landing : row.landingPath = source.landingPath := (congrArg (·.landingPath) record).trans described.landing
  have sha : row.checksumSha256 = setup.readers.sha256 content :=
    (congrArg (·.checksumSha256) record).trans checksum
  have bytes : row.fileSizeBytes = content.length := (congrArg (·.fileSizeBytes) record).trans size
  have keyed := has.keyed
  rw [record, show s3Key metadata.recorded = s3Key metadata from rfl, s3Key_resolved resolved described, checksum] at keyed
  obtain rfl := Except.ok.inj keyed
  have body := custody.supplied.body_eq collisionFree resolved within has.found
  have parsed : parseS3Uri row.storageUri = .ok (setup.bucket, source.versionKey (setup.readers.sha256 content)) := by
    rw [uri]
    exact parseS3Uri_version named resolved _
  have restored := onFiles_quiet (materialize_quiet row.storageUri)
    (materialize_served chunked parsed has.found (body ▸ bytes.symm) (body ▸ sha.symm) missing unused)
  rw [body] at restored
  have destination : destinationOf w.deployment.landing.root row.landingPath =
      .ok (resolvePath w.deployment.landing.root row.landingPath) := by
    rw [landing, destinationOf, resolved.underLanding]
  refine ⟨content, sha.symm, ?_⟩
  unfold materializeSource
  simp only [Attempt.bind_apply, onDeployment_apply, requireS3_s3, getSource_got got, deployment, Attempt.lift_apply,
    destination]
  exact restored

theorem onDeployment_meets {α : Type} {body : StorageAction α} {returns : α → Workspace → Prop}
    {raises : PyException → Workspace → Prop}
    (meets : body.Meets w.deployment (fun a d => returns a { w with deployment := d })
      fun error d => raises error { w with deployment := d }) : (onDeployment body).Meets w returns raises := by
  rcases ran : body w.deployment with ⟨result, d⟩
  have called : onDeployment body w = (result, { w with deployment := d }) := by rw [onDeployment_apply, ran]
  cases result with
  | ok a => exact .of_ok called (meets.ok ran)
  | error error => exact .of_error called (meets.error ran)

theorem materializeSource_filesOnly (sourceFileId : Nat) :
    (materializeSource setup backend around sourceFileId).Meets w (fun _ w' => w.FilesOnly w')
      fun _ w' => w.FilesOnly w' := by
  have same : w.FilesOnly w := ⟨rfl, rfl, rfl⟩
  unfold materializeSource
  refine .bind (onDeployment_meets ?_)
  cases backend with
  | localLanding => exact same
  | s3Landing =>
    refine .bind (onDeployment_meets ?_)
    unfold getSource
    refine .bind (.of_ok rfl ?_)
    split
    · refine .bind (.of_ok rfl (.bind (Attempt.meets_lift (fun destination _ => ?_) fun _ _ => same)))
      exact onFiles_filesOnly _
    · exact same

theorem Workspace.FilesOnly.keepsCustody (filesOnly : w.FilesOnly w') (custody : w.deployment.Custody setup contents) :
    w.deployment.KeepsCustody setup contents w'.deployment := by
  have keeps := custody.keeps
  have orderly : w'.deployment.session.Orderly := by
    rw [filesOnly.session]
    exact custody.orderly
  refine ⟨⟨orderly, ?_, ?_, ?_⟩, ?_, ?_, ?_⟩
  · rw [filesOnly.session]
    exact custody.records
  · rw [filesOnly.bucket]
    exact custody.supplied
  · rw [filesOnly.session, filesOnly.bucket]
    exact custody.held
  · rw [filesOnly.session]
    exact keeps.records
  · rw [filesOnly.session]
    exact keeps.stored
  · rw [filesOnly.session]

theorem storageCommand_keepsCustody {built : Except PyException LandingBackend}
    (custody : w.deployment.Custody setup contents) (within : w.Within contents) :
    (storageCommand setup run built command).Meets w (fun _ w' => w.deployment.KeepsCustody setup contents w'.deployment)
      fun _ w' => w.deployment.KeepsCustody setup contents w'.deployment := by
  have same := custody.keeps
  unfold storageCommand
  split
  · refine .bind (.of_ok rfl (.bind (Attempt.meets_lift (fun sourceFileId _ => ?_) fun _ _ => same)))
    refine .bind (Attempt.meets_lift (fun backend _ => .bind (onDeployment_meets ?_)) fun _ _ => same)
    exact (syncSource_maintains sourceFileId custody within).mono (fun _ _ after => after.1.keeps) fun _ _ after => after.keeps
  · refine .bind (onDeployment_meets ?_)
    exact (syncAllBuilt_maintains custody within).mono (fun _ _ after => after.keeps) fun _ _ after => after.keeps
  · refine .bind (Attempt.meets_lift (fun backend _ => .bind (onDeployment_meets ?_)) fun _ _ => same)
    exact (verifySourceStorage_same _).mono (fun _ _ unchanged => unchanged ▸ same) fun _ _ unchanged => unchanged ▸ same
  · refine .bind (Attempt.meets_lift (fun backend _ => .bind ?_) fun _ _ => same)
    exact (materializeSource_filesOnly _).mono (fun _ _ after => after.keepsCustody custody)
      fun _ _ after => after.keepsCustody custody
  · refine .bind (Attempt.meets_lift (fun backend _ => ?_) fun _ _ => same)
    cases backend with
    | s3Landing => exact .bind (Attempt.meets_lift (fun _ _ => same) fun _ _ => same)
    | localLanding => exact same

theorem runPartitionQuality_keepsCustody {now : Timestamp} {serviceType : String} {year month : Int}
    (custody : w.deployment.Custody setup contents) :
    w.deployment.KeepsCustody setup contents (runPartitionQuality now serviceType year month w).2.deployment := by
  rw [runPartitionQuality_apply]
  split
  · exact custody.keeps
  · exact custody.evaluates now _

theorem sourceFromArgs_resolved {argument : SourceArgument} {source : SourcePartition}
    (found : sourceFromArgs argument = .ok source) : Resolved source := by
  unfold sourceFromArgs at found
  split at found
  · cases found
    exact .zones
  · exact .green found
  · exact .yellow found

theorem main_keepsCustody {ending : CommandEnd} (collisionFree : Set.InjOn setup.readers.sha256 contents)
    (named : run.setup setup = setup) (custody : w.deployment.Custody setup contents) (within : w.Within contents)
    (within' : w'.Within contents) (ran : main setup run command w = some (ending, w')) :
    w.deployment.KeepsCustody setup contents w'.deployment := by
  obtain ⟨⟨answer, w₁⟩, ran, same⟩ := Option.map_eq_some_iff.mp ran
  cases same
  unfold runCommand at ran
  rw [named] at ran
  have storage : ∀ command : Command, storageCommand setup run (buildStorage run.environment) command w = (answer, w') →
      w.deployment.KeepsCustody setup contents w'.deployment := by
    intro command ran
    have meets := @storageCommand_keepsCustody setup contents w run command (buildStorage run.environment) custody within
    cases answer with
    | ok report => exact meets.ok ran
    | error error => exact meets.error ran
  split at ran
  · split at ran
    · cases ran
      exact custody.keeps
    · cases ran
      exact custody.keeps
    · rename_i found built
      exact (sourceCommand_works ran).keepsCustody collisionFree custody (sourceFromArgs_resolved found) within'
  · rename_i service year month _
    have keeps := @runPartitionQuality_keepsCustody setup contents w run.tried.now service.value year month custody
    have ended := Option.some.inj ran
    simp only [Attempt.bind_apply, Attempt.pure_apply] at ended
    split at ended
    · rename_i evaluated
      rw [evaluated] at keeps
      cases ended
      exact keeps
    · rename_i refused
      rw [refused] at keeps
      cases ended
      exact keeps
  · exact storage _ (Option.some.inj ran)

end Operations

/-- What happens to a platform: tries of the workflow's tasks and commands, whatever they meet, stores whose process
    is lost after the upload, and changes of the landing files. -/
inductive Workspace.Operates (setup : StorageSetup) (contents : Set Bytes) (w : Workspace) : Workspace → Prop where
  | loadTried {installed : Installation} {tried : LoadTry} {source : SourcePartition}
      {answer : Except PyException LoadedPartition} {w' : Workspace} (sameSetup : installed.setup = setup)
      (resolved : Resolved source) (ran : ensureLoaded installed tried source w = some (answer, w')) :
      Operates setup contents w w'
  | qualityTried (now : Timestamp) (serviceType : String) (year month : Int) :
      Operates setup contents w (runPartitionQuality now serviceType year month w).2
  | commanded {run : CommandRun} {command : Command} {ending : CommandEnd} {w' : Workspace}
      (named : run.setup setup = setup) (ran : main setup run command w = some (ending, w')) :
      Operates setup contents w w'
  | lostAfterUpload {metadata : SourceFileMetadata} {content : Bytes} {bucket : S3Bucket}
      (known : metadata.Known setup.readers contents) (within : content ∈ contents)
      (stored : Stored setup metadata (some content) w.deployment.bucket bucket) :
      Operates setup contents w { w with deployment := { w.deployment with bucket := bucket } }
  | filesChange (landing : Landing) :
      Operates setup contents w { w with deployment := { w.deployment with landing := landing } }

/-- A platform before its first operation; its bucket has nothing under the landing prefix. -/
structure Workspace.Fresh (w : Workspace) (contents : Set Bytes) : Prop where
  session : w.session = .start
  landing : ∀ object ∈ w.deployment.bucket, ¬ "landing/".toList <+: object.key.toList
  within : w.Within contents

section Histories

variable {setup : StorageSetup} {contents : Set Bytes} {w₀ w w' : Workspace} {row : SourceFile}

theorem Workspace.Fresh.custody (fresh : w₀.Fresh contents) : w₀.deployment.Custody setup contents := by
  have start : w₀.deployment.session = .start := fresh.session
  refine ⟨by rw [start]; exact orderly_start, ?_, fun object member landed => absurd landed (fresh.landing object member), ?_⟩
  · rw [start]
    exact fun row member => (List.not_mem_nil member).elim
  · rw [start]
    exact fun row member => (List.not_mem_nil member).elim

theorem Workspace.Operates.keepsCustody (operates : w.Operates setup contents w')
    (collisionFree : Set.InjOn setup.readers.sha256 contents) (custody : w.deployment.Custody setup contents)
    (within : w.Within contents) (within' : w'.Within contents) :
    w.deployment.KeepsCustody setup contents w'.deployment := by
  cases operates with
  | loadTried sameSetup resolved ran =>
    have work := ensureLoaded_works ran
    rw [sameSetup] at work
    exact work.keepsCustody collisionFree custody resolved within'
  | qualityTried now serviceType year month => exact runPartitionQuality_keepsCustody custody
  | commanded named ran => exact main_keepsCustody collisionFree named custody within within' ran
  | lostAfterUpload known isWithin stored =>
    have keeps := custody.keeps
    exact ⟨custody.uploads known (fun _ same => Option.some.inj same ▸ isWithin) stored, keeps.records, keeps.stored, .refl⟩
  | filesChange landing =>
    have keeps := custody.keeps
    exact ⟨⟨custody.orderly, custody.records, custody.supplied, custody.held⟩, keeps.records, keeps.stored, .refl⟩

end Histories

end TaxiPipeline
