import Mathlib.Logic.Relation
import TaxiPipeline.Storage.Identity

namespace TaxiPipeline

open ObjectStore ReadCommitted

/-- Inspected metadata as it is, or as its row keeps it. -/
def SourceFileMetadata.Known (readers : Readers) (contents : Set Bytes) (metadata : SourceFileMetadata) : Prop :=
  metadata.Inspected readers contents ∨
    ∃ known : SourceFileMetadata, known.Inspected readers contents ∧ metadata = known.recorded

/-- A verified upload of a known version. -/
def S3Object.Uploaded (setup : StorageSetup) (contents : Set Bytes) (object : S3Object) : Prop :=
  ∃ metadata : SourceFileMetadata, metadata.Known setup.readers contents ∧ object.body ∈ contents ∧
    setup.readers.sha256 object.body = metadata.checksumSha256 ∧ s3Key metadata = .ok object.key

/-- All that lies under the landing prefix has been uploaded by stores. -/
def Supplied (setup : StorageSetup) (contents : Set Bytes) (bucket : S3Bucket) : Prop :=
  ∀ object ∈ bucket, "landing/".toList <+: object.key.toList → S3Object.Uploaded setup contents object

/-- No key loses its object. -/
def KeepsKeys (bucket bucket' : S3Bucket) : Prop :=
  ∀ key, (bucket.latest key).isSome → (bucket'.latest key).isSome

/-- The result of `store`, while it is persisted. -/
def StoragePhase.stored : StoragePhase → Option StorageResult
  | .persisting storage _ => some storage
  | _ => none

def StorePoint.Supplies (setup : StorageSetup) (contents : Set Bytes) (metadata : SourceFileMetadata) :
    StorePoint → Prop
  | .verify => True
  | .head key content | .put key content =>
    content ∈ contents ∧ setup.readers.sha256 content = metadata.checksumSha256 ∧ s3Key metadata = .ok key
  | .headAgain key _ => s3Key metadata = .ok key

/-- The metadata that a call works on. -/
def StorageCall.WorksOn (call : StorageCall) (setup : StorageSetup) (contents : Set Bytes)
    (metadata : SourceFileMetadata) : Prop :=
  metadata.Known setup.readers contents ∧ ∀ given, call.inspected = some given → metadata = given

/-- What a call has found, as far as it has come. -/
structure StorageCall.Supplies (call : StorageCall) (setup : StorageSetup) (contents : Set Bytes)
    (bucket : S3Bucket) (phase : StoragePhase) : Prop where
  storing : ∀ metadata point, phase = .storing metadata point →
    call.WorksOn setup contents metadata ∧ point.Supplies setup contents metadata
  stored : ∀ storage, phase.stored = some storage → call.backend = .s3Landing →
    ∃ metadata key, call.WorksOn setup contents metadata ∧ s3Key metadata = .ok key ∧
      storage.uri = some (setup.uri key) ∧ (bucket.latest key).isSome

/-- What is assumed of stores: inspected metadata, and files with the contents that occur. -/
structure StoresKnown {Client : Type} (setup : StorageSetup) (calls : Client → StorageCall)
    (contents : Set Bytes) : Prop where
  inspected : ∀ i metadata, (calls i).inspected = some metadata → metadata.Inspected setup.readers contents
  files : ∀ i path file, (calls i).landing.files path = some file → file ∈ contents

section Steps

variable {call : StorageCall} {setup : StorageSetup} {contents : Set Bytes} {db : Database}
  {bucket bucket' bucket'' : S3Bucket} {phase next : StoragePhase} {effect : Effect StorageWrite}
  {metadata : SourceFileMetadata}

theorem KeepsKeys.refl (bucket : S3Bucket) : KeepsKeys bucket bucket := fun _ found => found

theorem KeepsKeys.trans (first : KeepsKeys bucket bucket') (second : KeepsKeys bucket' bucket'') :
    KeepsKeys bucket bucket'' :=
  fun key found => second key (first key found)

theorem keepsKeys_put {key : String} {content : Bytes} {tags : List (String × String)} :
    KeepsKeys bucket (bucket.put setup.versionIds key content tags) :=
  fun _ found => Bucket.latest_put_isSome found

theorem SourceFileMetadata.Known.resolved (known : metadata.Known setup.readers contents) :
    ∃ source content, Resolved source ∧ content ∈ contents ∧ metadata.Describes source ∧
      metadata.checksumSha256 = setup.readers.sha256 content := by
  rcases known with ⟨source, content, resolved, within, inspected⟩ |
    ⟨known, ⟨source, content, resolved, within, inspected⟩, rfl⟩
  · obtain ⟨described, checksum, -⟩ := inspectSource_describes inspected
    exact ⟨source, content, resolved, within, described, checksum⟩
  · obtain ⟨described, checksum, -⟩ := inspectSource_describes inspected
    exact ⟨source, content, resolved, within,
      ⟨described.dataset, described.service, described.year, described.month, described.partition,
        described.landing⟩, checksum⟩

theorem SourceFileMetadata.Known.content (known : metadata.Known setup.readers contents)
    (files : ∀ path file, call.landing.files path = some file → file ∈ contents) {content : Bytes}
    (found : call.landing.file metadata.landingPath = .ok (some content)) : content ∈ contents := by
  obtain ⟨source, -, resolved, -, described, -⟩ := known.resolved
  rw [described.landing, Landing.file_resolved resolved] at found
  exact files _ _ (Except.ok.inj found)

theorem StorageCall.Supplies.quiet (storing : ∀ metadata point, phase ≠ .storing metadata point)
    (stored : phase.stored = none) : call.Supplies setup contents bucket phase where
  storing := fun metadata point same => absurd same (storing metadata point)
  stored := fun storage returned => by
    rw [stored] at returned
    cases returned

theorem StorageCall.Supplies.keys (supplies : call.Supplies setup contents bucket phase)
    (kept : KeepsKeys bucket bucket') : call.Supplies setup contents bucket' phase where
  storing := supplies.storing
  stored := fun storage returned s3 => by
    obtain ⟨metadata, key, works, keyed, uri, found⟩ := supplies.stored storage returned s3
    exact ⟨metadata, key, works, keyed, uri, kept key found⟩

theorem StorageCall.Supplies.aborted (aborted : next.Aborted) : call.Supplies setup contents bucket next := by
  rcases aborted with rfl | ⟨error, rfl⟩
  · exact .quiet (fun _ _ same => StoragePhase.noConfusion same) rfl
  · exact .quiet (fun _ _ same => StoragePhase.noConfusion same) rfl

theorem StorageCall.Supplies.returned {storage : StorageResult} {point : PersistPoint}
    (located : call.backend = .s3Landing → ∃ metadata key, call.WorksOn setup contents metadata ∧
      s3Key metadata = .ok key ∧ storage.uri = some (setup.uri key) ∧ (bucket.latest key).isSome) :
    call.Supplies setup contents bucket (.persisting storage point) := by
  refine ⟨fun _ _ same => StoragePhase.noConfusion same, fun storage' same s3 => ?_⟩
  obtain rfl : storage = storage' := Option.some.inj same
  exact located s3

theorem StorageCall.Supplies.accept {key : String} {head : S3Object} {versionId : Option String} {now : Timestamp}
    (works : call.WorksOn setup contents metadata) (keyed : s3Key metadata = .ok key)
    (found : bucket.latest key = some head) :
    call.Supplies setup contents bucket ((setup.accept metadata key head versionId now).phase metadata) := by
  cases replied : setup.accept metadata key head versionId now with
  | next point => exact absurd replied StorageSetup.accept_not_next
  | raise error => exact .aborted (.inr ⟨error, rfl⟩)
  | stored storage =>
    have uri : storage.uri = some (setup.uri key) := by rw [(StorageSetup.accept_stored replied).1, StorageSetup.result]
    have there : (bucket.latest key).isSome := by rw [found, Option.isSome_some]
    exact .returned fun _ => ⟨metadata, key, works, keyed, uri, there⟩

theorem StorageCall.store_supplies {point : StorePoint} {now : Timestamp}
    (files : ∀ path file, call.landing.files path = some file → file ∈ contents)
    (works : call.WorksOn setup contents metadata) (supplies : point.Supplies setup contents metadata) :
    call.Supplies setup contents (call.store setup metadata bucket now point).2
      ((call.store setup metadata bucket now point).1.phase metadata) := by
  have storing : ∀ {bucket : S3Bucket} {point' : StorePoint}, point'.Supplies setup contents metadata →
      call.Supplies setup contents bucket (.storing metadata point') := by
    intro bucket point' holds
    refine ⟨fun metadata' point'' same => ?_, fun _ returned _ => Option.noConfusion rfl (heq_of_eq returned)⟩
    cases same
    exact ⟨works, holds⟩
  cases point with
  | verify =>
    show call.Supplies setup contents bucket ((call.verify setup metadata now).phase metadata)
    cases replied : call.verify setup metadata now with
    | next point' =>
      obtain ⟨key, content, rfl, file, hashed, keyed⟩ := verify_next replied
      exact storing ⟨works.1.content files file, hashed, keyed⟩
    | raise error => exact .aborted (.inr ⟨error, rfl⟩)
    | stored storage =>
      refine .returned fun s3 => ?_
      unfold verify at replied
      rw [s3] at replied
      split at replied
      · cases replied
      · split at replied
        · cases replied
        · dsimp only at replied
          split at replied <;> cases replied
  | head key content =>
    simp only [store]
    split
    · exact storing supplies
    · rename_i existing found
      exact .accept works supplies.2.2 found
  | put key content => exact storing supplies.2.2
  | headAgain key versionId =>
    simp only [store]
    split
    · exact .aborted (.inr ⟨objectNotFound, rfl⟩)
    · rename_i stored found
      exact .accept works supplies found

/-- A statement leaves the bucket as it is or uploads a verified file of a known version. -/
theorem StorageCall.Steps.uploads (steps : call.Steps setup db bucket phase effect next bucket')
    (supplies : call.Supplies setup contents bucket phase) :
    bucket' = bucket ∨ ∃ metadata key content, bucket' = bucket.put setup.versionIds key content
      (objectMetadata metadata) ∧ ∀ object : S3Object, object.key = key → object.body = content →
        object.Uploaded setup contents := by
  have uploaded : ∀ metadata key content, phase = .storing metadata (.put key content) →
      ∀ object : S3Object, object.key = key → object.body = content → object.Uploaded setup contents := by
    rintro metadata key content same object rfl rfl
    obtain ⟨works, within, hashed, keyed⟩ := supplies.storing _ _ same
    exact ⟨metadata, works.1, within, hashed, keyed⟩
  cases steps with
  | @stores metadata point now =>
    cases point with
    | verify => exact .inl rfl
    | head key content =>
      simp only [store]
      split <;> exact .inl rfl
    | put key content => exact .inr ⟨metadata, key, content, rfl, uploaded _ _ _ rfl⟩
    | headAgain key versionId =>
      simp only [store]
      split <;> exact .inl rfl
  | @putRaises metadata key content error => exact .inr ⟨metadata, key, content, rfl, uploaded _ _ _ rfl⟩
  | _ => exact .inl rfl

theorem StorageCall.Steps.keeps_bucket (steps : call.Steps setup db bucket phase effect next bucket')
    (supplies : call.Supplies setup contents bucket phase) (supplied : Supplied setup contents bucket) :
    Supplied setup contents bucket' ∧ KeepsKeys bucket bucket' := by
  rcases steps.uploads supplies with rfl | ⟨metadata, key, content, rfl, uploaded⟩
  · exact ⟨supplied, .refl bucket'⟩
  · refine ⟨fun object member landed => ?_, keepsKeys_put⟩
    rcases Bucket.mem_put.mp member with rfl | old
    · exact uploaded _ rfl rfl
    · exact supplied object old landed

theorem StorageCall.Steps.supplies (steps : call.Steps setup db bucket phase effect next bucket')
    (inspected : ∀ metadata, call.inspected = some metadata → metadata.Inspected setup.readers contents)
    (files : ∀ path file, call.landing.files path = some file → file ∈ contents)
    (records : db.Records setup.readers contents) (reads : phase = .reading → call.inspected = none)
    (supplies : call.Supplies setup contents bucket phase) : call.Supplies setup contents bucket' next := by
  have verifying : ∀ metadata, call.WorksOn setup contents metadata →
      call.Supplies setup contents bucket (.storing metadata .verify) := by
    intro metadata works
    refine ⟨fun metadata' point same => ?_, fun _ returned _ => Option.noConfusion rfl (heq_of_eq returned)⟩
    cases same
    exact ⟨works, True.intro⟩
  cases steps with
  | begins =>
    unfold begin
    split
    · rename_i metadata given
      refine verifying metadata ⟨.inl (inspected metadata given), fun other same => ?_⟩
      exact Option.some.inj (given.symm.trans same)
    · split
      · exact .quiet (fun _ _ same => StoragePhase.noConfusion same) rfl
      · exact .aborted (.inr ⟨_, rfl⟩)
  | reads =>
    unfold read
    split
    · exact .aborted (.inr ⟨_, rfl⟩)
    · rename_i row got
      obtain ⟨known, isInspected, same⟩ := records row (getSourceFile_some got).1
      refine verifying _ ⟨.inr ⟨known, isInspected, same⟩, fun given isGiven => ?_⟩
      rw [reads rfl] at isGiven
      cases isGiven
  | @stores metadata point now =>
    obtain ⟨works, holds⟩ := supplies.storing _ _ rfl
    exact store_supplies files works holds
  | @selects storage source got => exact .returned (supplies.stored storage rfl)
  | @unchanged storage loaded same => exact .returned (supplies.stored storage rfl)
  | @flushes storage loaded changed => exact .returned (supplies.stored storage rfl)
  | commits result => exact .quiet (fun _ _ same => StoragePhase.noConfusion same) rfl
  | stops aborted => exact .aborted aborted
  | putRaises error => exact .aborted (.inr ⟨error, rfl⟩)

end Steps

section Runs

variable {Client : Type} {setup : StorageSetup} {calls : Client → StorageCall} {contents : Set Bytes}
  {base : S3Bucket} {db : Database} {s s' : StorageState Client} {i : Client}

theorem Database.Records.replay (records : db.Records setup.readers contents) (writes : List StorageWrite) :
    ((storing setup calls).replay db writes).Records setup.readers contents := by
  induction writes generalizing db with
  | nil => exact records
  | cons write rest ih =>
    refine ih (records.update (fun row => ?_) write.sourceFileId)
    exact metadataFromRecord_same (write.change.apply_withoutStorage row)

/-- What holds while stores run over a supplied bucket. -/
structure Supplying (setup : StorageSetup) (calls : Client → StorageCall) (contents : Set Bytes)
    (base : S3Bucket) (s : StorageState Client) : Prop where
  records : s.committed.Records setup.readers contents
  supplied : Supplied setup contents s.external
  keys : KeepsKeys base s.external
  phases : ∀ i, (calls i).Supplies setup contents s.external (s.phase i)
  reading : ∀ i, s.phase i = .reading → (calls i).inspected = none

theorem supplying_start (records : db.Records setup.readers contents) (supplied : Supplied setup contents base) :
    Supplying setup calls contents base (storageStart db base) where
  records := records
  supplied := supplied
  keys := .refl base
  phases := fun _ => .quiet (fun _ _ same => StoragePhase.noConfusion same) rfl
  reading := fun _ same => StoragePhase.noConfusion same

theorem StorageCall.Steps.reading {call : StorageCall} {bucket bucket' : S3Bucket} {phase next : StoragePhase}
    {effect : Effect StorageWrite} (steps : call.Steps setup db bucket phase effect next bucket')
    (reading : next = .reading) : call.inspected = none := by
  cases steps with
  | begins =>
    unfold begin at reading
    split at reading
    · cases reading
    · assumption
  | reads =>
    unfold read at reading
    split at reading <;> cases reading
  | @stores metadata point now =>
    cases replied : (call.store setup metadata bucket now point).1 with
    | next point' =>
      rw [replied] at reading
      cases reading
    | stored storage =>
      rw [replied] at reading
      cases reading
    | raise error =>
      rw [replied] at reading
      cases reading
  | commits result => cases reading
  | stops aborted => rcases aborted with rfl | ⟨error, rfl⟩ <;> cases reading
  | _ => cases reading

variable [Fintype Client] [DecidableEq Client]

theorem Supplying.step {e : StorageEvent} (known : StoresKnown setup calls contents)
    (supplying : Supplying setup calls contents base s)
    (stepped : (storing setup calls).step s i e = some s') : Supplying setup calls contents base s' := by
  obtain ⟨effect, phase, external, executed, -, rfl⟩ := (storing setup calls).step_some stepped
  have steps := StorageCall.exec_steps executed
  obtain ⟨supplied, kept⟩ := steps.keeps_bucket (supplying.phases i) supplying.supplied
  have visible : ((storing setup calls).visible s i).Records setup.readers contents := supplying.records.replay _
  refine ⟨?_, supplied, supplying.keys.trans kept, fun j => ?_, fun j isReading => ?_⟩
  · by_cases commits : effect = .commit
    · rw [commits]
      exact visible
    · rw [Program.perform_committed _ commits]
      exact supplying.records
  · by_cases same : j = i
    · subst same
      rw [Program.perform_phase_self]
      exact steps.supplies (known.inspected j) (known.files j) visible (supplying.reading j) (supplying.phases j)
    · rw [Program.perform_phase_other _ same]
      exact (supplying.phases j).keys kept
  · by_cases same : j = i
    · subst same
      rw [Program.perform_phase_self] at isReading
      exact steps.reading isReading
    · rw [Program.perform_phase_other _ same] at isReading
      exact supplying.reading j isReading

theorem run_supplying {schedule : List (Client × StorageEvent)} (known : StoresKnown setup calls contents)
    (supplying : Supplying setup calls contents base s) (ran : (storing setup calls).run s schedule = some s') :
    Supplying setup calls contents base s' :=
  Program.run_preserves (fun _ _ _ _ holds stepped => holds.step known stepped) supplying ran

end Runs

/-- A time in which stores run over the bucket, with the calls and the rows that there are then. -/
inductive StoresRun (setup : StorageSetup) (contents : Set Bytes) (bucket : S3Bucket) : S3Bucket → Prop where
  | run {Client : Type} [Fintype Client] [DecidableEq Client] {calls : Client → StorageCall} {db : Database}
      {schedule : List (Client × StorageEvent)} {s : StorageState Client} (known : StoresKnown setup calls contents)
      (records : db.Records setup.readers contents)
      (ran : (storing setup calls).run (storageStart db bucket) schedule = some s) :
      StoresRun setup contents bucket s.external

theorem stores_supply {setup : StorageSetup} {contents : Set Bytes} {bucket bucket' : S3Bucket}
    (runs : Relation.ReflTransGen (StoresRun setup contents) bucket bucket')
    (supplied : Supplied setup contents bucket) : Supplied setup contents bucket' ∧ KeepsKeys bucket bucket' := by
  induction runs with
  | refl => exact ⟨supplied, .refl bucket⟩
  | tail before run ih =>
    cases run with
    | run known records ran =>
      have after := run_supplying known (supplying_start records ih.1) ran
      exact ⟨after.supplied, ih.2.trans after.keys⟩

end TaxiPipeline
