import Mathlib.Data.Set.Function
import TaxiPipeline.Storage.Durable

namespace TaxiPipeline

open ObjectStore ReadCommitted

/-- The call has found its local file to be the one that its metadata registers. -/
structure StorageCall.Verified (call : StorageCall) (setup : StorageSetup) (metadata : SourceFileMetadata)
    (content : Bytes) : Prop where
  inspected : call.inspected = some metadata
  file : call.landing.file metadata.landingPath = .ok (some content)
  hashed : setup.readers.sha256 content = metadata.checksumSha256

/-- What a store of inspected metadata has checked when it comes to a point. -/
def StorePoint.Holds (setup : StorageSetup) (call : StorageCall) (metadata : SourceFileMetadata) :
    StorePoint → Prop
  | .verify => call.inspected = some metadata
  | .head key content | .put key content => call.Verified setup metadata content ∧ s3Key metadata = .ok key
  | .headAgain _ _ => ∃ content, call.Verified setup metadata content

def StoragePhase.Holds (setup : StorageSetup) (call : StorageCall) : StoragePhase → Prop
  | .idle | .finished (.error _) | .crashed => True
  | .reading => False
  | .storing metadata point => point.Holds setup call metadata
  | .persisting _ _ | .finished (.ok _) => ∃ metadata content, call.Verified setup metadata content

/-- The object is an upload of the call's verified file. -/
def S3Object.StemsFrom (setup : StorageSetup) (call : StorageCall) (object : S3Object) : Prop :=
  ∃ metadata, call.Verified setup metadata object.body ∧ s3Key metadata = .ok object.key ∧
    object.tags = objectMetadata metadata

section Steps

variable {call : StorageCall} {setup : StorageSetup} {db : Database} {bucket bucket' : S3Bucket}
  {phase next : StoragePhase} {effect : Effect StorageWrite}

theorem StorageCall.verify_file {metadata : SourceFileMetadata} {now : Timestamp} {storage : StorageResult}
    (replied : call.verify setup metadata now = .stored storage) : ∃ content,
      call.landing.file metadata.landingPath = .ok (some content) ∧
        setup.readers.sha256 content = metadata.checksumSha256 := by
  unfold verify at replied
  split at replied
  · cases replied
  · rename_i file found
    split at replied
    · cases replied
    · rename_i content verified
      obtain ⟨rfl, hashed⟩ := verifyLocal_ok.mp verified
      exact ⟨content, found, hashed⟩

theorem StorageCall.store_holds {metadata : SourceFileMetadata} {point : StorePoint} {now : Timestamp}
    (holds : point.Holds setup call metadata) :
    ((call.store setup metadata bucket now point).1.phase metadata).Holds setup call := by
  cases point with
  | verify =>
    simp only [store]
    cases replied : call.verify setup metadata now with
    | next point' =>
      obtain ⟨key, content, rfl, file, hashed, keyed⟩ := verify_next replied
      exact ⟨⟨holds, file, hashed⟩, keyed⟩
    | stored storage =>
      obtain ⟨content, file, hashed⟩ := verify_file replied
      exact ⟨metadata, content, holds, file, hashed⟩
    | raise error => exact True.intro
  | head key content =>
    simp only [store]
    split
    · exact holds
    · cases replied : setup.accept metadata key _ _ now with
      | next point' => exact absurd replied StorageSetup.accept_not_next
      | stored storage => exact ⟨metadata, content, holds.1⟩
      | raise error => exact True.intro
  | put key content => exact ⟨content, holds.1⟩
  | headAgain key versionId =>
    obtain ⟨content, verified⟩ := holds
    simp only [store]
    split
    · exact True.intro
    · cases replied : setup.accept metadata key _ _ now with
      | next point' => exact absurd replied StorageSetup.accept_not_next
      | stored storage => exact ⟨metadata, content, verified⟩
      | raise error => exact True.intro

theorem StorageCall.Steps.holds (steps : call.Steps setup db bucket phase effect next bucket')
    (inspects : call.inspected.isSome) (holds : phase.Holds setup call) : next.Holds setup call := by
  cases steps with
  | begins =>
    obtain ⟨metadata, inspected⟩ := Option.isSome_iff_exists.mp inspects
    simp only [begin, inspected]
    exact inspected
  | reads => exact holds.elim
  | stores now => exact store_holds holds
  | selects got => exact holds
  | unchanged same => exact holds
  | flushes changed => exact holds
  | commits result =>
    cases result with
    | ok storage => exact holds
    | error error => exact True.intro
  | stops aborted => rcases aborted with rfl | ⟨error, rfl⟩ <;> exact True.intro
  | putRaises error => exact True.intro

/-- A statement leaves the bucket as it is or uploads the verified file of its call. -/
theorem StorageCall.Steps.bucket_eq (steps : call.Steps setup db bucket phase effect next bucket')
    (holds : phase.Holds setup call) : bucket' = bucket ∨ ∃ metadata key content,
      call.Verified setup metadata content ∧ s3Key metadata = .ok key ∧
        bucket' = bucket.put setup.versionIds key content (objectMetadata metadata) := by
  cases steps with
  | @stores metadata point now =>
    cases point with
    | verify => exact .inl rfl
    | head key content =>
      simp only [store]
      split <;> exact .inl rfl
    | put key content => exact .inr ⟨metadata, key, content, holds.1, holds.2, rfl⟩
    | headAgain key versionId =>
      simp only [store]
      split <;> exact .inl rfl
  | @putRaises metadata key content error => exact .inr ⟨metadata, key, content, holds.1, holds.2, rfl⟩
  | begins => exact .inl rfl
  | reads => exact .inl rfl
  | selects got => exact .inl rfl
  | unchanged same => exact .inl rfl
  | flushes changed => exact .inl rfl
  | commits result => exact .inl rfl
  | stops aborted => exact .inl rfl

end Steps

/-- What is assumed of the stores: each is given the inspection of a resolved source, and no two of
    the contents that occur collide. -/
structure StoresInspected {Client : Type} (setup : StorageSetup) (calls : Client → StorageCall)
    (contents : Set Bytes) : Prop where
  inspected : ∀ i, ∃ source content metadata, Resolved source ∧ content ∈ contents ∧
    inspectSource setup.readers source content = .ok metadata ∧ (calls i).inspected = some metadata
  files : ∀ i path file, (calls i).landing.files path = some file → file ∈ contents
  collisionFree : Set.InjOn setup.readers.sha256 contents

section Runs

variable {Client : Type} {setup : StorageSetup} {calls : Client → StorageCall} {contents : Set Bytes}
  {initial : S3Bucket} {s s' : StorageState Client} {i : Client}

theorem StoresInspected.verified (stores : StoresInspected setup calls contents)
    {metadata : SourceFileMetadata} {content : Bytes} (verified : (calls i).Verified setup metadata content) :
    ∃ source, Resolved source ∧ content ∈ contents ∧
      inspectSource setup.readers source content = .ok metadata ∧
      s3Key metadata = .ok (source.versionKey (setup.readers.sha256 content)) := by
  obtain ⟨source, content', metadata', resolved, known, inspected, given⟩ := stores.inspected i
  cases given.symm.trans verified.inspected
  obtain ⟨described, checksum, size⟩ := inspectSource_describes inspected
  have fileKnown : content ∈ contents := by
    have held := verified.file
    rw [described.landing, Landing.file_resolved resolved] at held
    exact stores.files i _ _ (Except.ok.inj held)
  have same := stores.collisionFree known fileKnown (checksum.symm.trans verified.hashed.symm)
  subst same
  refine ⟨source, resolved, known, inspected, ?_⟩
  rw [s3Key_resolved resolved described, checksum]

/-- Two inspections whose metadata have one key are of one partition and one content. -/
theorem StoresInspected.one_content (stores : StoresInspected setup calls contents)
    {left right : SourcePartition} {content content' : Bytes} (hl : Resolved left) (hr : Resolved right)
    (known : content ∈ contents) (known' : content' ∈ contents)
    (same : left.versionKey (setup.readers.sha256 content) = right.versionKey (setup.readers.sha256 content')) :
    left.partitionKey = right.partitionKey ∧ content = content' := by
  obtain ⟨partition, checksum⟩ := versionKey_injective hl hr same
  exact ⟨partition, stores.collisionFree known known' checksum⟩

/-- What holds while stores run over a bucket: new objects are uploads of verified files. -/
structure Stocked (setup : StorageSetup) (calls : Client → StorageCall) (initial : S3Bucket)
    (s : StorageState Client) : Prop where
  objects : ∀ object ∈ s.external, object ∈ initial ∨ ∃ i, S3Object.StemsFrom setup (calls i) object
  phases : ∀ i, (s.phase i).Holds setup (calls i)

theorem stocked_start (db : Database) : Stocked setup calls initial (storageStart db initial) where
  objects := fun _ member => .inl member
  phases := fun _ => True.intro

theorem Stocked.same_body (stocked : Stocked setup calls initial s) (stores : StoresInspected setup calls contents)
    (fresh : ∀ object ∈ initial, ¬ "landing/".toList <+: object.key.toList)
    {metadata : SourceFileMetadata} {key : String} {content : Bytes} {object : S3Object}
    (verified : (calls i).Verified setup metadata content) (keyed : s3Key metadata = .ok key)
    (found : s.external.latest key = some object) : object.body = content := by
  obtain ⟨member, sameKey⟩ := Bucket.latest_some found
  obtain ⟨source, resolved, known, -, ownKey⟩ := stores.verified verified
  cases keyed.symm.trans ownKey
  rcases stocked.objects object member with old | ⟨j, metadata', verified', keyed', -⟩
  · refine absurd ?_ (fresh object old)
    rw [sameKey]
    exact versionKey_landing _ _
  · obtain ⟨source', resolved', known', -, otherKey⟩ := stores.verified verified'
    have keys := Except.ok.inj (keyed'.symm.trans otherKey)
    exact (stores.one_content resolved' resolved known' known (keys.symm.trans sameKey)).2

variable [Fintype Client] [DecidableEq Client]

theorem Stocked.step {e : StorageEvent} (stocked : Stocked setup calls initial s)
    (stores : StoresInspected setup calls contents) (stepped : (storing setup calls).step s i e = some s') :
    Stocked setup calls initial s' := by
  obtain ⟨effect, phase, external, executed, -, rfl⟩ := (storing setup calls).step_some stepped
  have steps := StorageCall.exec_steps executed
  have inspects : (calls i).inspected.isSome := by
    obtain ⟨-, -, metadata, -, -, -, given⟩ := stores.inspected i
    rw [given]
    rfl
  refine ⟨fun object member => ?_, fun j => ?_⟩
  · rw [Program.perform_external] at member
    rcases steps.bucket_eq (stocked.phases i) with same | ⟨metadata, key, content, verified, keyed, uploaded⟩
    · exact stocked.objects object (same ▸ member)
    · rw [uploaded] at member
      rcases Bucket.mem_put.mp member with rfl | old
      · exact .inr ⟨i, metadata, verified, keyed, rfl⟩
      · exact stocked.objects object old
  · by_cases same : j = i
    · subst same
      rw [Program.perform_phase_self]
      exact steps.holds inspects (stocked.phases j)
    · rw [Program.perform_phase_other _ same]
      exact stocked.phases j

/-- Every key keeps the bytes that it stands for. -/
def KeepsBytes (bucket bucket' : S3Bucket) : Prop :=
  ∀ key object, bucket.latest key = some object →
    ∃ object', bucket'.latest key = some object' ∧ object'.body = object.body

theorem Stocked.step_bytes {e : StorageEvent} (stocked : Stocked setup calls initial s)
    (stores : StoresInspected setup calls contents)
    (fresh : ∀ object ∈ initial, ¬ "landing/".toList <+: object.key.toList)
    (stepped : (storing setup calls).step s i e = some s') : KeepsBytes s.external s'.external := by
  obtain ⟨effect, phase, external, executed, -, rfl⟩ := (storing setup calls).step_some stepped
  intro key object found
  rw [Program.perform_external]
  rcases (StorageCall.exec_steps executed).bucket_eq (stocked.phases i) with
    same | ⟨metadata, key', content, verified, keyed, uploaded⟩
  · exact ⟨object, same ▸ found, rfl⟩
  · rw [uploaded]
    by_cases there : key' = key
    · subst there
      exact ⟨_, Bucket.latest_put_self, (stocked.same_body stores fresh verified keyed found).symm⟩
    · exact ⟨object, (Bucket.latest_put_other there).trans found, rfl⟩

theorem run_stocked {schedule : List (Client × StorageEvent)} (stocked : Stocked setup calls initial s)
    (stores : StoresInspected setup calls contents)
    (fresh : ∀ object ∈ initial, ¬ "landing/".toList <+: object.key.toList)
    (ran : (storing setup calls).run s schedule = some s') :
    Stocked setup calls initial s' ∧ KeepsBytes s.external s'.external := by
  refine Program.run_preserves
    (I := fun t => Stocked setup calls initial t ∧ KeepsBytes s.external t.external) ?_
    ⟨stocked, fun key object found => ⟨object, found, rfl⟩⟩ ran
  rintro t i e t' ⟨holds, kept⟩ stepped
  refine ⟨holds.step stores stepped, fun key object found => ?_⟩
  obtain ⟨object', found', same⟩ := kept key object found
  obtain ⟨object'', found'', same'⟩ := holds.step_bytes stores fresh stepped key object' found'
  exact ⟨object'', found'', same'.trans same⟩

omit [Fintype Client] [DecidableEq Client] in
/-- An object under a landing key is what the key says, and what every source of the key registers. -/
theorem Stocked.object_matches (stocked : Stocked setup calls initial s)
    (stores : StoresInspected setup calls contents)
    (fresh : ∀ object ∈ initial, ¬ "landing/".toList <+: object.key.toList) {key : String} {object : S3Object}
    (landed : "landing/".toList <+: key.toList) (found : s.external.latest key = some object) :
    (∃ source, Resolved source ∧ key = source.versionKey (setup.readers.sha256 object.body)) ∧
      ∀ source content metadata, Resolved source → content ∈ contents →
        inspectSource setup.readers source content = .ok metadata → s3Key metadata = .ok key →
          object.Matches metadata := by
  obtain ⟨member, sameKey⟩ := Bucket.latest_some found
  subst sameKey
  rcases stocked.objects object member with old | ⟨j, uploaded, verified, keyed, tags⟩
  · exact absurd landed (fresh object old)
  · obtain ⟨source, resolved, known, inspected, ownKey⟩ := stores.verified verified
    have isKey := Except.ok.inj (keyed.symm.trans ownKey)
    refine ⟨⟨source, resolved, isKey⟩, fun source' content metadata resolved' known' inspected' keyed' => ?_⟩
    obtain ⟨described, checksum, size⟩ := inspectSource_describes inspected
    obtain ⟨described', checksum', size'⟩ := inspectSource_describes inspected'
    have otherKey := (s3Key_resolved resolved' described').symm.trans keyed'
    rw [checksum'] at otherKey
    have keys := (Except.ok.inj otherKey).trans isKey
    obtain ⟨partition, same⟩ := stores.one_content resolved' resolved known' known keys
    obtain ⟨name, -⟩ := resolved'.dataset_of_partition resolved partition
    obtain ⟨hash, key, dataset⟩ := objectMetadata_lookup uploaded
    refine ⟨?_, ?_, ?_, ?_⟩
    · rw [size', same]
    · rw [tags, hash, checksum, checksum', same]
    · rw [tags, key, described.partition, described'.partition, partition]
    · rw [tags, dataset, described.dataset, described'.dataset, name]

omit [Fintype Client] [DecidableEq Client] in
theorem not_verified {call : StorageCall} {metadata metadata' : SourceFileMetadata} {content : Bytes}
    (given : call.inspected = some metadata)
    (mismatched : ∀ content, call.landing.file metadata.landingPath = .ok (some content) →
      setup.readers.sha256 content ≠ metadata.checksumSha256) :
    ¬ call.Verified setup metadata' content := by
  intro verified
  cases given.symm.trans verified.inspected
  exact mismatched content verified.file verified.hashed

omit [Fintype Client] [DecidableEq Client] in
theorem Stocked.refused (stocked : Stocked setup calls initial s) {metadata : SourceFileMetadata}
    (given : (calls i).inspected = some metadata)
    (mismatched : ∀ content, (calls i).landing.file metadata.landingPath = .ok (some content) →
      setup.readers.sha256 content ≠ metadata.checksumSha256) :
    s.phase i = .idle ∨ s.phase i = .storing metadata .verify ∨ (s.phase i).Aborted := by
  have holds := stocked.phases i
  cases at_phase : s.phase i with
  | idle => exact .inl rfl
  | reading =>
    rw [at_phase] at holds
    exact holds.elim
  | storing metadata' point =>
    rw [at_phase] at holds
    cases point with
    | verify =>
      cases given.symm.trans holds
      exact .inr (.inl rfl)
    | head key content => exact absurd holds.1 (not_verified given mismatched)
    | put key content => exact absurd holds.1 (not_verified given mismatched)
    | headAgain key versionId =>
      obtain ⟨content, verified⟩ := holds
      exact absurd verified (not_verified given mismatched)
  | persisting storage point =>
    rw [at_phase] at holds
    obtain ⟨metadata', content, verified⟩ := holds
    exact absurd verified (not_verified given mismatched)
  | finished result =>
    rw [at_phase] at holds
    cases result with
    | ok storage =>
      obtain ⟨metadata', content, verified⟩ := holds
      exact absurd verified (not_verified given mismatched)
    | error error => exact .inr (.inr (.inr ⟨error, rfl⟩))
  | crashed => exact .inr (.inr (.inl rfl))

omit [DecidableEq Client] [Fintype Client] in
theorem StoresInspected.verify_raises (stores : StoresInspected setup calls contents)
    {metadata : SourceFileMetadata} (given : (calls i).inspected = some metadata)
    (mismatched : ∀ content, (calls i).landing.file metadata.landingPath = .ok (some content) →
      setup.readers.sha256 content ≠ metadata.checksumSha256) (now : Timestamp) :
    (calls i).verify setup metadata now = .raise localMismatch := by
  obtain ⟨source, content, metadata', resolved, -, inspected, given'⟩ := stores.inspected i
  cases given.symm.trans given'
  obtain ⟨described, -, -⟩ := inspectSource_describes inspected
  have found := Landing.file_resolved resolved (calls i).landing
  rw [← described.landing] at found
  unfold StorageCall.verify
  rw [found]
  dsimp only
  cases verified : verifyLocal setup.readers _ metadata.checksumSha256 with
  | error error => rw [verifyLocal_error verified]
  | ok content =>
    obtain ⟨there, hashed⟩ := verifyLocal_ok.mp verified
    exact absurd hashed (mismatched content (found.trans (congrArg _ there)))

/-- Content-addressed objects are immutable: whatever stores have done, the object under a landing key is
    what the key says and what its versions register, later stores leave the bytes of every key, and a
    store whose local file does not match raises the integrity error and writes nothing. -/
theorem stored_objects_immutable {db : Database} {schedule later : List (Client × StorageEvent)}
    (stores : StoresInspected setup calls contents)
    (fresh : ∀ object ∈ initial, ¬ "landing/".toList <+: object.key.toList)
    (ran : (storing setup calls).run (storageStart db initial) schedule = some s)
    (ranOn : (storing setup calls).run s later = some s') :
    (∀ key (object : S3Object), "landing/".toList <+: key.toList → s.external.latest key = some object →
      (∃ source, Resolved source ∧ key = source.versionKey (setup.readers.sha256 object.body)) ∧
        ∀ source content metadata, Resolved source → content ∈ contents →
          inspectSource setup.readers source content = .ok metadata → s3Key metadata = .ok key →
            object.Matches metadata) ∧
      (∀ key object, s.external.latest key = some object →
        ∃ object', s'.external.latest key = some object' ∧ object'.body = object.body) ∧
      ∀ i metadata, (calls i).inspected = some metadata →
        (∀ content, (calls i).landing.file metadata.landingPath = .ok (some content) →
          setup.readers.sha256 content ≠ metadata.checksumSha256) →
        (s.phase i = .idle ∨ s.phase i = .storing metadata .verify ∨ (s.phase i).Aborted) ∧
          (∀ e t, (storing setup calls).step s i e = some t → t.external = s.external) ∧
          (s.phase i = .storing metadata .verify → ∀ now, ∃ t error,
            (storing setup calls).step s i (.next now) = some t ∧ t.phase i = .finished (.error error) ∧
              error.kind = .storageIntegrityError) := by
  have stocked := (run_stocked (stocked_start db) stores fresh ran).1
  refine ⟨fun key object landed found => stocked.object_matches stores fresh landed found,
    (run_stocked stocked stores fresh ranOn).2, fun i metadata given mismatched =>
      ⟨stocked.refused given mismatched, fun e t stepped => ?_, fun verifying now => ?_⟩⟩
  · obtain ⟨effect, phase, external, executed, -, rfl⟩ := (storing setup calls).step_some stepped
    rcases (StorageCall.exec_steps executed).bucket_eq (stocked.phases i) with same | ⟨_, _, _, verified, -⟩
    · exact same
    · exact absurd verified (not_verified given mismatched)
  · refine ⟨(storing setup calls).perform s i .read (.finished (.error localMismatch)) s.external,
      localMismatch, ?_, Program.perform_phase_self _, rfl⟩
    have raises := stores.verify_raises given mismatched now
    have executed : (storing setup calls).exec i (s.phase i) ((storing setup calls).visible s i) s.external
        (.next now) = some (.read, .finished (.error localMismatch), s.external) := by
      rw [verifying]
      simp only [storing, StorageCall.exec, StorageCall.advance, StorageCall.store, raises]
      rfl
    unfold Program.step
    rw [executed]
    exact if_pos True.intro

end Runs

/-- Both calls have found no object when the first uploads. -/
def firstUpload : List (Bool × StorageEvent) :=
  List.replicate 3 (false, .next 0) ++ List.replicate 4 (true, .next 0)

theorem zoneStores_inspected : StoresInspected zoneStorage racingCalls {[1, 2, 3]} where
  inspected := fun _ => ⟨taxiZoneSource, [1, 2, 3], zoneMetadata, .zones, rfl, rfl, rfl⟩
  files := by
    intro i path file held
    simp only [racingCalls, zoneCalls, zoneLanding] at held
    split at held
    · cases held
      rfl
    · cases held
  collisionFree := Set.injOn_singleton _ _

set_option maxRecDepth 10000 in
theorem racingUploads_keep_bytes :
    ∃ s s' key object object', (storing zoneStorage racingCalls).run (storageStart registeredZones []) firstUpload =
      some s ∧ (storing zoneStorage racingCalls).run s [(false, .next 0)] = some s' ∧
      s.external.latest key = some object ∧ s'.external.latest key = some object' ∧
      (object.id, object'.id) = (some "0", some "1") ∧ object'.body = object.body := by
  have first : ((storing zoneStorage racingCalls).run (storageStart registeredZones []) firstUpload).map (fun s =>
      ((s.external.latest (taxiZoneSource.versionKey 3)).map (·.id),
        ((storing zoneStorage racingCalls).run s [(false, .next 0)]).map fun s' =>
          (s'.external.latest (taxiZoneSource.versionKey 3)).map (·.id))) =
      some (some (some "0"), some (some (some "1"))) := by decide +kernel
  obtain ⟨s, ran, both⟩ := Option.map_eq_some_iff.mp first
  obtain ⟨object, found, id⟩ := Option.map_eq_some_iff.mp (congrArg Prod.fst both)
  obtain ⟨s', ranOn, after⟩ := Option.map_eq_some_iff.mp (congrArg Prod.snd both)
  have fresh : ∀ object ∈ ([] : S3Bucket), ¬ "landing/".toList <+: object.key.toList :=
    fun _ member => (List.not_mem_nil member).elim
  obtain ⟨-, kept, -⟩ := stored_objects_immutable zoneStores_inspected fresh ran ranOn
  obtain ⟨object', found', body⟩ := kept _ object found
  rw [found'] at after
  have id' : object'.id = some "1" := Option.some.inj after
  exact ⟨s, s', _, object, object', ran, ranOn, found, found', Prod.ext id id', body⟩

end TaxiPipeline
