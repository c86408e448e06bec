import TaxiPipeline.Downloads.Served
import TaxiPipeline.Storage.Supply

namespace TaxiPipeline

open ObjectStore ReadCommitted Stateful

section Keys

theorem isKeyChar_digit {c : Char} (digit : c.isDigit = true) : isKeyChar c = true := by
  have apart : ∀ other : Char, other.isDigit = false → c ≠ other := by
    rintro other notDigit rfl
    rw [digit] at notDigit
    cases notDigit
  have low : c.toNat < 128 := by
    simp only [Char.isDigit, Bool.and_eq_true, decide_eq_true_eq] at digit
    exact lt_of_le_of_lt (UInt32.le_iff_toNat_le.mp digit.2) (by decide)
  simp [isKeyChar, isBucketChar, endsNetloc, isUnsafeByte, low, apart '/' (by decide), apart '?' (by decide),
    apart '#' (by decide), apart '[' (by decide), apart ']' (by decide), apart '\t' (by decide),
    apart '\r' (by decide), apart '\n' (by decide)]

theorem padded_keyChars (width n : Nat) : (padded width n).toList.all isKeyChar = true :=
  List.all_eq_true.mpr fun _ member => isKeyChar_digit (padded_digits member)

theorem hexDigits_keyChars (width n : Nat) : (hexDigits width n).all isKeyChar = true := by
  have digits : ∀ m < 16, isKeyChar (Nat.digitChar m) = true := by decide
  induction width generalizing n with
  | zero => rfl
  | succ width ih =>
    rw [hexDigits, List.all_append, ih, List.all_cons, digits _ (Nat.mod_lt n (by decide))]
    rfl

theorem Resolved.keyChars {source : SourcePartition} (resolved : Resolved source) :
    source.partitionKey.toList.all isKeyChar = true ∧ source.sourceFormat.toList.all isKeyChar = true := by
  have monthly : ∀ service : String, service.toList.all isKeyChar = true → ∀ year month,
      monthlyTripSource service year month = .ok source →
        source.partitionKey.toList.all isKeyChar = true ∧ source.sourceFormat.toList.all isKeyChar = true := by
    intro service plain year month ok
    obtain ⟨-, -, -, -, -, -, format, key⟩ := monthlyTripSource_ok ok
    rw [key, format]
    simp only [String.toList_append, List.all_append, plain, padded_keyChars, Bool.true_and, Bool.and_true]
    decide
  cases resolved with
  | yellow ok => exact monthly "yellow" (by decide) _ _ ok
  | green ok => exact monthly "green" (by decide) _ _ ok
  | zones => exact ⟨by decide, by decide⟩

theorem parseS3Uri_version {setup : StorageSetup} {source : SourcePartition} (named : IsBucketName setup.bucket)
    (resolved : Resolved source) (checksum : Digest) :
    parseS3Uri (some (setup.uri (source.versionKey checksum))) =
      .ok (setup.bucket, source.versionKey checksum) := by
  obtain ⟨partition, format⟩ := resolved.keyChars
  refine parseS3Uri_uri named ?_ ?_
  · simp only [SourcePartition.versionKey, String.toList_append, List.all_append, partition, format, hexdigest,
      String.toList_ofList, hexDigits_keyChars, Bool.and_true]
    decide
  · simp [SourcePartition.versionKey, String.toList_append]

end Keys

section Restored

variable {Client : Type} {setup : StorageSetup} {calls : Client → StorageCall} {contents : Set Bytes}
  {source : SourcePartition} {content : Bytes} {metadata : SourceFileMetadata} {bucket : S3Bucket}

theorem Supplied.body_eq (supplied : Supplied setup contents bucket)
    (collisionFree : Set.InjOn setup.readers.sha256 contents) (resolved : Resolved source) (within : content ∈ contents)
    {object : S3Object} (found : bucket.latest (source.versionKey (setup.readers.sha256 content)) = some object) :
    object.body = content := by
  obtain ⟨member, sameKey⟩ := Bucket.latest_some found
  have landed : "landing/".toList <+: object.key.toList := by
    rw [sameKey]
    exact versionKey_landing _ _
  obtain ⟨uploaded, known, bodyWithin, hashed, keyed⟩ := supplied object member landed
  obtain ⟨origin, _, resolved', -, described, -⟩ := known.resolved
  rw [s3Key_resolved resolved' described, ← hashed] at keyed
  have checksum := (versionKey_injective resolved' resolved ((Except.ok.inj keyed).trans sameKey)).2
  exact collisionFree bodyWithin within checksum

/-- Stores and materializations are inverse: once a store of an inspected source has returned, its file can be
    had back from every bucket that further stores lead to, however it comes in chunks; and whenever a
    materialization returns, the destination has the registered checksum. -/
theorem materialize_restores [Fintype Client] [DecidableEq Client] {db : Database} {initial bucket' : S3Bucket}
    {schedule later : List (Client × StorageEvent)} {s s' : StorageState Client} {i : Client} {storage : StorageResult}
    (named : IsBucketName setup.bucket) (collisionFree : Set.InjOn setup.readers.sha256 contents)
    (fresh : ∀ object ∈ initial, ¬ "landing/".toList <+: object.key.toList)
    (earlier : Relation.ReflTransGen (StoresRun setup contents) initial bucket)
    (known : StoresKnown setup calls contents) (records : db.Records setup.readers contents)
    (ran : (storing setup calls).run (storageStart db bucket) schedule = some s)
    (resolved : Resolved source) (within : content ∈ contents)
    (inspected : inspectSource setup.readers source content = .ok metadata)
    (given : (calls i).inspected = some metadata) (s3 : (calls i).backend = .s3Landing)
    (returned : (s.phase i).stored = some storage) (ranOn : (storing setup calls).run s later = some s')
    (afterwards : Relation.ReflTransGen (StoresRun setup contents) s'.external bucket') :
    (∀ chunks token upstream files destination, IsChunking chunks → files destination = none →
      files (partialPath destination token) = none →
        (setup.materialize storage.uri destination metadata.checksumSha256 metadata.fileSizeBytes).eval
            (serve bucket' chunks token upstream) files =
          (.ok destination, Function.update files destination (some content))) ∧
      ∀ storageUri destination checksum fileSize events files turn path files' turn',
        (setup.materialize storageUri destination checksum fileSize).eval (alone events) (files, turn) =
            (.ok path, (files', turn')) →
          path = destination ∧ ∃ file, files' destination = some file ∧ setup.readers.sha256 file = checksum := by
  refine ⟨?_, fun _ _ _ _ _ _ _ _ _ _ => materialize_returns⟩
  have start : Supplied setup contents initial := fun object member landed => absurd landed (fresh object member)
  have before := run_supplying known (supplying_start records (stores_supply earlier start).1) ran
  obtain ⟨metadata', key, works, keyed, uri, found⟩ := (before.phases i).stored storage returned s3
  have same := works.2 metadata given
  subst same
  have after := run_supplying known ⟨before.records, before.supplied, .refl _, before.phases, before.reading⟩ ranOn
  obtain ⟨supplied, kept⟩ := stores_supply afterwards after.supplied
  obtain ⟨object, latest⟩ := Option.isSome_iff_exists.mp (kept key (after.keys key found))
  obtain ⟨described, checksum, size⟩ := inspectSource_describes inspected
  rw [s3Key_resolved resolved described, checksum] at keyed
  obtain rfl := Except.ok.inj keyed
  have body := supplied.body_eq collisionFree resolved within latest
  intro chunks token upstream files destination chunked absent unused
  rw [uri, checksum, size, ← body]
  refine materialize_served chunked ?_ latest rfl rfl absent unused
  rw [body]
  exact parseS3Uri_version named resolved _

end Restored

theorem zoneStores_known : StoresKnown zoneStorage racingCalls {[1, 2, 3]} where
  inspected := by
    intro i metadata given
    cases given
    exact ⟨taxiZoneSource, [1, 2, 3], .zones, rfl, rfl⟩
  files := zoneStores_inspected.files

theorem registeredZones_records : registeredZones.Records zoneStorage.readers {[1, 2, 3]} := by
  intro row member
  rw [List.mem_singleton.mp member]
  exact ⟨zoneMetadata, ⟨taxiZoneSource, [1, 2, 3], .zones, rfl, rfl⟩, rfl⟩

set_option maxRecDepth 10000 in
/-- Byte by byte the uploaded zone lookup comes back. -/
theorem storedZones_come_back :
    ∃ s storage, (storing zoneStorage racingCalls).run (storageStart registeredZones [])
        (List.replicate 5 (true, .next 0)) = some s ∧ (s.phase true).stored = some storage ∧
      (zoneStorage.materialize storage.uri ["zones.csv".toList] 3 3).eval
          (serve s.external (·.map ([·])) "x".toList fun _ => .error ⟨.other "URLError", "offline"⟩) (fun _ => none) =
        (.ok ["zones.csv".toList], Function.update (fun _ => none) ["zones.csv".toList] (some [1, 2, 3])) := by
  have ends : ((storing zoneStorage racingCalls).run (storageStart registeredZones [])
      (List.replicate 5 (true, .next 0))).map (fun s => (s.phase true).stored.isSome) = some true := by decide +kernel
  obtain ⟨s, ran, returns⟩ := Option.map_eq_some_iff.mp ends
  obtain ⟨storage, returned⟩ := Option.isSome_iff_exists.mp returns
  have named : IsBucketName zoneStorage.bucket := ⟨by decide, by decide⟩
  have fresh : ∀ object ∈ ([] : S3Bucket), ¬ "landing/".toList <+: object.key.toList :=
    fun _ member => (List.not_mem_nil member).elim
  have stays : (storing zoneStorage racingCalls).run s [] = some s := rfl
  have restores := (materialize_restores named zoneStores_inspected.collisionFree fresh .refl zoneStores_known
    registeredZones_records ran .zones rfl rfl rfl rfl returned stays .refl).1
  exact ⟨s, storage, ran, returned, restores _ _ _ _ _ isChunking_bytes rfl rfl⟩

end TaxiPipeline
