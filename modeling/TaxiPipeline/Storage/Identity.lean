import TaxiPipeline.Ingestion.AllOrNothing
import TaxiPipeline.Lifecycle.Histories
import TaxiPipeline.Storage.Immutable

namespace TaxiPipeline

open ReadCommitted Stateful Transaction

section Sources

variable {left right : SourcePartition}

theorem monthlyTripSource_of_partition {service service' : String} {year month year' month' : Int}
    (hl : monthlyTripSource service year month = .ok left)
    (hr : monthlyTripSource service' year' month' = .ok right) (plain : '/' ∉ service.toList)
    (plain' : '/' ∉ service'.toList) (same : left.partitionKey = right.partitionKey) : left = right := by
  obtain ⟨yearOk, monthOk, -, -, -, -, -, key⟩ := monthlyTripSource_ok hl
  obtain ⟨yearOk', monthOk', -, -, -, -, -, key'⟩ := monthlyTripSource_ok hr
  have parts : ∀ (service : String) (year month : Nat), '/' ∉ service.toList →
      pathParts (service ++ "/" ++ padded 4 year ++ "/" ++ padded 2 month).toList =
        [service.toList, (padded 4 year).toList, (padded 2 month).toList] := by
    intro service year month plain
    have chars : (service ++ "/" ++ padded 4 year ++ "/" ++ padded 2 month).toList =
        service.toList ++ '/' :: ((padded 4 year).toList ++ '/' :: (padded 2 month).toList) := by
      simp [String.toList_append]
    rw [chars, pathParts_slash _ plain, pathParts_slash _ (padded_noSlash _ _), pathParts_plain (padded_noSlash _ _)]
  have names := congrArg (fun text : String => pathParts text.toList) (key.symm.trans (same.trans key'))
  simp only [parts _ _ _ plain, parts _ _ _ plain', List.cons.injEq, and_true] at names
  obtain ⟨services, years, months⟩ := names
  have sameService := String.toList_inj.mp services
  have sameYear : year = year' := by
    have numbers := padded_injective (String.toList_inj.mp years)
    omega
  have sameMonth : month = month' := by
    have numbers := padded_injective (String.toList_inj.mp months)
    omega
  rw [sameService, sameYear, sameMonth] at hl
  exact Except.ok.inj (hl.symm.trans hr)

theorem Resolved.eq_of_partition (hl : Resolved left) (hr : Resolved right)
    (same : left.partitionKey = right.partitionKey) : left = right := by
  have formats := (hl.dataset_of_partition hr same).2
  cases hl with
  | yellow ok | green ok =>
    cases hr with
    | yellow ok' | green ok' => exact monthlyTripSource_of_partition ok ok' (by decide) (by decide) same
    | zones =>
      rw [(monthlyTripSource_ok ok).2.2.2.2.2.2.1] at formats
      exact absurd formats (by decide)
  | zones =>
    cases hr with
    | yellow ok' | green ok' =>
      rw [(monthlyTripSource_ok ok').2.2.2.2.2.2.1] at formats
      exact absurd formats (by decide)
    | zones => rfl

theorem nameSuffix_dot {stem extension : List Char} (named : stem ≠ []) (nonempty : extension ≠ [])
    (plain : '.' ∉ extension) : nameSuffix (stem ++ '.' :: extension) = '.' :: extension := by
  have passes : ∀ c ∈ extension.reverse, decide (c ≠ '.') = true := by
    intro c member
    refine decide_eq_true ?_
    rintro rfl
    exact plain (List.mem_reverse.mp member)
  have found : ((stem ++ '.' :: extension).reverse.takeWhile (· ≠ '.')).reverse = extension := by
    rw [List.reverse_append, List.reverse_cons, List.append_assoc, List.takeWhile_append_of_pos passes,
      List.singleton_append, List.takeWhile_cons_of_neg (by simp), List.append_nil, List.reverse_reverse]
  have long : 0 < stem.length := List.length_pos_iff.mpr named
  have longer : extension.length + 1 < (stem ++ '.' :: extension).length := by
    rw [List.length_append, List.length_cons]
    omega
  unfold nameSuffix
  simp only [found]
  rw [if_pos ⟨longer, nonempty⟩]

theorem lowerSuffix_last {text : String} {names : Path} {last : List Char}
    (parts : pathParts text.toList = names ++ [last]) (isName : IsName last) :
    lowerSuffix text = (nameSuffix last).map Char.toLower := by
  unfold lowerSuffix
  simp only [parts]
  have kept : [last].filter (fun part => part ≠ [] ∧ part ≠ ['.']) = [last] := by simp [isName.1, isName.2.1]
  rw [List.filter_append, kept, List.getLast?_concat, Option.getD_some]

theorem monthlyTripSource_suffix {service : String} {year month : Int}
    (resolved : monthlyTripSource service year month = .ok left) (plain : '/' ∉ service.toList) :
    lowerSuffix left.landingPath = ".parquet".toList := by
  obtain ⟨c, digit, -⟩ := padded_exists 2 month.toNat
  have letter : 'p' ∈ (padded 2 month.toNat).toList ++ ".parquet".toList := by simp
  have suffix : nameSuffix ((padded 2 month.toNat).toList ++ ".parquet".toList) = ".parquet".toList :=
    nameSuffix_dot (List.ne_nil_of_mem digit) (by decide) (by decide)
  have parts : pathParts left.landingPath.toList =
      ["data".toList, "landing".toList, service.toList, (padded 4 year.toNat).toList] ++
        [(padded 2 month.toNat).toList ++ ".parquet".toList] := monthlyTripSource_parts resolved plain
  rw [lowerSuffix_last parts (isName_of_mem letter (by decide)), suffix]
  decide

theorem Resolved.format_of_suffix {source : SourcePartition} (resolved : Resolved source) :
    (if lowerSuffix source.landingPath = ".csv".toList then "csv" else "parquet") = source.sourceFormat := by
  cases resolved with
  | yellow ok | green ok =>
    rw [monthlyTripSource_suffix ok (by decide), (monthlyTripSource_ok ok).2.2.2.2.2.2.1]
    decide
  | zones => decide

end Sources

/-- What inspections of resolved sources find out about files of the given contents. -/
def SourceFileMetadata.Inspected (readers : Readers) (contents : Set Bytes) (metadata : SourceFileMetadata) :
    Prop :=
  ∃ source content, Resolved source ∧ content ∈ contents ∧ inspectSource readers source content = .ok metadata

/-- What a row keeps of the metadata that it is registered with. -/
def SourceFileMetadata.recorded (metadata : SourceFileMetadata) : SourceFileMetadata :=
  { metadata with schemaVersion := none }

section Metadata

variable {readers : Readers} {contents : Set Bytes} {left right metadata : SourceFileMetadata}

theorem SourceFileMetadata.Inspected.s3Key_iff (hl : left.Inspected readers contents)
    (hr : right.Inspected readers contents) :
    (∃ key, s3Key left = .ok key) ∧ (s3Key left = s3Key right ↔
      left.partitionKey = right.partitionKey ∧ left.checksumSha256 = right.checksumSha256) := by
  obtain ⟨source, content, resolved, -, inspected⟩ := hl
  obtain ⟨source', content', resolved', -, inspected'⟩ := hr
  have described := (inspectSource_describes inspected).1
  have described' := (inspectSource_describes inspected').1
  rw [s3Key_resolved resolved described, s3Key_resolved resolved' described', described.partition,
    described'.partition]
  refine ⟨⟨_, rfl⟩, fun same => versionKey_injective resolved resolved' (Except.ok.inj same), ?_⟩
  rintro ⟨partition, checksum⟩
  rw [resolved.eq_of_partition resolved' partition, checksum]

/-- A version is inspected in one way only. -/
theorem SourceFileMetadata.Inspected.eq_of_version (collisionFree : Set.InjOn readers.sha256 contents)
    (hl : left.Inspected readers contents) (hr : right.Inspected readers contents)
    (partition : left.partitionKey = right.partitionKey) (checksum : left.checksumSha256 = right.checksumSha256) :
    left = right := by
  obtain ⟨source, content, resolved, known, inspected⟩ := hl
  obtain ⟨source', content', resolved', known', inspected'⟩ := hr
  obtain ⟨described, hash, -⟩ := inspectSource_describes inspected
  obtain ⟨described', hash', -⟩ := inspectSource_describes inspected'
  have sources : source = source' := by
    refine resolved.eq_of_partition resolved' ?_
    rw [← described.partition, ← described'.partition, partition]
  have same : content = content' := by
    refine collisionFree known known' ?_
    rw [← hash, ← hash', checksum]
  rw [sources, same] at inspected
  exact Except.ok.inj (inspected.symm.trans inspected')

theorem SourceFileMetadata.Inspected.metadataFromRecord_new (inspected : metadata.Inspected readers contents)
    (sourceFileId : Nat) (status : SourceStatus) (now : Timestamp) :
    metadataFromRecord (newSourceFile sourceFileId status now metadata) = metadata.recorded := by
  obtain ⟨source, content, resolved, -, inspection⟩ := inspected
  have format := resolved.format_of_suffix
  obtain ⟨-, found, -, rfl⟩ := inspectSource_ok inspection
  unfold metadataFromRecord newSourceFile SourceFileMetadata.recorded
  rw [← format]

end Metadata

/-- Every row is the record of inspected metadata. -/
def Database.Records (db : Database) (readers : Readers) (contents : Set Bytes) : Prop :=
  ∀ row ∈ db.sourceFiles, ∃ metadata : SourceFileMetadata,
    metadata.Inspected readers contents ∧ metadataFromRecord row = metadata.recorded

/-- Every row goes on to record the same metadata. -/
def Database.KeepsRecords (db db' : Database) : Prop :=
  ∀ sourceFileId row, db.getSourceFile sourceFileId = some row →
    ∃ row', db'.getSourceFile sourceFileId = some row' ∧ metadataFromRecord row' = metadataFromRecord row

section Records

variable {readers : Readers} {contents : Set Bytes} {metadata : SourceFileMetadata} {db db' db'' : Database}

theorem Database.KeepsRecords.refl (db : Database) : db.KeepsRecords db := fun _ row got => ⟨row, got, rfl⟩

theorem Database.KeepsRecords.trans (first : db.KeepsRecords db') (second : db'.KeepsRecords db'') :
    db.KeepsRecords db'' := by
  intro sourceFileId row got
  obtain ⟨row', got', same⟩ := first sourceFileId row got
  obtain ⟨row'', got'', same'⟩ := second sourceFileId row' got'
  exact ⟨row'', got'', same'.trans same⟩

theorem Database.Extends.keepsRecords {owned : Nat → Prop} (extended : db.Extends owned db') :
    db.KeepsRecords db' := by
  intro sourceFileId row got
  obtain ⟨row', got', registered, -⟩ := extended.sources got
  have left : metadataFromRecord row'.asRegistered = metadataFromRecord row' := rfl
  have right : metadataFromRecord row.asRegistered = metadataFromRecord row := rfl
  refine ⟨row', got', ?_⟩
  rw [← left, ← right, registered]

theorem Database.Records.update {change : SourceFile → SourceFile} (records : db.Records readers contents)
    (same : ∀ row, metadataFromRecord (change row) = metadataFromRecord row) (sourceFileId : Nat) :
    (db.updateSourceFile sourceFileId change).Records readers contents := by
  intro row' member
  obtain ⟨row, inFiles, rfl⟩ := List.mem_map.mp member
  obtain ⟨metadata, inspected, is_record⟩ := records row inFiles
  refine ⟨metadata, inspected, ?_⟩
  split
  · exact (same row).trans is_record
  · exact is_record

theorem Database.Records.add (records : db.Records readers contents) (inspected : metadata.Inspected readers contents)
    (sourceFileId : Nat) (status : SourceStatus) (now : Timestamp) :
    (db.addSourceFile (newSourceFile sourceFileId status now metadata)).Records readers contents := by
  intro row member
  rcases List.mem_append.mp member with old | new
  · exact records row old
  · rw [List.mem_singleton.mp new]
    exact ⟨metadata, inspected, inspected.metadataFromRecord_new sourceFileId status now⟩

theorem CommitStep.records (step : CommitStep metadata db db') (inspected : metadata.Inspected readers contents)
    (records : db.Records readers contents) : db'.Records readers contents := by
  cases step with
  | nothing => exact records
  | registered fits checks chosen => exact records.add inspected _ _ _
  | started held shown => exact records
  | skipped held shown => exact records
  | @loaded sourceFileId runId table rows counts finishedAt run held got ofSource running counted =>
    have added : (db.addRaws table rows).Records readers contents := records
    have same : ∀ row : SourceFile, metadataFromRecord (row.markLoaded finishedAt) = metadataFromRecord row :=
      fun _ => rfl
    exact added.update same sourceFileId
  | failed got running => exact records

theorem Database.Records.of_version (records : db.Records readers contents)
    (collisionFree : Set.InjOn readers.sha256 contents) (inspected : metadata.Inspected readers contents)
    {row : SourceFile} (member : row ∈ db.sourceFiles) (partition : row.partitionKey = metadata.partitionKey)
    (checksum : row.checksumSha256 = metadata.checksumSha256) : metadataFromRecord row = metadata.recorded := by
  obtain ⟨origin, ofOrigin, same⟩ := records row member
  have partitions : origin.partitionKey = metadata.partitionKey :=
    (congrArg SourceFileMetadata.partitionKey same).symm.trans partition
  have checksums : origin.checksumSha256 = metadata.checksumSha256 :=
    (congrArg SourceFileMetadata.checksumSha256 same).symm.trans checksum
  rw [same, ofOrigin.eq_of_version collisionFree inspected partitions checksums]

end Records

/-- What a call keeps of what rows record. -/
structure Session.KeepsRecords (s : Session) (readers : Readers) (contents : Set Bytes) (s' : Session) : Prop where
  records : s'.db.Records readers contents
  keeps : s.db.KeepsRecords s'.db

section Calls

variable {readers : Readers} {contents : Set Bytes} {metadata : SourceFileMetadata} {s s' : Session}

theorem Session.keepsRecords_same (records : s.db.Records readers contents)
    (files : s'.db.sourceFiles = s.db.sourceFiles) : s.KeepsRecords readers contents s' := by
  refine ⟨fun row member => records row (files ▸ member), fun sourceFileId row got => ⟨row, ?_, rfl⟩⟩
  rw [Database.getSourceFile, files]
  exact got

theorem registerSourceFile_keepsRecords (now : Timestamp) (records : s.db.Records readers contents)
    (inspected : metadata.Inspected readers contents) :
    s.KeepsRecords readers contents (atomically (registerSourceFile now metadata) s).2 := by
  refine Attempt.Meets.ends (meets_atomically ((registerSourceFile_meets s now metadata).mono
    (fun result s' answered => ?_) fun error s' kept => s.keepsRecords_same records rfl))
  rcases answered with ⟨row, -, -, rfl⟩ | ⟨absent, written, -, rfl⟩
  · exact s'.keepsRecords_same records rfl
  · exact ⟨records.add inspected _ _ _,
      fun _ row got => ⟨row, Database.getSourceFile_addSourceFile_of_some _ got, rfl⟩⟩

theorem runQualityChecks_keepsRecords (now : Timestamp) (runId : Nat) (records : s.db.Records readers contents) :
    s.KeepsRecords readers contents (atomically (runQualityChecks now runId) s).2 := by
  refine Attempt.Meets.ends (meets_atomically ((runQualityChecks_meets s now runId).mono
    (fun summary s' evaluated => ?_) fun error s' kept => s.keepsRecords_same records rfl))
  obtain ⟨run, warningCount, errorCount, -, -, -, same⟩ := evaluated
  exact s.keepsRecords_same records same.sourceFiles

theorem metadataFromRecord_merged (storage : StorageResult) (row : SourceFile) :
    metadataFromRecord (mergeStorageMetadata storage row) = metadataFromRecord row := by
  unfold mergeStorageMetadata
  split <;> rfl

theorem persistStorageMetadata_keepsRecords (sourceFileId : Nat) (storage : StorageResult)
    (records : s.db.Records readers contents) :
    s.KeepsRecords readers contents (atomically (persistStorageMetadata sourceFileId storage) s).2 := by
  refine Attempt.Meets.ends (meets_atomically ((persistStorageMetadata_meets s sourceFileId storage).mono
    (fun _ s' persisted => ?_) fun _ s' same => s.keepsRecords_same records rfl))
  subst persisted
  refine ⟨records.update (metadataFromRecord_merged storage) sourceFileId, fun otherId row got => ?_⟩
  have found := @getSourceFile_map s { s with db := s.db.updateSourceFile sourceFileId (mergeStorageMetadata storage) }
    _ ((mergeStorageMetadata_keepsVersion storage).only sourceFileId) rfl otherId
  rw [got, Option.map_some] at found
  refine ⟨_, found, ?_⟩
  split
  · exact metadataFromRecord_merged storage row
  · rfl

/-- Calls that overlap keep what rows record, whatever they meet. -/
theorem ingestion_keepsRecords {Client : Type} [Fintype Client] [DecidableEq Client] {requests : Client → Request}
    {schedule : List (Client × Event)} {t : Platform Client} (consistent : s.Consistent)
    (records : s.db.Records readers contents) (inspected : ∀ i, (requests i).metadata.Inspected readers contents)
    (ran : (ingestion requests).run (.initial s.db s.sequences .idle) schedule = some t) :
    s.KeepsRecords readers contents ⟨t.committed, t.external⟩ := by
  have kept : Coherent requests t ∧ t.committed.Records readers contents ∧ s.db.KeepsRecords t.committed := by
    refine Program.run_preserves (I := fun t => Coherent requests t ∧
      t.committed.Records readers contents ∧ s.db.KeepsRecords t.committed) ?_
      ⟨coherent_initial consistent, records, .refl _⟩ ran
    rintro t i e t' ⟨coherent, described, keeps⟩ stepped
    exact ⟨coherent.step stepped, (coherent.commitStep stepped).records (inspected i) described,
      keeps.trans (coherent.extends stepped).keepsRecords⟩
  exact ⟨kept.2.1, kept.2.2⟩

theorem Session.CallsWith.keepsRecords (calls : s.CallsWith (·.Inspected readers contents) s')
    (orderly : s.Orderly) (records : s.db.Records readers contents) : s.KeepsRecords readers contents s' := by
  cases calls with
  | registerSourceFile now inspected => exact registerSourceFile_keepsRecords now records inspected
  | @ingestSource metadata batchSize events t inspected ran ended =>
    have each : ∀ _ : Unit, (Request.ingest metadata batchSize).metadata.Inspected readers contents :=
      fun _ => inspected
    exact ingestion_keepsRecords orderly.consistent records each ran
  | runQualityChecks now runId => exact runQualityChecks_keepsRecords now runId records
  | persistStorageMetadata sourceFileId storage =>
    exact persistStorageMetadata_keepsRecords sourceFileId storage records

theorem Session.LeadsWith.keepsRecords (leads : s.LeadsWith (·.Inspected readers contents) s')
    (orderly : s.Orderly) (records : s.db.Records readers contents) : s.KeepsRecords readers contents s' := by
  induction leads with
  | refl => exact s.keepsRecords_same records rfl
  | tail before calls ih =>
    have now := (Session.LeadsWith.leads before).keeps orderly
    have next := calls.keepsRecords now.orderly ih.records
    exact ⟨next.records, ih.keeps.trans next.keeps⟩

theorem registerSourceFile_records {now : Timestamp} {result : SourceRegistrationResult}
    (collisionFree : Set.InjOn readers.sha256 contents) (orderly : s.Orderly)
    (records : s.db.Records readers contents) (inspected : metadata.Inspected readers contents)
    (registered : atomically (registerSourceFile now metadata) s = (.ok result, s')) :
    ∃ row, s'.db.getSourceFile result.sourceFileId = some row ∧ metadataFromRecord row = metadata.recorded := by
  have meets : (registerSourceFile now metadata).Meets s _ fun error s' => s.Kept error { s' with db := s.db } :=
    (registerSourceFile_meets s now metadata).mono (fun _ _ answered => answered)
      fun _ _ kept => ⟨kept.1, .inr (.refl _)⟩
  rcases (meets_atomically meets).ok registered with ⟨row, found, rfl, rfl⟩ | ⟨absent, written, rfl, rfl⟩
  · obtain ⟨member, partition, checksum⟩ := findExactVersion_some found
    exact ⟨row, Database.getSourceFile_of_mem orderly.consistent.nodup member,
      records.of_version collisionFree inspected member partition checksum⟩
  · have inserted := Registration.inserted absent written
    exact ⟨_, inserted.getSourceFile orderly.consistent, inspected.metadataFromRecord_new _ _ _⟩

end Calls

/-- Storage identity survives the registry: keys tell versions apart as partitions and checksums do, and from
    its registration on a row records its metadata but for the schema version. -/
theorem storage_identity_kept (readers : Readers) (contents : Set Bytes) :
    (∀ left right : SourceFileMetadata, left.Inspected readers contents → right.Inspected readers contents →
      (∃ key, s3Key left = .ok key) ∧ (s3Key left = s3Key right ↔
        left.partitionKey = right.partitionKey ∧ left.checksumSha256 = right.checksumSha256)) ∧
      (Set.InjOn readers.sha256 contents → ∀ (s s' later : Session) (metadata : SourceFileMetadata)
        (now : Timestamp) (result : SourceRegistrationResult),
        Session.start.LeadsWith (·.Inspected readers contents) s → metadata.Inspected readers contents →
        atomically (registerSourceFile now metadata) s = (.ok result, s') →
        s'.LeadsWith (·.Inspected readers contents) later →
        ∃ row, later.db.getSourceFile result.sourceFileId = some row ∧
          metadataFromRecord row = { metadata with schemaVersion := none } ∧
          s3Key (metadataFromRecord row) = s3Key metadata ∧
          objectMetadata (metadataFromRecord row) = objectMetadata metadata ∧
          (∀ head, verifyHead head (metadataFromRecord row) = verifyHead head metadata) ∧
          ∀ setup : StorageSetup, ∀ moment : Timestamp,
            setup.store moment (metadataFromRecord row) = setup.store moment metadata ∧
              setup.inspect moment (metadataFromRecord row) = setup.inspect moment metadata) := by
  refine ⟨fun left right hl hr => hl.s3Key_iff hr, ?_⟩
  intro collisionFree s s' later metadata now result history inspected registered further
  have orderly := ((Session.LeadsWith.leads history).keeps orderly_start).orderly
  have records := (history.keepsRecords orderly_start (fun _ member => nomatch member)).records
  have call : s.CallsWith (·.Inspected readers contents) s' := by
    have called := Session.CallsWith.registerSourceFile (s := s) now inspected
    rw [registered] at called
    exact called
  obtain ⟨row, got, recorded⟩ := registerSourceFile_records collisionFree orderly records inspected registered
  have kept := further.keepsRecords (call.calls.keeps orderly).orderly (call.keepsRecords orderly records).records
  obtain ⟨row', got', same⟩ := kept.keeps _ row got
  refine ⟨row', got', same.trans recorded, ?_⟩
  rw [same.trans recorded]
  exact ⟨rfl, rfl, fun _ => rfl, fun _ _ => ⟨rfl, rfl⟩⟩

/-- A trip file is registered, stored and registered again. -/
theorem storedTrips_keep_identity :
    ∃ s later : Session, (atomically (registerSourceFile 0 yellowMetadata) Session.start).2 = s ∧
      (atomically (registerSourceFile 2 yellowMetadata)
        (atomically (persistStorageMetadata 1 ⟨"s3", some "s3://tlc/trips", none, 1⟩) s).2).2 = later ∧
      ∃ row, later.db.getSourceFile 1 = some row ∧ row.storageBackend = "s3" ∧
        metadataFromRecord row = { yellowMetadata with schemaVersion := none } := by
  have resolved : Resolved yellowSource := .yellow (show yellowTripSource 2025 1 = .ok yellowSource by decide)
  have inspected : yellowMetadata.Inspected tripReaders {[1]} := ⟨yellowSource, [1], resolved, rfl, rfl⟩
  have collisionFree : Set.InjOn tripReaders.sha256 {[1]} := Set.injOn_singleton _ _
  refine ⟨_, _, rfl, rfl, ?_⟩
  obtain ⟨row, got, record, -⟩ := (storage_identity_kept tripReaders {[1]}).2 collisionFree _ _ _ yellowMetadata 0
    ⟨1, .ready, .proceed, true⟩ .refl inspected rfl
    ((Relation.ReflTransGen.single (.persistStorageMetadata 1 ⟨"s3", some "s3://tlc/trips", none, 1⟩)).tail
      (.registerSourceFile 2 inspected))
  exact ⟨row, got, by cases got; rfl, record⟩

end TaxiPipeline
