import TaxiPipeline.Lifecycle.Histories
import TaxiPipeline.Model.Landing

namespace TaxiPipeline

open ReadCommitted Stateful Transaction

/-- File sizes and row counts are signed 64-bit numbers. -/
def SourceFileMetadata.Sized (metadata : SourceFileMetadata) : Prop :=
  metadata.fileSizeBytes < 2 ^ 63 ∧ ∀ rowCount ∈ metadata.rowCount, rowCount < 2 ^ 63

theorem inspectSource_accepted {readers : Readers} {source : SourcePartition} {content : Bytes}
    {metadata : SourceFileMetadata} (resolved : Resolved source)
    (inspected : inspectSource readers source content = .ok metadata) (sized : metadata.Sized) :
    metadata.fits = true ∧ metadata.meetsChecks = true := by
  obtain ⟨nonempty, found, -, rfl⟩ := inspectSource_ok inspected
  obtain ⟨size, count⟩ := sized
  have texts := resolved.storable
  obtain ⟨yearOk, monthOk⟩ := resolved.period
  have bytes : 0 < content.length := List.length_pos_iff.mpr nonempty
  simp only [SourcePartition.texts, List.all_append, List.all_cons, List.all_nil, Bool.and_true,
    Bool.and_eq_true] at texts
  constructor
  · have service : source.serviceType.all storable = true := by
      rw [Option.all_eq_true]
      simpa using texts.2
    have year : source.year.all fitsSmallInt = true := by
      rw [Option.all_eq_true]
      intro year same
      have := yearOk year same
      simp [fitsSmallInt]
      omega
    have month : source.month.all fitsSmallInt = true := by
      rw [Option.all_eq_true]
      intro month same
      have := monthOk month same
      simp [fitsSmallInt]
      omega
    have rows : (found.rowCount : Int) < 2 ^ 63 := count _ rfl
    have size : (content.length : Int) < 2 ^ 63 := size
    simp [SourceFileMetadata.fits, SourceFile.fits, newSourceFile, texts.1, service, year, month, fitsBigInt]
    omega
  · have month : monthValid source.month = true := by
      rw [monthValid, Option.all_eq_true]
      intro month same
      simpa using monthOk month same
    simp [SourceFileMetadata.meetsChecks, SourceFile.meetsChecks, newSourceFile, month, bytes]

section Alone

variable {s : Session} {metadata : SourceFileMetadata}

theorem registration_written (consistent : s.Consistent) (fits : metadata.fits = true)
    (checks : metadata.meetsChecks = true) (absent : s.db.findExactVersion metadata = none) (now : Timestamp) :
    s.db.sourceFileInsertError (s.registration now metadata) = none := by
  refine sourceFileInsertError_none.mpr ⟨fits, checks, conflicts_false.mpr fun k member => ?_⟩
  simp only [SourceFile.keys, List.mem_cons, List.not_mem_nil, or_false] at member
  rcases member with rfl | rfl
  · intro old
    exact lt_irrefl _ (consistent.below _ old).2
  · intro old
    obtain ⟨row, inFiles, partition, checksum⟩ := Database.mem_index_version.mp old
    exact findExactVersion_none.mp absent row inFiles partition checksum

theorem prepareIngestion_known {row : SourceFile} (found : s.db.findExactVersion metadata = some row)
    (now : Timestamp) : atomically (prepareIngestion now metadata) s = (.ok (registrationResult row false), s) := by
  simp [atomically, prepareIngestion, registerSourceFile, database, found]

theorem prepareIngestion_alone (consistent : s.Consistent) (fits : metadata.fits = true)
    (checks : metadata.meetsChecks = true) (now : Timestamp) :
    ∃ source base pending isNew, Registration s metadata source base pending ∧
      atomically (prepareIngestion now metadata) s = (.ok (registrationResult source isNew), base) := by
  cases found : s.db.findExactVersion metadata with
  | some existing =>
    exact ⟨existing, s, [], false, .found found, prepareIngestion_known found now⟩
  | none =>
    have written := registration_written consistent fits checks found now
    refine ⟨_, _, _, true, .inserted found written, ?_⟩
    unfold Session.registration at written
    simp [atomically, prepareIngestion, registerSourceFile, database, found, Attempt.tryCatch,
      insertSourceFile, drawSourceFileId, written, update, Session.withSourceFile, Session.registration]

theorem createSkippedRun_alone {source : SourceFile} {reason : SkipReason}
    (got : s.db.getSourceFile source.sourceFileId = some source)
    (required : source.status = reason.requiredStatus) (fits : source.fits = true)
    (checks : source.meetsChecks = true) (now : Timestamp) :
    atomically (createSkippedRun now source.sourceFileId reason.value) s =
      (.ok (skippedRun s.sequences.runId source reason now),
        s.withRun (skippedRun s.sequences.runId source reason now)) := by
  have skippable := requireSkippable_ok.mpr required
  have written : (skippedRun s.sequences.runId source reason now).writeError = none :=
    skippedRun_writeError fits checks
  simp [atomically, createSkippedRun, SkipReason.ofValue_value, database, requireSourceFile_got got, skippable,
    insertRun, drawRunId, written, update, Session.withRun]

end Alone

/-- What a skipped ingestion leaves: its run, and at most the row of a blocked version. -/
def Database.SkippedOnce (db db' : Database) (metadata : SourceFileMetadata) (reason : SkipReason)
    (result : IngestionResult) : Prop :=
  ∃ source run, source ∈ db'.sourceFiles ∧ source.partitionKey = metadata.partitionKey ∧
    source.checksumSha256 = metadata.checksumSha256 ∧ source.status = reason.requiredStatus ∧
    (db'.sourceFiles = db.sourceFiles ∨
      (source.status = .revisionDetected ∧ db'.sourceFiles = db.sourceFiles ++ [source])) ∧
    run.status = .skipped ∧ run.statusReason = some reason ∧ run.sourceFileId = some source.sourceFileId ∧
    db'.pipelineRuns = db.pipelineRuns ++ [run] ∧ db'.raw = db.raw ∧
    result = ⟨metadata.partitionKey, source.sourceFileId, run.runId, .skipped, 0, 0, some reason⟩

section Skip

variable {s base : Session} {metadata : SourceFileMetadata} {source : SourceFile} {pending : List Write}
  {checksum : Digest}

/-- In a partition that has a loaded version every other version is blocked. -/
theorem Session.Orderly.skipReason (orderly : s.Orderly) (held : s.HasLoaded metadata.partitionKey checksum)
    (member : source ∈ s.db.sourceFiles) (partition : source.partitionKey = metadata.partitionKey)
    (same : source.checksumSha256 = metadata.checksumSha256) :
    (decisionForSourceStatus source.status).skipReason =
      some (if metadata.checksumSha256 = checksum then .alreadyLoaded else .sourceRevisionDetected) := by
  obtain ⟨sourceFileId, row, got, samePartition, rowChecksum, loaded⟩ := held
  have inFiles := (getSourceFile_some got).1
  by_cases exact_version : metadata.checksumSha256 = checksum
  · have one := Database.unique_version orderly.consistent.nodup member inFiles
      (partition.trans samePartition.symm) (same.trans (exact_version.trans rowChecksum.symm))
    rw [if_pos exact_version, one, loaded]
    rfl
  · have revised : source.status = .revisionDetected := by
      by_contra accepted
      have one := orderly.one.unique source member row inFiles (partition.trans samePartition.symm) accepted
        (by rw [loaded]; nofun)
      exact exact_version (same.symm.trans ((congrArg _ one).trans rowChecksum))
    rw [if_neg exact_version, revised]
    rfl

theorem Registration.skippedOnce (registered : Registration s metadata source base pending)
    {reason : SkipReason} (required : source.status = reason.requiredStatus) (now : Timestamp) :
    s.db.SkippedOnce (base.withRun (skippedRun base.sequences.runId source reason now)).db metadata reason
      ⟨metadata.partitionKey, source.sourceFileId, base.sequences.runId, .skipped, 0, 0, some reason⟩ := by
  obtain ⟨member, partition, checksum⟩ := registered.member
  refine ⟨source, skippedRun base.sequences.runId source reason now, member, partition, checksum, required, ?_,
    rfl, rfl, rfl, ?_, ?_, rfl⟩
  · cases registered with
    | found found => exact .inl rfl
    | inserted absent written =>
      refine .inr ⟨?_, rfl⟩
      rw [required]
      cases reason with
      | sourceRevisionDetected => rfl
      | alreadyLoaded =>
        have chosen := registrationStatus_ne_loaded (s.db.findPartition metadata.partitionKey)
        exact absurd required chosen
  · cases registered <;> rfl
  · cases registered <;> rfl

/-- An ingestion that finds its partition loaded is skipped. -/
theorem Session.Orderly.comes_skipped {batchSize : Int} {file : LandingFile} (orderly : s.Orderly)
    (held : s.HasLoaded metadata.partitionKey checksum) (fits : metadata.fits = true)
    (checks : metadata.meetsChecks = true) (positive : 0 < batchSize) :
    (Request.ingest metadata batchSize).Comes file
      (fun t => ∃ result, t.phase () = .finished (.returned result) (some result.runId) ∧ t.pending () = [] ∧
        s.db.SkippedOnce t.committed metadata
          (if metadata.checksumSha256 = checksum then .alreadyLoaded else .sourceRevisionDetected) result)
      (.alone s.db s.sequences .idle []) := by
  refine ingesting_comes positive fun now => ?_
  obtain ⟨source, base, pending, isNew, registered, returned⟩ :=
    prepareIngestion_alone orderly.consistent fits checks now
  rw [returned]
  obtain ⟨member, partition, same⟩ := registered.member
  have after := registered.orderly orderly
  have reason := after.skipReason (held.extends registered.extends) member partition same
  have required := (skipReason_requires _ _ reason).symm
  have next : (Request.ingest metadata batchSize).afterRegistration (registrationResult source isNew) =
      .skipping source.sourceFileId
        (if metadata.checksumSha256 = checksum then .alreadyLoaded else .sourceRevisionDetected) .select := by
    simp only [Request.afterRegistration, registrationResult, reason]
  simp only [landed, next]
  refine (skipping_comes _ _).bind fun t recorded => .here ?_
  obtain ⟨later, rfl⟩ := recorded
  have got := registered.getSourceFile orderly.consistent
  obtain ⟨sourceFits, sourceChecks⟩ := after.valid got
  rw [createSkippedRun_alone got required sourceFits sourceChecks later]
  exact ⟨_, rfl, rfl, registered.skippedOnce required later⟩

end Skip

/-- File-level idempotency: once a version of a partition is loaded, then after any calls an ingestion
    of the partition is skipped, with the reason that its checksum gives, and writes nothing else. -/
theorem loaded_partitions_stay_skipped {s s' : Session} {readers : Readers} {source : SourcePartition}
    {content : Bytes} {metadata : SourceFileMetadata} {checksum : Digest} {batchSize : Int}
    (file : LandingFile) (reached : Session.start.Leads s)
    (held : s.HasLoaded metadata.partitionKey checksum) (later : s.Leads s') (resolved : Resolved source)
    (inspected : inspectSource readers source content = .ok metadata) (sized : metadata.Sized)
    (positive : 0 < batchSize) :
    (Request.ingest metadata batchSize).Comes file
      (fun t => ∃ result, t.phase () = .finished (.returned result) (some result.runId) ∧ t.pending () = [] ∧
        s'.db.SkippedOnce t.committed metadata
          (if metadata.checksumSha256 = checksum then .alreadyLoaded else .sourceRevisionDetected) result)
      (.alone s'.db s'.sequences .idle []) := by
  have kept := later.keeps (reached.keeps orderly_start).orderly
  obtain ⟨fits, checks⟩ := inspectSource_accepted resolved inspected sized
  exact kept.orderly.comes_skipped (kept.loaded held) fits checks positive

/-- One call on the zone lookup, from its registration to the commit of its load. -/
def zoneLoad : List (Unit × Event) :=
  List.replicate 8 ((), .next 0) ++ ((), .openFile 1 zoneFile) :: List.replicate 11 ((), .next 0)

def revisedZones : SourceFileMetadata := { zoneMetadata with checksumSha256 := 4, fileSizeBytes := 4 }

set_option maxRecDepth 10000 in
theorem revisedZones_skipped :
    ∃ s, Session.start.Leads s ∧ s.HasLoaded "reference/taxi_zones" 3 ∧
      (Request.ingest revisedZones 1).Comes zoneFile
        (fun t => ∃ result, t.phase () = .finished (.returned result) (some result.runId) ∧ t.pending () = [] ∧
          s.db.SkippedOnce t.committed revisedZones .sourceRevisionDetected result)
        (.alone s.db s.sequences .idle []) := by
  have loads : ((Request.ingest zoneMetadata 1).program.run (.alone Session.start.db Session.start.sequences
      .idle []) zoneLoad).map (fun t => ((t.phase ()).ended, t.committed.sourceFiles)) =
        some (true, [(newSourceFile 1 .ready 0 zoneMetadata).markLoaded 0]) := by decide
  obtain ⟨t, ran, same⟩ := Option.map_eq_some_iff.mp loads
  have ended : (t.phase ()).ended = true := congrArg Prod.fst same
  have files : t.committed.sourceFiles = [(newSourceFile 1 .ready 0 zoneMetadata).markLoaded 0] :=
    congrArg Prod.snd same
  have reached : Session.start.Leads ⟨t.committed, t.external⟩ := .single (.ingestSource ran ended)
  have held : Session.HasLoaded ⟨t.committed, t.external⟩ revisedZones.partitionKey 3 := by
    refine ⟨1, (newSourceFile 1 .ready 0 zoneMetadata).markLoaded 0, ?_, rfl, rfl, rfl⟩
    rw [Database.getSourceFile, files]
    rfl
  have inspected : inspectSource zoneReaders taxiZoneSource [1, 2, 3, 4] = .ok revisedZones := rfl
  have sized : revisedZones.Sized := ⟨by decide, fun rowCount same => by cases same; decide⟩
  exact ⟨_, reached, held, loaded_partitions_stay_skipped zoneFile reached held .refl .zones inspected sized
    (by decide)⟩

end TaxiPipeline
