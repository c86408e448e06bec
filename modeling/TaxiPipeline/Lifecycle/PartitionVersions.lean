import TaxiPipeline.Lifecycle.SourceRows

namespace TaxiPipeline

open ReadCommitted Stateful Transaction

/-- The versions of a partition: their ids, their checksums and their statuses. -/
def Database.versionsOf (db : Database) (partitionKey : String) : List (Nat × Digest × SourceStatus) :=
  (db.sourceFiles.filter (·.partitionKey == partitionKey)).map fun row =>
    (row.sourceFileId, row.checksumSha256, row.status)

section Versions

variable {db db' : Database} {metadata : SourceFileMetadata} {partitionKey : String} {s s' : Session}

theorem Database.versionsOf_same (same : db'.sourceFiles = db.sourceFiles) :
    db'.versionsOf partitionKey = db.versionsOf partitionKey := by
  unfold Database.versionsOf
  rw [same]

/-- Rows of other partitions may change. -/
theorem Database.versionsOf_map {change : SourceFile → SourceFile}
    (mapped : db'.sourceFiles = db.sourceFiles.map change)
    (keeps : ∀ row ∈ db.sourceFiles, (change row).partitionKey = row.partitionKey)
    (others : ∀ row ∈ db.sourceFiles, row.partitionKey = partitionKey →
      (change row).sourceFileId = row.sourceFileId ∧ (change row).checksumSha256 = row.checksumSha256 ∧
        (change row).status = row.status) :
    db'.versionsOf partitionKey = db.versionsOf partitionKey := by
  unfold Database.versionsOf
  rw [mapped, List.filter_map, List.map_map]
  have same_filter : db.sourceFiles.filter ((·.partitionKey == partitionKey) ∘ change) =
      db.sourceFiles.filter (·.partitionKey == partitionKey) := by
    apply List.filter_congr
    intro row member
    rw [Function.comp_apply, keeps row member]
  rw [same_filter]
  apply List.map_congr_left
  intro row member
  obtain ⟨inFiles, ofPartition⟩ := List.mem_filter.mp member
  obtain ⟨id, checksum, status⟩ := others row inFiles (beq_iff_eq.mp ofPartition)
  rw [Function.comp_apply, id, checksum, status]

/-- A call changes the versions of its own partition only. -/
theorem CommitStep.versionsOf (step : CommitStep metadata db db') (nodup : db.index.Nodup)
    (apart : metadata.partitionKey ≠ partitionKey) : db'.versionsOf partitionKey = db.versionsOf partitionKey := by
  cases step with
  | nothing => rfl
  | @registered sourceFileId status now fits checks chosen =>
    have other : [newSourceFile sourceFileId status now metadata].filter (·.partitionKey == partitionKey) = [] := by
      rw [List.filter_eq_nil_iff]
      intro row member
      rw [List.mem_singleton.mp member, beq_iff_eq]
      exact apart
    unfold Database.versionsOf Database.addSourceFile
    rw [List.filter_append, other, List.append_nil]
  | started held shown => rfl
  | skipped held shown => rfl
  | failed got running => rfl
  | @loaded sourceFileId runId table rows counts finishedAt run held got ofSource running counted =>
    obtain ⟨source, gotSource, partition, -⟩ := held
    apply @Database.versionsOf_map db _ partitionKey
      fun row => if row.sourceFileId = sourceFileId then row.markLoaded finishedAt else row
    · rfl
    · intro row member
      split
      · rfl
      · rfl
    · intro row member ofPartition
      have another : row.sourceFileId ≠ sourceFileId := by
        intro same
        have gotRow := Database.getSourceFile_of_mem nodup member
        rw [same, gotSource] at gotRow
        rw [← Option.some.inj gotRow, partition] at ofPartition
        exact apart ofPartition
      rw [if_neg another]
      exact ⟨rfl, rfl, rfl⟩

theorem run_versionsOf {batchSize : Int} {events : List (Unit × Event)} {t : Platform Unit} (orderly : s.Orderly)
    (apart : metadata.partitionKey ≠ partitionKey)
    (ran : (Request.ingest metadata batchSize).program.run (.alone s.db s.sequences .idle []) events = some t) :
    t.committed.versionsOf partitionKey = s.db.versionsOf partitionKey := by
  have kept := Program.run_preserves
    (I := fun t => s.Calling (.ingest metadata batchSize) t ∧
      t.committed.versionsOf partitionKey = s.db.versionsOf partitionKey)
    (fun t i e t' holds stepped => ?_) ⟨calling_start orderly, rfl⟩ ran
  · exact kept.2
  · have coherent := holds.1.accepting.coherent
    have same := (coherent.commitStep stepped).versionsOf coherent.distinct.committed apart
    exact ⟨holds.1.step orderly.consistent stepped, same.trans holds.2⟩

theorem persistStorageMetadata_versionsOf (sourceFileId : Nat) (storage : StorageResult) :
    (atomically (persistStorageMetadata sourceFileId storage) s).2.db.versionsOf partitionKey =
      s.db.versionsOf partitionKey := by
  have meets : (persistStorageMetadata sourceFileId storage).Meets s
      (fun _ s' => s'.db.versionsOf partitionKey = s.db.versionsOf partitionKey)
      fun _ _ => s.db.versionsOf partitionKey = s.db.versionsOf partitionKey := by
    refine (persistStorageMetadata_meets s sourceFileId storage).mono (fun _ s' persisted => ?_) fun _ _ _ => rfl
    subst persisted
    apply @Database.versionsOf_map s.db _ partitionKey
      fun row => if row.sourceFileId = sourceFileId then mergeStorageMetadata storage row else row
    · rfl
    · intro row member
      split
      · exact (mergeStorageMetadata_same storage row).2.1
      · rfl
    · intro row member ofPartition
      split
      · obtain ⟨id, -, checksum, status, -⟩ := mergeStorageMetadata_same storage row
        exact ⟨id, checksum, status⟩
      · exact ⟨rfl, rfl, rfl⟩
  exact (meets_atomically meets).ends

theorem runQualityChecks_versionsOf (now : Timestamp) (runId : Nat) :
    (atomically (runQualityChecks now runId) s).2.db.versionsOf partitionKey = s.db.versionsOf partitionKey := by
  have meets : (runQualityChecks now runId).Meets s
      (fun _ s' => s'.db.versionsOf partitionKey = s.db.versionsOf partitionKey)
      fun _ _ => s.db.versionsOf partitionKey = s.db.versionsOf partitionKey := by
    refine (runQualityChecks_meets s now runId).mono (fun summary s' evaluated => ?_) fun _ _ _ => rfl
    obtain ⟨run, warningCount, errorCount, -, -, -, same⟩ := evaluated
    exact Database.versionsOf_same same.sourceFiles
  exact (meets_atomically meets).ends

theorem runQualityChecks_raw (now : Timestamp) (runId : Nat) :
    (atomically (runQualityChecks now runId) s).2.db.raw = s.db.raw := by
  have meets : (runQualityChecks now runId).Meets s (fun _ s' => s'.db.raw = s.db.raw) fun _ _ => s.db.raw = s.db.raw := by
    refine (runQualityChecks_meets s now runId).mono (fun summary s' evaluated => ?_) fun _ _ _ => rfl
    obtain ⟨run, warningCount, errorCount, -, -, -, same⟩ := evaluated
    exact same.raw
  exact (meets_atomically meets).ends

end Versions

end TaxiPipeline
