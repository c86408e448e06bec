import TaxiPipeline.Lifecycle.Histories

namespace TaxiPipeline

open ReadCommitted Stateful Transaction

/-- A property of source rows that new rows of the metadata have and that does not depend on a row's load. -/
structure RowRule (P : SourceFile → Prop) (metadata : SourceFileMetadata) : Prop where
  new : ∀ sourceFileId status now, P (newSourceFile sourceFileId status now metadata)
  marked : ∀ row loadedAt, P row → P (row.markLoaded loadedAt)

section Rows

variable {P : SourceFile → Prop} {s s' : Session} {db db' : Database} {metadata : SourceFileMetadata}

/-- All rows of the session have the property. -/
def Session.EveryRow (s : Session) (P : SourceFile → Prop) : Prop := ∀ row ∈ s.db.sourceFiles, P row

theorem CommitStep.everyRow (step : CommitStep metadata db db') (rule : RowRule P metadata)
    (every : ∀ row ∈ db.sourceFiles, P row) : ∀ row ∈ db'.sourceFiles, P row := by
  cases step with
  | nothing => exact every
  | registered fits checks chosen =>
    intro row member
    rcases List.mem_append.mp member with old | new
    · exact every row old
    · rw [List.mem_singleton.mp new]
      exact rule.new _ _ _
  | started held shown => exact every
  | skipped held shown => exact every
  | loaded held got ofSource running counted =>
    intro row' member
    obtain ⟨row, inFiles, rfl⟩ := List.mem_map.mp member
    split
    · exact rule.marked row _ (every row inFiles)
    · exact every row inFiles
  | failed got running => exact every

theorem registerSourceFile_everyRow (now : Timestamp) (rule : RowRule P metadata) (orderly : s.Orderly)
    (every : s.EveryRow P) : (atomically (registerSourceFile now metadata) s).2.EveryRow P := by
  have meets : (registerSourceFile now metadata).Meets s (fun _ s' => s'.EveryRow P)
      fun _ s' => ({ s' with db := s.db } : Session).EveryRow P := by
    refine (registerSourceFile_meets s now metadata).mono (fun result s' answered => ?_) fun _ _ _ => every
    rcases answered with ⟨row, -, -, rfl⟩ | ⟨absent, written, -, rfl⟩
    · exact every
    · exact ((Registration.inserted absent written).commitStep orderly.consistent).everyRow rule every
  exact (meets_atomically meets).ends

theorem runQualityChecks_everyRow (now : Timestamp) (runId : Nat) (every : s.EveryRow P) :
    (atomically (runQualityChecks now runId) s).2.EveryRow P := by
  have meets : (runQualityChecks now runId).Meets s (fun _ s' => s'.EveryRow P)
      fun _ s' => ({ s' with db := s.db } : Session).EveryRow P := by
    refine (runQualityChecks_meets s now runId).mono (fun summary s' evaluated => ?_) fun _ _ _ => every
    obtain ⟨run, warningCount, errorCount, -, -, -, same⟩ := evaluated
    unfold Session.EveryRow
    rw [same.sourceFiles]
    exact every
  exact (meets_atomically meets).ends

theorem run_everyRow {batchSize : Int} {events : List (Unit × Event)} {t : Platform Unit} (rule : RowRule P metadata)
    (orderly : s.Orderly) (every : s.EveryRow P)
    (ran : (Request.ingest metadata batchSize).program.run (.alone s.db s.sequences .idle []) events = some t) :
    Session.EveryRow ⟨t.committed, t.external⟩ P := by
  have kept := Program.run_preserves
    (I := fun t => s.Calling (.ingest metadata batchSize) t ∧ Session.EveryRow ⟨t.committed, t.external⟩ P)
    (fun t i e t' holds stepped => ?_) ⟨calling_start orderly, every⟩ ran
  · exact kept.2
  · have coherent := holds.1.accepting.coherent
    exact ⟨holds.1.step orderly.consistent stepped, (coherent.commitStep stepped).everyRow rule holds.2⟩

/-- Only the row that storage metadata is recorded in is another afterwards. -/
theorem persistStorageMetadata_everyRow {storage : StorageResult} (consistent : s.Consistent) (sourceFileId : Nat)
    (merged : ∀ row, s.db.getSourceFile sourceFileId = some row →
      (mergeStorageMetadata storage row).storageFits = true → P (mergeStorageMetadata storage row))
    (every : s.EveryRow P) : (atomically (persistStorageMetadata sourceFileId storage) s).2.EveryRow P := by
  have meets : (persistStorageMetadata sourceFileId storage).Meets s (fun _ s' => s'.EveryRow P)
      fun _ s' => ({ s' with db := s.db } : Session).EveryRow P := by
    refine Transaction.meets_database ?_
    split
    · exact every
    · rename_i source got
      split
      · rename_i fits
        intro row' member
        obtain ⟨row, inFiles, rfl⟩ := List.mem_map.mp member
        split
        · rename_i same
          have got' := Database.getSourceFile_of_mem consistent.nodup inFiles
          rw [same] at got'
          obtain rfl := Option.some.inj (got'.symm.trans got)
          exact merged _ got fits
        · exact every row inFiles
      · exact every
  exact (meets_atomically meets).ends

end Rows

end TaxiPipeline
