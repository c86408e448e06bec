import TaxiPipeline.Ingestion.AllOrNothing
import TaxiPipeline.Warehouse.Staging

namespace TaxiPipeline

open ReadCommitted Relational

section Step

variable {known : SourceFileMetadata → Prop} {metadata : SourceFileMetadata} {db db' : Database}
  {sourceFileId : Nat}

theorem CommitStep.loaded_stays (step : CommitStep metadata db db') (catalog : Catalog known)
    (mine : known metadata) (described : Described known db) (exact_loads : db.LoadsExact)
    (nodup_after : db'.index.Nodup) (loaded : db.isLoaded sourceFileId = true) :
    db'.isLoaded sourceFileId = true ∧
      ∀ table, db'.rowsOf table sourceFileId = db.rowsOf table sourceFileId := by
  cases step with
  | nothing => exact ⟨loaded, fun _ => rfl⟩
  | started held shown => exact ⟨loaded, fun _ => rfl⟩
  | skipped held shown => exact ⟨loaded, fun _ => rfl⟩
  | failed got running => exact ⟨loaded, fun _ => rfl⟩
  | registered fits checks chosen =>
    obtain ⟨row, got, isLoaded⟩ := Database.isLoaded_iff.mp loaded
    refine ⟨Database.isLoaded_iff.mpr ⟨row, ?_, isLoaded⟩, fun _ => rfl⟩
    exact Database.getSourceFile_addSourceFile_of_some _ got
  | @loaded loading runId table rows counts finishedAt run held gotRun ofSource running counted =>
    obtain ⟨row, got, isLoaded⟩ := Database.isLoaded_iff.mp loaded
    obtain ⟨source, gotSource, partition, -, -⟩ := held
    have notLoaded := counted.not_loaded catalog mine described exact_loads
      (commitLoad_index ▸ nodup_after) gotSource partition
    have apart : sourceFileId ≠ loading := by
      rintro rfl
      cases got.symm.trans gotSource
      exact notLoaded isLoaded
    refine ⟨Database.isLoaded_iff.mpr ⟨row, ?_, isLoaded⟩,
      (commitLoad_same nodup_after gotRun ofSource running counted apart).1⟩
    refine (Database.getSourceFile_markLoaded finishedAt).trans ?_
    rw [Database.getSourceFile_addRaws, got, Option.map_some, if_neg apart]

/-- A transaction makes the trips of whole sources visible, and changes none that is. -/
theorem CommitStep.whole (step : CommitStep metadata db db') (catalog : Catalog known)
    (serviced : Serviced known) (mine : known metadata) (nodup : db.index.Nodup)
    (described : Described known db) (exact_loads : db.LoadsExact) (nodup_after : db'.index.Nodup) :
    WholeBatches (·.lineage.sourceFileId) (intTripsEnriched db) (intTripsEnriched db') := by
  intro sourceFileId
  have described' : Described known db' := step.described mine described
  have exact_loads' := step.loadsExact catalog mine described nodup nodup_after exact_loads
  by_cases loaded : db.isLoaded sourceFileId = true
  · obtain ⟨stays, rows⟩ := step.loaded_stays catalog mine described exact_loads nodup_after loaded
    refine .inr (List.Perm.of_eq ?_)
    rw [intTripsEnriched_ofBatch nodup serviced described exact_loads loaded,
      intTripsEnriched_ofBatch nodup_after serviced described' exact_loads' stays, rows, rows]
  · refine .inl (List.filter_eq_nil_iff.mpr fun trip member => ?_)
    intro ofSource
    rw [← of_decide_eq_true ofSource] at loaded
    exact loaded (intTripsEnriched_loaded nodup serviced described exact_loads member)

theorem loadedZoneSources_stay {owned : Nat → Prop} (extended : db.Extends owned db')
    (nodup : db.index.Nodup) (nodup_after : db'.index.Nodup) (version : db.loadedZoneVersions = 1)
    (version_after : db'.loadedZoneVersions = 1) : loadedZoneSources db' = loadedZoneSources db := by
  have stays : ∀ {id row}, db.getSourceFile id = some row → row.status = .loaded →
      ∃ row', db'.getSourceFile id = some row' ∧ row'.partitionKey = row.partitionKey ∧
        row'.datasetName = row.datasetName ∧ row'.status = .loaded := by
    intro id row got loaded
    obtain ⟨row', got', same, reached⟩ := extended.sources got
    have partition : row'.partitionKey = row.partitionKey := (congrArg SourceFile.partitionKey same :)
    have name : row'.datasetName = row.datasetName := (congrArg SourceFile.datasetName same :)
    refine ⟨row', got', partition, name, ?_⟩
    rcases reached with stayed | ⟨-, loaded'⟩
    · rw [← stayed, loaded]
    · exact loaded'
  have same : ∀ id, id ∈ loadedZoneSources db' ↔ id ∈ loadedZoneSources db := by
    intro id
    rw [mem_loadedZoneSources nodup_after, mem_loadedZoneSources nodup]
    constructor
    · rintro ⟨row', got', partition', name', loaded'⟩
      have some_version : 0 < db.loadedZoneVersions := by omega
      obtain ⟨row, member, selected⟩ := List.countP_pos_iff.mp some_version
      simp only [Bool.and_eq_true, beq_iff_eq] at selected
      have got := Database.getSourceFile_of_mem nodup member
      obtain ⟨later, gotLater, partition, name, loaded⟩ := stays got selected.2
      -- the version that was loaded before is still loaded, so it is this one
      cases zoneVersion_unique (le_of_eq version_after) (getSourceFile_some gotLater).1
        (getSourceFile_some got').1 ⟨partition.trans selected.1, loaded⟩ ⟨partition', loaded'⟩
      have sameId := (getSourceFile_some gotLater).2.symm.trans (getSourceFile_some got').2
      exact ⟨row, sameId ▸ got, selected.1, name.symm.trans name', selected.2⟩
    · rintro ⟨row, got, partition, name, loaded⟩
      obtain ⟨later, gotLater, samePartition, sameName, loaded'⟩ := stays got loaded
      exact ⟨later, gotLater, samePartition.trans partition, sameName.trans name, loaded'⟩
  have distinct : (loadedZoneSources db).Nodup := selected_nodup nodup _
  have distinct' : (loadedZoneSources db').Nodup := selected_nodup nodup_after _
  have permuted : (loadedZoneSources db').Perm (loadedZoneSources db) :=
    (List.perm_ext_iff_of_nodup distinct' distinct).mpr same
  have short : (loadedZoneSources db).length ≤ 1 := le_trans loadedZoneSources_le (le_of_eq version)
  match zones : loadedZoneSources db with
  | [] => rw [zones] at permuted; exact permuted.eq_nil
  | [zone] => rw [zones] at permuted; exact List.perm_singleton.mp permuted
  | _ :: _ :: _ => rw [zones] at short; exact absurd short (by simp)

theorem CommitStep.dimZone_stays {owned : Nat → Prop} (step : CommitStep metadata db db')
    (extended : db.Extends owned db') (catalog : Catalog known) (mine : known metadata)
    (nodup : db.index.Nodup) (described : Described known db) (exact_loads : db.LoadsExact)
    (nodup_after : db'.index.Nodup) (version : db.loadedZoneVersions = 1)
    (version_after : db'.loadedZoneVersions = 1) : dimZone db' = dimZone db := by
  have sources := loadedZoneSources_stay extended nodup nodup_after version version_after
  have distinct : (loadedZoneSources db).Nodup := selected_nodup nodup _
  have short : (loadedZoneSources db).length ≤ 1 := le_trans loadedZoneSources_le (le_of_eq version)
  have rows : (db'.raw .taxiZones).filter (·.lineage.sourceFileId ∈ loadedZoneSources db) =
      (db.raw .taxiZones).filter (·.lineage.sourceFileId ∈ loadedZoneSources db) := by
    match zones : loadedZoneSources db with
    | [] => simp
    | [zone] =>
      have member : zone ∈ loadedZoneSources db := by simp [zones]
      obtain ⟨row, got, -, -, loaded⟩ := (mem_loadedZoneSources nodup).mp member
      have stays := (step.loaded_stays catalog mine described exact_loads nodup_after
        (Database.isLoaded_iff.mpr ⟨row, got, loaded⟩)).2 .taxiZones
      simpa [Database.rowsOf, beq_eq_decide] using stays
    | _ :: _ :: _ => rw [zones] at short; exact absurd short (by simp)
  unfold dimZone stgTlcTaxiZones
  rw [sources, ofSources_eq distinct, ofSources_eq distinct, rows]

end Step

variable {Client : Type} {requests : Client → Request}

theorem inspected_serviced {readers : Readers} {source : Client → SourcePartition}
    {content : Client → Bytes} (resolved : ∀ i, Resolved (source i))
    (inspected : ∀ i, inspectSource readers (source i) (content i) = .ok (requests i).metadata) :
    Serviced fun metadata => ∃ i, (requests i).metadata = metadata := by
  rintro _ ⟨i, rfl⟩
  obtain ⟨-, found, -, metadata⟩ := inspectSource_ok (inspected i)
  rw [metadata]
  exact (resolved i).service

variable {known : SourceFileMetadata → Prop} {s s' : Platform Client}

theorem Ingested.lineage (ingested : Ingested requests known s) (serviced : Serviced known) :
    (intTripsEnriched s.committed).map (·.lineage) = s.committed.loadedTrips :=
  intTripsEnriched_lineage ingested.coherent.distinct.committed serviced ingested.described ingested.loads

theorem Ingested.whole [Fintype Client] [DecidableEq Client] {i : Client} {e : Event}
    (ingested : Ingested requests known s) (catalog : Catalog known) (serviced : Serviced known)
    (mine : known (requests i).metadata) (stepped : (ingestion requests).step s i e = some s') :
    WholeBatches (·.lineage.sourceFileId) (intTripsEnriched s.committed) (intTripsEnriched s'.committed) :=
  (ingested.coherent.commitStep stepped).whole catalog serviced mine ingested.coherent.distinct.committed
    ingested.described ingested.loads (ingested.coherent.step stepped).distinct.committed

theorem Ingested.dimZone_stays [Fintype Client] [DecidableEq Client] {i : Client} {e : Event}
    (ingested : Ingested requests known s) (catalog : Catalog known) (mine : known (requests i).metadata)
    (version : s.committed.loadedZoneVersions = 1) (version_after : s'.committed.loadedZoneVersions = 1)
    (stepped : (ingestion requests).step s i e = some s') : dimZone s'.committed = dimZone s.committed :=
  (ingested.coherent.commitStep stepped).dimZone_stays (ingested.coherent.extends stepped) catalog mine
    ingested.coherent.distinct.committed ingested.described ingested.loads
    (ingested.coherent.step stepped).distinct.committed version version_after

end TaxiPipeline
