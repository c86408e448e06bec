import TaxiPipeline.Lifecycle.Histories
import TaxiPipeline.Quality.Evaluations

namespace TaxiPipeline

open ReadCommitted Relational Stateful Transaction

/-- What an evaluation reads of the rows of a source. -/
structure SourceFile.SameTarget (row row' : SourceFile) : Prop where
  status : row'.status = row.status
  datasetName : row'.datasetName = row.datasetName
  year : row'.sourceYear = row.sourceYear
  month : row'.sourceMonth = row.sourceMonth
  partition : row'.partitionKey = row.partitionKey

theorem SourceFile.SameTarget.refl (row : SourceFile) : row.SameTarget row := ⟨rfl, rfl, rfl, rfl, rfl⟩

/-- Loaded sources and their rows stay. -/
structure Database.KeepsSources (db db' : Database) : Prop where
  sources : ∀ {sourceFileId row}, db.getSourceFile sourceFileId = some row → row.status = .loaded →
    ∃ row', db'.getSourceFile sourceFileId = some row' ∧ row.SameTarget row'
  rows : ∀ {sourceFileId row}, db.getSourceFile sourceFileId = some row → row.status = .loaded →
    ∀ table, db'.rowsOf table sourceFileId = db.rowsOf table sourceFileId

/-- What every call keeps of the targets of evaluations. -/
structure Database.KeepsTargets (db db' : Database) : Prop extends Database.KeepsSources db db' where
  runs : ∀ {runId run}, db.getRun runId = some run → run.status = .succeeded →
    ∃ run', db'.getRun runId = some run' ∧ run'.status = .succeeded ∧ run'.datasetName = run.datasetName ∧
      run'.sourceFileId = run.sourceFileId

/-- Calls other than an evaluation leave the results and the succeeded runs as they are. -/
structure Database.KeepsLoaded (db db' : Database) : Prop extends Database.KeepsSources db db' where
  runs : ∀ {runId run}, db.getRun runId = some run → run.status = .succeeded → db'.getRun runId = some run
  results : db'.qualityResults = db.qualityResults

/-- There is at most one loaded version of the taxi zones. -/
def Database.OneLoadedZone (db : Database) : Prop :=
  ∀ left ∈ db.sourceFiles, ∀ right ∈ db.sourceFiles,
    left.datasetName = "taxi_zone_lookup" → right.datasetName = "taxi_zone_lookup" →
      left.status = .loaded → right.status = .loaded → left = right

instance (db : Database) : Decidable db.OneLoadedZone :=
  inferInstanceAs (Decidable (∀ left ∈ db.sourceFiles, ∀ right ∈ db.sourceFiles, _ → _))

theorem eq_singleton_of_nodup {α : Type} {l : List α} {x : α} (nodup : l.Nodup) (member : x ∈ l)
    (only : ∀ y ∈ l, y = x) : l = [x] := by
  cases l with
  | nil => cases member
  | cons head rest =>
    have same := only head List.mem_cons_self
    cases rest with
    | nil => rw [same]
    | cons next rest =>
      have again := only next (List.mem_cons_of_mem _ List.mem_cons_self)
      rw [same, again] at nodup
      exact absurd List.mem_cons_self (List.nodup_cons.mp nodup).1

section Keeps

variable {db db' db'' : Database}

theorem Database.KeepsSources.refl (db : Database) : db.KeepsSources db :=
  ⟨fun got _ => ⟨_, got, .refl _⟩, fun _ _ _ => rfl⟩

theorem Database.KeepsSources.trans (first : db.KeepsSources db') (second : db'.KeepsSources db'') :
    db.KeepsSources db'' where
  sources := by
    intro sourceFileId row got loaded
    obtain ⟨row', got', same⟩ := first.sources got loaded
    obtain ⟨row'', got'', same'⟩ := second.sources got' (same.status.trans loaded)
    exact ⟨row'', got'', same'.status.trans same.status, same'.datasetName.trans same.datasetName,
      same'.year.trans same.year, same'.month.trans same.month, same'.partition.trans same.partition⟩
  rows := by
    intro sourceFileId row got loaded table
    obtain ⟨row', got', same⟩ := first.sources got loaded
    rw [second.rows got' (same.status.trans loaded), first.rows got loaded]

theorem Database.KeepsTargets.refl (db : Database) : db.KeepsTargets db :=
  ⟨.refl db, fun got succeeded => ⟨_, got, succeeded, rfl, rfl⟩⟩

theorem Database.KeepsTargets.trans (first : db.KeepsTargets db') (second : db'.KeepsTargets db'') :
    db.KeepsTargets db'' where
  toKeepsSources := first.toKeepsSources.trans second.toKeepsSources
  runs := by
    intro runId run got succeeded
    obtain ⟨run', got', succeeded', dataset', source'⟩ := first.runs got succeeded
    obtain ⟨run'', got'', succeeded'', dataset'', source''⟩ := second.runs got' succeeded'
    exact ⟨run'', got'', succeeded'', dataset''.trans dataset', source''.trans source'⟩

theorem Database.KeepsLoaded.refl (db : Database) : db.KeepsLoaded db :=
  ⟨.refl db, fun got _ => got, rfl⟩

theorem Database.KeepsLoaded.trans (first : db.KeepsLoaded db') (second : db'.KeepsLoaded db'') :
    db.KeepsLoaded db'' where
  toKeepsSources := first.toKeepsSources.trans second.toKeepsSources
  runs := fun got succeeded => second.runs (first.runs got succeeded) succeeded
  results := second.results.trans first.results

theorem Database.KeepsLoaded.targets (keeps : db.KeepsLoaded db') : db.KeepsTargets db' where
  toKeepsSources := keeps.toKeepsSources
  runs := fun got succeeded => ⟨_, keeps.runs got succeeded, succeeded, rfl, rfl⟩

theorem Database.KeepsSources.oneLoadedZone (keeps : db.KeepsSources db') (nodup : db.index.Nodup)
    (one : db'.OneLoadedZone) : db.OneLoadedZone := by
  intro left inLeft right inRight leftZone rightZone leftLoaded rightLoaded
  obtain ⟨left', gotLeft, sameLeft⟩ := keeps.sources (Database.getSourceFile_of_mem nodup inLeft) leftLoaded
  obtain ⟨right', gotRight, sameRight⟩ := keeps.sources (Database.getSourceFile_of_mem nodup inRight) rightLoaded
  obtain ⟨inLeft', leftId⟩ := getSourceFile_some gotLeft
  obtain ⟨inRight', rightId⟩ := getSourceFile_some gotRight
  have same := one left' inLeft' right' inRight' (sameLeft.datasetName.trans leftZone)
    (sameRight.datasetName.trans rightZone) (sameLeft.status.trans leftLoaded) (sameRight.status.trans rightLoaded)
  refine Database.unique_sourceFile nodup inLeft inRight ?_
  rw [← leftId, ← rightId, same]

theorem loadedZoneSourceId_ok {sourceFileId : Nat} (nodup : db.index.Nodup)
    (found : db.loadedZoneSourceId = .ok sourceFileId) :
    ∃ zone, db.getSourceFile sourceFileId = some zone ∧ zone.datasetName = "taxi_zone_lookup" ∧
      zone.status = .loaded ∧ db.persistedCount .taxiZones sourceFileId ≠ 0 := by
  unfold Database.loadedZoneSourceId at found
  dsimp only at found
  split at found
  · cases found
  · rename_i zone rest sorted
    split at found
    · cases found
    · rename_i nonempty
      cases found
      have member : zone ∈ db.sourceFiles.filter fun row =>
          row.datasetName == "taxi_zone_lookup" && row.status == .loaded := by
        rw [← List.mem_insertionSort (fun row other => SourceFile.loadedBefore row other = true), sorted]
        exact List.mem_cons_self
      obtain ⟨inFiles, isZone⟩ := List.mem_filter.mp member
      simp only [Bool.and_eq_true, beq_iff_eq] at isZone
      exact ⟨zone, Database.getSourceFile_of_mem nodup inFiles, isZone.1, isZone.2, nonempty⟩

theorem loadedZoneSourceId_of_one {zone : SourceFile} (nodup : db.index.Nodup) (one : db.OneLoadedZone)
    (member : zone ∈ db.sourceFiles) (isZone : zone.datasetName = "taxi_zone_lookup")
    (loaded : zone.status = .loaded) (nonempty : db.persistedCount .taxiZones zone.sourceFileId ≠ 0) :
    db.loadedZoneSourceId = .ok zone.sourceFileId := by
  have only : (db.sourceFiles.filter fun row =>
      row.datasetName == "taxi_zone_lookup" && row.status == .loaded) = [zone] := by
    apply eq_singleton_of_nodup
    · exact (List.Nodup.of_map _ (Database.sourceFileIds_nodup nodup)).filter _
    · exact List.mem_filter.mpr ⟨member, by simp [isZone, loaded]⟩
    · intro other inZones
      obtain ⟨inFiles, otherZone⟩ := List.mem_filter.mp inZones
      simp only [Bool.and_eq_true, beq_iff_eq] at otherZone
      exact one other inFiles zone member otherZone.1 isZone otherZone.2 loaded
  unfold Database.loadedZoneSourceId
  rw [only]
  exact if_neg nonempty

theorem SourceFile.SameTarget.zone {row row' : SourceFile} (same : row.SameTarget row')
    (isZone : row.datasetName = "taxi_zone_lookup" ∧ row.status = .loaded) :
    row'.datasetName = "taxi_zone_lookup" ∧ row'.status = .loaded :=
  ⟨same.datasetName.trans isZone.1, same.status.trans isZone.2⟩

theorem Database.KeepsSources.loadedZone (keeps : db.KeepsSources db') (nodup : db.index.Nodup)
    (nodup' : db'.index.Nodup) (one : db'.OneLoadedZone) {sourceFileId : Nat}
    (found : db.loadedZoneSourceId = .ok sourceFileId) : db'.loadedZoneSourceId = .ok sourceFileId ∧
      db'.rowsOf .taxiZones sourceFileId = db.rowsOf .taxiZones sourceFileId := by
  obtain ⟨zone, got, isZone, loaded, nonempty⟩ := loadedZoneSourceId_ok nodup found
  obtain ⟨zone', got', same⟩ := keeps.sources got loaded
  have sameRows := keeps.rows got loaded .taxiZones
  obtain ⟨inFiles, sameId⟩ := getSourceFile_some got'
  obtain ⟨isZone', loaded'⟩ := same.zone ⟨isZone, loaded⟩
  refine ⟨?_, sameRows⟩
  rw [← sameId]
  refine loadedZoneSourceId_of_one nodup' one inFiles isZone' loaded' ?_
  rw [sameId]
  unfold Database.persistedCount at nonempty ⊢
  rwa [sameRows]

/-- The measurements read the rows of the source and of its zones only. -/
theorem gathered_congr {config : QualityConfig} {sourceFileId zoneSourceFileId rowsChecked : Nat}
    {scalar : Measurements} (rows : ∀ table, db'.rowsOf table sourceFileId = db.rowsOf table sourceFileId)
    (zones : db'.rowsOf .taxiZones zoneSourceFileId = db.rowsOf .taxiZones zoneSourceFileId) :
    config.gathered db' sourceFileId zoneSourceFileId rowsChecked scalar =
      config.gathered db sourceFileId zoneSourceFileId rowsChecked scalar := by
  have trips : db'.trips config.table sourceFileId = db.trips config.table sourceFileId := by
    unfold Database.trips
    rw [rows]
  have matching : ∀ location, (db'.raw .taxiZones).filter (zoneMatches zoneSourceFileId location) =
      (db.raw .taxiZones).filter (zoneMatches zoneSourceFileId location) := by
    intro location
    have ofZone : ∀ table : List (RawRow .taxiZones), table.filter (zoneMatches zoneSourceFileId location) =
        (table.filter fun zone => zone.lineage.sourceFileId == zoneSourceFileId).filter
          fun zone => equal (some zone.values.locationId) location := by
      intro table
      rw [List.filter_filter]
      exact List.filter_congr fun zone _ => Bool.and_comm ..
    unfold Database.rowsOf at zones
    rw [ofZone, ofZone, zones]
  have joined : zoneMeasurements db' config.model sourceFileId zoneSourceFileId rowsChecked =
      zoneMeasurements db config.model sourceFileId zoneSourceFileId rowsChecked := by
    unfold zoneMeasurements
    rw [trips]
    dsimp only
    rw [@leftJoin_congr _ _ _ _ (db.raw .taxiZones) _ fun trip _ => matching _,
      @leftJoin_congr _ _ _ _ (db.raw .taxiZones) _ fun row _ => matching _]
  unfold QualityConfig.gathered domainMeasurements duplicateMeasurement
  rw [trips, joined]

theorem Database.KeepsSources.measure (keeps : db.KeepsSources db') (nodup : db.index.Nodup)
    (nodup' : db'.index.Nodup) (one : db'.OneLoadedZone) {target target' : QualityTarget} {config : QualityConfig}
    {measured : Nat × Measurements} (got : db.getSourceFile target.source.sourceFileId = some target.source)
    (loaded : target.source.status = .loaded) (sameId : target'.source.sourceFileId = target.source.sourceFileId)
    (year : target'.year = target.year) (month : target'.month = target.month)
    (before : db.measure target config = .ok measured) : db'.measure target' config = .ok measured := by
  obtain ⟨rowsChecked, measurements⟩ := measured
  obtain ⟨zoneSourceFileId, scalar, found, scanned, gathered, covered⟩ := measure_ok.mp before
  obtain ⟨found', zones⟩ := keeps.loadedZone nodup nodup' one found
  have rows := keeps.rows got loaded
  refine measure_ok.mpr ⟨zoneSourceFileId, scalar, found', ?_, ?_, covered⟩
  · rw [sameId, year, month, ← scanned]
    unfold scalarMeasurements Database.trips
    rw [rows]
  · rw [sameId, gathered_congr rows zones, gathered]

theorem validatedTarget_iff {runId : Nat} {target : QualityTarget} : db.validatedTarget runId = .ok target ↔
    db.getRun runId = some target.run ∧ target.run.status = .succeeded ∧
      (qualityConfig target.run.datasetName).isSome ∧
      (∃ sourceFileId, target.run.sourceFileId = some sourceFileId ∧
        db.getSourceFile sourceFileId = some target.source) ∧
      target.source.status = .loaded ∧ target.source.sourceYear = some target.year ∧
      target.source.sourceMonth = some target.month := by
  unfold Database.validatedTarget
  constructor
  · intro valid
    split at valid
    · cases valid
    · rename_i run got
      split at valid
      · cases valid
      · rename_i succeeded
        split at valid
        · rename_i config sourceFileId known ofSource
          split at valid
          · cases valid
          · rename_i source gotSource
            split at valid
            · cases valid
            · rename_i loaded
              split at valid
              · rename_i year month hasYear hasMonth
                cases valid
                exact ⟨got, not_not.mp succeeded, by simp [known], ⟨sourceFileId, ofSource, gotSource⟩,
                  not_not.mp loaded, hasYear, hasMonth⟩
              · cases valid
        · cases valid
  · rintro ⟨got, succeeded, known, ⟨sourceFileId, ofSource, gotSource⟩, loaded, hasYear, hasMonth⟩
    obtain ⟨config, known⟩ := Option.isSome_iff_exists.mp known
    simp [got, succeeded, known, ofSource, gotSource, loaded, hasYear, hasMonth]

/-- An evaluation that reads at all reads the same later. -/
theorem Database.KeepsTargets.evaluation (keeps : db.KeepsTargets db') (nodup : db.index.Nodup)
    (nodup' : db'.index.Nodup) (one : db'.OneLoadedZone) {runId : Nat} {evaluation : Evaluation}
    (before : db.evaluation runId = .ok evaluation) : db'.evaluation runId = .ok evaluation := by
  obtain ⟨target, config, rowsChecked, measurements, valid, known, measured, rfl⟩ := evaluation_ok.mp before
  obtain ⟨got, succeeded, supported, ⟨sourceFileId, ofSource, gotSource⟩, loaded, hasYear, hasMonth⟩ :=
    validatedTarget_iff.mp valid
  obtain ⟨run', got', succeeded', dataset', ofSource'⟩ := keeps.runs got succeeded
  obtain ⟨source', gotSource', same⟩ := keeps.sources gotSource loaded
  have sameId : source'.sourceFileId = target.source.sourceFileId :=
    (getSourceFile_some gotSource').2.trans (getSourceFile_some gotSource).2.symm
  have valid' : db'.validatedTarget runId = .ok ⟨run', source', target.year, target.month⟩ :=
    validatedTarget_iff.mpr ⟨got', succeeded', by rwa [dataset'], ⟨sourceFileId, ofSource'.trans ofSource, gotSource'⟩,
      same.status.trans loaded, same.year.trans hasYear, same.month.trans hasMonth⟩
  have gotTarget : db.getSourceFile target.source.sourceFileId = some target.source := by
    rw [(getSourceFile_some gotSource).2]
    exact gotSource
  have measured' : db'.measure ⟨run', source', target.year, target.month⟩ config = .ok (rowsChecked, measurements) :=
    keeps.measure nodup nodup' one gotTarget loaded sameId rfl rfl measured
  refine evaluation_ok.mpr ⟨_, config, rowsChecked, measurements, valid', ?_, measured', ?_⟩
  · rw [same.datasetName]
    exact known
  · rw [same.partition]

end Keeps

end TaxiPipeline
