import TaxiPipeline.Ingestion.Loads
import TaxiPipeline.Relational.Batches
import TaxiPipeline.Warehouse.Models

namespace TaxiPipeline

open Relational

def Lineage.grain (lineage : Lineage) : Nat × Nat := (lineage.sourceFileId, lineage.sourceRowNumber)

namespace Database

/-- The source file is registered and loaded. -/
def isLoaded (db : Database) (sourceFileId : Nat) : Bool :=
  (db.getSourceFile sourceFileId).any (·.status == .loaded)

/-- The lineage of every raw Yellow and Green row. -/
def rawTrips (db : Database) : List Lineage :=
  (db.raw .yellowTrips).map (·.lineage) ++ (db.raw .greenTrips).map (·.lineage)

/-- The lineage of the raw Yellow and Green rows of the loaded sources. -/
def loadedTrips (db : Database) : List Lineage := db.rawTrips.filter (db.isLoaded ·.sourceFileId)

variable {db : Database} {sourceFileId : Nat}

theorem isLoaded_iff : db.isLoaded sourceFileId = true ↔
    ∃ row, db.getSourceFile sourceFileId = some row ∧ row.status = .loaded := by
  simp [isLoaded, Option.any_eq_true]

theorem mem_loadedTrips {lineage : Lineage} :
    lineage ∈ db.loadedTrips ↔ lineage ∈ db.rawTrips ∧ db.isLoaded lineage.sourceFileId = true :=
  List.mem_filter

theorem loadedTrips_ofBatch (loaded : db.isLoaded sourceFileId = true) :
    ofBatch Lineage.sourceFileId sourceFileId db.loadedTrips =
      ofBatch Lineage.sourceFileId sourceFileId db.rawTrips := by
  unfold ofBatch loadedTrips
  rw [List.filter_filter]
  refine List.filter_congr fun lineage _ => ?_
  by_cases same : lineage.sourceFileId = sourceFileId
  · simp [same, loaded]
  · simp [same]

end Database

section Sources

variable {db : Database} {sourceFileId : Nat} {datasetName serviceType : String}

/-- The loaded versions of the zone reference data. -/
def Database.loadedZoneVersions (db : Database) : Nat :=
  db.sourceFiles.countP fun row => row.partitionKey == "reference/taxi_zones" && row.status == .loaded

theorem mem_unique {α : Type} {l : List α} {x y : α} (short : l.length ≤ 1) (left : x ∈ l) (right : y ∈ l) :
    x = y := by
  match l with
  | [] => cases left
  | [z] => rw [List.mem_singleton.mp left, List.mem_singleton.mp right]
  | _ :: _ :: _ => exact absurd short (by simp)

theorem zoneVersion_unique {left right : SourceFile} (versions : db.loadedZoneVersions ≤ 1)
    (inLeft : left ∈ db.sourceFiles) (inRight : right ∈ db.sourceFiles)
    (leftLoaded : left.partitionKey = "reference/taxi_zones" ∧ left.status = .loaded)
    (rightLoaded : right.partitionKey = "reference/taxi_zones" ∧ right.status = .loaded) : left = right := by
  unfold Database.loadedZoneVersions at versions
  rw [List.countP_eq_length_filter] at versions
  refine mem_unique versions (List.mem_filter.mpr ⟨inLeft, ?_⟩) (List.mem_filter.mpr ⟨inRight, ?_⟩)
  · simp [leftLoaded]
  · simp [rightLoaded]

theorem loadedZoneSources_le : (loadedZoneSources db).length ≤ db.loadedZoneVersions := by
  unfold loadedZoneSources Database.loadedZoneVersions
  rw [List.length_map, List.countP_eq_length_filter]
  refine List.Sublist.length_le (List.monotone_filter_right _ fun row selected => ?_)
  simp only [Bool.and_eq_true] at selected ⊢
  exact ⟨selected.1.1, selected.2⟩

theorem selected_nodup (nodup : db.index.Nodup) (p : SourceFile → Bool) :
    ((db.sourceFiles.filter p).map (·.sourceFileId)).Nodup :=
  (Database.sourceFileIds_nodup nodup).sublist (List.filter_sublist.map _)

/-- The inner join with the loaded sources keeps their rows, each once. -/
theorem ofSources_eq {table : RawTable} {rows : List (RawRow table)} {loaded : List Nat}
    (nodup : loaded.Nodup) : ofSources rows loaded = rows.filter (·.lineage.sourceFileId ∈ loaded) := by
  have unique : UniqueKey some loaded := by
    unfold UniqueKey
    rwa [List.filterMap_some]
  unfold ofSources
  rw [unique.innerJoin fun raw : RawRow table => some raw.lineage.sourceFileId]
  refine List.filter_congr fun raw _ => ?_
  rw [Bool.eq_iff_iff, List.find?_isSome, decide_eq_true_iff]
  constructor
  · rintro ⟨id, member, same⟩
    obtain ⟨k, sameLeft, sameRight⟩ := equal_iff.mp same
    cases sameRight
    cases sameLeft
    exact member
  · intro member
    exact ⟨_, member, equal_iff.mpr ⟨_, rfl, rfl⟩⟩

theorem mem_loadedSources (nodup : db.index.Nodup) :
    sourceFileId ∈ loadedSources db datasetName serviceType ↔
      ∃ row, db.getSourceFile sourceFileId = some row ∧ row.datasetName = datasetName ∧
        row.serviceType = some serviceType ∧ row.status = .loaded := by
  simp only [loadedSources, List.mem_map, List.mem_filter, Bool.and_eq_true, beq_iff_eq]
  constructor
  · rintro ⟨row, ⟨member, ⟨name, service⟩, loaded⟩, rfl⟩
    exact ⟨row, Database.getSourceFile_of_mem nodup member, name, service, loaded⟩
  · rintro ⟨row, got, name, service, loaded⟩
    obtain ⟨member, same⟩ := getSourceFile_some got
    exact ⟨row, ⟨member, ⟨name, service⟩, loaded⟩, same⟩

theorem mem_loadedZoneSources (nodup : db.index.Nodup) :
    sourceFileId ∈ loadedZoneSources db ↔
      ∃ row, db.getSourceFile sourceFileId = some row ∧ row.partitionKey = "reference/taxi_zones" ∧
        row.datasetName = "taxi_zone_lookup" ∧ row.status = .loaded := by
  simp only [loadedZoneSources, List.mem_map, List.mem_filter, Bool.and_eq_true, beq_iff_eq]
  constructor
  · rintro ⟨row, ⟨member, ⟨partition, name⟩, loaded⟩, rfl⟩
    exact ⟨row, Database.getSourceFile_of_mem nodup member, partition, name, loaded⟩
  · rintro ⟨row, got, partition, name, loaded⟩
    obtain ⟨member, same⟩ := getSourceFile_some got
    exact ⟨row, ⟨member, ⟨partition, name⟩, loaded⟩, same⟩

end Sources

/-- Every dataset comes with its own service type. -/
def Serviced (known : SourceFileMetadata → Prop) : Prop :=
  ∀ {metadata}, known metadata → (metadata.datasetName, metadata.serviceType) ∈ datasetServices

section Staging

variable {known : SourceFileMetadata → Prop} {db : Database} {datasetName serviceType : String}

theorem staged_iff {table : RawTable} (nodup : db.index.Nodup) (serviced : Serviced known)
    (described : Described known db) (exact_loads : db.LoadsExact)
    (only : ∀ dataset ∈ datasetServices, rawTableOf dataset.1 = .ok table →
      dataset = (datasetName, some serviceType)) {raw : RawRow table} (inTable : raw ∈ db.raw table) :
    raw.lineage.sourceFileId ∈ loadedSources db datasetName serviceType ↔
      db.isLoaded raw.lineage.sourceFileId = true := by
  rw [mem_loadedSources nodup, Database.isLoaded_iff]
  constructor
  · rintro ⟨row, got, -, -, loaded⟩
    exact ⟨row, got, loaded⟩
  · rintro ⟨row, got, loaded⟩
    obtain ⟨origin, id, now, ofCall, same⟩ := described got
    have name : row.datasetName = origin.datasetName := (congrArg SourceFile.datasetName same :)
    have service : row.serviceType = origin.serviceType := (congrArg SourceFile.serviceType same :)
    obtain ⟨own, run, rowCount, dataset, -, -, -, others⟩ := exact_loads.loaded got loaded
    have ofTable : rawTableOf origin.datasetName = .ok table := by
      by_cases sameTable : table = own
      · rw [← name, dataset, sameTable]
      · have inSource : raw ∈ db.rowsOf table row.sourceFileId :=
          Database.mem_rowsOf.mpr ⟨inTable, (getSourceFile_some got).2.symm⟩
        rw [others table sameTable] at inSource
        cases inSource
    obtain ⟨sameName, sameService⟩ := Prod.mk.inj (only _ (serviced ofCall) ofTable)
    exact ⟨row, got, name.trans sameName, service.trans sameService, loaded⟩

theorem staged_eq {table : RawTable} (nodup : db.index.Nodup) (serviced : Serviced known)
    (described : Described known db) (exact_loads : db.LoadsExact)
    (only : ∀ dataset ∈ datasetServices, rawTableOf dataset.1 = .ok table →
      dataset = (datasetName, some serviceType)) :
    ofSources (db.raw table) (loadedSources db datasetName serviceType) =
      (db.raw table).filter (db.isLoaded ·.lineage.sourceFileId) := by
  have loaded : (loadedSources db datasetName serviceType).Nodup := selected_nodup nodup _
  rw [ofSources_eq loaded]
  refine List.filter_congr fun raw inTable => ?_
  rw [Bool.eq_iff_iff, decide_eq_true_iff]
  exact staged_iff nodup serviced described exact_loads only inTable

/-- The trips are the raw Yellow and Green rows of the loaded sources, each once. -/
theorem intTripsEnriched_eq (nodup : db.index.Nodup) (serviced : Serviced known)
    (described : Described known db) (exact_loads : db.LoadsExact) :
    intTripsEnriched db =
      (((db.raw .yellowTrips).filter (db.isLoaded ·.lineage.sourceFileId)).map stgYellowTrip ++
        ((db.raw .greenTrips).filter (db.isLoaded ·.lineage.sourceFileId)).map stgGreenTrip).map
          Trip.enriched := by
  unfold intTripsEnriched intTripsNormalized stgTlcYellowTrips stgTlcGreenTrips
  rw [staged_eq nodup serviced described exact_loads (by decide),
    staged_eq nodup serviced described exact_loads (by decide)]

theorem intTripsEnriched_lineage (nodup : db.index.Nodup) (serviced : Serviced known)
    (described : Described known db) (exact_loads : db.LoadsExact) :
    (intTripsEnriched db).map (·.lineage) = db.loadedTrips := by
  rw [intTripsEnriched_eq nodup serviced described exact_loads]
  unfold Database.loadedTrips Database.rawTrips
  simp only [List.map_append, List.map_map, List.filter_append, List.filter_map]
  rfl

theorem intTripsEnriched_loaded (nodup : db.index.Nodup) (serviced : Serviced known)
    (described : Described known db) (exact_loads : db.LoadsExact) {trip : EnrichedTrip}
    (member : trip ∈ intTripsEnriched db) : db.isLoaded trip.lineage.sourceFileId = true := by
  have inLineage : trip.lineage ∈ (intTripsEnriched db).map (·.lineage) := List.mem_map_of_mem member
  rw [intTripsEnriched_lineage nodup serviced described exact_loads] at inLineage
  exact (Database.mem_loadedTrips.mp inLineage).2

theorem intTripsEnriched_ofBatch (nodup : db.index.Nodup) (serviced : Serviced known)
    (described : Described known db) (exact_loads : db.LoadsExact) {sourceFileId : Nat}
    (loaded : db.isLoaded sourceFileId = true) :
    ofBatch (·.lineage.sourceFileId) sourceFileId (intTripsEnriched db) =
      ((db.rowsOf .yellowTrips sourceFileId).map stgYellowTrip ++
        (db.rowsOf .greenTrips sourceFileId).map stgGreenTrip).map Trip.enriched := by
  have ofSource : ∀ {table : RawTable} (rows : List (RawRow table)),
      rows.filter (fun row => decide (row.lineage.sourceFileId = sourceFileId) &&
        db.isLoaded row.lineage.sourceFileId) = rows.filter (·.lineage.sourceFileId == sourceFileId) := by
    intro table rows
    refine List.filter_congr fun row _ => ?_
    by_cases same : row.lineage.sourceFileId = sourceFileId
    · simp [same, loaded]
    · simp [same]
  rw [intTripsEnriched_eq nodup serviced described exact_loads]
  unfold ofBatch Database.rowsOf
  rw [← ofSource, ← ofSource, ← List.filter_filter, ← List.filter_filter]
  simp only [List.filter_map, List.filter_append]
  rfl

theorem raw_nodup (nodup : db.index.Nodup) (table : RawTable) :
    (((db.raw table).map (·.lineage)).map Lineage.grain).Nodup := by
  have keys := rawKeys_nodup nodup table
  rw [List.map_map]
  refine List.Pairwise.map _ (fun row other apart same => ?_) (List.nodup_flatMap.mp keys).2
  obtain ⟨source, number⟩ := Prod.mk.inj same
  refine apart row.primaryKey_mem ?_
  have sameKey : row.primaryKey = other.primaryKey := by
    unfold RawRow.primaryKey
    rw [source, number]
  rw [sameKey]
  exact other.primaryKey_mem

theorem Database.LoadsExact.table (exact_loads : db.LoadsExact) {left right : RawTable} {row : RawRow left}
    {other : RawRow right} (inLeft : row ∈ db.raw left) (inRight : other ∈ db.raw right)
    (same : row.lineage.sourceFileId = other.lineage.sourceFileId)
    (loaded : db.isLoaded row.lineage.sourceFileId = true) : left = right := by
  obtain ⟨source, got, isLoaded⟩ := Database.isLoaded_iff.mp loaded
  obtain ⟨own, run, rowCount, -, -, -, -, others⟩ := exact_loads.loaded got isLoaded
  have ownId := (getSourceFile_some got).2
  have only : ∀ {table : RawTable} {raw : RawRow table}, raw ∈ db.raw table →
      raw.lineage.sourceFileId = source.sourceFileId → table = own := by
    intro table raw inTable ofSource
    by_contra apart
    have inSource : raw ∈ db.rowsOf table source.sourceFileId := Database.mem_rowsOf.mpr ⟨inTable, ofSource⟩
    rw [others table apart] at inSource
    cases inSource
  rw [only inLeft ownId.symm, only inRight (same.symm.trans ownId.symm)]

/-- No two rows of loaded sources have the same source and row number. -/
theorem loadedTrips_grain (nodup : db.index.Nodup) (exact_loads : db.LoadsExact) :
    (db.loadedTrips.map Lineage.grain).Nodup := by
  unfold Database.loadedTrips Database.rawTrips
  rw [List.filter_append, List.map_append, List.nodup_append']
  refine ⟨(raw_nodup nodup .yellowTrips).sublist (List.filter_sublist.map _),
    (raw_nodup nodup .greenTrips).sublist (List.filter_sublist.map _), ?_⟩
  intro grain inYellow inGreen
  obtain ⟨lineage, member, rfl⟩ := List.mem_map.mp inYellow
  obtain ⟨inRaw, loaded⟩ := List.mem_filter.mp member
  obtain ⟨yellow, inTable, rfl⟩ := List.mem_map.mp inRaw
  obtain ⟨lineage, member, same⟩ := List.mem_map.mp inGreen
  obtain ⟨green, inOther, rfl⟩ := List.mem_map.mp (List.mem_filter.mp member).1
  have sameSource : yellow.lineage.sourceFileId = green.lineage.sourceFileId := (Prod.mk.inj same).1.symm
  cases exact_loads.table inTable inOther sameSource loaded

end Staging

end TaxiPipeline
