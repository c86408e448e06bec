import TaxiPipeline.Lifecycle.Failures
import TaxiPipeline.Model.ZoneFiles
import TaxiPipeline.Stateful.Loops

namespace TaxiPipeline

open ReadCommitted Stateful Transaction

section Proceeding

variable {s : Session} {metadata : SourceFileMetadata}

/-- The registration of the metadata returns the decision to proceed. -/
def Session.Proceeds (s : Session) (metadata : SourceFileMetadata) : Prop :=
  ∀ now, ∃ result after, atomically (prepareIngestion now metadata) s = (.ok result, after) ∧
    result.decision = .proceed

theorem proceeding_ingestion_loads {batchSize : Int} {file : LandingFile} {table : RawTable}
    (orderly : s.Orderly) (fits : metadata.fits = true) (checks : metadata.meetsChecks = true)
    (proceeds : s.Proceeds metadata) (positive : 0 < batchSize) (matching : file.Matches metadata table) :
    (Request.ingest metadata batchSize).Comes file (fun t => ∃ sourceFileId, s.LoadedBy file table sourceFileId t)
      (.alone s.db s.sequences .idle []) := by
  refine ingesting_comes positive fun now => ?_
  obtain ⟨source, base, pending, isNew, registered, returned⟩ :=
    prepareIngestion_alone orderly.consistent fits checks now
  obtain ⟨result, after, again, proceed⟩ := proceeds now
  have same := returned.symm.trans again
  cases same
  have ready : source.status = .ready := (decision_proceed_iff _).mp proceed
  rw [returned]
  simp only [landed, afterRegistration_ready ready]
  have later := registered.orderly orderly
  obtain ⟨sameRuns, sameRaw, -⟩ := registered.others
  refine (starting_version_loads later.consistent later.valid later.loaded
    (registered.getSourceFile orderly.consistent) ready matching).mono fun t loaded => ⟨source.sourceFileId, ?_⟩
  unfold Session.LoadedBy at loaded ⊢
  rwa [sameRuns, sameRaw] at loaded

end Proceeding

section Records

variable {header record : List String} {records : List (List String)} {row : TaxiZone} {rows : List TaxiZone}
  {identity : LoadIdentity} {batchSize first : Nat} {batchRows : List (RawRow .taxiZones)}

theorem zoneRow_ok (names : ∀ name ∈ taxiZoneRequiredFields, name ∈ header) :
    CsvFile.zoneRow header record = .ok row ↔
      spelledInteger (CsvFile.cell header record "LocationID") = some row.locationId ∧
        row = ⟨row.locationId, CsvFile.cell header record "Borough", CsvFile.cell header record "Zone",
          CsvFile.cell header record "service_zone"⟩ := by
  have location := names "LocationID" (by decide)
  have borough := names "Borough" (by decide)
  have zone := names "Zone" (by decide)
  have service := names "service_zone" (by decide)
  simp only [CsvFile.zoneRow, CsvFile.sourceCell, if_pos location, if_pos borough, if_pos zone, if_pos service,
    Bind.bind, Except.bind]
  cases CsvFile.cell header record "LocationID" with
  | none => simp [CsvFile.sourceInt, spelledInteger]
  | some text =>
    cases parsed : pyInt text with
    | error error => simp [CsvFile.sourceInt, spelledInteger, parsed, Except.toOption]
    | ok n =>
      simp only [CsvFile.sourceInt, spelledInteger, parsed, Option.bind_some, Except.toOption, Option.some.injEq]
      constructor
      · intro same
        cases same
        exact ⟨rfl, rfl⟩
      · rintro ⟨rfl, same⟩
        rw [← same]

/-- Where every record gives a row, the generator yields the batches of these rows and raises nothing. -/
theorem zoneBatches_ok
    (parsed : List.Forall₂ (fun record row => CsvFile.zoneRow header record = .ok row) records rows) :
    CsvFile.zoneBatches header identity batchSize first batchRows records =
      ⟨iterTaxiZoneBatches identity batchSize first batchRows rows, none⟩ := by
  induction parsed generalizing first batchRows with
  | nil => rfl
  | cons head tail ih =>
    unfold CsvFile.zoneBatches iterTaxiZoneBatches
    rw [head]
    dsimp only
    split
    · rw [ih]
      rfl
    · exact ih

theorem zoneBatches_raised
    (finished : (CsvFile.zoneBatches header identity batchSize first batchRows records).raised = none) :
    ∀ record ∈ records, ∃ row, CsvFile.zoneRow header record = .ok row := by
  induction records generalizing first batchRows with
  | nil => exact fun record member => absurd member List.not_mem_nil
  | cons record rest ih =>
    unfold CsvFile.zoneBatches at finished
    cases head : CsvFile.zoneRow header record with
    | error error =>
      rw [head] at finished
      cases finished
    | ok row =>
      rw [head] at finished
      dsimp only at finished
      rw [List.forall_mem_cons]
      refine ⟨⟨row, head⟩, ?_⟩
      split at finished
      · exact ih finished
      · exact ih finished

end Records

/-- Every LocationID is spelled as an integer of its column, and a column that pandas keeps as text
    spells no integer twice. -/
structure CsvFile.SpellsLocations (pandas : Pandas) (file : CsvFile) : Prop where
  integers : ∀ cell ∈ file.column "LocationID", ∃ n, spelledInteger cell = some n ∧ fitsInteger n = true
  distinct : (∃ text ∈ Pandas.present (file.column "LocationID"), pandas.isNumber text = false) →
    (file.column "LocationID").Pairwise fun left right => spelledInteger left ≠ spelledInteger right

/-- The file is delivered as the given number of rows with distinct locations, and an ingestion that is
    told to proceed loads it. -/
structure CsvFile.LoadsAsAccepted (pandas : Pandas) (file : CsvFile) (rowCount : Nat) : Prop where
  delivered : ∀ identity batchSize, 1 ≤ batchSize →
    (file.iterTaxiZoneBatches identity batchSize).raised = none ∧
    ((file.iterTaxiZoneBatches identity batchSize).yielded.flatMap (·.rows)).length = rowCount ∧
    (((file.iterTaxiZoneBatches identity batchSize).yielded.flatMap (·.rows)).map (·.values.locationId)).Nodup ∧
    ∀ row ∈ (file.iterTaxiZoneBatches identity batchSize).yielded.flatMap (·.rows),
      fitsInteger row.values.locationId = true
  ingested : ∀ {s : Session} {readers : Readers} {content : Bytes} {metadata : SourceFileMetadata} {batchSize : Int},
    readers.readCsv content = .ok (pandas.readCsv file) →
    inspectSource readers taxiZoneSource content = .ok metadata → metadata.Sized → Session.start.Leads s →
    s.Proceeds metadata → 1 ≤ batchSize → ∃ landing, file.landing = .ok landing ∧
      (Request.ingest metadata batchSize).Comes landing
        (fun t => ∃ sourceFileId, s.LoadedBy landing .taxiZones sourceFileId t) (.alone s.db s.sequences .idle [])

section Accepted

variable {pandas : Pandas} {file : CsvFile} {rowCount : Nat} {rows : List TaxiZone}

theorem validateTaxiZones_file (accepted : validateTaxiZones (pandas.readCsv file) = .ok rowCount) :
    (∀ name ∈ taxiZoneRequiredFields, name ∈ file.header) ∧ rowCount = file.records.length ∧
      (pandas.readColumn (file.column "LocationID")).Nodup ∧
      ∀ cell ∈ pandas.readColumn (file.column "LocationID"), cell ≠ none := by
  unfold validateTaxiZones at accepted
  dsimp only at accepted
  split at accepted
  · cases accepted
  rename_i complete
  split at accepted
  · cases accepted
  split at accepted
  · cases accepted
  split at accepted
  · cases accepted
  rename_i present
  split at accepted
  · cases accepted
  rename_i nodup
  cases accepted
  refine ⟨fun name member => ?_, ?_, not_not.mp nodup, fun cell member missing => ?_⟩
  · by_contra absent
    exact complete (List.ne_nil_of_mem (List.mem_filter.mpr ⟨member, by simpa [Pandas.readCsv] using absent⟩))
  · simp [Pandas.readCsv, Pandas.readColumn, CsvFile.column]
  · apply present
    rw [List.any_eq_true]
    exact ⟨cell, member, by rw [missing]; rfl⟩

/-- In a column of numbers pandas has told apart all cells that spell different integers, so no integer
    is spelled twice. -/
theorem column_distinct (spelled : file.SpellsLocations pandas)
    (nodup : (pandas.readColumn (file.column "LocationID")).Nodup)
    (present : ∀ cell ∈ pandas.readColumn (file.column "LocationID"), cell ≠ none) :
    (file.column "LocationID").Pairwise fun left right => spelledInteger left ≠ spelledInteger right := by
  by_cases texts : ∃ text ∈ Pandas.present (file.column "LocationID"), pandas.isNumber text = false
  · exact spelled.distinct texts
  · have numbers : (Pandas.present (file.column "LocationID")).all pandas.isNumber = true := by
      rw [List.all_eq_true]
      intro text member
      by_contra other
      exact texts ⟨text, member, Bool.eq_false_iff.mpr other⟩
    unfold Pandas.readColumn at nodup present
    apply (List.pairwise_map.mp nodup).imp_of_mem
    intro left right inLeft inRight apart same
    obtain ⟨n, leftSpells, -⟩ := spelled.integers left inLeft
    have rightSpells := same.symm.trans leftSpells
    obtain ⟨leftText, rfl, leftRead⟩ := Pandas.readCell_some (present _ (List.mem_map_of_mem inLeft))
    obtain ⟨rightText, rfl, rightRead⟩ := Pandas.readCell_some (present _ (List.mem_map_of_mem inRight))
    rw [leftRead, rightRead, if_pos numbers, if_pos numbers] at apart
    apply apart
    rw [pandas.same_integer _ leftText rightText n (spelledInteger_some leftSpells) (spelledInteger_some rightSpells)]

theorem rows_locations {header : List String} {records : List (List String)}
    (names : ∀ name ∈ taxiZoneRequiredFields, name ∈ header)
    (parsed : List.Forall₂ (fun record row => CsvFile.zoneRow header record = .ok row) records rows) :
    rows.map (some ·.locationId) = (records.map (CsvFile.cell header · "LocationID")).map spelledInteger := by
  induction parsed with
  | nil => rfl
  | cons head tail ih =>
    rw [List.map_cons, List.map_cons, List.map_cons, ih, ((zoneRow_ok names).mp head).1]

theorem rows_fit (names : ∀ name ∈ taxiZoneRequiredFields, name ∈ file.header)
    (parsed : List.Forall₂ (fun record row => CsvFile.zoneRow file.header record = .ok row) file.records rows)
    (integers : ∀ row ∈ rows, fitsInteger row.locationId = true) :
    ∀ row ∈ rows, RawTable.taxiZones.fits row = true := by
  intro row member
  obtain ⟨record, inRecords, given⟩ := forall₂_mem parsed member
  obtain ⟨-, same⟩ := (zoneRow_ok names).mp given
  have stored : ∀ name, (CsvFile.cell file.header record name).all storable = true := by
    intro name
    rw [Option.all_eq_true]
    intro text found
    obtain ⟨position, -, inRecord⟩ := Option.bind_eq_some_iff.mp found
    exact file.nulFree record inRecords text (List.mem_of_getElem? inRecord)
  rw [same]
  simp [RawTable.fits, stored, integers row member]

theorem delivered_rows {identity : LoadIdentity} {batchSize : Int} (positive : 1 ≤ batchSize)
    (parsed : List.Forall₂ (fun record row => CsvFile.zoneRow file.header record = .ok row) file.records rows) :
    (file.iterTaxiZoneBatches identity batchSize).raised = none ∧
      ((file.iterTaxiZoneBatches identity batchSize).yielded.flatMap (·.rows)).map (·.values) = rows := by
  have sized : ¬ batchSize ≤ 0 := by omega
  unfold CsvFile.iterTaxiZoneBatches
  rw [if_neg sized, zoneBatches_ok parsed]
  exact ⟨rfl, (iterTaxiZoneBatches_values identity _ 1 [] rows).trans (List.nil_append _)⟩

theorem inspected_zones {readers : Readers} {content : Bytes} {metadata : SourceFileMetadata}
    (accepted : validateTaxiZones (pandas.readCsv file) = .ok rowCount)
    (reads : readers.readCsv content = .ok (pandas.readCsv file))
    (inspected : inspectSource readers taxiZoneSource content = .ok metadata) :
    metadata.datasetName = "taxi_zone_lookup" ∧ metadata.rowCount = some (rowCount : Int) := by
  obtain ⟨-, found, structured, rfl⟩ := inspectSource_ok inspected
  have counted : inspectStructure readers taxiZoneSource content = .ok ⟨rowCount, none, none⟩ := by
    simp [inspectStructure, taxiZoneSource, inspectCsv, reads, accepted, Bind.bind, Except.bind]
  cases counted.symm.trans structured
  exact ⟨rfl, rfl⟩

theorem locations_nodup : (rows.map (some ·.locationId)).Nodup ↔ (rows.map (·.locationId)).Nodup := by
  have split : rows.map (some ·.locationId) = (rows.map (·.locationId)).map some := by
    rw [List.map_map]
    rfl
  rw [split]
  exact List.nodup_map_iff (Option.some_injective _)

/-- An accepted zone file can be loaded exactly when its locations are spelled as integers of the column,
    none of them twice where pandas keeps text. -/
theorem accepted_zones_load_iff (accepted : validateTaxiZones (pandas.readCsv file) = .ok rowCount) :
    file.LoadsAsAccepted pandas rowCount ↔ file.SpellsLocations pandas := by
  obtain ⟨names, counted, nodup, present⟩ := validateTaxiZones_file accepted
  constructor
  · intro loads
    obtain ⟨finished, -, distinct, fits⟩ := loads.delivered ⟨0, 0, 0⟩ 1 (by decide)
    obtain ⟨rows, parsed⟩ := mapM_exists (zoneBatches_raised finished)
    have each := mapM_ok.mp parsed
    have values := (@delivered_rows _ _ ⟨0, 0, 0⟩ 1 (by decide) each).2
    have locations : rows.map (some ·.locationId) = (file.column "LocationID").map spelledInteger :=
      rows_locations names each
    constructor
    · intro cell member
      have spelled : spelledInteger cell ∈ rows.map (some ·.locationId) := by
        rw [locations]
        exact List.mem_map_of_mem member
      obtain ⟨row, inRows, same⟩ := List.mem_map.mp spelled
      rw [← values] at inRows
      obtain ⟨raw, inRaw, rfl⟩ := List.mem_map.mp inRows
      exact ⟨_, same.symm, fits raw inRaw⟩
    · intro _
      have apart : (rows.map (·.locationId)).Nodup := by
        rw [← values, List.map_map]
        exact distinct
      rw [← locations_nodup, locations] at apart
      exact List.pairwise_map.mp apart
  · intro spelled
    have integers : ∀ record ∈ file.records, ∃ row, CsvFile.zoneRow file.header record = .ok row := by
      intro record member
      obtain ⟨n, spells, -⟩ := spelled.integers _ (List.mem_map_of_mem member)
      exact ⟨⟨n, _, _, _⟩, (zoneRow_ok names).mpr ⟨spells, rfl⟩⟩
    obtain ⟨rows, parsed⟩ := mapM_exists integers
    have each := mapM_ok.mp parsed
    have locations : rows.map (some ·.locationId) = (file.column "LocationID").map spelledInteger :=
      rows_locations names each
    have distinct : (rows.map (·.locationId)).Nodup := by
      rw [← locations_nodup, locations]
      exact List.pairwise_map.mpr (column_distinct spelled nodup present)
    have fits : ∀ row ∈ rows, fitsInteger row.locationId = true := by
      intro row member
      have known : some row.locationId ∈ (file.column "LocationID").map spelledInteger := by
        rw [← locations]
        exact List.mem_map_of_mem member
      obtain ⟨cell, inColumn, same⟩ := List.mem_map.mp known
      obtain ⟨n, spells, fits⟩ := spelled.integers cell inColumn
      cases same.symm.trans spells
      exact fits
    have length : rows.length = rowCount := by
      rw [counted, each.length_eq]
    constructor
    · intro identity batchSize positive
      obtain ⟨finished, values⟩ := @delivered_rows _ _ identity _ positive each
      refine ⟨finished, ?_, ?_, ?_⟩
      · rw [← length, ← values, List.length_map]
      · rw [← values, List.map_map] at distinct
        exact distinct
      · intro raw member
        apply fits
        rw [← values]
        exact List.mem_map_of_mem member
    · intro s readers content metadata batchSize reads inspected sized reached proceeds positive
      obtain ⟨dataset, rowCounted⟩ := inspected_zones accepted reads inspected
      have flat : (CsvFile.zonesLanding rows .taxiZones).flatten = rows := List.append_nil rows
      have matching : (CsvFile.zonesLanding rows).Matches metadata .taxiZones := by
        constructor
        · rw [dataset]
          rfl
        · rw [flat, length, rowCounted]
        · have bound := sized.2 _ rowCounted
          rw [flat, length]
          omega
        · rw [flat]
          exact rows_fit names each fits
        · rw [flat]
          exact fun _ => distinct
      obtain ⟨metadataFits, checks⟩ := inspectSource_accepted .zones inspected sized
      have orderly := (reached.keeps orderly_start).orderly
      refine ⟨CsvFile.zonesLanding rows, ?_,
        proceeding_ingestion_loads orderly metadataFits checks proceeds (by omega) matching⟩
      rw [CsvFile.landing, parsed]
      rfl

end Accepted

/-- A reading in which every cell is a number: the integer that it spells, or 1. -/
def plainPandas : Pandas where
  isNumber := fun _ => true
  number := fun _ text => match pyInt text with
    | .ok n => n
    | .error _ => 1
  same_integer := by
    intro column left right n spellsLeft spellsRight
    rw [spellsLeft, spellsRight]

/-- The lookup file with one zone, whose LocationID is spelled in the given way. -/
def newarkZone (location : String) (stored : storable location = true ∧ location.length ≤ fieldSizeLimit) : CsvFile where
  header := taxiZoneRequiredFields
  records := [[location, "EWR", "Newark Airport", "EWR"]]
  distinct := taxiZoneRequiredFields_nodup
  bounded := by simp [taxiZoneRequiredFields]
  nulFree := by
    have others : storable "EWR" = true ∧ storable "Newark Airport" = true := by decide
    simp [stored.1, others]
  sized := by
    have header : withinFieldLimit taxiZoneRequiredFields = true := by decide
    have others : withinFieldLimit ["EWR", "Newark Airport", "EWR"] = true := by decide
    have record : withinFieldLimit [location, "EWR", "Newark Airport", "EWR"] = true := by
      unfold withinFieldLimit at others ⊢
      rw [List.all_cons, others, decide_eq_true stored.2]
      rfl
    simp [header, record]

theorem newarkZone_loads_iff : (newarkZone "1" (by decide)).LoadsAsAccepted plainPandas 1 ↔
    (newarkZone "1" (by decide)).SpellsLocations plainPandas :=
  accepted_zones_load_iff (by decide)

/-- pandas takes the LocationID 1.0 for the number 1, and `int` refuses it. -/
theorem decimalZone_not_loaded :
    validateTaxiZones (plainPandas.readCsv (newarkZone "1.0" (by decide))) = .ok 1 ∧
      ¬ (newarkZone "1.0" (by decide)).LoadsAsAccepted plainPandas 1 := by
  refine ⟨by decide, fun loads => ?_⟩
  have finished := (loads.delivered ⟨0, 0, 0⟩ 1 (by decide)).1
  have raised : ((newarkZone "1.0" (by decide)).iterTaxiZoneBatches ⟨0, 0, 0⟩ 1).raised.isSome = true := by decide
  rw [finished] at raised
  cases raised

end TaxiPipeline
