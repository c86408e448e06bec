import TaxiPipeline.Api.Endpoints
import TaxiPipeline.Ingestion.FileRows
import TaxiPipeline.Warehouse.Keys

namespace TaxiPipeline

open ReadCommitted Relational Stateful

namespace Marts

/-- An answer of `zone_analytics`: of zones that tie for a place PostgreSQL may put any first. -/
def ZoneAnswers (marts : Marts) (aggregates : Aggregates) (query : AnalyticsQuery) (limit : Nat)
    (answer : Except ApiError (List ZoneAnalyticsResponse)) : Prop :=
  ∃ groups : List (ZoneGroupKey × List ((FactTrip × DimDate) × DimZone)),
    groups.Perm (marts.zoneGroups query) ∧ groups.Pairwise zoneOrder ∧
      answer = do
        validateDates query.startDate query.endDate
        (groups.take limit).mapM (zoneResponse aggregates)

/-- The selected facts that are picked up at a zone key. -/
def departures (marts : Marts) (query : AnalyticsQuery) (zoneKey : Int) : Nat :=
  (marts.datedFacts.filter fun row => whereHolds query row.1 row.2).countP fun row => row.1.pickupZoneKey = zoneKey

/-- The zone keys that certainly come before another in the ranking. -/
def outranks (departures : Int → Nat) (zoneKey other : Int) : Bool :=
  departures other < departures zoneKey || (departures zoneKey = departures other && zoneKey < other)

/-- The zones that can be listed all have a borough and a name. -/
def ZonesNamed (marts : Marts) (query : AnalyticsQuery) (limit : Nat) : Prop :=
  ∀ zone ∈ marts.zones, zone.borough = none ∨ zone.zoneName = none → 0 < marts.departures query zone.zoneKey →
    limit ≤ (marts.zones.map (·.zoneKey)).countP (outranks (marts.departures query) · zone.zoneKey)

section Answers

variable {marts : Marts} {aggregates : Aggregates} {query : AnalyticsQuery} {limit : Nat}

/-- The answer with ties in the order of the groups is one of them. -/
theorem zoneAnalytics_answers :
    marts.ZoneAnswers aggregates query limit (marts.zoneAnalytics aggregates query limit) :=
  ⟨_, List.perm_insertionSort zoneOrder _, List.pairwise_insertionSort zoneOrder _, rfl⟩

theorem zoneResponse_iff {group : ZoneGroupKey × List ((FactTrip × DimDate) × DimZone)} :
    (∃ row, zoneResponse aggregates group = .ok row) ↔ group.1.borough ≠ none ∧ group.1.zoneName ≠ none := by
  constructor
  · rintro ⟨row, returned⟩
    have columns := zoneResponse_ok returned
    simp only [Prod.mk.injEq] at columns
    rw [← columns.2.1, ← columns.2.2.1]
    exact ⟨Option.some_ne_none _, Option.some_ne_none _⟩
  · rintro ⟨hasBorough, hasName⟩
    exact zoneResponse_exists hasBorough hasName

/-- Whatever the order of ties, the rows pass the response model exactly when no group that can come among
    the first lacks a name. -/
theorem zoneAnswers_ok_iff (ordered : query.Ordered) :
    (∀ answer, marts.ZoneAnswers aggregates query limit answer → ∃ rows, answer = .ok rows) ↔
      ∀ group ∈ marts.zoneGroups query, group.1.borough = none ∨ group.1.zoneName = none →
        limit ≤ (marts.zoneGroups query).countP fun other => ¬ zoneOrder group other := by
  constructor
  · intro returns group member missing
    by_contra few
    obtain ⟨sorted, permuted, inOrder, early⟩ := mem_take_some_order.mpr ⟨member, not_le.mp few⟩
    obtain ⟨rows, returned⟩ := returns _ ⟨sorted, permuted, inOrder, rfl⟩
    rw [ordered.valid] at returned
    obtain ⟨hasBorough, hasName⟩ := zoneResponse_iff.mp (mapM_exists_iff.mp ⟨rows, returned⟩ group early)
    rcases missing with noBorough | noName
    · exact hasBorough noBorough
    · exact hasName noName
  · rintro named _ ⟨sorted, permuted, inOrder, rfl⟩
    rw [ordered.valid]
    refine mapM_exists_iff.mpr fun group early => zoneResponse_iff.mpr ?_
    by_contra unnamed
    have missing : group.1.borough = none ∨ group.1.zoneName = none := by
      by_contra present
      exact unnamed (not_or.mp present)
    obtain ⟨member, few⟩ := mem_take_some_order.mp ⟨sorted, permuted, inOrder, early⟩
    exact absurd (named group member missing) (not_le.mpr few)

theorem groupKey_count {zones : List DimZone} (distinct : (zones.map zoneGroupKey).Nodup) {zone : DimZone}
    (member : zone ∈ zones) (key : Int) :
    (zones.filter fun other => equal (some key) (some other.zoneKey)).countP
        (fun other => zoneGroupKey other = zoneGroupKey zone) = if key = zone.zoneKey then 1 else 0 := by
  have one : (zones.map zoneGroupKey).count (zoneGroupKey zone) = 1 :=
    List.count_eq_one_of_mem distinct (List.mem_map_of_mem member)
  rw [List.count, List.countP_map] at one
  rw [List.countP_filter]
  split
  · rename_i same
    rw [← one]
    apply List.countP_congr
    intro other _
    simp only [equal, same, Function.comp_apply, Bool.and_eq_true, decide_eq_true_eq, beq_iff_eq]
    constructor
    · exact And.left
    · intro sameGroup
      exact ⟨sameGroup, (congrArg ZoneGroupKey.zoneKey sameGroup).symm⟩
  · rename_i apart
    rw [List.countP_eq_zero]
    intro other _ both
    simp only [equal, Bool.and_eq_true, decide_eq_true_eq, beq_iff_eq] at both
    exact apart (both.2.trans (congrArg ZoneGroupKey.zoneKey both.1))

theorem zonedRows_count (distinct : (marts.zones.map zoneGroupKey).Nodup) {zone : DimZone}
    (member : zone ∈ marts.zones) :
    (marts.zonedRows query).countP (fun row => zoneGroupKey row.2 = zoneGroupKey zone) =
      marts.departures query zone.zoneKey := by
  unfold Marts.zonedRows departures innerJoin
  generalize marts.datedFacts = dated
  induction dated with
  | nil => rfl
  | cons head rest ih =>
    rw [List.flatMap_cons, List.filter_append, List.countP_append, ih, List.filter_map, List.countP_map]
    have counted := groupKey_count distinct member head.1.pickupZoneKey
    by_cases selected : whereHolds query head.1 head.2 = true
    · have kept : ((marts.zones.filter fun zone => equal (some head.1.pickupZoneKey) (some zone.zoneKey)).filter
          ((fun row : (FactTrip × DimDate) × DimZone => whereHolds query row.1.1 row.1.2) ∘ (head, ·))) =
          marts.zones.filter fun zone => equal (some head.1.pickupZoneKey) (some zone.zoneKey) :=
        List.filter_eq_self.mpr fun _ _ => selected
      rw [kept, List.filter_cons, if_pos selected, List.countP_cons, Nat.add_comm]
      refine congrArg (_ + ·) (counted.trans ?_)
      simp only [decide_eq_true_eq]
    · have dropped : ((marts.zones.filter fun zone => equal (some head.1.pickupZoneKey) (some zone.zoneKey)).filter
          ((fun row : (FactTrip × DimDate) × DimZone => whereHolds query row.1.1 row.1.2) ∘ (head, ·))) = [] :=
        List.filter_eq_nil_iff.mpr fun _ _ => selected
      rw [dropped, List.filter_cons, if_neg selected]
      exact Nat.zero_add _

/-- Each zone with selected pickups makes one group, of as many rows. -/
theorem zoneGroups_perm (distinct : (marts.zones.map zoneGroupKey).Nodup) :
    ((marts.zoneGroups query).map fun group => (group.1, group.2.length)).Perm
      ((marts.zones.filter fun zone => 0 < marts.departures query zone.zoneKey).map fun zone =>
        (zoneGroupKey zone, marts.departures query zone.zoneKey)) := by
  have sized : ∀ zone ∈ marts.zones, ((marts.zonedRows query).filter fun row =>
      zoneGroupKey row.2 = zoneGroupKey zone).length = marts.departures query zone.zoneKey := by
    intro zone member
    rw [← zonedRows_count distinct member, List.countP_eq_length_filter]
  have keys : (((marts.zonedRows query).map fun row => zoneGroupKey row.2).dedup).Perm
      ((marts.zones.filter fun zone => 0 < marts.departures query zone.zoneKey).map zoneGroupKey) := by
    rw [List.perm_ext_iff_of_nodup (List.nodup_dedup _) ((List.filter_sublist.map _).nodup distinct)]
    intro key
    rw [List.mem_dedup, List.mem_map, List.mem_map]
    constructor
    · rintro ⟨⟨⟨fact, date⟩, zone⟩, inRows, rfl⟩
      have inZones := (mem_zonedRows inRows).1
      have own : ((fact, date), zone) ∈ (marts.zonedRows query).filter fun row =>
          zoneGroupKey row.2 = zoneGroupKey zone := List.mem_filter.mpr ⟨inRows, decide_eq_true rfl⟩
      refine ⟨zone, List.mem_filter.mpr ⟨inZones, decide_eq_true ?_⟩, rfl⟩
      rw [← sized zone inZones]
      exact List.length_pos_of_mem own
    · rintro ⟨zone, member, rfl⟩
      obtain ⟨inZones, picked⟩ := List.mem_filter.mp member
      rw [decide_eq_true_eq, ← sized zone inZones] at picked
      obtain ⟨row, inGroup⟩ := List.exists_mem_of_length_pos picked
      obtain ⟨inRows, sameKey⟩ := List.mem_filter.mp inGroup
      exact ⟨row, inRows, of_decide_eq_true sameKey⟩
  have groups := keys.map fun key =>
    (key, ((marts.zonedRows query).filter fun row => zoneGroupKey row.2 = key).length)
  unfold zoneGroups groupBy
  rw [List.map_map]
  refine groups.trans ?_
  rw [List.map_map]
  refine .of_eq (List.map_congr_left fun zone member => ?_)
  exact congrArg (Prod.mk _) (sized zone (List.mem_filter.mp member).1)

theorem zoneGroups_outranked (distinct : (marts.zones.map zoneGroupKey).Nodup) {zone : DimZone}
    {group : ZoneGroupKey × List ((FactTrip × DimDate) × DimZone)} (ofZone : group.1 = zoneGroupKey zone)
    (sized : group.2.length = marts.departures query zone.zoneKey)
    (picked : 0 < marts.departures query zone.zoneKey) :
    (marts.zoneGroups query).countP (fun other => ¬ zoneOrder group other) =
      (marts.zones.map (·.zoneKey)).countP (outranks (marts.departures query) · zone.zoneKey) := by
  have summarized := (@zoneGroups_perm marts query distinct).countP_eq fun other =>
    decide (group.2.length < other.2) ||
      (decide (other.2 = group.2.length) && decide (other.1.zoneKey < group.1.zoneKey))
  rw [List.countP_map, List.countP_map, List.countP_filter] at summarized
  have groups : (marts.zoneGroups query).countP (fun other => ¬ zoneOrder group other) =
      (marts.zoneGroups query).countP ((fun other : ZoneGroupKey × Nat => decide (group.2.length < other.2) ||
        (decide (other.2 = group.2.length) && decide (other.1.zoneKey < group.1.zoneKey))) ∘
          fun other => (other.1, other.2.length)) := by
    apply List.countP_congr
    intro other _
    rw [decide_eq_true_iff]
    simp only [Function.comp_apply, decide_eq_true_eq, Bool.or_eq_true, Bool.and_eq_true, zoneOrder]
    omega
  rw [groups, summarized, List.countP_map]
  apply List.countP_congr
  intro other _
  have keys : group.1.zoneKey = zone.zoneKey := congrArg ZoneGroupKey.zoneKey ofZone
  simp only [Function.comp_apply, Bool.and_eq_true, Bool.or_eq_true, decide_eq_true_eq, outranks, sized, keys,
    zoneGroupKey]
  constructor
  · exact And.left
  · intro before
    refine ⟨before, ?_⟩
    omega

/-- The endpoint returns a list, in whatever order of ties, exactly when the zones that can be listed have both
    names. -/
theorem zoneAnswers_named_iff (distinct : (marts.zones.map zoneGroupKey).Nodup) (ordered : query.Ordered) :
    (∀ answer, marts.ZoneAnswers aggregates query limit answer → ∃ rows, answer = .ok rows) ↔
      marts.ZonesNamed query limit := by
  have permuted := @zoneGroups_perm marts query distinct
  rw [zoneAnswers_ok_iff ordered]
  constructor
  · intro named zone inZones missing picked
    have inSummary : (zoneGroupKey zone, marts.departures query zone.zoneKey) ∈
        (marts.zoneGroups query).map fun group => (group.1, group.2.length) :=
      permuted.mem_iff.mpr (List.mem_map_of_mem (List.mem_filter.mpr ⟨inZones, decide_eq_true picked⟩))
    obtain ⟨group, member, same⟩ := List.mem_map.mp inSummary
    obtain ⟨ofZone, sized⟩ := Prod.mk.inj same
    rw [← zoneGroups_outranked distinct ofZone sized picked]
    refine named group member ?_
    rw [ofZone]
    exact missing
  · intro named group member missing
    have inSummary : (group.1, group.2.length) ∈ (marts.zones.filter fun zone =>
        0 < marts.departures query zone.zoneKey).map fun zone =>
          (zoneGroupKey zone, marts.departures query zone.zoneKey) :=
      permuted.mem_iff.mp (List.mem_map_of_mem member)
    obtain ⟨zone, kept, same⟩ := List.mem_map.mp inSummary
    obtain ⟨inZones, picked⟩ := List.mem_filter.mp kept
    obtain ⟨ofZone, sized⟩ := Prod.mk.inj same
    rw [zoneGroups_outranked distinct ofZone.symm sized.symm (of_decide_eq_true picked)]
    refine named zone inZones ?_ (of_decide_eq_true picked)
    rw [← ofZone] at missing
    exact missing

end Answers

end Marts

/-- A record of a zone file as a row of `dim_zone`. -/
def TaxiZone.member (zone : TaxiZone) : DimZone :=
  ⟨zone.locationId, some zone.locationId, zone.borough, zone.zone, zone.serviceZone⟩

/-- A record that ends before its borough or before its zone has a location that is not picked up at, or ranks
    behind the listed zones. -/
def CsvFile.NamesReached (file : CsvFile) (departures : Int → Nat) (limit : Nat) : Prop :=
  ∀ record ∈ file.records,
    CsvFile.cell file.header record "Borough" = none ∨ CsvFile.cell file.header record "Zone" = none →
      ∀ location, spelledInteger (CsvFile.cell file.header record "LocationID") = some location →
        0 < departures location →
          limit ≤ (0 :: (file.column "LocationID").filterMap spelledInteger).countP
            (Marts.outranks departures · location)

section Zones

variable {db : Database} {zones : Nat} {file : CsvFile} {rows : List TaxiZone}

theorem dimZone_eq (nodup : db.index.Nodup) (one : loadedZoneSources db = [zones]) :
    dimZone db = unknownZone :: ((db.rowsOf .taxiZones zones).map (·.values)).map TaxiZone.member := by
  have staged : stgTlcTaxiZones db = (db.rowsOf .taxiZones zones).map stgZone := by
    have distinct : (loadedZoneSources db).Nodup := selected_nodup nodup _
    unfold stgTlcTaxiZones Database.rowsOf
    rw [ofSources_eq distinct, one]
    congr 1
    apply List.filter_congr
    intro row _
    rw [Bool.eq_iff_iff]
    simp
  rw [dimZone, staged, List.map_map, List.map_map]
  rfl

theorem zoneGroupKeys_nodup (nodup : db.index.Nodup) (one : loadedZoneSources db = [zones]) :
    ((dimZone db).map Marts.zoneGroupKey).Nodup := by
  have locations := stagedLocations_nodup nodup (by rw [one]; exact le_refl 1)
  have keys : (dimZone db).map (·.locationId) = none :: ((stgTlcTaxiZones db).map (·.locationId)).map some := by
    simp [dimZone, unknownZone, knownZone, Function.comp_def]
  have distinct : ((dimZone db).map (·.locationId)).Nodup := by
    rw [keys, List.nodup_cons]
    refine ⟨fun member => ?_, locations.map (Option.some_injective _)⟩
    obtain ⟨location, -, impossible⟩ := List.mem_map.mp member
    cases impossible
  apply List.Nodup.of_map Marts.ZoneGroupKey.locationId
  rw [List.map_map]
  exact distinct

/-- The zones that can be listed have both names exactly when the records of the file do. -/
theorem zonesNamed_iff_records {marts : Marts} {query : AnalyticsQuery} {limit : Nat}
    (names : ∀ name ∈ taxiZoneRequiredFields, name ∈ file.header)
    (parsed : List.Forall₂ (fun record row => CsvFile.zoneRow file.header record = .ok row) file.records rows)
    (holds : marts.zones = unknownZone :: rows.map TaxiZone.member) :
    marts.ZonesNamed query limit ↔ file.NamesReached (marts.departures query) limit := by
  have locations : (file.column "LocationID").filterMap spelledInteger = rows.map (·.locationId) := by
    have same := congrArg (List.filterMap id) (rows_locations names parsed)
    rw [List.filterMap_map, List.filterMap_map] at same
    refine same.symm.trans ?_
    exact congrFun List.filterMap_eq_map _
  have keys : marts.zones.map (·.zoneKey) = 0 :: (file.column "LocationID").filterMap spelledInteger := by
    rw [holds, locations, List.map_cons, List.map_map]
    rfl
  unfold Marts.ZonesNamed CsvFile.NamesReached
  rw [keys, holds]
  constructor
  · intro named record inRecords missing location spelled picked
    obtain ⟨row, inRows, given⟩ := forall₂_item_mem parsed inRecords
    obtain ⟨spelled', same⟩ := (zoneRow_ok names).mp given
    obtain rfl := Option.some.inj (spelled.symm.trans spelled')
    refine named row.member (List.mem_cons_of_mem _ (List.mem_map_of_mem inRows)) ?_ picked
    rw [same]
    exact missing
  · intro named zone member missing picked
    rcases List.mem_cons.mp member with rfl | known
    · rcases missing with impossible | impossible <;> cases impossible
    · obtain ⟨row, inRows, rfl⟩ := List.mem_map.mp known
      obtain ⟨record, inRecords, given⟩ := forall₂_mem parsed inRows
      obtain ⟨spelled, same⟩ := (zoneRow_ok names).mp given
      refine named record inRecords ?_ row.locationId spelled picked
      rw [same] at missing
      exact missing

end Zones

theorem inspected_zone_names {readers : Readers} {content : Bytes} {metadata : SourceFileMetadata} {pandas : Pandas}
    {file : CsvFile} (reads : readers.readCsv content = .ok (pandas.readCsv file))
    (inspected : inspectSource readers taxiZoneSource content = .ok metadata) :
    ∀ name ∈ taxiZoneRequiredFields, name ∈ file.header := by
  obtain ⟨-, found, structured, -⟩ := inspectSource_ok inspected
  have csv : inspectCsv readers content = .ok found := structured
  simp only [inspectCsv, reads, Bind.bind, Except.bind] at csv
  cases accepted : validateTaxiZones (pandas.readCsv file) with
  | error error =>
    rw [accepted] at csv
    cases csv
  | ok rowCount => exact (validateTaxiZones_file accepted).1

section Runs

variable {Client : Type} [Fintype Client] [DecidableEq Client] {requests : Client → Request}
  {files : Client → LandingFile} {s : Platform Client}

/-- Over every warehouse that is built on a loaded zone file, the ranking of zones is returned exactly when the
    records that end before a name are not reached. -/
theorem zone_analytics_returns_iff (readers : Readers) {source : Client → SourcePartition} {content : Client → Bytes}
    (resolved : ∀ i, Resolved (source i))
    (inspected : ∀ i, inspectSource readers (source i) (content i) = .ok (requests i).metadata)
    (collisionFree : ∀ i j, readers.sha256 (content i) = readers.sha256 (content j) → content i = content j)
    (delivered : ∀ i j, content i = content j → ∀ table, (files i table).flatten = (files j table).flatten)
    {schedule : List (Client × Event)}
    (opens : ∀ i now file, (i, Event.openFile now file) ∈ schedule → file = files i)
    (ran : (ingestion requests).run startState schedule = some s) {i : Client} {file : CsvFile} {pandas : Pandas}
    (ofZones : source i = taxiZoneSource) (reads : readers.readCsv (content i) = .ok (pandas.readCsv file))
    (landed : file.landing = .ok (files i)) {sourceFileId : Nat} {row : SourceFile}
    (one : loadedZoneSources s.committed = [sourceFileId])
    (got : s.committed.getSourceFile sourceFileId = some row)
    (version : row.checksumSha256 = (requests i).metadata.checksumSha256)
    (facts : List FactTrip) (dates : List DimDate) (aggregates : Aggregates) {query : AnalyticsQuery}
    (ordered : query.Ordered) (limit : Nat) :
    (∀ answer, (Marts.mk facts dates (dimZone s.committed)).ZoneAnswers aggregates query limit answer →
      ∃ rows, answer = .ok rows) ↔
        file.NamesReached ((Marts.mk facts dates (dimZone s.committed)).departures query) limit := by
  have catalog := inspected_catalog resolved inspected collisionFree
  have nodup := (ingested_run catalog (fun i => ⟨i, rfl⟩) ran).coherent.distinct.committed
  have loadedZone : sourceFileId ∈ loadedZoneSources s.committed := by
    rw [one]
    exact List.mem_singleton_self _
  obtain ⟨row', got', partition, dataset, loaded⟩ := (mem_loadedZoneSources nodup).mp loadedZone
  obtain rfl := Option.some.inj (got.symm.trans got')
  obtain ⟨-, found, -, isMetadata⟩ := inspectSource_ok (inspected i)
  rw [ofZones] at isMetadata
  have samePartition : row.partitionKey = (requests i).metadata.partitionKey := by
    rw [partition, isMetadata]
    rfl
  have table : rawTableOf (requests i).metadata.datasetName = .ok .taxiZones := by
    rw [isMetadata]
    rfl
  have values := loaded_rows_follow_file readers resolved inspected collisionFree
    (fun i j same _ => delivered i j same) opens ran (getSourceFile_some got).1 samePartition version loaded table
  obtain ⟨zoneRows, parsed, isLanding⟩ : ∃ zoneRows,
      file.records.mapM (CsvFile.zoneRow file.header) = .ok zoneRows ∧ CsvFile.zonesLanding zoneRows = files i := by
    unfold CsvFile.landing at landed
    cases parsed : file.records.mapM (CsvFile.zoneRow file.header) with
    | error error =>
      rw [parsed] at landed
      cases landed
    | ok zoneRows =>
      rw [parsed] at landed
      exact ⟨zoneRows, rfl, Except.ok.inj landed⟩
  have holds : dimZone s.committed = unknownZone :: zoneRows.map TaxiZone.member := by
    rw [dimZone_eq nodup one, ← (getSourceFile_some got).2, values, ← isLanding]
    show unknownZone :: (zoneRows ++ []).map TaxiZone.member = _
    rw [List.append_nil]
  have inspectedZones := inspected i
  rw [ofZones] at inspectedZones
  rw [Marts.zoneAnswers_named_iff (zoneGroupKeys_nodup nodup one) ordered]
  exact zonesNamed_iff_records (inspected_zone_names reads inspectedZones) (mapM_ok.mp parsed) holds

end Runs

/-- A lookup file whose only record ends after its LocationID. -/
def shortZone : CsvFile where
  header := taxiZoneRequiredFields
  records := [["1"]]
  distinct := taxiZoneRequiredFields_nodup
  bounded := by decide
  nulFree := by decide
  sized := by decide

def shortZoneReaders : Readers where
  sha256 := tripReaders.sha256
  parquetFile := tripReaders.parquetFile
  readCsv := fun _ => .ok (plainPandas.readCsv shortZone)
  schemaFingerprint := tripReaders.schemaFingerprint

def shortZoneAndTrips : Fin 2 → Request
  | 0 => .ingest newarkMetadata 1
  | 1 => .ingest yellowMetadata 1

def shortZoneFiles : Fin 2 → LandingFile
  | 0 => CsvFile.zonesLanding [⟨1, none, none, none⟩]
  | 1 => yellowFile

def shortZoneLoads : List (Fin 2 × Event) :=
  turns clientOne 8 ++ (clientOne, .openFile 0 (shortZoneFiles clientOne)) :: turns clientOne 9 ++
    turns clientTwo 8 ++ (clientTwo, .openFile 0 (shortZoneFiles clientTwo)) :: turns clientTwo 9

/-- The marts after a full refresh. -/
def Seeds.marts (seeds : Seeds) (db : Database) : Marts := ⟨seeds.fullRefresh db, dimDate db, dimZone db⟩

theorem shortZone_inspected : ∀ i, inspectSource shortZoneReaders (zonesAndTripsSource i)
    (zonesAndTripsContent i) = .ok (shortZoneAndTrips i).metadata
  | 0 => rfl
  | 1 => rfl

set_option maxRecDepth 10000 in
/-- No green trip is picked up in the zone without a name, so the green ranking is returned. -/
theorem shortZone_green_returned : ∃ s, (ingestion shortZoneAndTrips).run startState shortZoneLoads = some s ∧
    ∀ answer, (Marts.mk (tlcSeeds.fullRefresh s.committed) (dimDate s.committed) (dimZone s.committed)).ZoneAnswers
      ⟨fun _ => none, fun _ => none⟩ ⟨some .green, none, none⟩ 10 answer → ∃ rows, answer = .ok rows := by
  have loads : ((ingestion shortZoneAndTrips).run startState shortZoneLoads).map (fun s =>
      (loadedZoneSources s.committed, (s.committed.getSourceFile 1).map (·.checksumSha256),
        (tlcSeeds.marts s.committed).departures ⟨some .green, none, none⟩ 1)) =
        some ([1], some newarkMetadata.checksumSha256, 0) := by decide +kernel
  obtain ⟨s, ran, same⟩ := Option.map_eq_some_iff.mp loads
  obtain ⟨one, rest⟩ := Prod.mk.inj same
  obtain ⟨checksum, quiet⟩ := Prod.mk.inj rest
  obtain ⟨row, got, version⟩ := Option.map_eq_some_iff.mp checksum
  have opens : ∀ i now file, (i, Event.openFile now file) ∈ shortZoneLoads → file = shortZoneFiles i := by
    intro i now file member
    simp only [shortZoneLoads, turns, List.mem_append, List.mem_cons, List.mem_replicate, Prod.mk.injEq, reduceCtorEq,
      and_false, false_or, or_false, Event.openFile.injEq] at member
    rcases member with ⟨rfl, -, rfl⟩ | ⟨rfl, -, rfl⟩ <;> rfl
  have delivered : ∀ i j, zonesAndTripsContent i = zonesAndTripsContent j → ∀ table,
      (shortZoneFiles i table).flatten = (shortZoneFiles j table).flatten := by
    have apart : ∀ i j, zonesAndTripsContent i = zonesAndTripsContent j → i = j := by decide
    intro i j same table
    rw [apart i j same]
  have ordered : (AnalyticsQuery.mk (some .green) none none).Ordered := by
    intro start last hasStart _
    cases hasStart
  have returned := @zone_analytics_returns_iff (Fin 2) _ _ _ _ s shortZoneReaders _ _ zonesAndTrips_resolved
    shortZone_inspected zonesAndTrips_collisionFree delivered _ opens ran 0 shortZone plainPandas rfl rfl rfl 1 row one
    got version (tlcSeeds.fullRefresh s.committed) (dimDate s.committed) ⟨fun _ => none, fun _ => none⟩ _ ordered 10
  refine ⟨s, ran, returned.mpr ?_⟩
  intro record member _ location spelled picked
  obtain rfl := List.mem_singleton.mp member
  obtain rfl : (1 : Int) = location := Option.some.inj ((by decide : _ = some (1 : Int)).symm.trans spelled)
  exact absurd picked (Nat.not_lt.mpr quiet.le)

set_option maxRecDepth 10000 in
/-- The yellow trip is picked up in the zone without a name, and the response model refuses its row. -/
theorem shortZone_not_returned :
    validateTaxiZones (plainPandas.readCsv shortZone) = .ok 1 ∧ shortZone.landing = .ok (shortZoneFiles 0) ∧
      ∃ s, (ingestion shortZoneAndTrips).run startState shortZoneLoads = some s ∧
        loadedZoneSources s.committed = [1] ∧
        (tlcSeeds.marts s.committed).zoneAnalytics ⟨fun _ => none, fun _ => none⟩ ⟨none, none, none⟩ 10 =
          .error (.responseValidation ["borough", "zone_name"]) := by
  have loads : ((ingestion shortZoneAndTrips).run startState shortZoneLoads).map (fun s =>
      (loadedZoneSources s.committed,
        (tlcSeeds.marts s.committed).zoneAnalytics ⟨fun _ => none, fun _ => none⟩ ⟨none, none, none⟩ 10)) =
        some ([1], .error (.responseValidation ["borough", "zone_name"])) := by decide +kernel
  obtain ⟨s, ran, same⟩ := Option.map_eq_some_iff.mp loads
  obtain ⟨one, refused⟩ := Prod.mk.inj same
  exact ⟨by decide, rfl, s, ran, one, refused⟩

end TaxiPipeline
