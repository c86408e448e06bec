import TaxiPipeline.Api.Analytics

namespace TaxiPipeline

open Relational

/-- The date that a date key spells, if it spells one. -/
def Date.ofKey (key : Nat) : Option Date :=
  if valid : (1 ≤ key / 10000 ∧ key / 10000 ≤ 9999) ∧ (1 ≤ key / 100 % 100 ∧ key / 100 % 100 ≤ 12) ∧
      1 ≤ key % 100 ∧ key % 100 ≤ daysInMonth (key / 10000) (key / 100 % 100) then
    some ⟨key / 10000, key / 100 % 100, key % 100, valid.1, valid.2.1, valid.2.2⟩
  else none

theorem Date.ofKey_key (date : Date) : ofKey date.key = some date := by
  have month := date.month_range
  have day := date.day_le
  have year : date.key / 10000 = date.year := by
    unfold Date.key
    omega
  have month : date.key / 100 % 100 = date.month := by
    unfold Date.key
    omega
  have day : date.key % 100 = date.day := by
    unfold Date.key
    omega
  unfold ofKey
  simp only [year, month, day]
  exact dif_pos ⟨date.year_range, date.month_range, date.day_range⟩

/-- The pickup date of a fact; the unknown date is null. -/
def FactTrip.pickupDate (fact : FactTrip) : Option Date := Date.ofKey fact.pickupDateKey

/-- What the parameters ask of a fact, its date being null or not. -/
def AnalyticsQuery.matches (query : AnalyticsQuery) (fact : FactTrip) : Bool :=
  query.serviceType.all (fact.serviceType == ·.value) &&
    query.startDate.all (fun start => fact.pickupDate.any start.before) &&
    query.endDate.all fun last => fact.pickupDate.any (·.before last)

namespace Marts

def matching (marts : Marts) (query : AnalyticsQuery) : List FactTrip := marts.facts.filter query.matches

/-- The keys of the dimensions are unique and known to the facts, and 0 is the unknown date. -/
structure Keyed (marts : Marts) : Prop where
  dates : (marts.dates.map (·.dateKey)).Nodup
  zones : (marts.zones.map (·.zoneKey)).Nodup
  unknown : ∀ row ∈ marts.dates, row.dateKey = 0 → row.fullDate = none
  known : ∀ row ∈ marts.dates, row.dateKey ≠ 0 → ∃ date, row.fullDate = some date ∧ date.key = row.dateKey
  factDates : ∀ fact ∈ marts.facts, ∃ row ∈ marts.dates, row.dateKey = fact.pickupDateKey
  factZones : ∀ fact ∈ marts.facts, ∃ row ∈ marts.zones, row.zoneKey = fact.pickupZoneKey

section Joins

variable {marts : Marts} {query : AnalyticsQuery} {fact : FactTrip} {date : DimDate} {zone : DimZone}

theorem mem_datedFacts : (fact, date) ∈ marts.datedFacts ↔
    fact ∈ marts.facts ∧ date ∈ marts.dates ∧ fact.pickupDateKey = date.dateKey := by
  unfold datedFacts
  rw [mem_innerJoin]
  simp [equal]

/-- The join with `dim_date` neither drops nor repeats a fact. -/
theorem Keyed.datedFacts (keyed : marts.Keyed) : marts.datedFacts.map Prod.fst = marts.facts := by
  have unique : UniqueKey (fun date : DimDate => some date.dateKey) marts.dates := by
    unfold UniqueKey
    rw [List.filterMap_eq_map']
    exact keyed.dates
  unfold Marts.datedFacts
  rw [unique.innerJoin fun fact : FactTrip => some fact.pickupDateKey]
  apply List.filter_eq_self.mpr
  intro fact member
  obtain ⟨row, inDates, same⟩ := keyed.factDates fact member
  rw [List.find?_isSome]
  exact ⟨row, inDates, by simp [equal, same]⟩

theorem Keyed.fullDate (keyed : marts.Keyed) (joined : (fact, date) ∈ marts.datedFacts) :
    date.fullDate = fact.pickupDate := by
  obtain ⟨-, inDates, same⟩ := mem_datedFacts.mp joined
  unfold FactTrip.pickupDate
  rw [same]
  by_cases unknown : date.dateKey = 0
  · rw [keyed.unknown date inDates unknown, unknown]
    rfl
  · obtain ⟨known, isKnown, spelled⟩ := keyed.known date inDates unknown
    rw [isKnown, ← spelled, Date.ofKey_key]

theorem Keyed.whereHolds (keyed : marts.Keyed) (joined : (fact, date) ∈ marts.datedFacts) :
    whereHolds query fact date = query.matches fact := by
  unfold TaxiPipeline.whereHolds filters AnalyticsQuery.matches
  rw [← keyed.fullDate joined, List.all_append, List.all_append]
  have service : (query.serviceType.toList.map fun service => FilterClause.serviceType service.value).all
      (fun clause => clause.eval fact date == some true) =
        query.serviceType.all (fact.serviceType == ·.value) := by
    cases query.serviceType <;> simp [FilterClause.eval]
  have start : (query.startDate.toList.map FilterClause.startDate).all
      (fun clause => clause.eval fact date == some true) =
        query.startDate.all fun start => date.fullDate.any start.before := by
    cases query.startDate <;> cases known : date.fullDate <;> simp [FilterClause.eval, known]
  have last : (query.endDate.toList.map FilterClause.endDate).all
      (fun clause => clause.eval fact date == some true) =
        query.endDate.all fun last => date.fullDate.any (·.before last) := by
    cases query.endDate <;> cases known : date.fullDate <;> simp [FilterClause.eval, known]
  rw [service, start, last]

/-- The rows that `WHERE` keeps are those of the matching facts. -/
theorem Keyed.rows (keyed : marts.Keyed) :
    (marts.datedFacts.filter fun (fact, date) => TaxiPipeline.whereHolds query fact date).map Prod.fst =
      marts.matching query := by
  have same : marts.datedFacts.filter (fun (fact, date) => TaxiPipeline.whereHolds query fact date) =
      marts.datedFacts.filter (query.matches ∘ Prod.fst) := by
    apply List.filter_congr
    rintro ⟨fact, date⟩ joined
    exact keyed.whereHolds joined
  rw [same, ← List.filter_map, keyed.datedFacts]
  rfl

end Joins

/-- The matching facts of each month and service, every fact in exactly one group. -/
structure MonthlyGrouping (marts : Marts) (query : AnalyticsQuery)
    (groups : List ((Option Date × String) × List FactTrip)) : Prop where
  distinct : (groups.map Prod.fst).Nodup
  covers : (groups.flatMap Prod.snd).Perm (marts.matching query)
  ofMonth : ∀ group ∈ groups, ∀ fact ∈ group.2,
    group.1 = (fact.pickupDate.map Date.monthStart, fact.serviceType)

/-- More facts come first, and of as many the smaller zone key. -/
def zoneBefore (left right : ZoneGroupKey × List FactTrip) : Prop :=
  right.2.length < left.2.length ∨ (left.2.length = right.2.length ∧ left.1.zoneKey < right.1.zoneKey)

instance : DecidableRel zoneBefore := fun _ _ => inferInstanceAs (Decidable (_ ∨ _))

/-- The matching facts of each pickup zone, ranked by their number and then by the zone key. -/
structure ZoneRanking (marts : Marts) (query : AnalyticsQuery) (groups : List (ZoneGroupKey × List FactTrip)) :
    Prop where
  zones : ∀ group ∈ groups, ∃ zone ∈ marts.zones, zoneGroupKey zone = group.1
  facts : ∀ group ∈ groups, group.2 ≠ [] ∧
    group.2 = (marts.matching query).filter fun fact => fact.pickupZoneKey = group.1.zoneKey
  covers : (groups.flatMap Prod.snd).Perm (marts.matching query)
  ranked : groups.Pairwise zoneBefore

section Groups

variable {marts : Marts} {query : AnalyticsQuery} {fact : FactTrip} {date : DimDate} {zone : DimZone}

/-- Keeping of every group only a part of its rows keeps the groups apart. -/
theorem groupBy_facts {α κ : Type} [DecidableEq κ] {key : α → κ} {rows : List α} (fact : α → FactTrip) :
    (((groupBy key rows).map fun group => (group.1, group.2.map fact)).flatMap Prod.snd).Perm
      (rows.map fact) := by
  rw [List.flatMap_map]
  show ((groupBy key rows).flatMap fun group => group.2.map fact).Perm (rows.map fact)
  rw [← List.map_flatMap]
  exact groupBy_perm.map fact

theorem Keyed.monthlyGrouping (keyed : marts.Keyed) :
    MonthlyGrouping marts query ((marts.monthlyGroups query).map fun group => (group.1, group.2.map Prod.fst)) := by
  constructor
  · rw [List.map_map]
    exact groupBy_keys_nodup
  · rw [← keyed.rows]
    exact groupBy_facts Prod.fst
  · intro group member fact inGroup
    obtain ⟨group, inGroups, rfl⟩ := List.mem_map.mp member
    obtain ⟨row, inRows, rfl⟩ := List.mem_map.mp inGroup
    rw [(mem_groupBy.mp inGroups).2] at inRows
    obtain ⟨kept, sameKey⟩ := List.mem_filter.mp inRows
    have joined := (List.mem_filter.mp kept).1
    rw [← of_decide_eq_true sameKey, ← keyed.fullDate joined]

theorem MonthlyGrouping.perm {groups others : List ((Option Date × String) × List FactTrip)}
    (grouping : MonthlyGrouping marts query groups) (permuted : groups.Perm others) :
    MonthlyGrouping marts query others where
  distinct := (permuted.map Prod.fst).nodup_iff.mp grouping.distinct
  covers := (permuted.symm.flatMap_right Prod.snd).trans grouping.covers
  ofMonth := fun group member => grouping.ofMonth group (permuted.mem_iff.mpr member)

/-- The rows of `zone_analytics` before its grouping. -/
def zonedRows (marts : Marts) (query : AnalyticsQuery) : List ((FactTrip × DimDate) × DimZone) :=
  (innerJoin marts.datedFacts marts.zones fun (fact, _) zone =>
    equal (some fact.pickupZoneKey) (some zone.zoneKey)).filter
      fun ((fact, date), _) => TaxiPipeline.whereHolds query fact date

theorem mem_zonedRows (member : ((fact, date), zone) ∈ marts.zonedRows query) :
    zone ∈ marts.zones ∧ fact.pickupZoneKey = zone.zoneKey := by
  obtain ⟨-, inZones, same⟩ := mem_innerJoin.mp (List.mem_filter.mp member).1
  exact ⟨inZones, by simpa [equal] using same⟩

theorem Keyed.zonedRows (keyed : marts.Keyed) :
    (marts.zonedRows query).map (fun row => row.1.1) = marts.matching query := by
  have unique : UniqueKey (fun zone : DimZone => some zone.zoneKey) marts.zones := by
    unfold UniqueKey
    rw [List.filterMap_eq_map']
    exact keyed.zones
  have kept : (innerJoin marts.datedFacts marts.zones fun (fact, _) zone =>
      equal (some fact.pickupZoneKey) (some zone.zoneKey)).map Prod.fst = marts.datedFacts := by
    rw [unique.innerJoin fun row : FactTrip × DimDate => some row.1.pickupZoneKey]
    apply List.filter_eq_self.mpr
    rintro ⟨fact, date⟩ joined
    obtain ⟨row, inZones, same⟩ := keyed.factZones fact (mem_datedFacts.mp joined).1
    rw [List.find?_isSome]
    exact ⟨row, inZones, by simp [equal, same]⟩
  rw [← keyed.rows, ← kept, List.filter_map, List.map_map]
  rfl

theorem Keyed.zone_unique (keyed : marts.Keyed) {other : DimZone} (member : zone ∈ marts.zones)
    (inZones : other ∈ marts.zones) (same : zone.zoneKey = other.zoneKey) : zone = other :=
  List.inj_on_of_nodup_map keyed.zones member inZones same

/-- The groups of `zone_analytics` with the facts of each. -/
def rankedZones (marts : Marts) (query : AnalyticsQuery) : List (ZoneGroupKey × List FactTrip) :=
  ((marts.zoneGroups query).insertionSort zoneOrder).map fun group => (group.1, group.2.map fun row => row.1.1)

instance : Std.Total zoneOrder where
  total left right := by
    unfold zoneOrder
    omega

instance : IsTrans _ zoneOrder where
  trans left middle right := by
    unfold zoneOrder
    omega

theorem Keyed.zoneGroup (keyed : marts.Keyed) {group : ZoneGroupKey × List ((FactTrip × DimDate) × DimZone)}
    (member : group ∈ marts.zoneGroups query) :
    ∃ zone ∈ marts.zones, zoneGroupKey zone = group.1 ∧ group.2.map (fun row => row.1.1) ≠ [] ∧
      group.2.map (fun row => row.1.1) =
        (marts.matching query).filter fun fact => fact.pickupZoneKey = zone.zoneKey := by
  obtain ⟨inKeys, rows⟩ := mem_groupBy.mp member
  obtain ⟨⟨⟨fact, date⟩, zone⟩, inRows, sameKey⟩ := List.mem_map.mp inKeys
  have inZones := (mem_zonedRows inRows).1
  have same_zone : group.2 = (marts.zonedRows query).filter
      fun row => decide (row.1.1.pickupZoneKey = zone.zoneKey) := by
    rw [rows]
    apply List.filter_congr
    rintro ⟨⟨fact, date⟩, other⟩ joined
    obtain ⟨otherZone, ofFact⟩ := mem_zonedRows joined
    rw [decide_eq_decide, ← sameKey, ofFact]
    constructor
    · intro same
      exact congrArg ZoneGroupKey.zoneKey same
    · intro same
      rw [keyed.zone_unique otherZone inZones same]
  refine ⟨zone, inZones, sameKey, ?_, ?_⟩
  · intro empty
    have inGroup : ((fact, date), zone) ∈ group.2 := by
      rw [rows]
      exact List.mem_filter.mpr ⟨inRows, decide_eq_true sameKey⟩
    rw [List.map_eq_nil_iff.mp empty] at inGroup
    cases inGroup
  · rw [same_zone, ← keyed.zonedRows, List.filter_map]
    rfl

theorem Keyed.zoneRanking (keyed : marts.Keyed) : ZoneRanking marts query (marts.rankedZones query) := by
  have permuted := List.perm_insertionSort zoneOrder (marts.zoneGroups query)
  have groups : ∀ group ∈ (marts.zoneGroups query).insertionSort zoneOrder, ∃ zone ∈ marts.zones,
      zoneGroupKey zone = group.1 ∧ group.2.map (fun row => row.1.1) ≠ [] ∧
        group.2.map (fun row => row.1.1) =
          (marts.matching query).filter fun fact => fact.pickupZoneKey = zone.zoneKey :=
    fun group member => keyed.zoneGroup (permuted.mem_iff.mp member)
  constructor
  · intro group member
    obtain ⟨source, inSorted, rfl⟩ := List.mem_map.mp member
    obtain ⟨zone, inZones, sameKey, -⟩ := groups source inSorted
    exact ⟨zone, inZones, sameKey⟩
  · intro group member
    obtain ⟨source, inSorted, rfl⟩ := List.mem_map.mp member
    obtain ⟨zone, -, sameKey, some_fact, facts⟩ := groups source inSorted
    refine ⟨some_fact, ?_⟩
    rw [← sameKey]
    exact facts
  · rw [← keyed.zonedRows]
    exact ((permuted.map _).flatMap_right _).trans
      (groupBy_facts fun row : (FactTrip × DimDate) × DimZone => row.1.1)
  · unfold rankedZones
    rw [List.pairwise_map]
    have distinct : ((marts.zoneGroups query).insertionSort zoneOrder).Pairwise
        fun left right => left.1 ≠ right.1 :=
      List.pairwise_map.mp ((permuted.map Prod.fst).nodup_iff.mpr groupBy_keys_nodup)
    apply ((List.pairwise_insertionSort zoneOrder _).and distinct).imp_of_mem
    intro left right inLeft inRight ⟨ordered, apart⟩
    obtain ⟨leftZone, inZones, leftKey, -⟩ := groups left inLeft
    obtain ⟨rightZone, inZones', rightKey, -⟩ := groups right inRight
    have keys : left.1.zoneKey ≠ right.1.zoneKey := by
      intro same
      apply apart
      rw [← leftKey, ← rightKey] at same ⊢
      rw [keyed.zone_unique inZones inZones' same]
    unfold zoneOrder at ordered
    unfold zoneBefore
    simp only [List.length_map]
    omega

end Groups

end Marts

end TaxiPipeline
