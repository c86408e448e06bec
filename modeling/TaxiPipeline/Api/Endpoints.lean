import TaxiPipeline.Api.Agreement
import TaxiPipeline.Stateful.Loops

namespace TaxiPipeline

open Relational

/-- The parameters pass `_validate_dates`. -/
def AnalyticsQuery.Ordered (query : AnalyticsQuery) : Prop :=
  ∀ start last, query.startDate = some start → query.endDate = some last → start.toOrdinal ≤ last.toOrdinal

theorem AnalyticsQuery.Ordered.valid {query : AnalyticsQuery} (ordered : query.Ordered) :
    validateDates query.startDate query.endDate = .ok () := by
  unfold validateDates
  split
  · rename_i start last hasStart hasEnd
    have before : start.before last = true := decide_eq_true (ordered start last hasStart hasEnd)
    rw [before]
    rfl
  · rfl

/-- What the facts of unknown date have to satisfy. -/
def AnalyticsQuery.serves (query : AnalyticsQuery) (fact : FactTrip) : Bool :=
  query.serviceType.all (fact.serviceType == ·.value)

/-- One bound of a query replaced. -/
def AnalyticsQuery.until (query : AnalyticsQuery) (last : Date) : AnalyticsQuery :=
  { query with endDate := some last }

def AnalyticsQuery.since (query : AnalyticsQuery) (start : Date) : AnalyticsQuery :=
  { query with startDate := some start }

namespace Marts

/-- The facts that match and whose pickups are in the zone. -/
def pickups (marts : Marts) (query : AnalyticsQuery) (zone : DimZone) : Nat :=
  (marts.matching query).countP fun fact => fact.pickupZoneKey = zone.zoneKey

def ranksBefore (marts : Marts) (query : AnalyticsQuery) (left right : DimZone) : Prop :=
  marts.pickups query right < marts.pickups query left ∨
    (marts.pickups query left = marts.pickups query right ∧ left.zoneKey < right.zoneKey)

instance (marts : Marts) (query : AnalyticsQuery) : DecidableRel (marts.ranksBefore query) :=
  fun _ _ => inferInstanceAs (Decidable (_ ∨ _))

/-- The group of a zone. -/
def zoneGroup (marts : Marts) (query : AnalyticsQuery) (zone : DimZone) : ZoneGroupKey × List FactTrip :=
  (zoneGroupKey zone, (marts.matching query).filter fun fact => fact.pickupZoneKey = zone.zoneKey)

theorem zoneGroup_length {marts : Marts} {query : AnalyticsQuery} {zone : DimZone} :
    (marts.zoneGroup query zone).2.length = marts.pickups query zone := List.countP_eq_length_filter.symm

theorem zoneBefore_asymm (left right : ZoneGroupKey × List FactTrip) (before : zoneBefore left right) :
    ¬ zoneBefore right left := by
  unfold zoneBefore at *
  omega

/-- Every zone among the first `limit` of the matching pickups has a borough and a name. -/
def NamesListed (marts : Marts) (query : AnalyticsQuery) (limit : Nat) : Prop :=
  ∀ zone ∈ marts.zones, 0 < marts.pickups query zone → zone.borough = none ∨ zone.zoneName = none →
    limit ≤ marts.zones.countP (marts.ranksBefore query · zone)

/-- What the summary counts is what the other two endpoints split and what date bounds select. -/
structure AnalyticsAgree (marts : Marts) (aggregates : Aggregates) (query : AnalyticsQuery) (limit : Nat) :
    Prop where
  summary : ∃ response, marts.analyticsSummary aggregates query = .ok response ∧
    response.tripCount = (marts.matching query).length
  monthly : ∃ groups rows, MonthlyGrouping marts query groups ∧
    marts.monthlyAnalytics aggregates query = .ok rows ∧
    (rows.map fun row => ((row.month, row.serviceType), row.tripCount)) =
      groups.map (fun group => (group.1, group.2.length)) ∧
    (rows.map (·.tripCount)).sum = (marts.matching query).length
  zones : ∃ groups rows, ZoneRanking marts query groups ∧
    (groups.map (·.2.length)).sum = (marts.matching query).length ∧
    marts.zoneAnalytics aggregates query limit = .ok rows ∧
    (rows.map fun row => (row.locationId, some row.borough, some row.zoneName, row.tripCount)) =
      (groups.take limit).map fun group =>
        (group.1.locationId, group.1.borough, group.1.zoneName, group.2.length)
  unknownDates : ∃ response, marts.analyticsSummary aggregates query = .ok response ∧
    response.tripCount = ((marts.matching query).filter fun fact => fact.pickupDate.isSome).length +
      if query.startDate = none ∧ query.endDate = none then
        (marts.facts.filter fun fact => fact.pickupDate.isNone && query.serves fact).length
      else 0
  split : ∀ start last middle next, query.startDate = some start → query.endDate = some last →
    start.toOrdinal ≤ middle.toOrdinal → middle.toOrdinal < last.toOrdinal →
    next.toOrdinal = middle.toOrdinal + 1 →
    ∃ whole left right, marts.analyticsSummary aggregates query = .ok whole ∧
      marts.analyticsSummary aggregates (query.until middle) = .ok left ∧
      marts.analyticsSummary aggregates (query.since next) = .ok right ∧
      left.tripCount + right.tripCount = whole.tripCount

section Endpoints

variable {marts : Marts} {aggregates : Aggregates} {query : AnalyticsQuery} {limit : Nat}

theorem Keyed.summary (keyed : marts.Keyed) (aggregates : Aggregates) (ordered : query.Ordered) :
    ∃ response, marts.analyticsSummary aggregates query = .ok response ∧
      response.tripCount = (marts.matching query).length := by
  unfold analyticsSummary
  rw [ordered.valid]
  refine ⟨_, rfl, ?_⟩
  rw [← keyed.rows, List.length_map]

theorem Keyed.monthly (keyed : marts.Keyed) (ordered : query.Ordered) :
    ∃ groups rows, MonthlyGrouping marts query groups ∧
      marts.monthlyAnalytics aggregates query = .ok rows ∧
      (rows.map fun row => ((row.month, row.serviceType), row.tripCount)) =
        groups.map (fun group => (group.1, group.2.length)) ∧
      (rows.map (·.tripCount)).sum = (marts.matching query).length := by
  have permuted := List.perm_insertionSort (fun left right => monthOrder left.1 right.1 = true)
    (marts.monthlyGroups query)
  have grouping := (@Keyed.monthlyGrouping marts query keyed).perm
    (permuted.map fun group => (group.1, group.2.map Prod.fst)).symm
  unfold monthlyAnalytics
  rw [ordered.valid]
  refine ⟨_, _, grouping, rfl, ?_, ?_⟩
  · rw [List.map_map, List.map_map]
    apply List.map_congr_left
    intro group _
    simp
  · have covered := grouping.covers.length_eq
    rw [List.length_flatMap, List.map_map] at covered
    rw [List.map_map, ← covered]
    congr 1
    apply List.map_congr_left
    intro group _
    simp

theorem unknownDates_matching : ((marts.matching query).filter fun fact => !fact.pickupDate.isSome) =
    if query.startDate = none ∧ query.endDate = none then
      marts.facts.filter fun fact => fact.pickupDate.isNone && query.serves fact
    else [] := by
  unfold matching
  rw [List.filter_filter]
  split
  · rename_i unbounded
    apply List.filter_congr
    intro fact _
    unfold AnalyticsQuery.matches AnalyticsQuery.serves
    rw [unbounded.1, unbounded.2]
    simp
  · rename_i bounded
    rw [List.filter_eq_nil_iff]
    intro fact _ holds
    rw [Bool.and_eq_true] at holds
    have undated : fact.pickupDate = none := by simpa using holds.1
    have held := holds.2
    unfold AnalyticsQuery.matches at held
    rw [undated] at held
    apply bounded
    cases start : query.startDate <;> cases last : query.endDate <;> simp [start, last] at held ⊢

theorem Keyed.unknownDates (keyed : marts.Keyed) (ordered : query.Ordered) :
    ∃ response, marts.analyticsSummary aggregates query = .ok response ∧
      response.tripCount = ((marts.matching query).filter fun fact => fact.pickupDate.isSome).length +
        if query.startDate = none ∧ query.endDate = none then
          (marts.facts.filter fun fact => fact.pickupDate.isNone && query.serves fact).length
        else 0 := by
  obtain ⟨response, returned, counted⟩ := keyed.summary aggregates ordered
  refine ⟨response, returned, ?_⟩
  rw [counted, (marts.matching query).length_eq_length_filter_add fun fact => fact.pickupDate.isSome,
    unknownDates_matching]
  split <;> rfl

/-- The facts up to a day of the range and those after it are all facts of the range. -/
theorem matching_split {start last middle next : Date} (hasStart : query.startDate = some start)
    (hasEnd : query.endDate = some last) (fromStart : start.toOrdinal ≤ middle.toOrdinal)
    (beforeEnd : middle.toOrdinal < last.toOrdinal) (follows : next.toOrdinal = middle.toOrdinal + 1) :
    (marts.matching query).length =
      (marts.matching (query.until middle)).length + (marts.matching (query.since next)).length := by
  have early : (marts.matching query).filter (fun fact => fact.pickupDate.any (·.before middle)) =
      marts.matching (query.until middle) := by
    unfold matching
    rw [List.filter_filter]
    apply List.filter_congr
    intro fact _
    unfold AnalyticsQuery.matches AnalyticsQuery.until
    rw [hasStart, hasEnd]
    cases fact.pickupDate with
    | none => simp
    | some date =>
      by_cases upTo : date.toOrdinal ≤ middle.toOrdinal
      · have upToEnd : date.toOrdinal ≤ last.toOrdinal := by omega
        simp [Date.before, upTo, upToEnd]
      · simp [Date.before, upTo]
  have late : (marts.matching query).filter (fun fact => !fact.pickupDate.any (·.before middle)) =
      marts.matching (query.since next) := by
    unfold matching
    rw [List.filter_filter]
    apply List.filter_congr
    intro fact _
    unfold AnalyticsQuery.matches AnalyticsQuery.since
    rw [hasStart, hasEnd]
    cases fact.pickupDate with
    | none => simp
    | some date =>
      by_cases upTo : date.toOrdinal ≤ middle.toOrdinal
      · have notYet : ¬ middle.toOrdinal + 1 ≤ date.toOrdinal := by omega
        simp [Date.before, follows, upTo, notYet]
      · have after : middle.toOrdinal + 1 ≤ date.toOrdinal := by omega
        have fromFirst : start.toOrdinal ≤ date.toOrdinal := by omega
        simp [Date.before, follows, upTo, after, fromFirst]
  rw [(marts.matching query).length_eq_length_filter_add fun fact => fact.pickupDate.any (·.before middle),
    early, late]

theorem Keyed.split (keyed : marts.Keyed) {start last middle next : Date} (hasStart : query.startDate = some start)
    (hasEnd : query.endDate = some last) (fromStart : start.toOrdinal ≤ middle.toOrdinal)
    (beforeEnd : middle.toOrdinal < last.toOrdinal) (follows : next.toOrdinal = middle.toOrdinal + 1) :
    ∃ whole left right, marts.analyticsSummary aggregates query = .ok whole ∧
      marts.analyticsSummary aggregates (query.until middle) = .ok left ∧
      marts.analyticsSummary aggregates (query.since next) = .ok right ∧
      left.tripCount + right.tripCount = whole.tripCount := by
  have ordered : query.Ordered := by
    intro first final isFirst isFinal
    rw [hasStart] at isFirst
    rw [hasEnd] at isFinal
    cases isFirst
    cases isFinal
    omega
  have leftOrdered : (query.until middle).Ordered := by
    intro first final isFirst isFinal
    rw [show (query.until middle).startDate = some start from hasStart] at isFirst
    cases isFirst
    cases isFinal
    exact fromStart
  have rightOrdered : (query.since next).Ordered := by
    intro first final isFirst isFinal
    rw [show (query.since next).endDate = some last from hasEnd] at isFinal
    cases isFirst
    cases isFinal
    omega
  obtain ⟨whole, wholeReturned, wholeCounted⟩ := keyed.summary aggregates ordered
  obtain ⟨left, leftReturned, leftCounted⟩ := keyed.summary aggregates leftOrdered
  obtain ⟨right, rightReturned, rightCounted⟩ := keyed.summary aggregates rightOrdered
  refine ⟨whole, left, right, wholeReturned, leftReturned, rightReturned, ?_⟩
  rw [wholeCounted, leftCounted, rightCounted, matching_split hasStart hasEnd fromStart beforeEnd follows]

theorem Keyed.ranking_perm (keyed : marts.Keyed) {groups : List (ZoneGroupKey × List FactTrip)}
    (ranking : ZoneRanking marts query groups) :
    groups.Perm ((marts.zones.filter fun zone => decide (0 < marts.pickups query zone)).map
      (marts.zoneGroup query)) := by
  have ofZone : ∀ group ∈ groups, ∃ zone ∈ marts.zones, group = marts.zoneGroup query zone := by
    intro group member
    obtain ⟨zone, inZones, sameKey⟩ := ranking.zones group member
    refine ⟨zone, inZones, Prod.ext sameKey.symm ?_⟩
    rw [(ranking.facts group member).2, ← sameKey]
    rfl
  have distinct : groups.Nodup := by
    apply ranking.ranked.imp
    rintro left right before rfl
    exact zoneBefore_asymm left left before before
  have zonesDistinct : ((marts.zones.filter fun zone => decide (0 < marts.pickups query zone)).map
      (marts.zoneGroup query)).Nodup := by
    apply List.Nodup.of_map (fun group : ZoneGroupKey × List FactTrip => group.1.zoneKey)
    rw [List.map_map]
    exact (List.filter_sublist.map _).nodup keyed.zones
  rw [List.perm_ext_iff_of_nodup distinct zonesDistinct]
  intro group
  rw [List.mem_map]
  constructor
  · intro member
    obtain ⟨zone, inZones, rfl⟩ := ofZone group member
    have someFact := (ranking.facts _ member).1
    refine ⟨zone, List.mem_filter.mpr ⟨inZones, decide_eq_true ?_⟩, rfl⟩
    rw [← zoneGroup_length]
    exact List.length_pos_iff.mpr someFact
  · rintro ⟨zone, member, rfl⟩
    obtain ⟨inZones, picked⟩ := List.mem_filter.mp member
    obtain ⟨fact, matched, ofFact⟩ := List.countP_pos_iff.mp (of_decide_eq_true picked)
    obtain ⟨group, inGroups, inGroup⟩ := List.mem_flatMap.mp (ranking.covers.mem_iff.mpr matched)
    obtain ⟨other, otherZone, rfl⟩ := ofZone group inGroups
    have sameKey : fact.pickupZoneKey = other.zoneKey := of_decide_eq_true (List.mem_filter.mp inGroup).2
    have same : other = zone :=
      keyed.zone_unique otherZone inZones (sameKey.symm.trans (of_decide_eq_true ofFact))
    rwa [← same]

/-- A prefix of the ranking is named exactly when the zones that belong there are. -/
theorem Keyed.namesListed_iff (keyed : marts.Keyed) {groups : List (ZoneGroupKey × List FactTrip)}
    (ranking : ZoneRanking marts query groups) : marts.NamesListed query limit ↔
      ∀ group ∈ groups.take limit, group.1.borough ≠ none ∧ group.1.zoneName ≠ none := by
  have permuted := keyed.ranking_perm ranking
  -- Only zones with pickups rank before a zone with pickups, so all zones may be counted.
  have position : ∀ zone, 0 < marts.pickups query zone →
      groups.countP (zoneBefore · (marts.zoneGroup query zone)) =
        marts.zones.countP (marts.ranksBefore query · zone) := by
    intro zone picked
    rw [permuted.countP_eq, List.countP_map, List.countP_filter]
    apply List.countP_congr
    intro other _
    simp only [Function.comp_apply, Bool.and_eq_true, decide_eq_true_eq]
    unfold zoneBefore ranksBefore
    rw [zoneGroup_length, zoneGroup_length]
    show (_ ∨ _ ∧ other.zoneKey < zone.zoneKey) ∧ _ ↔ _
    constructor
    · exact And.left
    · intro before
      refine ⟨before, ?_⟩
      omega
  constructor
  · intro named group member
    obtain ⟨inGroups, few⟩ := (mem_take_sorted zoneBefore_asymm ranking.ranked).mp member
    obtain ⟨zone, kept, rfl⟩ := List.mem_map.mp (permuted.mem_iff.mp inGroups)
    obtain ⟨inZones, picked⟩ := List.mem_filter.mp kept
    have hasPickups := of_decide_eq_true picked
    rw [position zone hasPickups] at few
    by_contra unnamed
    have missing : zone.borough = none ∨ zone.zoneName = none := by
      by_contra present
      exact unnamed (not_or.mp present)
    have beyond := named zone inZones hasPickups missing
    omega
  · intro listed zone inZones hasPickups missing
    by_contra early
    have inGroups : marts.zoneGroup query zone ∈ groups := permuted.mem_iff.mpr
      (List.mem_map_of_mem (List.mem_filter.mpr ⟨inZones, decide_eq_true hasPickups⟩))
    have few : groups.countP (zoneBefore · (marts.zoneGroup query zone)) < limit := by
      rw [position zone hasPickups]
      omega
    obtain ⟨hasBorough, hasName⟩ := listed _ ((mem_take_sorted zoneBefore_asymm ranking.ranked).mpr ⟨inGroups, few⟩)
    rcases missing with noBorough | noName
    · exact hasBorough noBorough
    · exact hasName noName

theorem zoneResponse_ok {group : ZoneGroupKey × List ((FactTrip × DimDate) × DimZone)}
    {row : ZoneAnalyticsResponse} (returned : zoneResponse aggregates group = .ok row) :
    (row.locationId, some row.borough, some row.zoneName, row.tripCount) =
      (group.1.locationId, group.1.borough, group.1.zoneName, group.2.length) := by
  unfold zoneResponse at returned
  split at returned
  · rename_i borough zoneName hasBorough hasName
    cases returned
    rw [hasBorough, hasName]
  · cases returned

theorem zoneResponse_exists {group : ZoneGroupKey × List ((FactTrip × DimDate) × DimZone)}
    (hasBorough : group.1.borough ≠ none) (hasName : group.1.zoneName ≠ none) :
    ∃ row, zoneResponse aggregates group = .ok row := by
  obtain ⟨borough, isBorough⟩ := Option.ne_none_iff_exists'.mp hasBorough
  obtain ⟨zoneName, isName⟩ := Option.ne_none_iff_exists'.mp hasName
  unfold zoneResponse
  rw [isBorough, isName]
  exact ⟨_, rfl⟩

theorem zoneAnalytics_eq (ordered : query.Ordered) : marts.zoneAnalytics aggregates query limit =
    (((marts.zoneGroups query).insertionSort zoneOrder).take limit).mapM (zoneResponse aggregates) := by
  unfold zoneAnalytics
  rw [ordered.valid]
  rfl

theorem Keyed.ranked (keyed : marts.Keyed) (aggregates : Aggregates) (ordered : query.Ordered)
    (named : marts.NamesListed query limit) :
    ∃ groups rows, ZoneRanking marts query groups ∧
      (groups.map (·.2.length)).sum = (marts.matching query).length ∧
      marts.zoneAnalytics aggregates query limit = .ok rows ∧
      (rows.map fun row => (row.locationId, some row.borough, some row.zoneName, row.tripCount)) =
        (groups.take limit).map fun group =>
          (group.1.locationId, group.1.borough, group.1.zoneName, group.2.length) := by
  have ranking := @Keyed.zoneRanking marts query keyed
  have listed := (keyed.namesListed_iff ranking).mp named
  unfold rankedZones at listed
  rw [← List.map_take] at listed
  have each : ∀ group ∈ ((marts.zoneGroups query).insertionSort zoneOrder).take limit,
      ∃ row, zoneResponse aggregates group = .ok row := by
    intro group member
    obtain ⟨hasBorough, hasName⟩ := listed _ (List.mem_map_of_mem member)
    exact zoneResponse_exists hasBorough hasName
  obtain ⟨rows, returned⟩ := Stateful.mapM_exists each
  refine ⟨_, rows, ranking, ?_, ?_, ?_⟩
  · have covered := ranking.covers.length_eq
    rwa [List.length_flatMap] at covered
  · rw [zoneAnalytics_eq ordered, returned]
  · rw [Stateful.mapM_map (fun _ _ => zoneResponse_ok) returned]
    unfold rankedZones
    rw [← List.map_take, List.map_map]
    apply List.map_congr_left
    intro group _
    simp

/-- The endpoints agree on every warehouse whose listed zones all have a borough and a name. -/
theorem analytics_agree_iff (keyed : marts.Keyed) (ordered : query.Ordered) :
    marts.AnalyticsAgree aggregates query limit ↔ marts.NamesListed query limit := by
  constructor
  · intro agree
    obtain ⟨groups, rows, ranking, -, -, columns⟩ := agree.zones
    rw [keyed.namesListed_iff ranking]
    intro group member
    have listed : (group.1.locationId, group.1.borough, group.1.zoneName, group.2.length) ∈
        rows.map fun row => (row.locationId, some row.borough, some row.zoneName, row.tripCount) := by
      rw [columns]
      exact List.mem_map_of_mem member
    obtain ⟨row, -, same⟩ := List.mem_map.mp listed
    simp only [Prod.mk.injEq] at same
    rw [← same.2.1, ← same.2.2.1]
    exact ⟨Option.some_ne_none _, Option.some_ne_none _⟩
  · intro named
    exact {
      summary := keyed.summary aggregates ordered
      monthly := keyed.monthly ordered
      zones := keyed.ranked aggregates ordered named
      unknownDates := keyed.unknownDates ordered
      split := fun _ _ _ _ hasStart hasEnd fromStart beforeEnd follows =>
        keyed.split hasStart hasEnd fromStart beforeEnd follows }

end Endpoints

/-- One trip of unknown date from zone 1, whose borough the lookup file may lack. -/
def oneTrip (borough : Option String) : Marts where
  facts := [{
    serviceType := "yellow", pickupDateKey := 0, dropoffDateKey := 0, pickupZoneKey := 1, dropoffZoneKey := 1,
    vendorKey := 0, pickupDatetime := none, dropoffDatetime := none, tripDurationSeconds := none,
    passengerCount := none, tripDistanceMiles := none, rateCodeId := none, rateCodeName := "Unknown",
    paymentType := none, paymentTypeName := "Unknown", tripType := none, fareAmount := none, extraAmount := none,
    mtaTaxAmount := none, tipAmount := none, tollsAmount := none, improvementSurchargeAmount := none,
    congestionSurchargeAmount := none, airportFeeAmount := none, cbdCongestionFeeAmount := none,
    totalAmount := none, lineage := ⟨2, 1, 2⟩ }]
  dates := [unknownDate]
  zones := [unknownZone, ⟨1, some 1, borough, some "Newark Airport", some "EWR"⟩]

theorem oneTrip_keyed (borough : Option String) : (oneTrip borough).Keyed where
  dates := List.nodup_singleton _
  zones := by
    show [(0 : Int), 1].Nodup
    decide
  unknown := by
    intro row member _
    cases List.mem_singleton.mp member
    rfl
  known := by
    intro row member notUnknown
    cases List.mem_singleton.mp member
    exact absurd rfl notUnknown
  factDates := by
    intro fact member
    cases List.mem_singleton.mp member
    exact ⟨unknownDate, List.mem_singleton_self _, rfl⟩
  factZones := by
    intro fact member
    cases List.mem_singleton.mp member
    exact ⟨_, List.mem_cons_of_mem _ List.mem_cons_self, rfl⟩

theorem unboundedQuery_ordered : (AnalyticsQuery.mk none none none).Ordered := by
  intro start last hasStart _
  cases hasStart

/-- Zone 1 has a borough, so the only trip is listed. -/
theorem namedTrip_agrees : (oneTrip (some "EWR")).AnalyticsAgree ⟨fun _ => none, fun _ => none⟩
    ⟨none, none, none⟩ 10 := by
  rw [analytics_agree_iff (oneTrip_keyed _) unboundedQuery_ordered]
  unfold NamesListed
  decide

/-- The response model refuses the zone, so the ranking is not returned. -/
theorem unnamedBorough_disagrees : (oneTrip none).Keyed ∧ (AnalyticsQuery.mk none none none).Ordered ∧
    (oneTrip none).zoneAnalytics ⟨fun _ => none, fun _ => none⟩ ⟨none, none, none⟩ 10 =
      .error (.responseValidation ["borough"]) ∧
    ¬ (oneTrip none).AnalyticsAgree ⟨fun _ => none, fun _ => none⟩ ⟨none, none, none⟩ 10 := by
  have refused : (oneTrip none).zoneAnalytics ⟨fun _ => none, fun _ => none⟩ ⟨none, none, none⟩ 10 =
      .error (.responseValidation ["borough"]) := by decide
  refine ⟨oneTrip_keyed none, unboundedQuery_ordered, refused, ?_⟩
  intro agree
  obtain ⟨groups, rows, -, -, returned, -⟩ := agree.zones
  rw [refused] at returned
  cases returned

end Marts

end TaxiPipeline
