import TaxiPipeline.Model.QualityChecks
import TaxiPipeline.Model.Rows
import TaxiPipeline.Numerics.Binary64
import TaxiPipeline.Relational.Counts
import TaxiPipeline.Sources.Months

namespace TaxiPipeline

open Relational

namespace Double

variable {x y : Double}

theorem isNaN_iff : x.isNaN = true ↔ Binary64.meaning x = .notANumber := by
  rw [Binary64.meaning_notANumber_iff, isNaN, Bool.and_eq_true, beq_iff_eq, bne_iff_ne]
  rfl

theorem isZero_iff : x.isZero = true ↔ Binary64.meaning x = Binary64.zero := by
  rw [Binary64.meaning_zero_iff, isZero, beq_iff_eq]

theorem isNegative_iff : x.isNegative = true ↔ (Binary64.meaning x).lt Binary64.zero := by
  rw [Binary64.meaning_lt_zero_iff, ne_eq, ne_eq, ← Binary64.meaning_zero_iff, ← isZero_iff, ← isNaN_iff]
  simp only [isNegative, Bool.and_eq_true, Bool.not_eq_true', Bool.not_eq_true, and_assoc]
  rfl

theorem meaning_canonical : Binary64.meaning x.canonical = Binary64.meaning x := by
  unfold canonical
  split_ifs with nan zero
  · rw [isNaN_iff.mp nan]
    decide
  · rw [isZero_iff.mp zero]
    decide
  · rfl

theorem canonical_eq_iff : x.canonical = y.canonical ↔ Binary64.meaning x = Binary64.meaning y := by
  constructor
  · intro same
    rw [← @meaning_canonical x, same, meaning_canonical]
  · intro same
    rcases Binary64.meaning_eq_iff.mp same with rfl | ⟨left, right⟩ | ⟨left, right⟩
    · rfl
    · have leftNumber : x.isNaN ≠ true := by
        rw [Ne, isNaN_iff, left]
        decide
      have rightNumber : y.isNaN ≠ true := by
        rw [Ne, isNaN_iff, right]
        decide
      unfold canonical
      rw [if_neg leftNumber, if_neg rightNumber, if_pos (isZero_iff.mpr left), if_pos (isZero_iff.mpr right)]
    · unfold canonical
      rw [if_pos (isNaN_iff.mpr left), if_pos (isNaN_iff.mpr right)]

end Double

open Classical in
/-- The number of the rows that have a property. -/
noncomputable def failing {α : Type} (rows : List α) (property : α → Prop) : Nat :=
  rows.countP fun row => decide (property row)

theorem countP_eq_failing {α : Type} {rows : List α} {condition : α → Bool} {property : α → Prop}
    (same : ∀ row ∈ rows, condition row = true ↔ property row) : rows.countP condition = failing rows property := by
  unfold failing
  refine List.countP_congr fun row member => ?_
  rw [same row member, @decide_eq_true_iff _ (Classical.propDecidable _)]

section Properties

/-- A value that there is, below zero; null and NaN are not. -/
def Negative (column : Option Double) : Prop :=
  ∃ value, column = some value ∧ (Binary64.meaning value).lt Binary64.zero

def Zero (column : Option Double) : Prop := ∃ value, column = some value ∧ Binary64.meaning value = Binary64.zero

def DroppedOffBefore (pickup dropoff : Option DateTime) : Prop :=
  ∃ earlier later, pickup = some earlier ∧ dropoff = some later ∧ later.toMicroseconds < earlier.toMicroseconds

/-- A value that there is, other than the documented ones. -/
def Undocumented {α : Type} (documented : List α) (column : Option α) : Prop :=
  ∃ value, column = some value ∧ value ∉ documented

/-- A location that there is, in none of the zones. -/
def UnknownLocation (zones : List (RawRow .taxiZones)) (column : Option Int) : Prop :=
  ∃ locationId, column = some locationId ∧ ∀ zone ∈ zones, zone.values.locationId ≠ locationId

variable {table : RawTable}

/-- What a row breaks each of the scalar rules by. -/
def scalarDefinitions (model : TripModel table) (year month : Int) : List (String × (table.Values → Prop)) := [
  ("pickup_outside_source_month", fun trip => PickedUpElsewhere year month (model.pickupDatetime trip)),
  ("dropoff_before_pickup", fun trip => DroppedOffBefore (model.pickupDatetime trip) (model.dropoffDatetime trip)),
  ("negative_trip_distance", fun trip => Negative (model.tripDistance trip)),
  ("negative_fare_amount", fun trip => Negative (model.fareAmount trip)),
  ("negative_total_amount", fun trip => Negative (model.totalAmount trip)),
  ("negative_extra", fun trip => Negative (model.extra trip)),
  ("negative_mta_tax", fun trip => Negative (model.mtaTax trip)),
  ("negative_tip_amount", fun trip => Negative (model.tipAmount trip)),
  ("negative_tolls_amount", fun trip => Negative (model.tollsAmount trip)),
  ("negative_improvement_surcharge", fun trip => Negative (model.improvementSurcharge trip)),
  ("negative_congestion_surcharge", fun trip => Negative (model.congestionSurcharge trip)),
  ("negative_cbd_congestion_fee", fun trip => Negative (model.cbdCongestionFee trip)),
  ("zero_trip_distance", fun trip => Zero (model.tripDistance trip)),
  ("zero_passenger_count", fun trip => model.passengerCount trip = some 0),
  ("passenger_count_null_rate", fun trip => model.passengerCount trip = none),
  ("rate_code_null_rate", fun trip => model.rateCodeId trip = none),
  ("store_and_fwd_null_rate", fun trip => model.storeAndFwdFlag trip = none),
  ("congestion_surcharge_null_rate", fun trip => model.congestionSurcharge trip = none)] ++
  (match model.airportFee with
    | some airportFee => [
      ("negative_airport_fee", fun trip => Negative (airportFee trip)),
      ("airport_fee_null_rate", fun trip => airportFee trip = none)]
    | none => []) ++
  (match model.ehailFee with
    | some ehailFee => [
      ("negative_ehail_fee", fun trip => Negative (ehailFee trip)),
      ("ehail_fee_null_rate", fun trip => ehailFee trip = none)]
    | none => [])

def domainDefinitions (checks : List (DomainCheck table)) : List (String × (table.Values → Prop)) :=
  checks.map fun check => (check.checkName, fun trip => Undocumented check.allowed (check.column trip))

def zoneDefinitions (model : TripModel table) (zones : List (RawRow .taxiZones)) :
    List (String × (table.Values → Prop)) := [
  ("unknown_pickup_zone", fun trip => UnknownLocation zones (model.pickupLocationId trip)),
  ("unknown_dropoff_zone", fun trip => UnknownLocation zones (model.dropoffLocationId trip))]

/-- The scalar and domain definitions of an entry of `QUALITY_CONFIG`. -/
def QualityConfig.definitions (config : QualityConfig) (year month : Int) :
    (table : RawTable) × List (String × (table.Values → Prop)) :=
  ⟨config.table, scalarDefinitions config.model year month ++ domainDefinitions config.domainValues⟩

/-- What a Yellow trip breaks each scalar and domain rule by, in the columns of its own table. -/
def yellowDefinitions (year month : Int) : List (String × (YellowTrip → Prop)) := [
  ("pickup_outside_source_month", fun trip => PickedUpElsewhere year month trip.pickupDatetime),
  ("dropoff_before_pickup", fun trip => DroppedOffBefore trip.pickupDatetime trip.dropoffDatetime),
  ("negative_trip_distance", fun trip => Negative trip.tripDistance),
  ("negative_fare_amount", fun trip => Negative trip.fareAmount),
  ("negative_total_amount", fun trip => Negative trip.totalAmount),
  ("negative_extra", fun trip => Negative trip.extra),
  ("negative_mta_tax", fun trip => Negative trip.mtaTax),
  ("negative_tip_amount", fun trip => Negative trip.tipAmount),
  ("negative_tolls_amount", fun trip => Negative trip.tollsAmount),
  ("negative_improvement_surcharge", fun trip => Negative trip.improvementSurcharge),
  ("negative_congestion_surcharge", fun trip => Negative trip.congestionSurcharge),
  ("negative_cbd_congestion_fee", fun trip => Negative trip.cbdCongestionFee),
  ("zero_trip_distance", fun trip => Zero trip.tripDistance),
  ("zero_passenger_count", fun trip => trip.passengerCount = some 0),
  ("passenger_count_null_rate", fun trip => trip.passengerCount = none),
  ("rate_code_null_rate", fun trip => trip.rateCodeId = none),
  ("store_and_fwd_null_rate", fun trip => trip.storeAndFwdFlag = none),
  ("congestion_surcharge_null_rate", fun trip => trip.congestionSurcharge = none),
  ("negative_airport_fee", fun trip => Negative trip.airportFee),
  ("airport_fee_null_rate", fun trip => trip.airportFee = none),
  ("unexpected_vendor_id", fun trip => Undocumented (numbers [1, 2, 6, 7]) (trip.vendorId.map .number)),
  ("unexpected_rate_code",
    fun trip => Undocumented (numbers [1, 2, 3, 4, 5, 6, 99]) (trip.rateCodeId.map .number)),
  ("unexpected_store_and_fwd_flag",
    fun trip => Undocumented [DomainValue.text "N", .text "Y"] (trip.storeAndFwdFlag.map DomainValue.text)),
  ("unexpected_payment_type",
    fun trip => Undocumented (numbers [0, 1, 2, 3, 4, 5]) (trip.paymentType.map .number))]

/-- What a Green trip breaks each scalar and domain rule by, in the columns of its own table. -/
def greenDefinitions (year month : Int) : List (String × (GreenTrip → Prop)) := [
  ("pickup_outside_source_month", fun trip => PickedUpElsewhere year month trip.pickupDatetime),
  ("dropoff_before_pickup", fun trip => DroppedOffBefore trip.pickupDatetime trip.dropoffDatetime),
  ("negative_trip_distance", fun trip => Negative trip.tripDistance),
  ("negative_fare_amount", fun trip => Negative trip.fareAmount),
  ("negative_total_amount", fun trip => Negative trip.totalAmount),
  ("negative_extra", fun trip => Negative trip.extra),
  ("negative_mta_tax", fun trip => Negative trip.mtaTax),
  ("negative_tip_amount", fun trip => Negative trip.tipAmount),
  ("negative_tolls_amount", fun trip => Negative trip.tollsAmount),
  ("negative_improvement_surcharge", fun trip => Negative trip.improvementSurcharge),
  ("negative_congestion_surcharge", fun trip => Negative trip.congestionSurcharge),
  ("negative_cbd_congestion_fee", fun trip => Negative trip.cbdCongestionFee),
  ("zero_trip_distance", fun trip => Zero trip.tripDistance),
  ("zero_passenger_count", fun trip => trip.passengerCount = some 0),
  ("passenger_count_null_rate", fun trip => trip.passengerCount = none),
  ("rate_code_null_rate", fun trip => trip.rateCodeId = none),
  ("store_and_fwd_null_rate", fun trip => trip.storeAndFwdFlag = none),
  ("congestion_surcharge_null_rate", fun trip => trip.congestionSurcharge = none),
  ("negative_ehail_fee", fun trip => Negative trip.ehailFee),
  ("ehail_fee_null_rate", fun trip => trip.ehailFee = none),
  ("unexpected_vendor_id", fun trip => Undocumented (numbers [1, 2, 6, 7]) (trip.vendorId.map .number)),
  ("unexpected_rate_code",
    fun trip => Undocumented (numbers [1, 2, 3, 4, 5, 6, 99]) (trip.rateCodeId.map .number)),
  ("unexpected_store_and_fwd_flag",
    fun trip => Undocumented [DomainValue.text "N", .text "Y"] (trip.storeAndFwdFlag.map DomainValue.text)),
  ("unexpected_payment_type",
    fun trip => Undocumented (numbers [1, 2, 3, 4, 5, 6]) (trip.paymentType.map .number)),
  ("unexpected_trip_type", fun trip => Undocumented (numbers [1, 2]) (trip.tripType.map .number))]

/-- The measurement of a rule has checked every row and counted those of its definition. -/
structure CountsRows (trips : List table.Values) (measured : String × QualityMeasurement)
    (definition : String × (table.Values → Prop)) : Prop where
  name : measured.1 = definition.1
  rowsChecked : measured.2.rowsChecked = trips.length
  rowsFailed : measured.2.rowsFailed = failing trips definition.2
  bounded : 0 ≤ measured.2.rowsFailed ∧ measured.2.rowsFailed ≤ measured.2.rowsChecked

/-- The details list the undocumented values in ascending order, each once with the rows that have it. -/
structure ListsUndocumented (trips : List table.Values) (check : DomainCheck table)
    (measurement : QualityMeasurement) (counts : List (DomainValue × Nat)) : Prop where
  details : measurement.details = some (.unexpectedValues counts)
  ascending : (counts.map Prod.fst).Pairwise fun left right => left.le right = true ∧ left ≠ right
  values : ∀ value, value ∈ counts.map Prod.fst ↔
    value ∉ check.allowed ∧ ∃ trip ∈ trips, check.column trip = some value
  rows : ∀ entry ∈ counts, 0 < entry.2 ∧ entry.2 = failing trips fun trip => check.column trip = some entry.1
  total : (counts.map Prod.snd).sum = measurement.rowsFailed

end Properties

section Rows

variable {table : RawTable} {α : Type}

theorem holds_iff {column : Option α} {condition : α → Bool} :
    holds column condition = true ↔ ∃ value, column = some value ∧ condition value = true := by
  cases column <;> simp [holds]

theorem negative_iff {column : Option Double} : negative column = true ↔ Negative column := by
  rw [negative, holds_iff]
  exact exists_congr fun value => and_congr_right fun _ => Double.isNegative_iff

theorem zero_iff {column : Option Double} : holds column Double.isZero = true ↔ Zero column := by
  rw [holds_iff]
  exact exists_congr fun value => and_congr_right fun _ => Double.isZero_iff

theorem noPassengers_iff {column : Option Int} : holds column (· == 0) = true ↔ column = some 0 := by
  rw [holds_iff]
  constructor
  · rintro ⟨value, rfl, zero⟩
    rw [beq_iff_eq.mp zero]
  · intro zero
    exact ⟨0, zero, rfl⟩

theorem dropoffBeforePickup_iff {pickup dropoff : Option DateTime} :
    dropoffBeforePickup pickup dropoff = true ↔ DroppedOffBefore pickup dropoff := by
  rw [dropoffBeforePickup, holds_iff]
  constructor
  · rintro ⟨later, dropped, both⟩
    obtain ⟨earlier, picked, before⟩ := holds_iff.mp both
    exact ⟨earlier, later, picked, dropped, of_decide_eq_true before⟩
  · rintro ⟨earlier, later, picked, dropped, before⟩
    exact ⟨later, dropped, holds_iff.mpr ⟨earlier, picked, decide_eq_true before⟩⟩

/-- A condition and a definition of one name that agree on every trip. -/
def Defines (condition : String × (table.Values → Bool)) (definition : String × (table.Values → Prop)) : Prop :=
  condition.1 = definition.1 ∧ ∀ trip, condition.2 trip = true ↔ definition.2 trip

theorem scalarConditions_define (model : TripModel table) {year month : Int} {first next : Date}
    (counts : ∀ pickup, outsideMonth first next pickup = decide (PickedUpElsewhere year month pickup)) :
    List.Forall₂ Defines (scalarConditions model first next) (scalarDefinitions model year month) := by
  have elsewhere : ∀ trip : table.Values, outsideMonth first next (model.pickupDatetime trip) = true ↔
      PickedUpElsewhere year month (model.pickupDatetime trip) := fun trip => by
    rw [counts, decide_eq_true_iff]
  unfold scalarConditions scalarDefinitions
  refine List.rel_append (List.rel_append ?_ ?_) ?_
  · refine .cons ⟨rfl, elsewhere⟩ (.cons ⟨rfl, fun _ => dropoffBeforePickup_iff⟩ ?_)
    iterate 10 refine .cons ⟨rfl, fun _ => negative_iff⟩ ?_
    refine .cons ⟨rfl, fun _ => zero_iff⟩ (.cons ⟨rfl, fun _ => noPassengers_iff⟩ ?_)
    iterate 4 refine .cons ⟨rfl, fun _ => Option.isNone_iff_eq_none⟩ ?_
    exact .nil
  · cases model.airportFee with
    | none => exact .nil
    | some airportFee =>
      exact .cons ⟨rfl, fun _ => negative_iff⟩ (.cons ⟨rfl, fun _ => Option.isNone_iff_eq_none⟩ .nil)
  · cases model.ehailFee with
    | none => exact .nil
    | some ehailFee =>
      exact .cons ⟨rfl, fun _ => negative_iff⟩ (.cons ⟨rfl, fun _ => Option.isNone_iff_eq_none⟩ .nil)

theorem failing_le {rows : List α} {property : α → Prop} : failing rows property ≤ rows.length :=
  List.countP_le_length

theorem countsRows_of_failed {trips : List table.Values} {measured : String × QualityMeasurement}
    {definition : String × (table.Values → Prop)} (name : measured.1 = definition.1)
    (rowsChecked : measured.2.rowsChecked = trips.length)
    (rowsFailed : measured.2.rowsFailed = failing trips definition.2) :
    CountsRows trips measured definition where
  name := name
  rowsChecked := rowsChecked
  rowsFailed := rowsFailed
  bounded := by
    rw [rowsChecked, rowsFailed]
    exact ⟨Nat.zero_le _, failing_le⟩

theorem scalar_counts {trips : List table.Values} {conditions : List (String × (table.Values → Bool))}
    {definitions : List (String × (table.Values → Prop))} (define : List.Forall₂ Defines conditions definitions) :
    List.Forall₂ (CountsRows trips)
      (conditions.map fun entry => (entry.1, countedMeasurement trips entry.2)) definitions := by
  rw [List.forall₂_map_left_iff]
  refine define.imp fun condition definition defines => ?_
  exact countsRows_of_failed defines.1 rfl (countP_eq_failing fun trip _ => defines.2 trip)

end Rows

section Domains

variable {table : RawTable}

theorem DomainValue.le_total (left right : DomainValue) : left.le right = true ∨ right.le left = true := by
  cases left <;> cases right <;> simp only [DomainValue.le, decide_eq_true_iff, Bool.false_eq_true, or_true, true_or]
  · exact Int.le_total _ _
  · exact String.le_total _ _

theorem DomainValue.le_trans {a b c : DomainValue} (first : a.le b = true) (second : b.le c = true) :
    a.le c = true := by
  cases a <;> cases b <;> cases c <;> simp only [DomainValue.le, decide_eq_true_iff, Bool.false_eq_true] at *
  · exact Int.le_trans first second
  · exact String.le_trans first second

instance : Std.Total fun left right : DomainValue × Nat => left.1.le right.1 = true :=
  ⟨fun left right => left.1.le_total right.1⟩

instance : IsTrans (DomainValue × Nat) fun left right => left.1.le right.1 = true :=
  ⟨fun _ _ _ first second => DomainValue.le_trans first second⟩

/-- The values of a domain query. -/
def undocumentedColumn (trips : List table.Values) (check : DomainCheck table) : List DomainValue :=
  (trips.filterMap check.column).filter (!check.allowed.contains ·)

theorem mem_undocumentedColumn {trips : List table.Values} {check : DomainCheck table} {value : DomainValue} :
    value ∈ undocumentedColumn trips check ↔
      value ∉ check.allowed ∧ ∃ trip ∈ trips, check.column trip = some value := by
  unfold undocumentedColumn
  rw [List.mem_filter, List.mem_filterMap, Bool.not_eq_true', and_comm]
  refine and_congr_left fun _ => ?_
  rw [← Bool.not_eq_true, List.contains_iff_mem]

theorem count_undocumentedColumn {trips : List table.Values} {check : DomainCheck table} {value : DomainValue}
    (undocumented : value ∉ check.allowed) : (undocumentedColumn trips check).count value =
      failing trips fun trip => check.column trip = some value := by
  have kept : (!check.allowed.contains value) = true := by
    rw [Bool.not_eq_true', ← Bool.not_eq_true, List.contains_iff_mem]
    exact undocumented
  unfold undocumentedColumn
  rw [@List.count_filter _ _ _ (!check.allowed.contains ·) _ _ kept, List.count, List.countP_filterMap]
  refine countP_eq_failing fun trip _ => ?_
  cases check.column trip <;> simp

theorem length_undocumentedColumn (trips : List table.Values) (check : DomainCheck table) :
    (undocumentedColumn trips check).length =
      failing trips fun trip => Undocumented check.allowed (check.column trip) := by
  unfold undocumentedColumn
  rw [← List.countP_eq_length_filter, List.countP_filterMap]
  refine countP_eq_failing fun trip _ => ?_
  unfold Undocumented
  cases check.column trip <;> simp

/-- The measurement of a domain lists the undocumented values and counts their rows. -/
theorem domain_lists (trips : List table.Values) (check : DomainCheck table) :
    ∃ counts, ListsUndocumented trips check (domainMeasurement trips trips.length check) counts := by
  have permuted := List.perm_insertionSort (fun left right : DomainValue × Nat => left.1.le right.1 = true)
    (groupCounts (undocumentedColumn trips check))
  have keys := permuted.map Prod.fst
  rw [groupCounts_keys] at keys
  refine ⟨(groupCounts (undocumentedColumn trips check)).insertionSort fun left right => left.1.le right.1,
    rfl, ?_, fun value => ?_, fun entry member => ?_, rfl⟩
  · rw [List.pairwise_map]
    have distinct := keys.nodup_iff.mpr (List.nodup_dedup _)
    rw [List.Nodup, List.pairwise_map] at distinct
    exact (List.pairwise_insertionSort _ _).and distinct
  · rw [← mem_undocumentedColumn, keys.mem_iff]
    exact List.mem_dedup
  · obtain ⟨inColumn, counted⟩ := mem_groupCounts.mp (permuted.mem_iff.mp member)
    rw [counted]
    exact ⟨List.count_pos_iff.mpr inColumn, count_undocumentedColumn (mem_undocumentedColumn.mp inColumn).1⟩

theorem domain_counts (trips : List table.Values) (checks : List (DomainCheck table)) :
    List.Forall₂ (CountsRows trips)
      (checks.map fun check => (check.checkName, domainMeasurement trips trips.length check))
      (domainDefinitions checks) := by
  unfold domainDefinitions
  rw [List.forall₂_map_left_iff, List.forall₂_map_right_iff, List.forall₂_same]
  intro check _
  refine countsRows_of_failed rfl rfl ?_
  have permuted := List.perm_insertionSort (fun left right : DomainValue × Nat => left.1.le right.1 = true)
    (groupCounts (undocumentedColumn trips check))
  rw [← length_undocumentedColumn]
  exact (permuted.map Prod.snd).sum_eq.trans groupCounts_sum

end Domains

section Zones

variable {table : RawTable} {db : Database} {zoneSourceFileId : Nat}

/-- The location of a zone of the version that the joins select. -/
def versionLocation (zoneSourceFileId : Nat) (zone : RawRow .taxiZones) : Option Int :=
  if zone.lineage.sourceFileId = zoneSourceFileId then some zone.values.locationId else none

theorem zoneMatches_eq (column : Option Int) (zone : RawRow .taxiZones) :
    zoneMatches zoneSourceFileId column zone = equal column (versionLocation zoneSourceFileId zone) := by
  unfold zoneMatches versionLocation
  by_cases version : zone.lineage.sourceFileId = zoneSourceFileId
  · rw [if_pos version, beq_iff_eq.mpr version, Bool.true_and]
    cases column with
    | none => rfl
    | some locationId => exact Bool.beq_comm
  · rw [if_neg version, beq_eq_false_iff_ne.mpr version, Bool.false_and]
    cases column <;> rfl

theorem versionLocation_unique (nodup : db.index.Nodup) :
    UniqueKey (versionLocation zoneSourceFileId) (db.raw .taxiZones) := by
  have pairs := zoneLocations_nodup nodup
  unfold UniqueKey
  have selected : (db.raw .taxiZones).filterMap (versionLocation zoneSourceFileId) =
      ((db.raw .taxiZones).map fun zone => (zone.lineage.sourceFileId, zone.values.locationId)).filterMap
        fun pair => if pair.1 = zoneSourceFileId then some pair.2 else none := by
    rw [List.filterMap_map]
    rfl
  rw [selected]
  refine pairs.filterMap fun pair pair' locationId inPair inPair' => ?_
  split at inPair
  · rename_i version
    split at inPair'
    · rename_i version'
      exact Prod.ext (version.trans version'.symm) ((Option.some.inj inPair).trans (Option.some.inj inPair').symm)
    · cases inPair'
  · cases inPair

theorem unknownLocation_iff (column : Option Int) :
    (column.isSome && ((db.raw .taxiZones).find? fun zone =>
        equal column (versionLocation zoneSourceFileId zone)).isNone) = true ↔
      UnknownLocation (db.rowsOf .taxiZones zoneSourceFileId) column := by
  rw [Bool.and_eq_true, Option.isNone_iff_eq_none, List.find?_eq_none]
  unfold UnknownLocation Database.rowsOf
  cases column with
  | none => exact iff_of_false (fun both => Bool.false_ne_true both.1) nofun
  | some locationId =>
    constructor
    · rintro ⟨-, none_met⟩
      refine ⟨locationId, rfl, fun zone member same => ?_⟩
      obtain ⟨inTable, version⟩ := List.mem_filter.mp member
      refine none_met zone inTable (equal_iff.mpr ⟨locationId, rfl, ?_⟩)
      rw [versionLocation, if_pos (beq_iff_eq.mp version), same]
    · rintro ⟨other, is_location, unknown⟩
      cases is_location
      refine ⟨rfl, fun zone inTable met => ?_⟩
      obtain ⟨value, is_value, location⟩ := equal_iff.mp met
      cases is_value
      unfold versionLocation at location
      split at location
      · rename_i version
        exact unknown zone (List.mem_filter.mpr ⟨inTable, beq_iff_eq.mpr version⟩) (Option.some.inj location)
      · cases location

theorem zone_counts (nodup : db.index.Nodup) (model : TripModel table) (sourceFileId : Nat) :
    List.Forall₂ (CountsRows (db.trips table sourceFileId))
      (zoneMeasurements db model sourceFileId zoneSourceFileId (db.trips table sourceFileId).length)
      (zoneDefinitions model (db.rowsOf .taxiZones zoneSourceFileId)) := by
  have unique := @versionLocation_unique db zoneSourceFileId nodup
  have pickups := @UniqueKey.leftJoin _ _ _ _ _ (db.trips table sourceFileId) _ unique model.pickupLocationId
  unfold zoneMeasurements
  simp only [zoneMatches_eq]
  rw [pickups]
  have dropoffs := fun left => @UniqueKey.leftJoin (table.Values × Option (RawRow .taxiZones)) _ _ _ _ left _ unique
    fun pair => model.dropoffLocationId pair.1
  rw [dropoffs]
  refine .cons (countsRows_of_failed rfl rfl ?_) (.cons (countsRows_of_failed rfl rfl ?_) .nil)
  · rw [List.countP_map, List.countP_map]
    exact countP_eq_failing fun trip _ => unknownLocation_iff (model.pickupLocationId trip)
  · rw [List.countP_map, List.countP_map]
    exact countP_eq_failing fun trip _ => unknownLocation_iff (model.dropoffLocationId trip)

end Zones

/-- The scalar, domain and zone measurements of a source count the rows of the definitions, whatever the tables hold;
    the definitions of the two datasets are about their documented columns and values. -/
theorem measurements_count_rows {service : String} {year month : Int} {source : SourcePartition}
    {config : QualityConfig} {db : Database} (resolved : monthlyTripSource service year month = .ok source)
    (notLast : ¬ (year = 9999 ∧ month = 12)) (nodup : db.index.Nodup) (sourceFileId zoneSourceFileId : Nat) :
    let trips := db.trips config.table sourceFileId
    ∃ scalar, scalarMeasurements db config.model sourceFileId year month = .ok (trips.length, scalar) ∧
      List.Forall₂ (CountsRows trips)
        (scalar ++ domainMeasurements db config.domainValues sourceFileId trips.length ++
          zoneMeasurements db config.model sourceFileId zoneSourceFileId trips.length)
        (scalarDefinitions config.model year month ++ domainDefinitions config.domainValues ++
          zoneDefinitions config.model (db.rowsOf .taxiZones zoneSourceFileId)) ∧
      (∀ check ∈ config.domainValues, ∃ counts,
        ListsUndocumented trips check (domainMeasurement trips trips.length check) counts) ∧
      (qualityConfig "yellow_tripdata").map (·.definitions year month) =
        some ⟨.yellowTrips, yellowDefinitions year month⟩ ∧
      (qualityConfig "green_tripdata").map (·.definitions year month) =
        some ⟨.greenTrips, greenDefinitions year month⟩ := by
  obtain ⟨yearOk, monthOk, -⟩ := monthlyTripSource_ok resolved
  obtain ⟨first, next, firstOk, nextOk, counts⟩ := monthWindow_ok (by omega) monthOk notLast
  refine ⟨_, scalarMeasurements_ok firstOk nextOk db config.model sourceFileId, ?_, fun check _ => domain_lists _ check,
    rfl, rfl⟩
  refine List.rel_append (List.rel_append ?_ ?_) (zone_counts nodup config.model sourceFileId)
  · exact scalar_counts (scalarConditions_define config.model counts)
  · exact domain_counts _ config.domainValues

/-- Trips with a known, an unknown and no pickup location, beside one zone. -/
def mixedTrips : Database :=
  { Database.empty with raw := fun
    | .yellowTrips => [
      ⟨⟨1, 1, 1⟩, 0, { nullTrip with pickupLocationId := some 1, tripDistance := some 0xBFF0000000000000 }⟩,
      ⟨⟨1, 2, 1⟩, 0, { nullTrip with pickupLocationId := some 265, tripDistance := some 0x8000000000000000 }⟩,
      ⟨⟨1, 3, 1⟩, 0, nullTrip⟩]
    | .greenTrips => []
    | .taxiZones => [⟨⟨2, 1, 2⟩, 0, ⟨1, some "EWR", some "Newark Airport", some "EWR"⟩⟩] }

theorem mixedTrips_counted :
    zoneMeasurements mixedTrips yellowTripModel 1 2 3 =
      [("unknown_pickup_zone", ⟨3, 1, none⟩), ("unknown_dropoff_zone", ⟨3, 0, none⟩)] ∧
    ∃ scalar, scalarMeasurements mixedTrips yellowTripModel 1 2025 1 = .ok (3, scalar) ∧
      List.Forall₂ (CountsRows (mixedTrips.trips .yellowTrips 1))
        (scalar ++ domainMeasurements mixedTrips yellowDomainValues 1 3 ++
          zoneMeasurements mixedTrips yellowTripModel 1 2 3)
        (scalarDefinitions yellowTripModel 2025 1 ++ domainDefinitions yellowDomainValues ++
          zoneDefinitions yellowTripModel (mixedTrips.rowsOf .taxiZones 2)) := by
  obtain ⟨scalar, measured, counted, -⟩ := @measurements_count_rows "yellow" 2025 1 _
    ⟨.yellowTrips, yellowTripModel, yellowDomainValues, yellowRules⟩ mixedTrips rfl (by decide) (by decide) 1 2
  exact ⟨by decide, scalar, measured, counted⟩

end TaxiPipeline
