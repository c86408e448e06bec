import TaxiPipeline.Model.DurationProfile
import TaxiPipeline.Quality.RowDefinitions
import TaxiPipeline.Sources.Months
import TaxiPipeline.Stateful.Loops

namespace TaxiPipeline

open Stateful

/-- A trip's pickup and dropoff in microseconds since 1970. -/
abbrev TripTimes := Option Int64 × Option Int64

/-- Both timestamps are present and the dropoff is the earlier one. -/
def DroppedBefore (trip : TripTimes) : Prop :=
  ∃ pickup dropoff, trip = (some pickup, some dropoff) ∧ dropoff.toInt < pickup.toInt

def EitherNull (trip : TripTimes) : Prop := trip.1 = none ∨ trip.2 = none

/-- The pickup is a moment that lies in no day of the month. -/
def PickedUpOutside (year month : Int) (pickup : Option Int64) : Prop :=
  ∃ value, pickup = some value ∧ ¬ ∃ moment : DateTime, value.toInt = moment.sinceEpoch ∧
    (moment.date.year : Int) = year ∧ (moment.date.month : Int) = month

/-- The dropoff lies before the pickup by less than a second, or by more than 64 bits hold. -/
def MissedTrip (trip : TripTimes) : Prop :=
  ∃ pickup dropoff, trip = (some pickup, some dropoff) ∧ dropoff.toInt < pickup.toInt ∧
    (pickup.toInt - dropoff.toInt < 1000000 ∨ 2 ^ 63 < pickup.toInt - dropoff.toInt)

/-- The dropoff lies so far after the pickup that the difference wraps around to one of a second or more before it. -/
def WrappedTrip (trip : TripTimes) : Prop :=
  ∃ pickup dropoff, trip = (some pickup, some dropoff) ∧ 2 ^ 63 ≤ dropoff.toInt - pickup.toInt ∧
    dropoff.toInt - pickup.toInt ≤ 2 ^ 64 - 1000000

structure CountsAnomalies (profile : DurationProfile) (pickup dropoff : Column Int64) (year month : Int) : Prop where
  droppedBefore : profile.dropoffBeforePickupCount = some (failing (pickup.zip dropoff) DroppedBefore)
  eitherNull : profile.eitherDatetimeNullCount = some (failing (pickup.zip dropoff) EitherNull)
  outside : profile.pickupOutsideNominalMonthCount = some (failing pickup (PickedUpOutside year month))

section Counts

variable {α : Type} {rows : List α} {row : α} {counted expected missed added : α → Prop}

open Classical in
theorem failing_cons : failing (row :: rows) expected = failing rows expected + if expected row then 1 else 0 := by
  unfold failing
  rw [List.countP_cons]
  simp only [decide_eq_true_eq]

theorem failing_balance (counts : ∀ row, counted row ↔ (expected row ∧ ¬ missed row) ∨ added row)
    (misses : ∀ row, missed row → expected row) (adds : ∀ row, added row → ¬ expected row) :
    failing rows counted + failing rows missed = failing rows expected + failing rows added := by
  induction rows with
  | nil => rfl
  | cons row rest ih =>
    have counts := counts row
    have misses := misses row
    have adds := adds row
    rw [failing_cons, failing_cons, failing_cons, failing_cons]
    by_cases isExpected : expected row
    · have notAdded : ¬ added row := fun isAdded => adds isAdded isExpected
      by_cases isMissed : missed row
      · have notCounted : ¬ counted row := fun isCounted => by tauto
        rw [if_pos isExpected, if_neg notAdded, if_pos isMissed, if_neg notCounted]
        omega
      · have isCounted : counted row := counts.mpr (.inl ⟨isExpected, isMissed⟩)
        rw [if_pos isExpected, if_neg notAdded, if_neg isMissed, if_pos isCounted]
        omega
    · have notMissed : ¬ missed row := fun isMissed => isExpected (misses isMissed)
      by_cases isAdded : added row
      · rw [if_neg isExpected, if_pos isAdded, if_neg notMissed, if_pos (counts.mpr (.inr isAdded))]
        omega
      · have notCounted : ¬ counted row := fun isCounted => by tauto
        rw [if_neg isExpected, if_neg isAdded, if_neg notMissed, if_neg notCounted]
        omega

theorem failing_zero (none_counted : ∀ row ∈ rows, ¬ counted row) : failing rows counted = 0 := by
  induction rows with
  | nil => rfl
  | cons row rest ih =>
    rw [failing_cons, if_neg (none_counted row List.mem_cons_self),
      ih fun other member => none_counted other (List.mem_cons_of_mem _ member)]

theorem failing_mono (stronger : ∀ row, expected row → counted row) : failing rows expected ≤ failing rows counted := by
  induction rows with
  | nil => exact le_rfl
  | cons row rest ih =>
    rw [failing_cons, failing_cons]
    by_cases isExpected : expected row
    · rw [if_pos isExpected, if_pos (stronger row isExpected)]
      omega
    · rw [if_neg isExpected]
      omega

theorem failing_eq_iff (stronger : ∀ row, expected row → counted row) :
    failing rows counted = failing rows expected ↔ ∀ row ∈ rows, counted row → expected row := by
  induction rows with
  | nil => exact iff_of_true rfl fun row member => absurd member List.not_mem_nil
  | cons row rest ih =>
    have fewer := @failing_mono _ rest _ _ stronger
    rw [failing_cons, failing_cons, List.forall_mem_cons, ← ih]
    by_cases isCounted : counted row
    · by_cases isExpected : expected row
      · simp [isCounted, isExpected]
      · rw [if_pos isCounted, if_neg isExpected]
        exact iff_of_false (by omega) fun both => isExpected (both.1 isCounted)
    · have notExpected : ¬ expected row := fun isExpected => isCounted (stronger row isExpected)
      simp [isCounted, notExpected]

end Counts

section Differences

variable {pickup dropoff : Int64}

theorem tdiv_negative {difference unit : Int} (positive : 0 < unit) :
    difference.tdiv unit < 0 ↔ difference ≤ -unit := by
  rcases le_total 0 difference with forward | backward
  · have quotient := Int.tdiv_nonneg forward positive.le
    omega
  · have flipped : difference.tdiv unit = -(-difference / unit) := by
      rw [← Int.tdiv_eq_ediv_of_nonneg (by omega), Int.neg_tdiv, neg_neg]
    have whole : 1 ≤ -difference / unit ↔ unit ≤ -difference := by
      rw [Int.le_ediv_iff_mul_le positive, one_mul]
    rw [flipped]
    omega

/-- The seconds that the profile takes for the duration of a trip. -/
def durationSeconds (pickup dropoff : Int64) : Int64 := (dropoff - pickup) / 1000000

theorem durationSeconds_negative : durationSeconds pickup dropoff < 0 ↔
    (dropoff.toInt - pickup.toInt).bmod (2 ^ 64) ≤ -1000000 := by
  have quotient : (durationSeconds pickup dropoff).toInt =
      ((dropoff.toInt - pickup.toInt).bmod (2 ^ 64)).tdiv 1000000 := by
    unfold durationSeconds
    rw [Int64.toInt_div_of_ne_right _ _ (by decide), Int64.toInt_sub]
    rfl
  rw [Int64.lt_iff_toInt_lt, quotient]
  exact tdiv_negative (by decide)

/-- The difference in 64 bits is the true one or off by 2 ^ 64. -/
theorem difference_wraps : (dropoff.toInt - pickup.toInt).bmod (2 ^ 64) =
    if dropoff.toInt - pickup.toInt < -2 ^ 63 then dropoff.toInt - pickup.toInt + 2 ^ 64
    else if 2 ^ 63 ≤ dropoff.toInt - pickup.toInt then dropoff.toInt - pickup.toInt - 2 ^ 64
    else dropoff.toInt - pickup.toInt := by
  have pickupLeast := pickup.le_toInt
  have pickupBound := pickup.toInt_lt
  have dropoffLeast := dropoff.le_toInt
  have dropoffBound := dropoff.toInt_lt
  rw [Int.bmod_def]
  split_ifs <;> omega

theorem durationSeconds_iff : durationSeconds pickup dropoff < 0 ↔
    (DroppedBefore (some pickup, some dropoff) ∧ ¬ MissedTrip (some pickup, some dropoff)) ∨
      WrappedTrip (some pickup, some dropoff) := by
  have before : DroppedBefore (some pickup, some dropoff) ↔ dropoff.toInt < pickup.toInt := by
    simp [DroppedBefore]
  have missed : MissedTrip (some pickup, some dropoff) ↔ dropoff.toInt < pickup.toInt ∧
      (pickup.toInt - dropoff.toInt < 1000000 ∨ 2 ^ 63 < pickup.toInt - dropoff.toInt) := by
    simp [MissedTrip]
  have wrapped : WrappedTrip (some pickup, some dropoff) ↔ 2 ^ 63 ≤ dropoff.toInt - pickup.toInt ∧
      dropoff.toInt - pickup.toInt ≤ 2 ^ 64 - 1000000 := by
    simp [WrappedTrip]
  have pickupLeast := pickup.le_toInt
  have pickupBound := pickup.toInt_lt
  have dropoffLeast := dropoff.le_toInt
  have dropoffBound := dropoff.toInt_lt
  rw [durationSeconds_negative, difference_wraps, before, missed, wrapped]
  split_ifs <;> omega

end Differences

section Columns

variable {α β : Type} {pickup dropoff : Column Int64}

theorem failing_map {rows : List β} {f : β → α} {property : α → Prop} :
    failing (rows.map f) property = failing rows fun row => property (f row) := by
  unfold failing
  rw [List.countP_map]
  rfl

theorem failing_congr {rows : List α} {property property' : α → Prop}
    (same : ∀ row ∈ rows, property row ↔ property' row) : failing rows property = failing rows property' := by
  unfold failing
  refine List.countP_congr fun row member => ?_
  rw [@decide_eq_true_iff _ (Classical.propDecidable _), @decide_eq_true_iff _ (Classical.propDecidable _)]
  exact same row member

theorem failing_valid {column : Column α} {property : Option α → Prop} (values : ¬ property none) :
    failing (column.reduceOption.map some) property = failing column property := by
  induction column with
  | nil => rfl
  | cons cell rest ih =>
    cases cell with
    | none => rw [List.reduceOption_cons_of_none, failing_cons, if_neg values, ih, add_zero]
    | some value => rw [List.reduceOption_cons_of_some, List.map_cons, failing_cons, failing_cons, ih]

theorem reduceOption_length_add (column : Column α) :
    column.reduceOption.length + column.countP Option.isNone = column.length := by
  induction column with
  | nil => rfl
  | cons cell rest ih =>
    cases cell with
    | none =>
      rw [List.reduceOption_cons_of_none, List.countP_cons_of_pos rfl, List.length_cons, ← ih]
      omega
    | some value =>
      rw [List.reduceOption_cons_of_some, List.countP_cons_of_neg Bool.false_ne_true, List.length_cons,
        List.length_cons, ← ih]
      omega

theorem sum_eq {column : Column Bool} : Compute.sum column =
    if column.reduceOption = [] then none else some (failing column (· = some true)) := by
  have counted : column.reduceOption.count true = failing column (· = some true) := by
    induction column with
    | nil => rfl
    | cons cell rest ih =>
      rw [failing_cons, ← ih]
      cases cell with
      | none => rw [List.reduceOption_cons_of_none, if_neg nofun, add_zero]
      | some flag =>
        rw [List.reduceOption_cons_of_some]
        cases flag
        · rw [List.count_cons_of_ne (by decide), if_neg nofun, add_zero]
        · rw [List.count_cons_self, if_pos rfl]
  unfold Compute.sum
  rw [counted]

theorem durations_eq : Compute.divide (Compute.subtract dropoff pickup) 1000000 =
    (pickup.zip dropoff).map fun trip => Option.map₂ durationSeconds trip.1 trip.2 := by
  induction pickup generalizing dropoff with
  | nil => cases dropoff <;> rfl
  | cons earlier rest ih =>
    cases dropoff with
    | nil => rfl
    | cons later others =>
      rw [List.zip_cons_cons, List.map_cons, ← ih]
      cases earlier <;> cases later <;> rfl

theorem eitherNull_eq : Compute.or (Compute.isNull pickup) (Compute.isNull dropoff) =
    (pickup.zip dropoff).map fun trip => some (trip.1.isNone || trip.2.isNone) := by
  induction pickup generalizing dropoff with
  | nil => rfl
  | cons earlier rest ih =>
    cases dropoff with
    | nil => rfl
    | cons later others =>
      rw [List.zip_cons_cons, List.map_cons, ← ih]
      rfl

theorem outside_eq {start finish : Int64} : Compute.and (Compute.isValid pickup)
      (Compute.or (Compute.less pickup start) (Compute.greaterEqual pickup finish)) =
    pickup.map (Option.map fun value => decide (value < start) || decide (finish ≤ value)) := by
  induction pickup with
  | nil => rfl
  | cons cell rest ih =>
    rw [List.map_cons, ← ih]
    cases cell <;> rfl

/-- The profile never fails its own assertion, and counts the negative values that there are. -/
theorem numericProfile_ok (quantile : Quantiles) (array : Column Int64) :
    ∃ profile, numericProfile quantile array = .ok profile ∧
      profile.countLt0 = some (failing array fun cell => ∃ value, cell = some value ∧ value < 0) := by
  have counted : array.reduceOption ≠ [] → Compute.sum (Compute.less (array.reduceOption.map some) 0) =
      some (failing array fun cell => ∃ value, cell = some value ∧ value < 0) := by
    intro nonempty
    have flags : Compute.less (array.reduceOption.map some) 0 =
        (array.reduceOption.map fun value => decide (value < 0)).map some := by
      unfold Compute.less Compute.withScalar
      rw [List.map_map, List.map_map]
      rfl
    have valid : ((array.reduceOption.map fun value => decide (value < 0)).map some).reduceOption =
        array.reduceOption.map fun value => decide (value < 0) := by
      unfold List.reduceOption
      rw [List.filterMap_map, Function.id_comp, List.filterMap_some]
    have negative : failing array (fun cell => ∃ value, cell = some value ∧ value < 0) =
        failing array.reduceOption fun value => value < 0 := by
      rw [← failing_valid nofun, failing_map]
      exact failing_congr fun value _ => by simp
    rw [flags, sum_eq, valid, if_neg (by rwa [List.map_eq_nil_iff]), negative, failing_map, failing_map]
    exact congrArg some (failing_congr fun value _ => by simp)
  unfold numericProfile
  dsimp only
  by_cases empty : array.reduceOption = []
  · rw [if_pos empty]
    dsimp only
    rw [if_neg (not_not.mpr (reduceOption_length_add array))]
    refine ⟨_, rfl, ?_⟩
    rw [← failing_valid nofun, empty]
    rfl
  · rw [if_neg empty]
    dsimp only
    rw [if_neg (not_not.mpr (reduceOption_length_add array))]
    exact ⟨_, rfl, counted empty⟩

theorem eitherNull_sum (nonempty : pickup.zip dropoff ≠ []) :
    Compute.sum (Compute.or (Compute.isNull pickup) (Compute.isNull dropoff)) =
      some (failing (pickup.zip dropoff) EitherNull) := by
  have flags : ((pickup.zip dropoff).map fun trip => some (trip.1.isNone || trip.2.isNone)).reduceOption =
      (pickup.zip dropoff).map fun trip => trip.1.isNone || trip.2.isNone := by
    unfold List.reduceOption
    rw [List.filterMap_map]
    show List.filterMap (some ∘ fun trip : TripTimes => trip.1.isNone || trip.2.isNone) _ = _
    rw [List.filterMap_eq_map]
  rw [eitherNull_eq, sum_eq, flags, if_neg (by rwa [List.map_eq_nil_iff]), failing_map]
  refine congrArg some (failing_congr fun trip _ => ?_)
  unfold EitherNull
  rw [Option.some_inj, Bool.or_eq_true, Option.isNone_iff_eq_none, Option.isNone_iff_eq_none]

theorem outside_sum {flag : Int64 → Bool} {year month : Int}
    (window : ∀ value, flag value = true ↔ PickedUpOutside year month (some value)) :
    Compute.sum (pickup.map (Option.map flag)) =
      if pickup.reduceOption = [] then none else some (failing pickup (PickedUpOutside year month)) := by
  have flags : failing (pickup.map (Option.map flag)) (· = some true) =
      failing pickup (PickedUpOutside year month) := by
    rw [failing_map]
    refine failing_congr fun cell _ => ?_
    cases cell with
    | none => exact iff_of_false nofun nofun
    | some value => rw [Option.map_some, Option.some_inj, window]
  simp only [sum_eq, List.reduceOption_map, List.map_eq_nil_iff, flags]

/-- The negative durations are as many as the early dropoffs when as many are missed as are added. -/
theorem negative_durations_iff :
    failing ((pickup.zip dropoff).map fun trip => Option.map₂ durationSeconds trip.1 trip.2)
        (fun cell => ∃ value, cell = some value ∧ value < 0) = failing (pickup.zip dropoff) DroppedBefore ↔
      failing (pickup.zip dropoff) MissedTrip = failing (pickup.zip dropoff) WrappedTrip := by
  have counts : ∀ trip : TripTimes, (∃ value, Option.map₂ durationSeconds trip.1 trip.2 = some value ∧ value < 0) ↔
      (DroppedBefore trip ∧ ¬ MissedTrip trip) ∨ WrappedTrip trip := by
    rintro ⟨earlier, later⟩
    cases earlier with
    | none =>
      refine iff_of_false nofun fun either => ?_
      rcases either with ⟨⟨_, _, same, _⟩, _⟩ | ⟨_, _, same, _⟩ <;> cases same
    | some pickedUp =>
      cases later with
      | none =>
        refine iff_of_false nofun fun either => ?_
        rcases either with ⟨⟨_, _, same, _⟩, _⟩ | ⟨_, _, same, _⟩ <;> cases same
      | some droppedOff =>
        rw [← durationSeconds_iff]
        simp
  have misses : ∀ trip : TripTimes, MissedTrip trip → DroppedBefore trip := by
    rintro trip ⟨earlier, later, same, before, -⟩
    exact ⟨earlier, later, same, before⟩
  have adds : ∀ trip : TripTimes, WrappedTrip trip → ¬ DroppedBefore trip := by
    rintro trip ⟨earlier, later, rfl, far, -⟩ ⟨earlier', later', same, before⟩
    cases same
    omega
  have balance := @failing_balance _ (pickup.zip dropoff) _ _ _ _ counts misses adds
  rw [failing_map]
  omega

end Columns

section Months

theorem daysBeforeMonth_le (year month : Nat) : daysBeforeMonth year month ≤ 31 * month := by
  induction month with
  | zero => exact le_rfl
  | succ month ih =>
    cases month with
    | zero => exact Nat.zero_le _
    | succ month =>
      have length : daysInMonth year (month + 1) ≤ 31 := by
        unfold daysInMonth
        split_ifs <;> omega
      rw [daysBeforeMonth]
      · omega
      · exact Nat.succ_ne_zero month

theorem Date.toOrdinal_lt (date : Date) : date.toOrdinal < 4000000 := by
  have year := date.year_range
  have month := date.month_range
  have day := date.day_le
  have before := daysBeforeMonth_le date.year date.month
  unfold Date.toOrdinal daysBeforeYear
  omega

theorem DateTime.timestampUs_toInt (moment : DateTime) : moment.timestampUs.toInt = moment.sinceEpoch := by
  have ordinal := moment.date.toOrdinal_lt
  have microsecond := moment.microsecond_range
  unfold DateTime.timestampUs
  apply Int64.toInt_ofInt_of_le
  · unfold DateTime.sinceEpoch DateTime.toMicroseconds
    omega
  · unfold DateTime.sinceEpoch DateTime.toMicroseconds
    omega

variable {first next : Date}

theorem sinceEpoch_midnight (date : Date) :
    date.midnight.sinceEpoch = ((date.toOrdinal : Int) - 719163) * 86400000000 := by
  show (date.toOrdinal : Int) * 86400000000 + ((0 : Nat) : Int) - 719163 * 86400000000 = _
  omega

theorem next_toOrdinal (isFirst : first.day = 1) (isNext : next.day = 1)
    (adjacent : next.monthIndex = first.monthIndex + 1) :
    next.toOrdinal = first.toOrdinal + daysInMonth first.year first.month := by
  have days : daysInIndex first.monthIndex = daysInMonth first.year first.month := by
    rw [daysInIndex, first.year_month.1, first.year_month.2]
  rw [next.toOrdinal_eq, first.toOrdinal_eq, isFirst, isNext, adjacent, daysBeforeIndex_succ, days]
  omega

/-- Between the first midnight of a month and that of the next are the moments of the month, and nothing else. -/
theorem month_window (isFirst : first.day = 1) (isNext : next.day = 1)
    (adjacent : next.monthIndex = first.monthIndex + 1) (value : Int) :
    (first.midnight.sinceEpoch ≤ value ∧ value < next.midnight.sinceEpoch) ↔
      ∃ moment : DateTime, value = moment.sinceEpoch ∧ moment.date.year = first.year ∧
        moment.date.month = first.month := by
  have ordinals := next_toOrdinal isFirst isNext adjacent
  rw [sinceEpoch_midnight, sinceEpoch_midnight]
  constructor
  · rintro ⟨lower, upper⟩
    have parts : ∃ days microsecond : Nat, days + 1 ≤ daysInMonth first.year first.month ∧
        microsecond < 86400000000 ∧
        value = ((first.toOrdinal : Int) + days - 719163) * 86400000000 + microsecond := by
      refine ⟨((value - ((first.toOrdinal : Int) - 719163) * 86400000000) / 86400000000).toNat,
        ((value - ((first.toOrdinal : Int) - 719163) * 86400000000) % 86400000000).toNat, ?_, ?_, ?_⟩ <;> omega
    obtain ⟨days, microsecond, inMonth, inDay, rfl⟩ := parts
    refine ⟨⟨⟨first.year, first.month, days + 1, first.year_range, first.month_range,
      ⟨Nat.le_add_left 1 days, inMonth⟩⟩, microsecond, inDay⟩, ?_, rfl, rfl⟩
    have ordinal : Date.toOrdinal ⟨first.year, first.month, days + 1, first.year_range, first.month_range,
        ⟨Nat.le_add_left 1 days, inMonth⟩⟩ = first.toOrdinal + days := by
      unfold Date.toOrdinal
      dsimp only
      rw [isFirst]
      omega
    unfold DateTime.sinceEpoch DateTime.toMicroseconds
    dsimp only
    rw [ordinal]
    omega
  · rintro ⟨moment, rfl, year, month⟩
    have inside : ¬ outsideMonth first next (some moment) = true := by
      rw [outsideMonth_iff isFirst isNext adjacent]
      rintro ⟨other, same, elsewhere⟩
      cases same
      exact elsewhere ⟨year, month⟩
    rw [outsideMonth_some, Bool.or_eq_true, not_or, moment.before_midnight, Bool.not_eq_true', Bool.not_eq_false,
      moment.before_midnight] at inside
    have microsecond := moment.microsecond_range
    unfold DateTime.sinceEpoch DateTime.toMicroseconds
    omega

/-- Up to the year 9999 pyarrow reads the midnight that pandas means. -/
theorem monthBeginUs_date {date : Date} (isFirst : date.day = 1) :
    monthBeginUs date.year date.month = date.midnight.timestampUs := by
  have ordinal : date.toOrdinal = daysBeforeYear date.year + daysBeforeMonth date.year date.month + 1 := by
    rw [← isFirst]
    rfl
  unfold monthBeginUs pydatetimeYear DateTime.timestampUs
  rw [if_pos date.year_range, sinceEpoch_midnight, ordinal]

theorem nextMonthBegin_date (adjacent : next.monthIndex = first.monthIndex + 1) :
    nextMonthBegin first = (next.year, next.month) := by
  have firstYear := first.year_range
  have firstMonth := first.month_range
  have nextYear := next.year_range
  have nextMonth := next.month_range
  unfold Date.monthIndex at adjacent
  unfold nextMonthBegin
  by_cases december : first.month = 12
  · rw [if_pos december]
    exact Prod.ext (show first.year + 1 = next.year by omega) (show 1 = next.month by omega)
  · rw [if_neg december]
    exact Prod.ext (show first.year = next.year by omega) (show first.month + 1 = next.month by omega)

/-- The end of December 9999 is read as the first midnight of 1972. -/
theorem monthBeginUs_last : monthBeginUs 10000 1 = 63072000000000 := by decide

end Months

section Profile

variable {pickup dropoff : Column Int64} {year month : Int} {first next : Date}

/-- In December 9999 every pickup counts as outside. -/
theorem last_window (isLast : first.year = 9999 ∧ first.month = 12) (isFirst : first.day = 1) (value : Int64) :
    (decide (value < first.midnight.timestampUs) ||
      decide (monthBeginUs (nextMonthBegin first).1 (nextMonthBegin first).2 ≤ value)) = true := by
  have next : nextMonthBegin first = (10000, 1) := by
    unfold nextMonthBegin
    rw [isLast.1, isLast.2]
    rfl
  have start : first.midnight.timestampUs = 253399622400000000 := by
    rw [← monthBeginUs_date isFirst, isLast.1, isLast.2]
    decide
  rw [next, monthBeginUs_last, start, Bool.or_eq_true, decide_eq_true_iff, decide_eq_true_iff,
    Int64.lt_iff_toInt_lt, Int64.le_iff_toInt_le]
  have ends : (63072000000000 : Int64).toInt = 63072000000000 := by decide
  have begins : (253399622400000000 : Int64).toInt = 253399622400000000 := by decide
  omega

theorem outside_window (isFirst : first.day = 1) (isNext : next.day = 1)
    (adjacent : next.monthIndex = first.monthIndex + 1) (firstYear : (first.year : Int) = year)
    (firstMonth : (first.month : Int) = month) (value : Int64) :
    (decide (value < first.midnight.timestampUs) ||
      decide (monthBeginUs (nextMonthBegin first).1 (nextMonthBegin first).2 ≤ value)) = true ↔
      PickedUpOutside year month (some value) := by
  rw [nextMonthBegin_date adjacent, monthBeginUs_date isNext]
  have window := month_window isFirst isNext adjacent value.toInt
  have outside : PickedUpOutside year month (some value) ↔
      ¬ (first.midnight.sinceEpoch ≤ value.toInt ∧ value.toInt < next.midnight.sinceEpoch) := by
    rw [window]
    unfold PickedUpOutside
    rw [← firstYear, ← firstMonth]
    simp only [Option.some_inj, exists_eq_left', Int.natCast_inj]
  rw [outside, Bool.or_eq_true, decide_eq_true_iff, decide_eq_true_iff, Int64.lt_iff_toInt_lt,
    Int64.le_iff_toInt_le, DateTime.timestampUs_toInt, DateTime.timestampUs_toInt, not_and_or, not_le, not_lt]

theorem profile_counts {quantile : Quantiles} {profile : DurationProfile}
    (returned : durationProfile quantile pickup dropoff year month = .ok profile) :
    profile.dropoffBeforePickupCount =
      some (failing ((pickup.zip dropoff).map fun trip => Option.map₂ durationSeconds trip.1 trip.2)
        fun cell => ∃ value, cell = some value ∧ value < 0) := by
  obtain ⟨values, profiled, negatives⟩ := numericProfile_ok quantile
    (Compute.divide (Compute.subtract dropoff pickup) 1000000)
  rw [durations_eq] at negatives
  unfold durationProfile at returned
  dsimp only at returned
  rw [profiled] at returned
  obtain ⟨first, -, same⟩ := bind_ok.mp (show (firstOfMonth year month >>= _) = _ from returned)
  cases same
  exact negatives

/-- The pickups outside are counted when there is a pickup and, in December 9999, none lies in the month. -/
theorem outside_count_iff (isFirst : first.day = 1) (firstYear : (first.year : Int) = year)
    (firstMonth : (first.month : Int) = month) :
    Compute.sum (Compute.and (Compute.isValid pickup) (Compute.or (Compute.less pickup first.midnight.timestampUs)
        (Compute.greaterEqual pickup (monthBeginUs (nextMonthBegin first).1 (nextMonthBegin first).2)))) =
        some (failing pickup (PickedUpOutside year month)) ↔
      (∃ value, some value ∈ pickup) ∧ (year = 9999 ∧ month = 12 →
        ∀ value, some value ∈ pickup → PickedUpOutside year month (some value)) := by
  have present : pickup.reduceOption ≠ [] ↔ ∃ value, some value ∈ pickup := by
    constructor
    · intro some_pickup
      obtain ⟨value, member⟩ := List.exists_mem_of_ne_nil _ some_pickup
      exact ⟨value, List.reduceOption_mem_iff.mp member⟩
    · rintro ⟨value, member⟩
      exact List.ne_nil_of_mem (List.reduceOption_mem_iff.mpr member)
  rw [outside_eq]
  by_cases last : year = 9999 ∧ month = 12
  · have isLast : first.year = 9999 ∧ first.month = 12 := by omega
    have always := fun value => last_window isLast isFirst value
    have flags : failing (pickup.map (Option.map fun value => decide (value < first.midnight.timestampUs) ||
        decide (monthBeginUs (nextMonthBegin first).1 (nextMonthBegin first).2 ≤ value))) (· = some true) =
        failing pickup (· ≠ none) := by
      rw [failing_map]
      refine failing_congr fun cell _ => ?_
      cases cell with
      | none => exact iff_of_false nofun fun absent => absent rfl
      | some value => simp only [Option.map_some, always, ne_eq, reduceCtorEq, not_false_eq_true]
    have stronger : ∀ cell : Option Int64, PickedUpOutside year month cell → cell ≠ none := by
      rintro cell ⟨value, rfl, -⟩
      exact Option.some_ne_none value
    have counts : failing pickup (· ≠ none) = failing pickup (PickedUpOutside year month) ↔
        ∀ value, some value ∈ pickup → PickedUpOutside year month (some value) := by
      rw [failing_eq_iff stronger]
      constructor
      · intro outside value member
        exact outside _ member (Option.some_ne_none value)
      · intro outside cell member kept
        obtain ⟨value, rfl⟩ := Option.ne_none_iff_exists'.mp kept
        exact outside value member
    simp only [sum_eq, flags, List.reduceOption_map, List.map_eq_nil_iff]
    rw [← present, ← counts]
    by_cases nothing : pickup.reduceOption = []
    · rw [if_pos nothing]
      exact iff_of_false nofun fun both => both.1 nothing
    · rw [if_neg nothing, Option.some_inj]
      exact ⟨fun same => ⟨nothing, fun _ => same⟩, fun both => both.2 last⟩
  · have yearRange := first.year_range
    have monthRange := first.month_range
    obtain ⟨next, -, isNext, adjacent⟩ := firstOfNextMonth_ok (by omega : 1 ≤ year ∧ year ≤ 9999)
      (by omega : 1 ≤ month ∧ month ≤ 12) last firstYear firstMonth
    rw [outside_sum (outside_window isFirst isNext adjacent firstYear firstMonth), ← present]
    by_cases nothing : pickup.reduceOption = []
    · rw [if_pos nothing]
      exact iff_of_false nofun fun both => both.1 nothing
    · rw [if_neg nothing]
      exact iff_of_true rfl ⟨nothing, fun isLast => absurd isLast last⟩

/-- The three counts are the defined ones exactly when as many early dropoffs are missed as late ones wrap around,
some pickup is not null, and none lies in the last month of all if that is the month of the source. -/
theorem durationProfile_iff (quantile : Quantiles) (lengths : pickup.length = dropoff.length)
    (yearRange : 1 ≤ year ∧ year ≤ 9999) (monthRange : 1 ≤ month ∧ month ≤ 12) :
    (∃ profile, durationProfile quantile pickup dropoff year month = .ok profile ∧
        CountsAnomalies profile pickup dropoff year month) ↔
      failing (pickup.zip dropoff) MissedTrip = failing (pickup.zip dropoff) WrappedTrip ∧
        (∃ value, some value ∈ pickup) ∧ (year = 9999 ∧ month = 12 →
          ∀ value, some value ∈ pickup → PickedUpOutside year month (some value)) := by
  obtain ⟨first, firstOk, firstYear, firstMonth, isFirst⟩ := firstOfMonth_ok yearRange monthRange
  obtain ⟨values, profiled, negatives⟩ := numericProfile_ok quantile
    (Compute.divide (Compute.subtract dropoff pickup) 1000000)
  rw [durations_eq] at negatives
  have counted := @outside_count_iff pickup year month first isFirst firstYear firstMonth
  unfold durationProfile
  dsimp only
  rw [profiled, firstOk]
  constructor
  · rintro ⟨profile, returned, droppedBefore, -, outsideMonth⟩
    cases returned
    have balanced := Option.some.inj (negatives.symm.trans droppedBefore)
    exact ⟨negative_durations_iff.mp balanced, counted.mp outsideMonth⟩
  · rintro ⟨balanced, ⟨value, member⟩, lastMonth⟩
    have nonempty : 0 < (pickup.zip dropoff).length := by
      have rows := List.length_pos_of_mem member
      rw [List.length_zip, ← lengths, Nat.min_self]
      exact rows
    refine ⟨_, rfl, ?_, ?_, counted.mpr ⟨⟨value, member⟩, lastMonth⟩⟩
    · exact negatives.trans (congrArg some (negative_durations_iff.mpr balanced))
    · exact eitherNull_sum (List.ne_nil_of_length_pos nonempty)

/-- The SQL rule counts the same trips: it compares the moments that the columns hold. -/
theorem droppedOffBefore_iff (pickup dropoff : Option DateTime) : DroppedOffBefore pickup dropoff ↔
    DroppedBefore (pickup.map DateTime.timestampUs, dropoff.map DateTime.timestampUs) := by
  have order : ∀ earlier later : DateTime,
      later.toMicroseconds < earlier.toMicroseconds ↔ later.timestampUs.toInt < earlier.timestampUs.toInt := by
    intro earlier later
    rw [DateTime.timestampUs_toInt, DateTime.timestampUs_toInt, DateTime.sinceEpoch, DateTime.sinceEpoch,
      Int.sub_lt_sub_right_iff]
  cases pickup with
  | none => exact iff_of_false (fun ⟨_, _, same, _⟩ => nomatch same) fun ⟨_, _, same, _⟩ => nomatch same
  | some earlier =>
    cases dropoff with
    | none => exact iff_of_false (fun ⟨_, _, _, same, _⟩ => nomatch same) fun ⟨_, _, same, _⟩ => nomatch same
    | some later => simp [DroppedOffBefore, DroppedBefore, order]

/-- A dropoff half a second before its pickup, on 1 January 2025, is not counted. -/
theorem halfSecond_missed : ¬ ∀ (quantile : Quantiles) (pickup dropoff : Column Int64) (year month : Int),
    pickup.length = dropoff.length → pickup ≠ [] → 1 ≤ year ∧ year ≤ 9999 → 1 ≤ month ∧ month ≤ 12 →
      ∃ profile, durationProfile quantile pickup dropoff year month = .ok profile ∧
        CountsAnomalies profile pickup dropoff year month := by
  intro always
  obtain ⟨profile, returned, droppedBefore, -, -⟩ := always (fun _ _ => none) [some 1735689601000000]
    [some 1735689600500000] 2025 1 rfl (by decide) (by decide) (by decide)
  have counted := (profile_counts returned).symm.trans droppedBefore
  have early : DroppedBefore (some 1735689601000000, some 1735689600500000) := ⟨_, _, rfl, by decide⟩
  have duration : ¬ ∃ value, some (durationSeconds 1735689601000000 1735689600500000) = some value ∧ value < 0 := by
    rintro ⟨value, same, negative⟩
    cases same
    exact absurd negative (by decide)
  simp only [List.zip_cons_cons, List.zip_nil_left, List.map_cons, List.map_nil, Option.map₂_some_some] at counted
  rw [failing_cons, failing_cons, if_pos early, if_neg duration] at counted
  cases counted

/-- A trip of one day before its pickup, one without a pickup, and one of 1969. -/
theorem threeTrips_counted : ∃ profile, durationProfile (fun _ _ => none)
      [some 1735776000000000, none, some (-1)] [some 1735689600000000, some 1735776000000000, some 0] 2025 1 =
        .ok profile ∧
    CountsAnomalies profile [some 1735776000000000, none, some (-1)]
      [some 1735689600000000, some 1735776000000000, some 0] 2025 1 := by
  refine (@durationProfile_iff [some 1735776000000000, none, some (-1)]
    [some 1735689600000000, some 1735776000000000, some 0] 2025 1 (fun _ _ => none) rfl (by decide) (by decide)).mpr
      ⟨?_, ⟨_, List.mem_cons_self⟩, fun last => absurd last (by decide)⟩
  rw [failing_zero, failing_zero]
  · intro trip member
    simp only [List.zip_cons_cons, List.zip_nil_left, List.mem_cons, List.not_mem_nil, or_false] at member
    rintro ⟨pickup, dropoff, same, far, -⟩
    rcases member with rfl | rfl | rfl <;> cases same <;> exact absurd far (by decide)
  · intro trip member
    simp only [List.zip_cons_cons, List.zip_nil_left, List.mem_cons, List.not_mem_nil, or_false] at member
    rintro ⟨pickup, dropoff, same, before, near⟩
    rcases member with rfl | rfl | rfl <;> cases same
    · exact absurd near (by decide)
    · exact absurd before (by decide)

end Profile

end TaxiPipeline
