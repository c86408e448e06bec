import Mathlib.Order.Monotone.Basic
import TaxiPipeline.Model.Measurements
import TaxiPipeline.Model.Registry
import TaxiPipeline.Model.Sources

namespace TaxiPipeline

/-- The days before a month, with the months counted from January of year 1. -/
def daysBeforeIndex (index : Nat) : Nat :=
  daysBeforeYear (index / 12 + 1) + daysBeforeMonth (index / 12 + 1) (index % 12 + 1)

def daysInIndex (index : Nat) : Nat := daysInMonth (index / 12 + 1) (index % 12 + 1)

def Date.monthIndex (date : Date) : Nat := (date.year - 1) * 12 + (date.month - 1)

theorem daysBeforeYear_succ (year : Nat) :
    daysBeforeYear (year + 2) = daysBeforeYear (year + 1) + (if isLeap (year + 1) then 366 else 365) := by
  have fours : (year + 1) / 4 = year / 4 + if (year + 1) % 4 = 0 then 1 else 0 := by split <;> omega
  have hundreds : (year + 1) / 100 = year / 100 + if (year + 1) % 100 = 0 then 1 else 0 := by split <;> omega
  have fourHundreds : (year + 1) / 400 = year / 400 + if (year + 1) % 400 = 0 then 1 else 0 := by split <;> omega
  have order : year / 100 ≤ year / 4 := by omega
  have leap : isLeap (year + 1) = true ↔
      (year + 1) % 4 = 0 ∧ ((year + 1) % 100 ≠ 0 ∨ (year + 1) % 400 = 0) := by
    simp [isLeap]
  show (year + 1) * 365 + (year + 1) / 4 - (year + 1) / 100 + (year + 1) / 400 =
    year * 365 + year / 4 - year / 100 + year / 400 + _
  rw [fours, hundreds, fourHundreds]
  simp only [leap]
  by_cases four : (year + 1) % 4 = 0
  · by_cases hundred : (year + 1) % 100 = 0
    · by_cases fourHundred : (year + 1) % 400 = 0
      · simp only [four, hundred, fourHundred, if_true, ne_eq, not_true_eq_false, or_true, and_self]
        omega
      · simp only [four, hundred, fourHundred, if_true, if_false, ne_eq, not_true_eq_false, or_self, and_false]
        omega
    · have fourHundred : (year + 1) % 400 ≠ 0 := by omega
      simp only [four, hundred, fourHundred, if_true, if_false, ne_eq, not_false_eq_true, true_or, and_self]
      omega
  · have hundred : (year + 1) % 100 ≠ 0 := by omega
    have fourHundred : (year + 1) % 400 ≠ 0 := by omega
    simp only [four, hundred, fourHundred, if_false, false_and]
    omega

theorem daysInMonth_sum (year : Nat) :
    daysBeforeMonth year 12 + daysInMonth year 12 = if isLeap year then 366 else 365 := by
  cases leap : isLeap year <;> simp [daysBeforeMonth, daysInMonth, leap]

theorem daysInMonth_pos (year month : Nat) : 0 < daysInMonth year month := by
  unfold daysInMonth
  split_ifs <;> omega

theorem daysBeforeIndex_succ (index : Nat) :
    daysBeforeIndex (index + 1) = daysBeforeIndex index + daysInIndex index := by
  unfold daysBeforeIndex daysInIndex
  by_cases december : index % 12 = 11
  · have year : (index + 1) / 12 = index / 12 + 1 := by omega
    have month : (index + 1) % 12 = 0 := by omega
    have january : daysBeforeMonth (index / 12 + 1 + 1) (0 + 1) = 0 := rfl
    rw [year, month, december, january, daysBeforeYear_succ, ← daysInMonth_sum, add_zero, add_assoc]
  · have year : (index + 1) / 12 = index / 12 := by omega
    have month : (index + 1) % 12 = index % 12 + 1 := by omega
    have step : daysBeforeMonth (index / 12 + 1) (index % 12 + 1 + 1) =
        daysBeforeMonth (index / 12 + 1) (index % 12 + 1) + daysInMonth (index / 12 + 1) (index % 12 + 1) := rfl
    rw [year, month, step]
    omega

theorem daysBeforeIndex_strictMono : StrictMono daysBeforeIndex :=
  strictMono_nat_of_lt_succ fun index => by
    have length : 0 < daysInIndex index := daysInMonth_pos _ _
    have step := daysBeforeIndex_succ index
    omega

theorem Date.year_month (date : Date) :
    date.monthIndex / 12 + 1 = date.year ∧ date.monthIndex % 12 + 1 = date.month := by
  have year := date.year_range
  have month := date.month_range
  unfold Date.monthIndex
  omega

theorem Date.toOrdinal_eq (date : Date) : date.toOrdinal = daysBeforeIndex date.monthIndex + date.day := by
  rw [Date.toOrdinal, daysBeforeIndex, date.year_month.1, date.year_month.2]

theorem Date.day_in_month (date : Date) : date.day ≤ daysInIndex date.monthIndex := by
  rw [daysInIndex, date.year_month.1, date.year_month.2]
  exact date.day_range.2

theorem daysBeforeIndex_january (year : Nat) : daysBeforeIndex (year * 12) = daysBeforeYear (year + 1) := by
  have years : year * 12 / 12 = year := by omega
  have january : year * 12 % 12 + 1 = 1 := by omega
  rw [daysBeforeIndex, years, january]
  rfl

theorem daysBeforeYear_mono {year later : Nat} (ordered : year ≤ later) :
    daysBeforeYear (year + 1) ≤ daysBeforeYear (later + 1) := by
  rw [← daysBeforeIndex_january, ← daysBeforeIndex_january]
  exact daysBeforeIndex_strictMono.monotone (by omega)

theorem daysBeforeMonth_next (year : Nat) {month later : Nat} (first : 1 ≤ month) (earlier : month < later) :
    daysBeforeMonth year month + daysInMonth year month ≤ daysBeforeMonth year later := by
  have next : ∀ month, 1 ≤ month → daysBeforeMonth year (month + 1) =
      daysBeforeMonth year month + daysInMonth year month := by
    intro month first
    cases month with
    | zero => exact absurd first (by decide)
    | succ month => rfl
  induction earlier with
  | refl => exact (next month first).ge
  | @step later earlier ih =>
    have positive : 1 ≤ later := le_trans (Nat.le_add_left 1 month) earlier
    rw [next later positive]
    omega

theorem Date.ordinal_in_year (date : Date) :
    daysBeforeYear date.year < date.toOrdinal ∧ date.toOrdinal ≤ daysBeforeYear (date.year + 1) := by
  have day := date.day_range.1
  have bound := date.day_in_month
  have next := daysBeforeIndex_succ date.monthIndex
  have within : daysBeforeIndex (date.monthIndex + 1) ≤ daysBeforeIndex (date.year * 12) :=
    daysBeforeIndex_strictMono.monotone (by
      have year := date.year_range
      have month := date.month_range
      unfold Date.monthIndex
      omega)
  rw [daysBeforeIndex_january] at within
  have ordinal := date.toOrdinal_eq
  refine ⟨?_, by omega⟩
  unfold Date.toOrdinal
  omega

theorem Date.fromOrdinal_toOrdinal (date : Date) : Date.fromOrdinal date.toOrdinal = some date := by
  obtain ⟨above, below⟩ := date.ordinal_in_year
  have yearRange := date.year_range
  have monthRange := date.month_range
  have dayRange := date.day_range
  have leaps : daysBeforeYear (date.year + 1) ≤ 366 * date.year ∧ 365 * (date.year - 1) ≤ daysBeforeYear date.year := by
    unfold daysBeforeYear
    omega
  have year : ((List.range' ((date.toOrdinal - 1) / 366 + 1) 40).find? fun year =>
      date.toOrdinal ≤ daysBeforeYear (year + 1)) = some date.year := by
    rw [List.find?_range'_eq_some, decide_eq_true_eq, List.mem_range'_1]
    refine ⟨below, ⟨by omega, by omega⟩, fun earlier first before => ?_⟩
    obtain ⟨previous, same⟩ : ∃ previous, date.year = previous + 1 := ⟨date.year - 1, by omega⟩
    have ordered := daysBeforeYear_mono (show earlier ≤ previous by omega)
    rw [← same] at ordered
    simp only [Bool.not_eq_true', decide_eq_false_iff_not, not_le]
    omega
  have month : ((List.range' 1 12).find? fun month => date.toOrdinal ≤ daysBeforeYear date.year +
      daysBeforeMonth date.year month + daysInMonth date.year month) = some date.month := by
    rw [List.find?_range'_eq_some, decide_eq_true_eq, List.mem_range'_1]
    unfold Date.toOrdinal
    refine ⟨by omega, ⟨by omega, by omega⟩, fun earlier first before => ?_⟩
    have ordered := daysBeforeMonth_next date.year first before
    simp only [Bool.not_eq_true', decide_eq_false_iff_not, not_le]
    omega
  have day : date.toOrdinal - daysBeforeYear date.year - daysBeforeMonth date.year date.month = date.day := by
    unfold Date.toOrdinal
    omega
  unfold Date.fromOrdinal
  rw [year, Option.bind_eq_bind, Option.bind_some, month, Option.bind_some, day]
  unfold Date.of?
  rw [dif_pos yearRange, dif_pos monthRange, dif_pos dayRange]

theorem Date.fromOrdinal_some {ordinal : Nat} {date : Date} (found : Date.fromOrdinal ordinal = some date) :
    date.toOrdinal = ordinal := by
  unfold Date.fromOrdinal at found
  obtain ⟨year, -, found⟩ := Option.bind_eq_some_iff.mp found
  obtain ⟨month, -, found⟩ := Option.bind_eq_some_iff.mp found
  unfold Date.of? at found
  split at found
  · split at found
    · split at found
      · rename_i dayRange
        obtain rfl := Option.some.inj found
        unfold Date.toOrdinal
        dsimp only
        omega
      · cases found
    · cases found
  · cases found

/-- Python's `datetime` has a moment exactly for the microseconds of one. -/
theorem DateTime.fromEpoch_eq_some {microseconds : Int} {moment : DateTime} :
    DateTime.fromEpoch microseconds = some moment ↔ microseconds = moment.sinceEpoch := by
  have positive : ∀ date : Date, 1 ≤ date.toOrdinal := fun date =>
    Nat.one_le_of_lt (Nat.lt_of_le_of_lt (Nat.zero_le _) date.ordinal_in_year.1)
  unfold DateTime.fromEpoch DateTime.sinceEpoch DateTime.toMicroseconds
  constructor
  · intro found
    obtain ⟨date, dated, rfl⟩ := Option.map_eq_some_iff.mp found
    have ordinal := Date.fromOrdinal_some dated
    have first := positive date
    dsimp only
    omega
  · rintro rfl
    have range := moment.microsecond_range
    have first := positive moment.date
    have day : ((moment.date.toOrdinal * 86400000000 + moment.microsecond - 719163 * 86400000000 : Int) / 86400000000 +
        719163).toNat = moment.date.toOrdinal := by omega
    have time : ((moment.date.toOrdinal * 86400000000 + moment.microsecond - 719163 * 86400000000 : Int) %
        86400000000).toNat = moment.microsecond := by omega
    rw [day, Date.fromOrdinal_toOrdinal, Option.map_some]
    simp only [time]

theorem Date.lt_first {date first : Date} (isFirst : first.day = 1) :
    date.toOrdinal < first.toOrdinal ↔ date.monthIndex < first.monthIndex := by
  have day := date.day_range.1
  have bound := date.day_in_month
  have next := daysBeforeIndex_succ date.monthIndex
  rw [date.toOrdinal_eq, first.toOrdinal_eq, isFirst]
  constructor
  · intro earlier
    by_contra later
    have ordered := daysBeforeIndex_strictMono.monotone (not_lt.mp later)
    omega
  · intro earlier
    have ordered := daysBeforeIndex_strictMono.monotone (Nat.succ_le_of_lt earlier)
    rw [Nat.succ_eq_add_one] at ordered
    omega

theorem DateTime.before_midnight (moment : DateTime) (date : Date) :
    moment.before date.midnight = true ↔ moment.date.toOrdinal < date.toOrdinal := by
  have range := moment.microsecond_range
  have numbers : (moment.date.toOrdinal : Int) * 86400000000 + moment.microsecond <
      (date.toOrdinal : Int) * 86400000000 + (0 : Nat) ↔ moment.date.toOrdinal < date.toOrdinal := by
    omega
  rw [← numbers]
  exact decide_eq_true_iff

theorem Date.same_month {left right : Date} :
    left.monthIndex = right.monthIndex ↔ left.year = right.year ∧ left.month = right.month := by
  have leftYear := left.year_range
  have leftMonth := left.month_range
  have rightYear := right.year_range
  have rightMonth := right.month_range
  unfold Date.monthIndex
  omega

theorem outsideMonth_some (first next : Date) (moment : DateTime) : outsideMonth first next (some moment) =
    (moment.before first.midnight || !moment.before next.midnight) := by
  rw [outsideMonth, holds, Option.any_some]

/-- Between the first of a month and the first of the next are the moments of the month. -/
theorem outsideMonth_iff {first next : Date} (isFirst : first.day = 1) (isNext : next.day = 1)
    (adjacent : next.monthIndex = first.monthIndex + 1) (pickup : Option DateTime) :
    outsideMonth first next pickup = true ↔
      ∃ moment, pickup = some moment ∧ ¬ (moment.date.year = first.year ∧ moment.date.month = first.month) := by
  cases pickup with
  | none => exact iff_of_false Bool.false_ne_true nofun
  | some moment =>
    have counted : outsideMonth first next (some moment) = true ↔
        moment.date.monthIndex < first.monthIndex ∨ ¬ moment.date.monthIndex < next.monthIndex := by
      rw [← Date.lt_first isFirst, ← Date.lt_first isNext, ← moment.before_midnight, ← moment.before_midnight]
      rw [outsideMonth_some, Bool.or_eq_true, Bool.not_eq_true', Bool.not_eq_true]
    rw [counted, adjacent]
    have same := @Date.same_month moment.date first
    constructor
    · intro outside
      refine ⟨moment, rfl, fun inside => ?_⟩
      have index := same.mpr inside
      omega
    · rintro ⟨other, is_moment, outside⟩
      cases is_moment
      by_contra inside
      exact outside (same.mp (by omega))

theorem firstOfMonth_ok {year month : Int} (yearRange : 1 ≤ year ∧ year ≤ 9999) (monthRange : 1 ≤ month ∧ month ≤ 12) :
    ∃ first, firstOfMonth year month = .ok first ∧ (first.year : Int) = year ∧ (first.month : Int) = month ∧
      first.day = 1 := by
  rw [firstOfMonth, dif_pos yearRange, dif_pos monthRange]
  refine ⟨_, rfl, ?_, ?_, rfl⟩
  · exact Int.toNat_of_nonneg (by omega)
  · exact Int.toNat_of_nonneg (by omega)

/-- The first of the next month is a date, but for December 9999. -/
theorem firstOfNextMonth_ok {year month : Int} (yearRange : 1 ≤ year ∧ year ≤ 9999)
    (monthRange : 1 ≤ month ∧ month ≤ 12) (notLast : ¬ (year = 9999 ∧ month = 12)) {first : Date}
    (firstYear : (first.year : Int) = year) (firstMonth : (first.month : Int) = month) :
    ∃ next, firstOfNextMonth year month = .ok next ∧ next.day = 1 ∧ next.monthIndex = first.monthIndex + 1 := by
  unfold firstOfNextMonth Date.monthIndex
  by_cases december : month = 12
  · obtain ⟨next, ok, nextYear, nextMonth, isFirst⟩ := @firstOfMonth_ok (year + 1) (month % 12 + 1)
      (by omega) (by omega)
    rw [if_pos december]
    refine ⟨next, ok, isFirst, ?_⟩
    omega
  · obtain ⟨next, ok, nextYear, nextMonth, isFirst⟩ := @firstOfMonth_ok (year + 0) (month % 12 + 1)
      (by omega) (by omega)
    rw [if_neg december]
    refine ⟨next, ok, isFirst, ?_⟩
    omega

theorem firstOfNextMonth_last : firstOfNextMonth 9999 12 = .error (valueError "year 10000 is out of range") := rfl

/-- A pickup that there is, in another month than the source's. -/
def PickedUpElsewhere (year month : Int) (pickup : Option DateTime) : Prop :=
  ∃ moment, pickup = some moment ∧ ¬ ((moment.date.year : Int) = year ∧ (moment.date.month : Int) = month)

instance (year month : Int) (pickup : Option DateTime) : Decidable (PickedUpElsewhere year month pickup) :=
  match pickup with
  | none => .isFalse nofun
  | some moment => decidable_of_iff (¬ ((moment.date.year : Int) = year ∧ (moment.date.month : Int) = month))
      ⟨fun elsewhere => ⟨moment, rfl, elsewhere⟩, fun ⟨_, same, elsewhere⟩ => Option.some.inj same ▸ elsewhere⟩

theorem monthWindow_ok {year month : Int} (yearRange : 1 ≤ year ∧ year ≤ 9999) (monthRange : 1 ≤ month ∧ month ≤ 12)
    (notLast : ¬ (year = 9999 ∧ month = 12)) :
    ∃ first next, firstOfMonth year month = .ok first ∧ firstOfNextMonth year month = .ok next ∧
      ∀ pickup, outsideMonth first next pickup = decide (PickedUpElsewhere year month pickup) := by
  obtain ⟨first, firstOk, firstYear, firstMonth, isFirst⟩ := firstOfMonth_ok yearRange monthRange
  obtain ⟨next, nextOk, isNext, adjacent⟩ := firstOfNextMonth_ok yearRange monthRange notLast firstYear firstMonth
  refine ⟨first, next, firstOk, nextOk, fun pickup => ?_⟩
  rw [Bool.eq_iff_iff, outsideMonth_iff isFirst isNext adjacent, decide_eq_true_iff, PickedUpElsewhere]
  refine exists_congr fun moment => and_congr_right fun _ => not_congr ?_
  rw [← firstYear, ← firstMonth, Int.natCast_inj, Int.natCast_inj]

/-- The measurements of a source come, with the pickups of other months counted. -/
def MonthAligned {table : RawTable} (db : Database) (model : TripModel table) (sourceFileId : Nat) (year month : Int) :
    Prop :=
  ∃ rowsChecked measurements,
    scalarMeasurements db model sourceFileId year month = .ok (rowsChecked, measurements) ∧
      measurements.lookup "pickup_outside_source_month" = some ⟨rowsChecked,
        (db.trips table sourceFileId).countP fun trip =>
          decide (PickedUpElsewhere year month (model.pickupDatetime trip)), none⟩

/-- The window of a month is there, and the moment is not outside. -/
def InsideMonth (moment : DateTime) (year month : Int) : Prop :=
  ∃ first next, firstOfMonth year month = .ok first ∧ firstOfNextMonth year month = .ok next ∧
    outsideMonth first next (some moment) = false

/-- What a condition counts of the trips of a source. -/
def countedMeasurement {table : RawTable} (trips : List table.Values) (condition : table.Values → Bool) :
    QualityMeasurement :=
  ⟨trips.length, trips.countP condition, none⟩

section Alignment

variable {year month : Int} {service : String} {source : SourcePartition} {table : RawTable}

theorem scalarMeasurements_ok {first next : Date} (firstOk : firstOfMonth year month = .ok first)
    (nextOk : firstOfNextMonth year month = .ok next) (db : Database) (model : TripModel table) (sourceFileId : Nat) :
    scalarMeasurements db model sourceFileId year month = .ok ((db.trips table sourceFileId).length,
      (scalarConditions model first next).map fun entry =>
        (entry.1, countedMeasurement (db.trips table sourceFileId) entry.2)) := by
  simp only [scalarMeasurements, firstOk, nextOk, Bind.bind, Except.bind, pure, Except.pure]
  rfl

theorem monthAligned_iff (resolved : monthlyTripSource service year month = .ok source) (db : Database)
    (model : TripModel table) (sourceFileId : Nat) :
    MonthAligned db model sourceFileId year month ↔ ¬ (year = 9999 ∧ month = 12) := by
  obtain ⟨yearOk, monthOk, -⟩ := monthlyTripSource_ok resolved
  constructor
  · rintro ⟨rowsChecked, measurements, returned, -⟩ ⟨rfl, rfl⟩
    obtain ⟨first, firstOk, -⟩ := firstOfMonth_ok (by decide : (1 : Int) ≤ 9999 ∧ (9999 : Int) ≤ 9999) monthOk
    simp only [scalarMeasurements, firstOk, firstOfNextMonth_last, Bind.bind, Except.bind] at returned
    cases returned
  · intro notLast
    obtain ⟨first, next, firstOk, nextOk, counts⟩ := monthWindow_ok (by omega) monthOk notLast
    refine ⟨_, _, scalarMeasurements_ok firstOk nextOk db model sourceFileId, ?_⟩
    have counted : (fun trip => outsideMonth first next (model.pickupDatetime trip)) =
        fun trip => decide (PickedUpElsewhere year month (model.pickupDatetime trip)) :=
      funext fun trip => counts (model.pickupDatetime trip)
    rw [← counted]
    exact List.lookup_cons_self

theorem insideMonth_iff (yearRange : 1 ≤ year ∧ year ≤ 9999) (monthRange : 1 ≤ month ∧ month ≤ 12)
    (moment : DateTime) : InsideMonth moment year month ↔ ¬ (year = 9999 ∧ month = 12) ∧
      (moment.date.year : Int) = year ∧ (moment.date.month : Int) = month := by
  constructor
  · rintro ⟨first, next, firstOk, nextOk, inside⟩
    have notLast : ¬ (year = 9999 ∧ month = 12) := by
      rintro ⟨rfl, rfl⟩
      cases firstOfNextMonth_last.symm.trans nextOk
    obtain ⟨first', next', firstOk', nextOk', counts⟩ := monthWindow_ok yearRange monthRange notLast
    cases firstOk.symm.trans firstOk'
    cases nextOk.symm.trans nextOk'
    rw [counts, decide_eq_false_iff_not] at inside
    refine ⟨notLast, ?_⟩
    by_contra elsewhere
    exact inside ⟨moment, rfl, elsewhere⟩
  · rintro ⟨notLast, same⟩
    obtain ⟨first, next, firstOk, nextOk, counts⟩ := monthWindow_ok yearRange monthRange notLast
    refine ⟨first, next, firstOk, nextOk, ?_⟩
    rw [counts, decide_eq_false_iff_not]
    rintro ⟨other, is_moment, elsewhere⟩
    cases is_moment
    exact elsewhere same

end Alignment

/-- Every admitted month but the last is measured as its calendar month, and the moments of the admitted
    years are each in one of those months. -/
theorem months_align_iff (service : String) :
    (∀ year month source, monthlyTripSource service year month = .ok source →
      ∀ (table : RawTable) (db : Database) (model : TripModel table) (sourceFileId : Nat),
        MonthAligned db model sourceFileId year month ↔ ¬ (year = 9999 ∧ month = 12)) ∧
      ∀ moment : DateTime, 1000 ≤ moment.date.year →
        ((∃! period : Int × Int, (∃ source, monthlyTripSource service period.1 period.2 = .ok source) ∧
          InsideMonth moment period.1 period.2) ↔ ¬ (moment.date.year = 9999 ∧ moment.date.month = 12)) := by
  refine ⟨fun year month source resolved table db model sourceFileId =>
    monthAligned_iff resolved db model sourceFileId, fun moment admitted => ?_⟩
  have yearRange := moment.date.year_range
  have monthRange := moment.date.month_range
  constructor
  · rintro ⟨⟨year, month⟩, ⟨⟨source, resolved⟩, inside⟩, -⟩ ⟨lastYear, lastMonth⟩
    obtain ⟨yearOk, monthOk, -⟩ := monthlyTripSource_ok resolved
    obtain ⟨notLast, sameYear, sameMonth⟩ := (insideMonth_iff (by omega) monthOk moment).mp inside
    exact notLast ⟨by omega, by omega⟩
  · intro notLast
    refine ⟨(moment.date.year, moment.date.month), ⟨?_, ?_⟩, ?_⟩
    · unfold monthlyTripSource
      rw [if_neg (by omega), if_neg (by omega)]
      exact ⟨_, rfl⟩
    · exact (insideMonth_iff (by omega) (by omega) moment).mpr ⟨by omega, rfl, rfl⟩
    · rintro ⟨year, month⟩ ⟨⟨source, resolved⟩, inside⟩
      obtain ⟨yearOk, monthOk, -⟩ := monthlyTripSource_ok resolved
      obtain ⟨-, sameYear, sameMonth⟩ := (insideMonth_iff (by omega) monthOk moment).mp inside
      exact Prod.ext sameYear.symm sameMonth.symm

def nullTrip : YellowTrip :=
  ⟨none, none, none, none, none, none, none, none, none, none, none, none, none, none, none, none, none, none, none,
    none⟩

/-- A loaded source of the last month that the resolver admits. -/
def lastDecember : Database :=
  { Database.empty with
    sourceFiles := [{ newSourceFile 1 .loaded 0 {
      datasetName := "yellow_tripdata"
      serviceType := some "yellow"
      year := some 9999
      month := some 12
      partitionKey := "yellow/9999/12"
      sourceUrl := "https://d37ci6vzurychx.cloudfront.net/trip-data/yellow_tripdata_9999-12.parquet"
      landingPath := "data/landing/yellow/9999/12.parquet"
      sourceFormat := "parquet"
      checksumSha256 := 1
      fileSizeBytes := 1
      rowCount := some 1
      schemaFingerprint := some 1
      schemaVersion := some "yellow_v1" } with loadedAt := some 0 }]
    raw := fun
      | .yellowTrips => [⟨⟨1, 1, 1⟩, 0, nullTrip⟩]
      | _ => [] }

theorem november_aligned : MonthAligned lastDecember yellowTripModel 1 9999 11 :=
  ((months_align_iff "yellow").1 9999 11 _ rfl .yellowTrips lastDecember yellowTripModel 1).mpr (by decide)

theorem lastDecember_raises :
    (∃ source, yellowTripSource 9999 12 = .ok source ∧
      lastDecember.sourceFiles.map (fun row => (row.partitionKey, row.status)) = [(source.partitionKey, .loaded)]) ∧
      scalarMeasurements lastDecember yellowTripModel 1 9999 12 =
        .error (valueError "year 10000 is out of range") ∧
      ¬ MonthAligned lastDecember yellowTripModel 1 9999 12 := by
  have raises : scalarMeasurements lastDecember yellowTripModel 1 9999 12 =
      .error (valueError "year 10000 is out of range") := rfl
  refine ⟨⟨_, rfl, rfl⟩, raises, ?_⟩
  rintro ⟨rowsChecked, measurements, returned, -⟩
  cases raises.symm.trans returned

end TaxiPipeline
