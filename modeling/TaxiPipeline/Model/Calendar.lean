import Mathlib.Data.Nat.Notation
import Mathlib.Algebra.Order.Field.Rat

namespace TaxiPipeline

/-- A moment of a `timestamptz` column, in microseconds. -/
abbrev Timestamp := Int

def isLeap (year : Nat) : Bool := year % 4 == 0 && (year % 100 != 0 || year % 400 == 0)

def daysInMonth (year month : Nat) : Nat :=
  if month = 2 then if isLeap year then 29 else 28
  else if month = 4 ∨ month = 6 ∨ month = 9 ∨ month = 11 then 30 else 31

/-- The calendar dates of Python's `datetime` and so of every value the loaders copy. -/
structure Date where
  year : Nat
  month : Nat
  day : Nat
  year_range : 1 ≤ year ∧ year ≤ 9999
  month_range : 1 ≤ month ∧ month ≤ 12
  day_range : 1 ≤ day ∧ day ≤ daysInMonth year month
  deriving DecidableEq

/-- A `timestamp without time zone`: a date and the microseconds since midnight. -/
structure DateTime where
  date : Date
  microsecond : Nat
  microsecond_range : microsecond < 86400000000
  deriving DecidableEq

def Date.midnight (date : Date) : DateTime := ⟨date, 0, by decide⟩

def daysBeforeYear (year : Nat) : Nat :=
  (year - 1) * 365 + (year - 1) / 4 - (year - 1) / 100 + (year - 1) / 400

def daysBeforeMonth (year : Nat) : Nat → Nat
  | 0 => 0
  | 1 => 0
  | month + 1 => daysBeforeMonth year month + daysInMonth year month

/-- `date.toordinal()`: 1 January of year 1 is day 1, a Monday. -/
def Date.toOrdinal (date : Date) : Nat :=
  daysBeforeYear date.year + daysBeforeMonth date.year date.month + date.day

/-- `extract(isodow from date)`: Monday is 1 and Sunday is 7. -/
def Date.isoWeekday (date : Date) : Nat := (date.toOrdinal + 6) % 7 + 1

def Date.quarter (date : Date) : Nat := (date.month + 2) / 3

/-- `to_char(date, 'YYYYMMDD')::integer`. -/
def Date.key (date : Date) : Nat := date.year * 10000 + date.month * 100 + date.day

theorem Date.key_pos (date : Date) : 0 < date.key := by
  have year := date.year_range
  unfold Date.key
  omega

theorem Date.day_le (date : Date) : date.day ≤ 31 := by
  have day := date.day_range.2
  unfold daysInMonth at day
  split_ifs at day <;> omega

theorem Date.key_injective {left right : Date} (same : left.key = right.key) : left = right := by
  have leftMonth := left.month_range
  have rightMonth := right.month_range
  have leftDay := left.day_le
  have rightDay := right.day_le
  unfold Date.key at same
  have sameYear : left.year = right.year := by omega
  have sameMonth : left.month = right.month := by omega
  have sameDay : left.day = right.day := by omega
  cases left
  cases right
  exact Date.mk.injEq .. ▸ ⟨sameYear, sameMonth, sameDay⟩

def DateTime.toMicroseconds (moment : DateTime) : Int :=
  moment.date.toOrdinal * 86400000000 + moment.microsecond

/-- The microseconds since 1970, as a `timestamp[us]` counts them. -/
def DateTime.sinceEpoch (moment : DateTime) : Int := moment.toMicroseconds - 719163 * 86400000000

/-- `date(year, month, day)`, if there is one. -/
def Date.of? (year month day : Nat) : Option Date :=
  if yearRange : 1 ≤ year ∧ year ≤ 9999 then
    if monthRange : 1 ≤ month ∧ month ≤ 12 then
      if dayRange : 1 ≤ day ∧ day ≤ daysInMonth year month then
        some ⟨year, month, day, yearRange, monthRange, dayRange⟩
      else none
    else none
  else none

/-- `date.fromordinal(ordinal)`, if there is such a date; its year is sought from a lower bound on. -/
def Date.fromOrdinal (ordinal : Nat) : Option Date := do
  let year ← (List.range' ((ordinal - 1) / 366 + 1) 40).find? fun year => ordinal ≤ daysBeforeYear (year + 1)
  let month ← (List.range' 1 12).find? fun month =>
    ordinal ≤ daysBeforeYear year + daysBeforeMonth year month + daysInMonth year month
  Date.of? year month (ordinal - daysBeforeYear year - daysBeforeMonth year month)

theorem microseconds_of_day (microseconds : Int) : (microseconds % 86400000000).toNat < 86400000000 := by omega

/-- `datetime(1970, 1, 1) + timedelta(microseconds=microseconds)`, if there is such a moment. -/
def DateTime.fromEpoch (microseconds : Int) : Option DateTime :=
  (Date.fromOrdinal (microseconds / 86400000000 + 719163).toNat).map
    (⟨·, (microseconds % 86400000000).toNat, microseconds_of_day microseconds⟩)

/-- `extract(epoch from (later - earlier))`. -/
def secondsBetween (earlier later : DateTime) : Rat :=
  (later.toMicroseconds - earlier.toMicroseconds : Int) / 1000000

end TaxiPipeline
