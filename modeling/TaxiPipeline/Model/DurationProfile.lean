import Mathlib.Data.List.ReduceOption
import Mathlib.Data.Option.NAry
import TaxiPipeline.Model.Measurements

namespace TaxiPipeline

/-- An Arrow column; `none` is null. -/
abbrev Column (α : Type) := List (Option α)

namespace Compute

variable {α β γ : Type}

/-- A kernel of two columns: null where either one is. -/
def elementwise (op : α → β → γ) (left : Column α) (right : Column β) : Column γ :=
  List.zipWith (Option.map₂ op) left right

def withScalar (op : α → β → γ) (column : Column α) (scalar : β) : Column γ := column.map (Option.map (op · scalar))

/-- `pc.subtract` wraps on overflow. -/
def subtract : Column Int64 → Column Int64 → Column Int64 := elementwise (· - ·)

/-- `pc.divide` truncates toward zero. -/
def divide : Column Int64 → Int64 → Column Int64 := withScalar (· / ·)

def less : Column Int64 → Int64 → Column Bool := withScalar fun value scalar => value < scalar

def greater : Column Int64 → Int64 → Column Bool := withScalar fun value scalar => scalar < value

def greaterEqual : Column Int64 → Int64 → Column Bool := withScalar fun value scalar => scalar ≤ value

def equal : Column Int64 → Int64 → Column Bool := withScalar fun value scalar => value == scalar

def isNull (column : Column α) : Column Bool := column.map fun cell => some cell.isNone

def isValid (column : Column α) : Column Bool := column.map fun cell => some cell.isSome

/-- `pc.or_` and `pc.and_` are not the Kleene ones: null with anything is null. -/
def or : Column Bool → Column Bool → Column Bool := elementwise (· || ·)

def and : Column Bool → Column Bool → Column Bool := elementwise (· && ·)

/-- `pc.sum` skips nulls and is null when nothing remains. -/
def sum (column : Column Bool) : Option Nat :=
  if column.reduceOption = [] then none else some (column.reduceOption.count true)

end Compute

/-- The quantiles of `pc.quantile` as `_scalar` returns them. -/
abbrev Quantiles := List Int64 → Rat → Option Double

structure NumericProfile where
  nonNullCount : Nat
  nullCount : Nat
  nullRate : Rat
  minimum : Option Int
  p01 : Option Double
  p50 : Option Double
  p95 : Option Double
  p99 : Option Double
  maximum : Option Int
  countLt0 : Option Nat
  countEq0 : Option Nat
  countGt0 : Option Nat

def assertionError : PyException := ⟨.other "AssertionError", ""⟩

def numericProfile (quantile : Quantiles) (array : Column Int64) : Except PyException NumericProfile :=
  let valid := array.reduceOption
  let total := array.length
  let nullCount := array.countP Option.isNone
  let result : NumericProfile := {
    nonNullCount := valid.length
    nullCount := nullCount
    nullRate := if total = 0 then 0 else nullCount / total
    minimum := none
    p01 := none
    p50 := none
    p95 := none
    p99 := none
    maximum := none
    countLt0 := some 0
    countEq0 := some 0
    countGt0 := some 0 }
  let result :=
    if valid = [] then result
    else { result with
      minimum := (valid.map Int64.toInt).min?
      p01 := quantile valid (1 / 100)
      p50 := quantile valid (1 / 2)
      p95 := quantile valid (95 / 100)
      p99 := quantile valid (99 / 100)
      maximum := (valid.map Int64.toInt).max?
      countLt0 := Compute.sum (Compute.less (valid.map some) 0)
      countEq0 := Compute.sum (Compute.equal (valid.map some) 0)
      countGt0 := Compute.sum (Compute.greater (valid.map some) 0) }
  if result.nonNullCount + result.nullCount ≠ total then .error assertionError else .ok result

def DateTime.timestampUs (moment : DateTime) : Int64 := Int64.ofInt moment.sinceEpoch

structure DurationProfile extends NumericProfile where
  dropoffBeforePickupCount : Option Nat
  eitherDatetimeNullCount : Option Nat
  pickupOutsideNominalMonthCount : Option Nat

/-- The year and the month of `start + pd.offsets.MonthBegin(1)`; a `pd.Timestamp` has years beyond 9999. -/
def nextMonthBegin (start : Date) : Nat × Nat :=
  if start.month = 12 then (start.year + 1, 1) else (start.year, start.month + 1)

/-- The year of the `datetime` that a `pd.Timestamp` is: a stand-in for a year that `datetime` lacks. -/
def pydatetimeYear (year : Nat) : Nat :=
  if 1 ≤ year ∧ year ≤ 9999 then year else if isLeap year then 1972 else 1970

/-- The first midnight of a month as pyarrow reads it from a `pd.Timestamp`, by the fields of the `datetime`. -/
def monthBeginUs (year month : Nat) : Int64 :=
  let ordinal := daysBeforeYear (pydatetimeYear year) + daysBeforeMonth (pydatetimeYear year) month + 1
  Int64.ofInt ((ordinal - 719163) * 86400000000)

/-- Over microsecond columns. -/
def durationProfile (quantile : Quantiles) (pickup dropoff : Column Int64) (year month : Int) :
    Except PyException DurationProfile := do
  let durationRaw := Compute.subtract dropoff pickup
  let duration := Compute.divide durationRaw 1000000
  let values ← numericProfile quantile duration
  let start ← firstOfMonth year month
  let next := nextMonthBegin start
  let outside := Compute.and (Compute.isValid pickup)
    (Compute.or (Compute.less pickup start.midnight.timestampUs)
      (Compute.greaterEqual pickup (monthBeginUs next.1 next.2)))
  return { values with
    dropoffBeforePickupCount := values.countLt0
    eitherDatetimeNullCount := Compute.sum (Compute.or (Compute.isNull pickup) (Compute.isNull dropoff))
    pickupOutsideNominalMonthCount := Compute.sum outside }

end TaxiPipeline
