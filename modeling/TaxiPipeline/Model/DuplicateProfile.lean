import TaxiPipeline.Model.Measurements
import TaxiPipeline.Relational.Tallies

namespace TaxiPipeline

open Relational

/-- The supported kinds of Arrow types. -/
inductive ColumnKind where
  | integer
  | floating
  | string
  | boolean
  | timestamp
  deriving DecidableEq

/-- A field of a schema; `typeName` is `str(field.type)`. -/
structure ColumnField where
  name : String
  typeName : String
  kind : ColumnKind

/-- A valid value of a column; a timestamp is a number of units since the epoch. -/
inductive Cell where
  | integer (value : Int)
  | floating (value : Double)
  | string (value : String)
  | boolean (value : Bool)
  | timestamp (ticks : Int)
  deriving DecidableEq

def Cell.kind : Cell → ColumnKind
  | .integer _ => .integer
  | .floating _ => .floating
  | .string _ => .string
  | .boolean _ => .boolean
  | .timestamp _ => .timestamp

abbrev TableRow := List (Option Cell)

def OfKind (field : ColumnField) (cell : Option Cell) : Prop := ∀ value, cell = some value → value.kind = field.kind

instance (field : ColumnField) (cell : Option Cell) : Decidable (OfKind field cell) :=
  match cell with
  | none => .isTrue nofun
  | some value =>
    decidable_of_iff (value.kind = field.kind)
      ⟨fun kind _ same => Option.some.inj same ▸ kind, fun ofKind => ofKind _ rfl⟩

structure ParquetTable where
  schema : List ColumnField
  rows : List TableRow
  typed : ∀ row ∈ rows, List.Forall₂ OfKind schema row

/-- What `as_py` gives for a valid value; a `datetime` stands by its `isoformat()`. -/
inductive PyValue where
  | int (value : Int)
  | float (value : Double)
  | str (value : String)
  | bool (value : Bool)
  | datetime (isoformat : String)

/-- The second member of the pairs of `_duplicate_value`. -/
inductive DuplicateKey where
  | text (value : String)
  | int (value : Int)
  | float (value : Double)
  | bool (value : Bool)
  deriving DecidableEq

/-- The value that a dictionary built of these entries has for a key: the last entry wins. -/
def lastValue {β : Type} (name : String) : List (String × β) → Option β
  | [] => none
  | (key, value) :: rest => (lastValue name rest).or (if key = name then some value else none)

def duplicateValue (value : Option PyValue) (typeName : String) : String × DuplicateKey :=
  match value with
  | none => (typeName, .text "null")
  | some (.datetime isoformat) => (typeName, .text isoformat)
  | some (.float value) =>
    if value.isNaN then (typeName, .text "nan")
    else if value.isZero then (typeName, .float 0)
    else (typeName, .float value)
  | some (.int value) => (typeName, .int value)
  | some (.str value) => (typeName, .text value)
  | some (.bool value) => (typeName, .bool value)

section Rows

-- The `isoformat()` of the `datetime` that a timestamp of a type becomes, or the error of becoming one.
variable (isoformat : String → Int → Except PyException String)

def asPy (field : ColumnField) : Option Cell → Except PyException (Option PyValue)
  | none => .ok none
  | some (.integer value) => .ok (some (.int value))
  | some (.floating value) => .ok (some (.float value))
  | some (.string value) => .ok (some (.str value))
  | some (.boolean value) => .ok (some (.bool value))
  | some (.timestamp ticks) => return some (.datetime (← isoformat field.typeName ticks))

/-- The entries of `batch.slice(index, 1).to_pylist()[0]`. -/
def sourceRow (schema : List ColumnField) (row : TableRow) : Except PyException (List (String × Option PyValue)) :=
  (schema.zip row).mapM fun (field, cell) => return (field.name, ← asPy isoformat field cell)

def duplicateRow (schema : List ColumnField) (row : TableRow) : Except PyException (List (String × DuplicateKey)) := do
  let source ← sourceRow isoformat schema row
  return schema.map fun field => duplicateValue (lastValue field.name source).join field.typeName

end Rows

structure DuplicateProfile where
  totalRows : Nat
  uniqueFullRows : Int
  rowsParticipatingInDuplicateGroups : Nat
  duplicateExcessRows : Nat
  duplicateGroups : Nat
  deriving DecidableEq

section Profile

variable {η : Type} [DecidableEq η] (rowHash : TableRow → η) (isoformat : String → Int → Except PyException String)
variable (schema : List ColumnField) (batches : List (List TableRow))

/-- The hashes that occur more than once. -/
def candidates : List η := ((groupCounts (batches.flatMap (List.map rowHash))).filter (1 < ·.2)).map Prod.fst

/-- The second pass: the rows with a candidate hash, counted in the bucket of their hash. -/
def candidateGroups : Except PyException (List (η × List (List (String × DuplicateKey) × Nat))) :=
  batches.foldlM (fun groups batch =>
    (batch.filter fun row => rowHash row ∈ candidates rowHash batches).foldlM (fun groups row => do
      let tuple ← duplicateRow isoformat schema row
      return alter [] (rowHash row) (increment tuple) groups) groups) []

/-- The file gives the batches of a size by `iterBatches`, the same ones in both passes; `np.isin` is membership. -/
def exactDuplicateProfile (iterBatches : Nat → List (List TableRow)) (batchSize : Nat) :
    Except PyException DuplicateProfile := do
  let batches := iterBatches batchSize
  let total := (batches.map List.length).sum
  let groups ← (if (candidates rowHash batches).isEmpty then .ok []
    else candidateGroups rowHash isoformat schema batches)
  let exactCounts := groups.flatMap fun bucket => (bucket.2.map Prod.snd).filter (1 < ·)
  let excess : Nat := (exactCounts.map (· - 1)).sum
  return {
    totalRows := total
    uniqueFullRows := (total : Int) - excess
    rowsParticipatingInDuplicateGroups := exactCounts.sum
    duplicateExcessRows := excess
    duplicateGroups := exactCounts.length }

end Profile

end TaxiPipeline
