import Mathlib.Algebra.GroupWithZero.Nat
import Mathlib.Data.List.GetD
import Mathlib.Data.List.Nodup

namespace Relational

/-- A table stored by columns, with nulls: each column has one cell for each row. -/
structure ColumnTable (ν α : Type*) where
  names : List ν
  columns : List (List (Option α))
  rowCount : Nat
  one_per_name : columns.length = names.length
  rectangular : ∀ column ∈ columns, column.length = rowCount

namespace ColumnTable

variable {ν α β : Type*}

/-- The tables hold consecutive rows of one table, and together all of them. -/
structure SlicesOf (parts : List (ColumnTable ν α)) (whole : ColumnTable ν α) : Prop where
  names : ∀ part ∈ parts, part.names = whole.names
  rowCount : (parts.map (·.rowCount)).sum = whole.rowCount
  columns : ∀ position, parts.flatMap (·.columns.getD position []) = whole.columns.getD position []

variable {table whole : ColumnTable ν α} {parts : List (ColumnTable ν α)} {name : ν}

theorem getD_length {position : Nat} (bound : position < table.names.length) :
    (table.columns.getD position []).length = table.rowCount := by
  rw [← table.one_per_name] at bound
  rw [List.getD_eq_getElem _ _ bound]
  exact table.rectangular _ (List.getElem_mem bound)

theorem replicate_slices :
    parts.flatMap (fun part => List.replicate part.rowCount (none : Option α)) =
      List.replicate (parts.map (·.rowCount)).sum none := by
  induction parts with
  | nil => rfl
  | cons part rest ih =>
    rw [List.flatMap_cons, ih, List.map_cons, List.sum_cons, List.replicate_add]

theorem mapCells_rectangular (f : α → Option β) :
    ∀ column ∈ table.columns.map (·.map (·.bind f)), column.length = table.rowCount := by
  intro column member
  obtain ⟨whole, inTable, rfl⟩ := List.mem_map.mp member
  rw [List.length_map]
  exact table.rectangular whole inTable

/-- The table with every cell that is no null read anew; a cell that cannot be read becomes null. -/
def mapCells (table : ColumnTable ν α) (f : α → Option β) : ColumnTable ν β where
  names := table.names
  columns := table.columns.map (·.map (·.bind f))
  rowCount := table.rowCount
  one_per_name := (List.length_map _).trans table.one_per_name
  rectangular := mapCells_rectangular f

theorem mapCells_getD (f : α → Option β) (position : Nat) :
    (table.mapCells f).columns.getD position [] = (table.columns.getD position []).map (·.bind f) := by
  show (table.columns.map (·.map (·.bind f))).getD position [] = _
  rw [List.getD_eq_getElem?_getD, List.getD_eq_getElem?_getD, List.getElem?_map]
  cases table.columns[position]? <;> rfl

theorem SlicesOf.mapCells (slices : SlicesOf parts whole) (f : α → Option β) :
    SlicesOf (parts.map (·.mapCells f)) (whole.mapCells f) where
  names := by
    intro part member
    obtain ⟨old, inParts, rfl⟩ := List.mem_map.mp member
    exact slices.names old inParts
  rowCount := by
    rw [List.map_map]
    exact slices.rowCount
  columns := by
    intro position
    rw [mapCells_getD, ← slices.columns, List.flatMap_map, List.map_flatMap]
    simp only [mapCells_getD]

theorem some_cell_iff {columns : List (List (Option α))} {value : α} :
    (∃ column ∈ columns, some value ∈ column) ↔ ∃ position, some value ∈ columns.getD position [] := by
  constructor
  · rintro ⟨column, member, inColumn⟩
    obtain ⟨position, bound, rfl⟩ := List.getElem_of_mem member
    exact ⟨position, by rwa [List.getD_eq_getElem _ _ bound]⟩
  · rintro ⟨position, inColumn⟩
    by_cases bound : position < columns.length
    · rw [List.getD_eq_getElem _ _ bound] at inColumn
      exact ⟨_, List.getElem_mem bound, inColumn⟩
    · rw [List.getD_eq_default _ _ (by omega)] at inColumn
      cases inColumn

/-- The slices of a table hold its values and no others. -/
theorem SlicesOf.some_cell (slices : SlicesOf parts whole) {value : α} :
    (∃ part ∈ parts, ∃ column ∈ part.columns, some value ∈ column) ↔ ∃ column ∈ whole.columns, some value ∈ column := by
  simp only [some_cell_iff, ← slices.columns, List.mem_flatMap]
  constructor
  · rintro ⟨part, member, position, inPart⟩
    exact ⟨position, part, member, inPart⟩
  · rintro ⟨position, part, member, inPart⟩
    exact ⟨part, member, position, inPart⟩

variable [DecidableEq ν]

/-- The column of a name, and null cells where the table has none. -/
def columnOf (table : ColumnTable ν α) (name : ν) : List (Option α) :=
  match table.names.idxOf? name with
  | some position => table.columns.getD position []
  | none => List.replicate table.rowCount none

/-- The cell of a row under a name. -/
def cell (table : ColumnTable ν α) (name : ν) (row : Nat) : Option α := (table.columnOf name).getD row none

theorem columnOf_length : (table.columnOf name).length = table.rowCount := by
  unfold columnOf
  cases found : table.names.idxOf? name with
  | none => exact List.length_replicate
  | some position =>
    obtain ⟨bound, -⟩ := List.idxOf?_eq_some_iff.mp found
    exact getD_length bound

theorem mapCells_columnOf (f : α → Option β) :
    (table.mapCells f).columnOf name = (table.columnOf name).map (·.bind f) := by
  unfold columnOf
  cases found : table.names.idxOf? name with
  | some position =>
    rw [show (table.mapCells f).names.idxOf? name = some position from found]
    exact mapCells_getD f position
  | none =>
    rw [show (table.mapCells f).names.idxOf? name = none from found]
    dsimp only
    rw [List.map_replicate]
    rfl

theorem mapCells_cell (f : α → Option β) (row : Nat) :
    (table.mapCells f).cell name row = (table.cell name row).bind f := by
  unfold cell
  rw [mapCells_columnOf, List.getD_eq_getElem?_getD, List.getD_eq_getElem?_getD, List.getElem?_map]
  cases (table.columnOf name)[row]? <;> rfl

theorem SlicesOf.columnOf (slices : SlicesOf parts whole) :
    parts.flatMap (·.columnOf name) = whole.columnOf name := by
  have same : ∀ part ∈ parts, part.columnOf name = match whole.names.idxOf? name with
      | some position => part.columns.getD position []
      | none => List.replicate part.rowCount none := by
    intro part member
    unfold ColumnTable.columnOf
    rw [slices.names part member]
  rw [List.flatMap_congr same]
  unfold ColumnTable.columnOf
  cases whole.names.idxOf? name with
  | some position => exact slices.columns position
  | none => rw [replicate_slices, slices.rowCount]

end ColumnTable

end Relational
