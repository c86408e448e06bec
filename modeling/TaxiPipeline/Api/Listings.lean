import Mathlib.Data.Prod.Lex
import TaxiPipeline.Api.Analytics
import TaxiPipeline.Model.Registry
import TaxiPipeline.Relational.Pages

namespace TaxiPipeline

open Relational

/-- The name of a parameter whose value is outside of its `ge` and `le`. -/
def outOfBounds (name : String) (least : Int) (greatest : Option Int) (value : Option Int) : List String :=
  if value.all fun value => least ≤ value && greatest.all fun greatest => value ≤ greatest then [] else [name]

/-- The query parameters of `list_source_files`. -/
structure SourceFileQuery where
  serviceType : Option ServiceType := none
  sourceStatus : Option String := none
  year : Option Int := none
  month : Option Int := none
  limit : Int := 50
  offset : Int := 0

/-- The parameters that the request validation refuses with status 422. -/
def SourceFileQuery.refused (query : SourceFileQuery) : List String :=
  outOfBounds "year" 2000 (some 2100) query.year ++ outOfBounds "month" 1 (some 12) query.month ++
    outOfBounds "limit" 1 (some 100) (some query.limit) ++ outOfBounds "offset" 0 none (some query.offset)

/-- SQL's `column == value` of a nullable column, for a filter that may be absent. -/
def filtered {α : Type} [DecidableEq α] (filter : Option α) (column : Option α) : Bool :=
  filter.all fun value => equal column (some value)

def SourceFileQuery.selects (query : SourceFileQuery) (row : SourceFile) : Bool :=
  filtered (query.serviceType.map (·.value)) row.serviceType && filtered query.sourceStatus (some row.status.value) &&
    filtered query.year row.sourceYear && filtered query.month row.sourceMonth

/-- The response model has a field for every column of the table. -/
structure SourceFilePage where
  items : List SourceFile
  limit : Int
  offset : Int

def listSourceFiles (db : Database) (query : SourceFileQuery) : Except (List String) SourceFilePage :=
  if query.refused ≠ [] then .error query.refused
  else .ok {
    items := page query.limit.toNat query.offset.toNat
      (newestFirst SourceFile.sourceFileId (db.sourceFiles.filter query.selects))
    limit := query.limit
    offset := query.offset }

/-- The query parameters of `list_runs`. -/
structure RunQuery where
  serviceType : Option ServiceType := none
  runStatus : Option String := none
  year : Option Int := none
  month : Option Int := none
  sourceFileId : Option Int := none
  limit : Int := 50
  offset : Int := 0

def RunQuery.refused (query : RunQuery) : List String :=
  outOfBounds "year" 2000 (some 2100) query.year ++ outOfBounds "month" 1 (some 12) query.month ++
    outOfBounds "source_file_id" 1 none query.sourceFileId ++
    outOfBounds "limit" 1 (some 100) (some query.limit) ++ outOfBounds "offset" 0 none (some query.offset)

def RunQuery.selects (query : RunQuery) (run : PipelineRun) : Bool :=
  filtered (query.serviceType.map (·.value)) run.serviceType && filtered query.runStatus (some run.status.value) &&
    filtered query.year run.sourceYear && filtered query.month run.sourceMonth &&
    filtered query.sourceFileId (run.sourceFileId.map Int.ofNat)

structure PipelineRunResponse where
  runId : Nat
  datasetName : String
  serviceType : Option String
  sourceYear : Option Int
  sourceMonth : Option Int
  sourceFileId : Option Nat
  startedAt : Timestamp
  finishedAt : Option Timestamp
  status : RunStatus
  statusReason : Option SkipReason
  rowsRead : Option Int
  rowsLoaded : Option Int
  warningCount : Option Int
  errorCount : Option Int
  deriving DecidableEq

/-- The response model leaves out the error message. -/
def PipelineRun.response (run : PipelineRun) : PipelineRunResponse where
  runId := run.runId
  datasetName := run.datasetName
  serviceType := run.serviceType
  sourceYear := run.sourceYear
  sourceMonth := run.sourceMonth
  sourceFileId := run.sourceFileId
  startedAt := run.startedAt
  finishedAt := run.finishedAt
  status := run.status
  statusReason := run.statusReason
  rowsRead := run.rowsRead
  rowsLoaded := run.rowsLoaded
  warningCount := run.warningCount
  errorCount := run.errorCount

structure PipelineRunPage where
  items : List PipelineRunResponse
  limit : Int
  offset : Int

/-- `order_by(PipelineRun.started_at.desc(), PipelineRun.run_id.desc())` compares these pairs. -/
def PipelineRun.place (run : PipelineRun) : Int ×ₗ Nat := toLex (run.startedAt, run.runId)

def listRuns (db : Database) (query : RunQuery) : Except (List String) PipelineRunPage :=
  if query.refused ≠ [] then .error query.refused
  else .ok {
    items := (page query.limit.toNat query.offset.toNat
      (newestFirst PipelineRun.place (db.pipelineRuns.filter query.selects))).map PipelineRun.response
    limit := query.limit
    offset := query.offset }

/-- The loop of `_all_pages`; `get` answers a request, counted from 0, by its limit and offset, and `none` is a loop
that has not ended yet. -/
def allPages {α ε : Type} (get : Nat → Nat → Nat → Except ε (List α)) :
    Nat → Nat → List α → Nat → Option (Except ε (List α))
  | 0, _, _, _ => none
  | fuel + 1, request, items, offset =>
    match get request 100 offset with
    | .error error => some (.error error)
    | .ok pageItems =>
      if pageItems.length < 100 then some (.ok (items ++ pageItems))
      else allPages get fuel (request + 1) (items ++ pageItems) (offset + 100)

section Client

variable (tables : Nat → Database) (serviceType : Option ServiceType)

/-- `_get("/sources/files", service_type=..., limit=..., offset=...)["items"]`. -/
def getSourceFiles (request limit offset : Nat) : Except (List String) (List SourceFile) := do
  let page ← listSourceFiles (tables request) { serviceType := serviceType, limit := limit, offset := offset }
  return page.items

def getRuns (request limit offset : Nat) : Except (List String) (List PipelineRunResponse) := do
  let page ← listRuns (tables request) { serviceType := serviceType, limit := limit, offset := offset }
  return page.items

def listAllSources (fuel : Nat) : Option (Except (List String) (List SourceFile)) :=
  allPages (getSourceFiles tables serviceType) fuel 0 [] 0

def listAllRuns (fuel : Nat) : Option (Except (List String) (List PipelineRunResponse)) :=
  allPages (getRuns tables serviceType) fuel 0 [] 0

end Client

end TaxiPipeline
