import TaxiPipeline.Orchestration.Builds
import TaxiPipeline.Warehouse.FinalBuild

namespace TaxiPipeline

open ReadCommitted Relational Stateful StorageAction

/-- The tasks of `tlc_monthly_pipeline`. -/
inductive DagTask where
  | resolvePartition
  | ensureTaxiZones
  | ensureYellowLoaded
  | qualityYellow
  | ensureGreenLoaded
  | qualityGreen
  | dbtBuild
  | pipelineComplete
  deriving DecidableEq, Repr

/-- What `pipeline_complete` returns. -/
structure PipelineCompletion where
  partitionLabel : String
  status : String
  deriving DecidableEq, Repr

/-- What the tasks of a run of the DAG have returned. -/
structure Xcoms where
  target : Option TargetMonth
  zones : Option LoadedPartition
  yellow : Option LoadedPartition
  yellowQuality : Option QualityRunSummary
  green : Option LoadedPartition
  greenQuality : Option QualityRunSummary
  dbt : Option DbtResult
  complete : Option PipelineCompletion

def Xcoms.none : Xcoms := ⟨.none, .none, .none, .none, .none, .none, .none, .none⟩

/-- The results of the tasks that have not been cleared. -/
def Xcoms.cleared (xcoms : Xcoms) (keeps : DagTask → Bool) : Xcoms where
  target := xcoms.target.filter fun _ => keeps .resolvePartition
  zones := xcoms.zones.filter fun _ => keeps .ensureTaxiZones
  yellow := xcoms.yellow.filter fun _ => keeps .ensureYellowLoaded
  yellowQuality := xcoms.yellowQuality.filter fun _ => keeps .qualityYellow
  green := xcoms.green.filter fun _ => keeps .ensureGreenLoaded
  greenQuality := xcoms.greenQuality.filter fun _ => keeps .qualityGreen
  dbt := xcoms.dbt.filter fun _ => keeps .dbtBuild
  complete := xcoms.complete.filter fun _ => keeps .pipelineComplete

/-- A run of the DAG, with its parameters. -/
structure DagRun where
  logicalDate : Date
  year : Option Int
  month : Option Int

def DagRun.target (run : DagRun) : Except PyException TargetMonth := resolveMonth run.logicalDate run.year run.month

/-- The platform with its warehouse, the latest run of the DAG, and the steps of its `dbt build` under way, the
    latest first. -/
structure World where
  workspace : Workspace
  warehouse : Warehouse
  run : DagRun
  xcoms : Xcoms
  building : Option (List ModelStep)

def World.session (w : World) : Session := w.workspace.session

/-- A try of a task, by what it meets. -/
inductive TaskTry where
  | resolvePartition
  | ensureTaxiZones (tried : LoadTry)
  | ensureYellowLoaded (tried : LoadTry)
  | qualityYellow (now : Timestamp)
  | ensureGreenLoaded (tried : LoadTry)
  | qualityGreen (now : Timestamp)
  | pipelineComplete

/-- A try leaves its workspace, and its result if it has returned one. -/
def World.recording {α : Type} (w : World) (keep : Xcoms → α → Xcoms) :
    Except PyException α × Workspace → World
  | (.ok result, workspace) => { w with workspace := workspace, xcoms := keep w.xcoms result }
  | (.error _, workspace) => { w with workspace := workspace }

/-- One try of a task that has what its upstream tasks have returned. -/
def World.attempt (installed : Installation) (w : World) : TaskTry → Option World
  | .resolvePartition =>
    some (w.recording (fun xcoms target => { xcoms with target := some target }) (w.run.target, w.workspace))
  | .ensureTaxiZones tried => do
    let _ ← w.xcoms.target
    return w.recording (fun xcoms loaded => { xcoms with zones := some loaded })
      (← ensureTaxiZonesLoaded installed tried w.workspace)
  | .ensureYellowLoaded tried => do
    let target ← w.xcoms.target
    let _ ← w.xcoms.zones
    return w.recording (fun xcoms loaded => { xcoms with yellow := some loaded })
      (← ensureTripMonthLoaded installed tried "yellow" target.year target.month w.workspace)
  | .qualityYellow now => do
    let target ← w.xcoms.target
    let _ ← w.xcoms.yellow
    return w.recording (fun xcoms summary => { xcoms with yellowQuality := some summary })
      (runPartitionQuality now "yellow" target.year target.month w.workspace)
  | .ensureGreenLoaded tried => do
    let target ← w.xcoms.target
    let _ ← w.xcoms.yellowQuality
    return w.recording (fun xcoms loaded => { xcoms with green := some loaded })
      (← ensureTripMonthLoaded installed tried "green" target.year target.month w.workspace)
  | .qualityGreen now => do
    let target ← w.xcoms.target
    let _ ← w.xcoms.green
    return w.recording (fun xcoms summary => { xcoms with greenQuality := some summary })
      (runPartitionQuality now "green" target.year target.month w.workspace)
  | .pipelineComplete => do
    let target ← w.xcoms.target
    let built ← w.xcoms.dbt
    return { w with xcoms.complete := some ⟨target.partitionLabel, built.status⟩ }

/-- What dbt documents of a build that exits with 0: all seeds and models have been built, each after what it
    reads. The latest step comes first. -/
structure CompleteBuild (steps : List ModelStep) : Prop where
  facts : ∃ earlier, steps = .commitFacts :: .startFacts false :: earlier ∧
    ∀ step ∈ earlier, step.prepares = true
  seeds : .seedVendors tlcSeeds.vendors ∈ steps ∧ .seedRateCodes tlcSeeds.rateCodes ∈ steps ∧
    .seedPaymentTypes tlcSeeds.paymentTypes ∈ steps
  dimensions : .dimDate ∈ steps ∧ .dimZone ∈ steps ∧ .dimVendor ∈ steps

/-- The end of the `dbt build` under way; an execution that it has left open is rolled back. -/
def World.exits (installed : Installation) (w : World) (exitStatus : Nat) : World :=
  { w with
    warehouse.execution := none
    building := none
    xcoms.dbt := match runDbtBuild installed.projectDir exitStatus with
      | .ok result => some result
      | .error _ => w.xcoms.dbt }

/-- What may happen to the platform: a run of the DAG begins, one of its tasks is tried or cleared, dbt takes a
    step, or others make their calls and change files and objects, as a try that is lost may have done as well. -/
inductive World.Step (installed : Installation) (contents : Set Bytes)
    (merge : List FactTrip → List FactTrip → List FactTrip) (w : World) : World → Prop where
  | triggered (run : DagRun) (idle : w.building = none) :
      World.Step installed contents merge w { w with run := run, xcoms := .none }
  | tried {w' : World} (task : TaskTry) (tried : w.attempt installed task = some w')
      (within : w'.workspace.Within contents) : World.Step installed contents merge w w'
  | cleared (keeps : DagTask → Bool) :
      World.Step installed contents merge w { w with xcoms := w.xcoms.cleared keeps }
  | startsBuild (upstream : w.xcoms.greenQuality.isSome = true) (idle : w.building = none) :
      World.Step installed contents merge w { w with building := some [] }
  | builds {warehouse : Warehouse} (step : ModelStep) (seeded : tlcSeeds.Loads step)
      (done : w.warehouse.build merge w.session step = some warehouse) :
      World.Step installed contents merge w
        { w with warehouse := warehouse, building := w.building.map (step :: ·) }
  | exits {steps : List ModelStep} (exitStatus : Nat) (building : w.building = some steps)
      (documented : exitStatus = 0 → CompleteBuild steps) :
      World.Step installed contents merge w (w.exits installed exitStatus)
  | others {workspace : Workspace}
      (leads : w.session.LeadsWith (·.Inspected installed.setup.readers contents) workspace.session)
      (within : workspace.Within contents) :
      World.Step installed contents merge w { w with workspace := workspace }

/-- The worlds of all histories, from an empty database and an empty warehouse on. -/
inductive World.Reachable (installed : Installation) (contents : Set Bytes)
    (merge : List FactTrip → List FactTrip → List FactTrip) : World → Prop where
  | start {workspace : Workspace} (empty : workspace.session = .start) (within : workspace.Within contents)
      (run : DagRun) : World.Reachable installed contents merge ⟨workspace, .empty, run, .none, none⟩
  | step {w w' : World} (reached : World.Reachable installed contents merge w)
      (step : w.Step installed contents merge w') : World.Reachable installed contents merge w'

end TaxiPipeline
