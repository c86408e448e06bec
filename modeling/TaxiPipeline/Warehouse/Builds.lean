import TaxiPipeline.Ingestion.Coherent
import TaxiPipeline.Warehouse.Models

namespace TaxiPipeline

open ReadCommitted

/-- The relations of the warehouse, as far as dbt has built them. -/
structure Tables where
  tlcVendors : Option (List TlcVendor)
  tlcRateCodes : Option (List TlcRateCode)
  tlcPaymentTypes : Option (List TlcPaymentType)
  dimDate : Option (List DimDate)
  dimZone : Option (List DimZone)
  dimVendor : Option (List DimVendor)
  fctTrips : Option (List FactTrip)

def Tables.empty : Tables := ⟨none, none, none, none, none, none, none⟩

def Tables.dimensions (tables : Tables) : Option Dimensions :=
  match tables.dimDate, tables.dimZone, tables.dimVendor, tables.tlcRateCodes, tables.tlcPaymentTypes with
  | some dates, some zones, some vendors, some rateCodes, some paymentTypes =>
    some ⟨dates, zones, vendors, rateCodes, paymentTypes⟩
  | _, _, _, _, _ => none

/-- An execution of `fct_trips` under way, with the snapshot that its query reads. -/
structure Execution where
  db : Database
  target : Option (List FactTrip)
  dims : Dimensions
  fullRefresh : Bool

namespace Execution

def isIncremental (x : Execution) : Bool := x.target.isSome && !x.fullRefresh

def trips (x : Execution) : List EnrichedTrip :=
  if x.isIncremental then notYetIn (x.target.getD []) (intTripsEnriched x.db) else intTripsEnriched x.db

def rows (x : Execution) : List FactTrip := fctTrips x.dims x.trips

/-- The table after the execution: replaced, or changed by the incremental strategy. -/
def result (x : Execution) (merge : List FactTrip → List FactTrip → List FactTrip)
    (target : List FactTrip) : List FactTrip :=
  if x.isIncremental then merge target x.rows else x.rows

end Execution

/-- What dbt documents of `delete+insert`: the target loses the rows with the unique keys of the new
    rows and takes the new rows. Tables have no order. -/
def DeleteInsert (merge : List FactTrip → List FactTrip → List FactTrip) : Prop :=
  ∀ target rows, (merge target rows).Perm
    (target.filter (·.grain ∉ rows.map FactTrip.grain) ++ rows)

/-- One strategy that dbt documents so. -/
def deleteInsert (target rows : List FactTrip) : List FactTrip :=
  target.filter (·.grain ∉ rows.map FactTrip.grain) ++ rows

/-- What dbt runs; every seed and every model commits on its own. -/
inductive ModelStep where
  | seedVendors (rows : List TlcVendor)
  | seedRateCodes (rows : List TlcRateCode)
  | seedPaymentTypes (rows : List TlcPaymentType)
  | dimDate
  | dimZone
  | dimVendor
  | startFacts (fullRefresh : Bool)
  | commitFacts
  | rollbackFacts

/-- The platform with its ingestion sessions, the warehouse, and the execution of `fct_trips`. -/
structure Analytics (Client : Type) where
  platform : Platform Client
  tables : Tables
  execution : Option Execution

def Analytics.start {Client : Type} : Analytics Client := ⟨startState, Tables.empty, none⟩

def Analytics.facts {Client : Type} (s : Analytics Client) : List FactTrip := s.tables.fctTrips.getD []

/-- The step of a model, if the relations that it reads exist. -/
def Analytics.build {Client : Type} (merge : List FactTrip → List FactTrip → List FactTrip)
    (s : Analytics Client) : ModelStep → Option (Analytics Client)
  | .seedVendors rows => some { s with tables.tlcVendors := some rows }
  | .seedRateCodes rows => some { s with tables.tlcRateCodes := some rows }
  | .seedPaymentTypes rows => some { s with tables.tlcPaymentTypes := some rows }
  | .dimDate => some { s with tables.dimDate := some (TaxiPipeline.dimDate s.platform.committed) }
  | .dimZone => some { s with tables.dimZone := some (TaxiPipeline.dimZone s.platform.committed) }
  | .dimVendor => s.tables.tlcVendors.map fun tlcVendors =>
      { s with tables.dimVendor := some (TaxiPipeline.dimVendor tlcVendors) }
  | .startFacts fullRefresh =>
    match s.execution, s.tables.dimensions with
    | none, some dims =>
      some { s with execution := some ⟨s.platform.committed, s.tables.fctTrips, dims, fullRefresh⟩ }
    | _, _ => none
  | .commitFacts => s.execution.map fun x =>
      { s with tables.fctTrips := some (x.result merge s.facts), execution := none }
  | .rollbackFacts => s.execution.map fun _ => { s with execution := none }

inductive Move (Client : Type) where
  | ingestion (i : Client) (e : Event)
  | model (step : ModelStep)

/-- One statement of an ingestion, or one step of dbt. -/
def analytics {Client : Type} [Fintype Client] [DecidableEq Client] (requests : Client → Request)
    (merge : List FactTrip → List FactTrip → List FactTrip) (s : Analytics Client) :
    Move Client → Option (Analytics Client)
  | .ingestion i e => ((ingestion requests).step s.platform i e).map ({ s with platform := · })
  | .model step => s.build merge step

end TaxiPipeline
