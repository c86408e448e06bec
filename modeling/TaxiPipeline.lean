import TaxiPipeline.ReadCommitted.UniqueIndex
import TaxiPipeline.Ingestion.Program
import TaxiPipeline.Model.Landing
import TaxiPipeline.Model.Loading
import TaxiPipeline.Model.Runs
import TaxiPipeline.Model.Registry
import TaxiPipeline.Model.Constraints
import TaxiPipeline.Model.Sources
import TaxiPipeline.Model.Tables
import TaxiPipeline.Ingestion.Acceptance
import TaxiPipeline.Ingestion.Agreement
import TaxiPipeline.Ingestion.Attempts
import TaxiPipeline.Ingestion.EveryAttempt
import TaxiPipeline.Lifecycle.Statuses
import TaxiPipeline.Lifecycle.Failures
import TaxiPipeline.Warehouse.FinalBuild
import TaxiPipeline.Ingestion.CopiedRows
import TaxiPipeline.Lifecycle.ZoneLoads
import TaxiPipeline.Warehouse.Keys
import TaxiPipeline.Api.Endpoints
import TaxiPipeline.Quality.Reruns
import TaxiPipeline.Storage.Immutable
import TaxiPipeline.Storage.Verification
import TaxiPipeline.Storage.SyncAll
import TaxiPipeline.Storage.Identity
import TaxiPipeline.Storage.Restored
import TaxiPipeline.Storage.Recovery
import TaxiPipeline.Sources.Validators
import TaxiPipeline.Sources.Months
import TaxiPipeline.Quality.RowDefinitions
import TaxiPipeline.Quality.Duplicates
import TaxiPipeline.Profiling.DuplicateRows
import TaxiPipeline.Api.Pagination
import TaxiPipeline.Api.ZoneNames
import TaxiPipeline.Downloads.WholeFiles
import TaxiPipeline.Ingestion.ZoneRows
import TaxiPipeline.Profiling.Durations
import TaxiPipeline.Lifecycle.LoadHistories
import TaxiPipeline.Orchestration.Completion
import TaxiPipeline.Operations.Reports
import TaxiPipeline.Orchestration.Recovery
import TaxiPipeline.Orchestration.DataTests
import TaxiPipeline.Orchestration.Availability
import TaxiPipeline.Lifecycle.PartitionVersions
import TaxiPipeline.Orchestration.FreshRuns
