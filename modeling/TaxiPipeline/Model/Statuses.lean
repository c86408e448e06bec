import TaxiPipeline.Model.Text

namespace TaxiPipeline

inductive SourceStatus where
  | ready
  | loaded
  | revisionDetected
  deriving DecidableEq, Repr

inductive RunStatus where
  | running
  | succeeded
  | failed
  | skipped
  deriving DecidableEq, Repr

inductive SkipReason where
  | alreadyLoaded
  | sourceRevisionDetected
  deriving DecidableEq, Repr

inductive IngestionDecision where
  | proceed
  | alreadyLoaded
  | sourceRevisionBlocked
  deriving DecidableEq, Repr

def SourceStatus.value : SourceStatus → String
  | .ready => "ready"
  | .loaded => "loaded"
  | .revisionDetected => "revision_detected"

def RunStatus.value : RunStatus → String
  | .running => "running"
  | .succeeded => "succeeded"
  | .failed => "failed"
  | .skipped => "skipped"

def SkipReason.value : SkipReason → String
  | .alreadyLoaded => "already_loaded"
  | .sourceRevisionDetected => "source_revision_detected"

/-- `SkipReason(reason)`, which fails on every other text. -/
def SkipReason.ofValue (text : String) : Option SkipReason :=
  [SkipReason.alreadyLoaded, .sourceRevisionDetected].find? (·.value == text)

theorem SkipReason.ofValue_value (reason : SkipReason) : ofValue reason.value = some reason := by
  cases reason <;> decide

def RunStatus.isTerminal : RunStatus → Bool
  | .running => false
  | _ => true

/-- The platform's own vocabulary for a registered version that may still be, or was, loaded. -/
def SourceStatus.isAccepted : SourceStatus → Bool
  | .revisionDetected => false
  | _ => true

def decisionForSourceStatus : SourceStatus → IngestionDecision
  | .ready => .proceed
  | .loaded => .alreadyLoaded
  | .revisionDetected => .sourceRevisionBlocked

/-- The reason that `ingest_source` records when the decision is not to proceed. -/
def IngestionDecision.skipReason : IngestionDecision → Option SkipReason
  | .proceed => none
  | .alreadyLoaded => some .alreadyLoaded
  | .sourceRevisionBlocked => some .sourceRevisionDetected

/-- The source status that `create_skipped_run` requires for a reason. -/
def SkipReason.requiredStatus : SkipReason → SourceStatus
  | .alreadyLoaded => .loaded
  | .sourceRevisionDetected => .revisionDetected

structure SourceRegistrationResult where
  sourceFileId : Nat
  sourceStatus : SourceStatus
  decision : IngestionDecision
  isNewRegistration : Bool
  deriving DecidableEq, Repr

theorem skipReason_requires (status : SourceStatus) (reason : SkipReason)
    (skipped : (decisionForSourceStatus status).skipReason = some reason) :
    reason.requiredStatus = status := by
  cases status <;> cases skipped <;> rfl

theorem decision_proceed_iff (status : SourceStatus) :
    decisionForSourceStatus status = .proceed ↔ status = .ready := by
  cases status <;> simp [decisionForSourceStatus]

end TaxiPipeline
