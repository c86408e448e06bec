import TaxiPipeline.Model.Constraints
import TaxiPipeline.Stateful.Attempts

namespace TaxiPipeline

open Stateful

/-- What one session works on: the rows as it sees them and the shared sequences. -/
structure Session where
  db : Database
  sequences : Sequences

/-- Statements of one transaction. A raised exception keeps what the session has done so far;
    whoever ends the transaction decides between commit and rollback. -/
abbrev Transaction (α : Type) : Type := Attempt Session PyException α

namespace Transaction

variable {α β : Type}

def database : Transaction Database := fun s => (.ok s.db, s)

def update (change : Database → Database) : Transaction Unit :=
  fun s => (.ok (), { s with db := change s.db })

def drawSourceFileId : Transaction Nat := fun s =>
  (.ok s.sequences.sourceFileId,
    { s with sequences.sourceFileId := s.sequences.sourceFileId + 1 })

def drawRunId : Transaction Nat := fun s =>
  (.ok s.sequences.runId, { s with sequences.runId := s.sequences.runId + 1 })

def drawQualityResultId : Transaction Nat := fun s =>
  (.ok s.sequences.qualityResultId,
    { s with sequences.qualityResultId := s.sequences.qualityResultId + 1 })

/-- `with session.begin()` and `with session.begin_nested()`: commit, or undo and raise again. -/
def atomically (body : Transaction α) : Transaction α := fun s =>
  match body s with
  | (.ok a, s') => (.ok a, s')
  | (.error error, s') => (.error error, { s' with db := s.db })

section Meets

variable {s : Session} {returns : α → Session → Prop} {raises : PyException → Session → Prop}

theorem meets_database {next : Database → Transaction α} (meets : (next s.db).Meets s returns raises) :
    (database >>= next).Meets s returns raises :=
  .bind meets

theorem meets_update {change : Database → Database} {next : Unit → Transaction α}
    (meets : (next ()).Meets { s with db := change s.db } returns raises) :
    (update change >>= next).Meets s returns raises :=
  .bind meets

theorem meets_atomically {body : Transaction α}
    (meets : body.Meets s returns fun error s' => raises error { s' with db := s.db }) :
    (atomically body).Meets s returns raises := by
  rcases ran : body s with ⟨result, s'⟩
  unfold Attempt.Meets atomically
  rw [ran]
  cases result with
  | ok a => exact meets.ok ran
  | error error => exact meets.error ran

end Meets

end Transaction

/-- The failure of a statement whose values no column type holds. -/
def dataError (text : String) : PyException := ⟨.dataError, text⟩

def checkViolation : PyException := ⟨.integrityError, "new row violates check constraint"⟩

def uniqueViolation : PyException :=
  ⟨.integrityError, "duplicate key value violates unique constraint"⟩

def metadataStateError (text : String) : PyException := ⟨.metadataStateError, text⟩

def valueError (text : String) : PyException := ⟨.valueError, text⟩

end TaxiPipeline
