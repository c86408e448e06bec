import Mathlib.Data.List.Basic

namespace TaxiPipeline

/-- The characters that `str.split` and `str.strip` drop. -/
def isWhitespace (c : Char) : Bool :=
  let n := c.toNat
  (9 ≤ n && n ≤ 13) || (28 ≤ n && n ≤ 32) || n == 133 || n == 160 || n == 5760 ||
    (8192 ≤ n && n ≤ 8202) || n == 8232 || n == 8233 || n == 8239 || n == 8287 || n == 12288

/-- `str.split()`: the maximal runs of characters that are not whitespace. -/
def splitWords : List Char → List (List Char)
  | [] => []
  | c :: rest =>
    if isWhitespace c then splitWords rest
    else match rest, splitWords rest with
      | d :: _, word :: words => if isWhitespace d then [c] :: word :: words else (c :: word) :: words
      | _, words => [c] :: words

/-- `" ".join(words)`. -/
def joinWords : List (List Char) → List Char
  | [] => []
  | [word] => word
  | word :: words => word ++ ' ' :: joinWords words

/-- `not text.strip()`. -/
def isBlank (text : String) : Bool := text.toList.all isWhitespace

/-- A PostgreSQL text value holds every character except NUL. -/
def storable (text : String) : Bool := text.toList.all (· != '\x00')

theorem storable_append (left right : String) :
    storable (left ++ right) = (storable left && storable right) := by
  simp [storable, String.toList_append]

inductive ExceptionKind where
  | valueError
  | metadataStateError
  | qualityEvaluationError
  | sourceContractError
  | storageIntegrityError
  | ingestionError
  | integrityError
  | dataError
  | other (className : String)
  deriving DecidableEq, Repr

def ExceptionKind.className : ExceptionKind → String
  | .valueError => "ValueError"
  | .metadataStateError => "MetadataStateError"
  | .qualityEvaluationError => "QualityEvaluationError"
  | .sourceContractError => "SourceContractError"
  | .storageIntegrityError => "StorageIntegrityError"
  | .ingestionError => "IngestionError"
  | .integrityError => "IntegrityError"
  | .dataError => "DataError"
  | .other className => className

/-- A raised `Exception` with its `str`. An exception of another kind, such as `SystemExit`, ends the process, which is
    an event of its own. -/
structure PyException where
  kind : ExceptionKind
  text : String
  deriving DecidableEq, Repr

def PyException.isDatabaseError (error : PyException) : Bool :=
  match error.kind with
  | .integrityError | .dataError => true
  | _ => false

def errorDetail (error : PyException) : List Char :=
  let detail := joinWords (splitWords error.text.toList)
  if detail.isEmpty then error.kind.className.toList else detail

def safeErrorMessage (error : PyException) : String :=
  String.ofList (("Raw ingestion failed: ".toList ++ errorDetail error).take 1000)

theorem safeErrorMessage_not_blank (error : PyException) : isBlank (safeErrorMessage error) = false := by
  unfold isBlank safeErrorMessage
  rw [String.toList_ofList]
  rfl

theorem safeErrorMessage_length (error : PyException) : (safeErrorMessage error).length ≤ 1000 := by
  unfold safeErrorMessage
  rw [String.length_ofList]
  exact List.length_take_le _ _

end TaxiPipeline
