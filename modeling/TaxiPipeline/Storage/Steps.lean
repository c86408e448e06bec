import TaxiPipeline.Storage.Program

namespace TaxiPipeline

open ReadCommitted

/-- The call has ended without a result. -/
def StoragePhase.Aborted (phase : StoragePhase) : Prop :=
  phase = .crashed ∨ ∃ error, phase = .finished (.error error)

theorem StoragePhase.Aborted.not_running {phase : StoragePhase} (aborted : phase.Aborted) :
    phase.isRunning = false := by
  rcases aborted with rfl | ⟨error, rfl⟩ <;> rfl

/-- What one statement of a storage call can do, faults among it. -/
inductive StorageCall.Steps (call : StorageCall) (setup : StorageSetup) (db : Database) (bucket : S3Bucket) :
    StoragePhase → Effect StorageWrite → StoragePhase → S3Bucket → Prop where
  | begins : call.Steps setup db bucket .idle .read call.begin bucket
  | reads : call.Steps setup db bucket .reading .read (call.read db) bucket
  | stores {metadata : SourceFileMetadata} {point : StorePoint} (now : Timestamp) :
      call.Steps setup db bucket (.storing metadata point) .read
        ((call.store setup metadata bucket now point).1.phase metadata)
        (call.store setup metadata bucket now point).2
  | selects {storage : StorageResult} {source : SourceFile} (got : db.getSourceFile call.sourceFileId = some source) :
      call.Steps setup db bucket (.persisting storage .select) .read (.persisting storage (.flush source)) bucket
  | unchanged {storage : StorageResult} {loaded : SourceFile} (same : loaded.flushed storage = .none) :
      call.Steps setup db bucket (.persisting storage (.flush loaded)) .read (.persisting storage .commit) bucket
  | flushes {storage : StorageResult} {loaded : SourceFile} (changed : loaded.flushed storage ≠ .none) :
      call.Steps setup db bucket (.persisting storage (.flush loaded))
        (.write ⟨call.sourceFileId, loaded.flushed storage⟩) (.persisting storage .commit) bucket
  | commits {storage : StorageResult} (result : Except PyException StorageResult) :
      call.Steps setup db bucket (.persisting storage .commit) .commit (.finished result) bucket
  | stops {phase next : StoragePhase} (aborted : next.Aborted) :
      call.Steps setup db bucket phase .rollback next bucket
  | putRaises {metadata : SourceFileMetadata} {key : String} {content : Bytes} (error : PyException) :
      call.Steps setup db bucket (.storing metadata (.put key content)) .rollback (.finished (.error error))
        (bucket.put setup.versionIds key content (objectMetadata metadata))

section Steps

variable {call : StorageCall} {setup : StorageSetup} {db : Database} {bucket bucket' : S3Bucket}
  {phase next : StoragePhase} {effect : Effect StorageWrite} {e : StorageEvent}

theorem PersistPoint.exec_steps {storage : StorageResult} {point : PersistPoint}
    (executed : point.exec call.sourceFileId storage db = (effect, next)) :
    call.Steps setup db bucket (.persisting storage point) effect next bucket := by
  cases point with
  | select =>
    simp only [exec] at executed
    split at executed
    · cases executed
      exact .stops (.inr ⟨_, rfl⟩)
    · rename_i source got
      cases executed
      exact .selects got
  | flush loaded =>
    simp only [exec] at executed
    split at executed
    · rename_i same
      cases executed
      exact .unchanged same
    · rename_i changed
      split at executed
      · cases executed
        exact .flushes changed
      · cases executed
        exact .stops (.inr ⟨_, rfl⟩)
  | commit =>
    cases executed
    exact .commits _

theorem StorageCall.exec_steps (executed : call.exec setup phase db bucket e = some (effect, next, bucket')) :
    call.Steps setup db bucket phase effect next bucket' := by
  cases e with
  | next now =>
    cases phase with
    | idle =>
      cases executed
      exact .begins
    | reading =>
      cases executed
      exact .reads
    | storing metadata point =>
      cases executed
      exact .stores now
    | persisting storage point =>
      cases executed
      exact PersistPoint.exec_steps rfl
    | finished result => cases executed
    | crashed => cases executed
  | raise error =>
    simp only [exec] at executed
    split at executed
    · cases executed
      exact .stops (.inr ⟨error, rfl⟩)
    · cases executed
  | putRaises error =>
    simp only [exec] at executed
    split at executed
    · cases executed
      exact .putRaises error
    · cases executed
  | commitRaises error =>
    simp only [exec] at executed
    split at executed
    · cases executed
      exact .commits _
    · cases executed
  | crash =>
    simp only [exec] at executed
    split at executed
    · cases executed
      exact .stops (.inl rfl)
    · cases executed

theorem StorageCall.Steps.target {w : StorageWrite} (steps : call.Steps setup db bucket phase (.write w) next bucket') :
    w.sourceFileId = call.sourceFileId := by
  cases steps with
  | flushes changed => rfl

theorem StorageCall.verify_next {metadata : SourceFileMetadata} {now : Timestamp} {point : StorePoint}
    (replied : call.verify setup metadata now = .next point) :
    ∃ key content, point = .head key content ∧ call.landing.file metadata.landingPath = .ok (some content) ∧
      setup.readers.sha256 content = metadata.checksumSha256 ∧ s3Key metadata = .ok key := by
  unfold verify at replied
  split at replied
  · cases replied
  · rename_i file found
    split at replied
    · cases replied
    · rename_i content verified
      obtain ⟨rfl, hashed⟩ := verifyLocal_ok.mp verified
      split at replied
      · cases replied
      · split at replied
        · cases replied
        · rename_i key keyed
          cases replied
          exact ⟨key, content, rfl, found, hashed, keyed⟩

theorem StorageCall.verify_stored {metadata : SourceFileMetadata} {now : Timestamp} {storage : StorageResult}
    (replied : call.verify setup metadata now = .stored storage) : storage = localResult now := by
  unfold verify at replied
  split at replied
  · cases replied
  · split at replied
    · cases replied
    · split at replied
      · cases replied
        rfl
      · split at replied <;> cases replied

theorem StorageSetup.accept_stored {metadata : SourceFileMetadata} {key : String} {head : S3Object}
    {versionId : Option String} {now : Timestamp} {storage : StorageResult}
    (replied : setup.accept metadata key head versionId now = .stored storage) :
    storage = setup.result key versionId now ∧ head.Matches metadata := by
  unfold accept at replied
  split at replied
  · rename_i verified
    cases replied
    exact ⟨rfl, verifyHead_ok.mp verified⟩
  · cases replied

theorem StorageSetup.accept_not_next {metadata : SourceFileMetadata} {key : String} {head : S3Object}
    {versionId : Option String} {now : Timestamp} {point : StorePoint} :
    setup.accept metadata key head versionId now ≠ .next point := by
  unfold accept
  split <;> nofun

end Steps

end TaxiPipeline
