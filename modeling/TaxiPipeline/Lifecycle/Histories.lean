import Mathlib.Logic.Relation
import TaxiPipeline.Lifecycle.Orderly

namespace TaxiPipeline

open ReadCommitted Stateful Transaction

def Phase.ended : Phase → Bool
  | .finished .. | .crashed _ => true
  | _ => false

/-- One call that no other call overlaps, from its session to the next one. An ingestion meets any
    events, faults among them, and leaves what it has committed. -/
inductive Session.Calls (s : Session) : Session → Prop where
  | registerSourceFile (now : Timestamp) (metadata : SourceFileMetadata) :
      s.Calls (atomically (registerSourceFile now metadata) s).2
  | ingestSource {metadata : SourceFileMetadata} {batchSize : Int} {events : List (Unit × Event)}
      {t : Platform Unit}
      (ran : (Request.ingest metadata batchSize).program.run (.alone s.db s.sequences .idle []) events = some t)
      (ended : (t.phase ()).ended = true) : s.Calls ⟨t.committed, t.external⟩
  | runQualityChecks (now : Timestamp) (runId : Nat) : s.Calls (atomically (runQualityChecks now runId) s).2
  | persistStorageMetadata (sourceFileId : Nat) (storage : StorageResult) :
      s.Calls (atomically (persistStorageMetadata sourceFileId storage) s).2

/-- Any number of calls, one after another. -/
abbrev Session.Leads : Session → Session → Prop := Relation.ReflTransGen Session.Calls

/-- A call that is given known metadata only. -/
inductive Session.CallsWith (known : SourceFileMetadata → Prop) (s : Session) : Session → Prop
  | registerSourceFile (now : Timestamp) {metadata : SourceFileMetadata} (mine : known metadata) :
      s.CallsWith known (atomically (registerSourceFile now metadata) s).2
  | ingestSource {metadata : SourceFileMetadata} {batchSize : Int} {events : List (Unit × Event)}
      {t : Platform Unit} (mine : known metadata)
      (ran : (Request.ingest metadata batchSize).program.run (.alone s.db s.sequences .idle []) events = some t)
      (ended : (t.phase ()).ended = true) : s.CallsWith known ⟨t.committed, t.external⟩
  | runQualityChecks (now : Timestamp) (runId : Nat) : s.CallsWith known (atomically (runQualityChecks now runId) s).2
  | persistStorageMetadata (sourceFileId : Nat) (storage : StorageResult) :
      s.CallsWith known (atomically (persistStorageMetadata sourceFileId storage) s).2

abbrev Session.LeadsWith (known : SourceFileMetadata → Prop) : Session → Session → Prop :=
  Relation.ReflTransGen (Session.CallsWith known)

theorem Session.CallsWith.calls {known : SourceFileMetadata → Prop} {s s' : Session} (calls : s.CallsWith known s') :
    s.Calls s' := by
  cases calls with
  | registerSourceFile now mine => exact .registerSourceFile now _
  | ingestSource mine ran ended => exact .ingestSource ran ended
  | runQualityChecks now runId => exact .runQualityChecks now runId
  | persistStorageMetadata sourceFileId storage => exact .persistStorageMetadata sourceFileId storage

theorem Session.LeadsWith.leads {known : SourceFileMetadata → Prop} {s s' : Session} (leads : s.LeadsWith known s') :
    s.Leads s' :=
  Relation.ReflTransGen.mono (fun _ _ calls => Session.CallsWith.calls calls) _ _ leads

/-- What every call keeps. -/
structure Session.Keeps (s s' : Session) : Prop where
  orderly : s'.Orderly
  loaded : ∀ {partitionKey checksum}, s.HasLoaded partitionKey checksum → s'.HasLoaded partitionKey checksum

theorem Session.Orderly.keeps {s : Session} (orderly : s.Orderly) : s.Keeps s := ⟨orderly, id⟩

theorem Session.Orderly.keeps_same {s s' : Session} (orderly : s.Orderly) (same : s.db.SameRecords s'.db)
    (grows : s.sequences.Grows s'.sequences) : s.Keeps s' where
  orderly := orderly.same same.sourceFiles same.raw (orderly.consistent.grown same.index grows)
  loaded := fun held => held.same same.sourceFiles

section Ingestion

variable {s : Session} {request : Request} {t t' : Platform Unit} {e : Event}

theorem coherent_initial {Client : Type} {requests : Client → Request} (consistent : s.Consistent) :
    Coherent requests (.initial s.db s.sequences .idle) where
  exclusive := (ingestion requests).exclusive_initial _ _ _
  distinct := (uniqueIndex requests).distinct_initial _ _ consistent.nodup
  ranged := ⟨consistent.below, fun _ _ member => (List.not_mem_nil member).elim⟩
  positive := consistent.positive
  sessions := fun _ => rfl
  drawn := fun _ _ owned => by cases owned
  owners := fun _ _ _ owned => by cases owned

theorem coherent_alone (consistent : s.Consistent) :
    Coherent (fun _ : Unit => request) (.alone s.db s.sequences .idle []) :=
  coherent_initial consistent

/-- What holds while a call alone runs from the session `s`. -/
structure Session.Calling (s : Session) (request : Request) (t : Platform Unit) : Prop where
  accepting : Accepting (fun _ => request) t
  one : t.committed.OneAcceptedVersion
  valid : ValidSources t.committed
  reached : s.AtPhase request.metadata t.committed t.external (t.pending ()) (t.phase ())
  loaded : ∀ {partitionKey checksum}, s.HasLoaded partitionKey checksum →
    Session.HasLoaded ⟨t.committed, t.external⟩ partitionKey checksum

theorem calling_start (orderly : s.Orderly) : s.Calling request (.alone s.db s.sequences .idle []) where
  accepting := ⟨coherent_alone orderly.consistent, orderly.accepted, orderly.loaded⟩
  one := orderly.one
  valid := orderly.valid
  reached := ⟨rfl, rfl, rfl⟩
  loaded := id

theorem Session.Calling.stillFirst (calling : s.Calling request t) (consistent : s.Consistent) :
    StillFirst (fun _ => request) t () e := by
  rintro ⟨phase, external, executed⟩ row inserted ready
  obtain ⟨result, registering⟩ := (calling.accepting.coherent.sessions ()).insertSource_registering
    (Request.exec_commit executed) inserted
  have reached := calling.reached
  rw [registering] at reached
  obtain ⟨same, source, base, isNew, registered, -, -⟩ := reached
  rw [same]
  exact registered.first consistent inserted ready

theorem Session.Calling.step (calling : s.Calling request t) (consistent : s.Consistent)
    (stepped : request.program.step t () e = some t') : s.Calling request t' where
  accepting := calling.accepting.step stepped
  one := (calling.accepting.oneAcceptedVersion_iff calling.one stepped).mpr (calling.stillFirst consistent)
  valid := (calling.accepting.coherent.commitStep stepped).validSources calling.valid
  reached := step_atPhase consistent stepped calling.reached
  loaded := fun held => (calling.loaded held).extends (calling.accepting.coherent.extends stepped)

theorem Session.Calling.keeps (calling : s.Calling request t) : s.Keeps ⟨t.committed, t.external⟩ where
  orderly := ⟨⟨calling.accepting.coherent.distinct.committed, calling.accepting.coherent.ranged.committed,
    calling.accepting.coherent.positive⟩, calling.valid, calling.accepting.accepted,
    calling.accepting.loaded, calling.one⟩
  loaded := calling.loaded

theorem run_calling {events : List (Unit × Event)} (orderly : s.Orderly)
    (ran : request.program.run (.alone s.db s.sequences .idle []) events = some t) : s.Calling request t :=
  Program.run_preserves (fun _ _ _ _ calling stepped => calling.step orderly.consistent stepped)
    (calling_start orderly) ran

end Ingestion

section Calls

variable {s s' : Session}

theorem registerSourceFile_keeps (now : Timestamp) (metadata : SourceFileMetadata) (orderly : s.Orderly) :
    s.Keeps (atomically (registerSourceFile now metadata) s).2 := by
  refine Attempt.Meets.ends (meets_atomically ((registerSourceFile_meets s now metadata).mono
    (fun result s' answered => ?_) fun error s' kept => ?_))
  · rcases answered with ⟨row, -, -, rfl⟩ | ⟨absent, written, -, rfl⟩
    · exact orderly.keeps
    · have registered := Registration.inserted absent written
      exact ⟨registered.orderly orderly, fun held => held.extends registered.extends⟩
  · exact orderly.keeps_same (.refl _) kept.1

theorem runQualityChecks_keeps (now : Timestamp) (runId : Nat) (orderly : s.Orderly) :
    s.Keeps (atomically (runQualityChecks now runId) s).2 := by
  refine Attempt.Meets.ends (meets_atomically ((runQualityChecks_meets s now runId).mono
    (fun summary s' evaluated => ?_) fun error s' kept => ?_))
  · obtain ⟨run, warningCount, errorCount, -, -, grows, same⟩ := evaluated
    have index := same.index.trans (markEvaluated_index _ _ _ _)
    exact ⟨orderly.same same.sourceFiles same.raw (orderly.consistent.grown index grows),
      fun held => held.same same.sourceFiles⟩
  · exact orderly.keeps_same (.refl _) kept.1

theorem mergeStorageMetadata_keepsVersion (storage : StorageResult) :
    KeepsVersion (mergeStorageMetadata storage) := by
  have same := mergeStorageMetadata_same storage
  exact ⟨fun row => (same row).1, fun row => (same row).2.1, fun row => (same row).2.2.1,
    fun row => (same row).2.2.2.1, fun row => (same row).2.2.2.2.1, fun row => (same row).2.2.2.2.2⟩

theorem mergeStorageMetadata_keys (storage : StorageResult) (row : SourceFile) :
    (mergeStorageMetadata storage row).keys = row.keys := by
  have same := mergeStorageMetadata_same storage row
  simp only [SourceFile.keys, same.1, same.2.1, same.2.2.1]

theorem persistStorageMetadata_keeps (sourceFileId : Nat) (storage : StorageResult) (orderly : s.Orderly) :
    s.Keeps (atomically (persistStorageMetadata sourceFileId storage) s).2 := by
  refine Attempt.Meets.ends (meets_atomically ((persistStorageMetadata_meets s sourceFileId storage).mono
    (fun _ s' persisted => ?_) fun _ s' same => ?_))
  · subst persisted
    have index := s.db.updateSourceFile_index sourceFileId (mergeStorageMetadata_keys storage)
    have keeps := (mergeStorageMetadata_keepsVersion storage).only sourceFileId
    exact ⟨orderly.map keeps rfl rfl (orderly.consistent.grown index (.refl _)), fun held => held.map keeps rfl⟩
  · subst same
    exact orderly.keeps

theorem Session.Calls.keeps (calls : s.Calls s') (orderly : s.Orderly) : s.Keeps s' := by
  cases calls with
  | registerSourceFile now metadata => exact registerSourceFile_keeps now metadata orderly
  | ingestSource ran ended => exact (run_calling orderly ran).keeps
  | runQualityChecks now runId => exact runQualityChecks_keeps now runId orderly
  | persistStorageMetadata sourceFileId storage =>
    exact persistStorageMetadata_keeps sourceFileId storage orderly

/-- A whole history keeps what each of its calls keeps. -/
theorem Session.Leads.keeps (leads : s.Leads s') (orderly : s.Orderly) : s.Keeps s' := by
  induction leads with
  | refl => exact orderly.keeps
  | tail _ calls ih =>
    have next := calls.keeps ih.orderly
    exact ⟨next.orderly, fun held => next.loaded (ih.loaded held)⟩

end Calls

end TaxiPipeline
