import TaxiPipeline.Ingestion.Acceptance
import TaxiPipeline.Ingestion.Attempts
import TaxiPipeline.Lifecycle.Progress
import TaxiPipeline.Model.StorageMetadata

namespace TaxiPipeline

open ReadCommitted Stateful

/-- What holds between calls that do not overlap. -/
structure Session.Orderly (s : Session) : Prop where
  consistent : s.Consistent
  valid : ValidSources s.db
  accepted : s.db.PartitionsAccepted
  loaded : s.db.RowsOfLoaded
  one : s.db.OneAcceptedVersion

theorem orderly_start : Session.start.Orderly where
  consistent := consistent_start
  valid := nofun
  accepted := fun _ ⟨_, _, got, _⟩ => nomatch got
  loaded := fun _ _ member => (List.not_mem_nil member).elim
  one := oneAcceptedVersion_empty

/-- A version that is loaded. -/
def Session.HasLoaded (s : Session) (partitionKey : String) (checksum : Digest) : Prop :=
  ∃ sourceFileId row, s.db.getSourceFile sourceFileId = some row ∧ row.partitionKey = partitionKey ∧
    row.checksumSha256 = checksum ∧ row.status = .loaded

section Rows

variable {s s' : Session}

/-- Columns that registration and loading read stay when every row is changed on its own. -/
structure KeepsVersion (change : SourceFile → SourceFile) : Prop where
  id : ∀ row, (change row).sourceFileId = row.sourceFileId
  partition : ∀ row, (change row).partitionKey = row.partitionKey
  checksum : ∀ row, (change row).checksumSha256 = row.checksumSha256
  status : ∀ row, (change row).status = row.status
  fits : ∀ row, (change row).fits = row.fits
  checks : ∀ row, (change row).meetsChecks = row.meetsChecks

theorem KeepsVersion.only {change : SourceFile → SourceFile} (keeps : KeepsVersion change)
    (sourceFileId : Nat) :
    KeepsVersion fun row => if row.sourceFileId = sourceFileId then change row else row where
  id row := by split <;> simp only [keeps.id]
  partition row := by split <;> simp only [keeps.partition]
  checksum row := by split <;> simp only [keeps.checksum]
  status row := by split <;> simp only [keeps.status]
  fits row := by split <;> simp only [keeps.fits]
  checks row := by split <;> simp only [keeps.checks]

theorem getSourceFile_map {change : SourceFile → SourceFile} (keeps : KeepsVersion change)
    (files : s'.db.sourceFiles = s.db.sourceFiles.map change) (sourceFileId : Nat) :
    s'.db.getSourceFile sourceFileId = (s.db.getSourceFile sourceFileId).map change := by
  unfold Database.getSourceFile
  rw [files, List.find?_map]
  congr 2
  funext row
  simp only [Function.comp_apply, keeps.id]

theorem Session.Orderly.map {change : SourceFile → SourceFile} (orderly : s.Orderly)
    (keeps : KeepsVersion change) (files : s'.db.sourceFiles = s.db.sourceFiles.map change)
    (raw : s'.db.raw = s.db.raw) (consistent : s'.Consistent) : s'.Orderly := by
  have got_of : ∀ {sourceFileId row'}, s'.db.getSourceFile sourceFileId = some row' →
      ∃ row, s.db.getSourceFile sourceFileId = some row ∧ change row = row' := by
    intro sourceFileId row' got
    rw [getSourceFile_map keeps files] at got
    exact Option.map_eq_some_iff.mp got
  have to_got : ∀ {sourceFileId row}, s.db.getSourceFile sourceFileId = some row →
      s'.db.getSourceFile sourceFileId = some (change row) := by
    intro sourceFileId row got
    rw [getSourceFile_map keeps files, got, Option.map_some]
  have loaded : s'.db.RowsOfLoaded := by
    intro table row member
    rw [raw] at member
    obtain ⟨source, got, isLoaded⟩ := orderly.loaded table row member
    exact ⟨change source, to_got got, (keeps.status source).trans isLoaded⟩
  refine ⟨consistent, ?_, ?_, loaded, ⟨?_, loaded.blocked consistent.nodup⟩⟩
  · intro sourceFileId row' got
    obtain ⟨row, gotRow, rfl⟩ := got_of got
    have valid := orderly.valid gotRow
    exact ⟨(keeps.fits row).trans valid.1, (keeps.checks row).trans valid.2⟩
  · rintro partitionKey ⟨sourceFileId, row', got, partition⟩
    obtain ⟨row, gotRow, rfl⟩ := got_of got
    obtain ⟨other, acceptedRow, gotOther, samePartition, accepted⟩ :=
      orderly.accepted partitionKey ⟨sourceFileId, row, gotRow, (keeps.partition row).symm.trans partition⟩
    exact ⟨other, _, to_got gotOther, (keeps.partition _).trans samePartition,
      fun revised => accepted ((keeps.status _).symm.trans revised)⟩
  · intro left inLeft right inRight partition acceptedLeft acceptedRight
    rw [files] at inLeft inRight
    obtain ⟨row, inFiles, rfl⟩ := List.mem_map.mp inLeft
    obtain ⟨other, inFiles', rfl⟩ := List.mem_map.mp inRight
    rw [keeps.partition, keeps.partition] at partition
    rw [keeps.status] at acceptedLeft acceptedRight
    rw [orderly.one.unique row inFiles other inFiles' partition acceptedLeft acceptedRight]

theorem Session.HasLoaded.map {change : SourceFile → SourceFile} {partitionKey : String} {checksum : Digest}
    (held : s.HasLoaded partitionKey checksum) (keeps : KeepsVersion change)
    (files : s'.db.sourceFiles = s.db.sourceFiles.map change) : s'.HasLoaded partitionKey checksum := by
  obtain ⟨sourceFileId, row, got, partition, sameChecksum, loaded⟩ := held
  refine ⟨sourceFileId, change row, ?_, (keeps.partition row).trans partition,
    (keeps.checksum row).trans sameChecksum, (keeps.status row).trans loaded⟩
  rw [getSourceFile_map keeps files, got, Option.map_some]

theorem keepsVersion_id : KeepsVersion id :=
  ⟨fun _ => rfl, fun _ => rfl, fun _ => rfl, fun _ => rfl, fun _ => rfl, fun _ => rfl⟩

theorem Session.Orderly.same (orderly : s.Orderly) (files : s'.db.sourceFiles = s.db.sourceFiles)
    (raw : s'.db.raw = s.db.raw) (consistent : s'.Consistent) : s'.Orderly :=
  orderly.map keepsVersion_id (by rw [files, List.map_id]) raw consistent

theorem Session.HasLoaded.same {partitionKey : String} {checksum : Digest}
    (held : s.HasLoaded partitionKey checksum) (files : s'.db.sourceFiles = s.db.sourceFiles) :
    s'.HasLoaded partitionKey checksum :=
  held.map keepsVersion_id (by rw [files, List.map_id])

theorem Session.HasLoaded.extends {owned : Nat → Prop} {partitionKey : String} {checksum : Digest}
    (held : s.HasLoaded partitionKey checksum) (extended : s.db.Extends owned s'.db) :
    s'.HasLoaded partitionKey checksum := by
  obtain ⟨sourceFileId, row, got, partition, sameChecksum, loaded⟩ := held
  obtain ⟨row', got', registered, reached⟩ := extended.sources got
  rw [loaded] at reached
  refine ⟨sourceFileId, row', got', (congrArg SourceFile.partitionKey registered).trans partition,
    (congrArg SourceFile.checksumSha256 registered).trans sameChecksum, ?_⟩
  exact (reached.resolve_right nofun).symm

end Rows

section Registration

variable {s base : Session} {metadata : SourceFileMetadata} {source : SourceFile} {pending : List Write}

theorem Registration.first (registered : Registration s metadata source base pending)
    (consistent : s.Consistent) {row : SourceFile} (inserted : .insertSource row ∈ pending)
    (ready : row.status = .ready) : ∀ other ∈ s.db.sourceFiles, other.partitionKey ≠ row.partitionKey := by
  cases registered with
  | found found => cases inserted
  | @inserted now absent written =>
    cases List.mem_singleton.mp inserted
    have chosen : registrationStatus (s.db.findPartition metadata.partitionKey) = .ready := ready
    cases found : s.db.findPartition metadata.partitionKey with
    | none => exact findPartition_none.mp found
    | some sourceFileId =>
      obtain ⟨other, member, -, sameId⟩ := findPartition_some found
      have positive : 1 ≤ other.sourceFileId :=
        (consistent.below _ (Database.mem_index_sourceFile.mpr ⟨other, member, rfl⟩)).1
      have nonzero : sourceFileId ≠ 0 := by omega
      simp [found, registrationStatus, nonzero] at chosen

theorem Registration.commitStep (registered : Registration s metadata source base pending)
    (consistent : s.Consistent) : CommitStep metadata s.db base.db := by
  cases registered with
  | found found => exact .nothing
  | inserted absent written =>
    obtain ⟨fits, checks, -⟩ := sourceFileInsertError_none.mp written
    exact .registered fits checks (registrationStatus_chosen consistent.nodup)

theorem Registration.extends (registered : Registration s metadata source base pending) :
    s.db.Extends (fun _ => False) base.db := by
  rw [← registered.replay]
  refine replay_extends fun w member => ?_
  cases registered with
  | found found => cases member
  | inserted absent written =>
    cases List.mem_singleton.mp member
    exact True.intro

/-- A partition keeps its one accepted version when a first or a blocked version is added. -/
theorem Database.OneAcceptedVersion.add {db : Database} {row : SourceFile} (one : db.OneAcceptedVersion)
    (blocked : ∀ other ∈ (db.addSourceFile row).sourceFiles, other.status = .revisionDetected →
      ∀ table, (db.addSourceFile row).rowsOf table other.sourceFileId = [])
    (first : row.status ≠ .revisionDetected → ∀ other ∈ db.sourceFiles, other.partitionKey ≠ row.partitionKey) :
    (db.addSourceFile row).OneAcceptedVersion := by
  refine ⟨?_, blocked⟩
  intro left inLeft right inRight partition acceptedLeft acceptedRight
  rcases List.mem_append.mp inLeft with oldLeft | newLeft
  · rcases List.mem_append.mp inRight with oldRight | newRight
    · exact one.unique left oldLeft right oldRight partition acceptedLeft acceptedRight
    · cases List.mem_singleton.mp newRight
      exact absurd partition (first acceptedRight left oldLeft)
  · cases List.mem_singleton.mp newLeft
    rcases List.mem_append.mp inRight with oldRight | newRight
    · exact absurd partition.symm (first acceptedLeft right oldRight)
    · exact (List.mem_singleton.mp newRight).symm

theorem Registration.orderly (registered : Registration s metadata source base pending) (orderly : s.Orderly) :
    base.Orderly := by
  have consistent := registered.consistent orderly.consistent
  have step := registered.commitStep orderly.consistent
  have extended := registered.extends
  have loaded := step.rowsOfLoaded extended orderly.loaded
  refine ⟨consistent, step.validSources orderly.valid,
    step.partitionsAccepted extended consistent.nodup orderly.accepted, loaded, ?_⟩
  have first : ∀ row, .insertSource row ∈ pending → row.status = .ready →
      ∀ other ∈ s.db.sourceFiles, other.partitionKey ≠ row.partitionKey :=
    fun row inserted ready => registered.first orderly.consistent inserted ready
  cases registered with
  | found found => exact orderly.one
  | @inserted now absent written =>
    refine orderly.one.add (loaded.blocked consistent.nodup) fun accepted => ?_
    refine first _ (List.mem_singleton_self _) ?_
    have chosen : StatusChosen s.db metadata (s.registration now metadata).status :=
      registrationStatus_chosen orderly.consistent.nodup
    exact chosen.resolve_right fun revised => accepted revised.1

end Registration

end TaxiPipeline
