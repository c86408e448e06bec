import TaxiPipeline.Model.StorageService
import TaxiPipeline.Storage.OneSource

namespace TaxiPipeline

open ObjectStore ReadCommitted Stateful StorageAction

/-- The id of the newest version of the object, if there is one. -/
def SyncTarget.newest (target : SyncTarget) (bucket : S3Bucket) : Option (Option String) :=
  (bucket.latest target.key).map (·.id)

/-- The call has still to make the row record the newest version: it has not learnt of a version
    yet, or it holds the newest one and does not find it in the row that it loads. -/
def StoragePhase.WillRecord (newest : Option (Option String)) (pending : List StorageWrite) : StoragePhase → Prop
  | .storing _ (.headAgain _ versionId) => newest = some versionId
  | .persisting storage .select => newest = some storage.versionId
  | .persisting storage (.flush loaded) =>
      newest = some storage.versionId ∧ loaded.storageVersionId ≠ storage.versionId
  | .persisting _ .commit => ∃ w ∈ pending, w.change.versionId.isSome ∧ w.change.versionId = newest
  | phase => phase.isEarly = true

section SettlesRow

variable {Client : Type} (target : SyncTarget) (s : StorageState Client)

/-- The row records the newest version of the object. -/
def RecordsNewest : Prop :=
  ∃ row, s.committed.getSourceFile target.sourceFileId = some row ∧
    target.newest s.external = some row.storageVersionId

def StillRecords (i : Client) : Prop := (s.phase i).WillRecord (target.newest s.external) (s.pending i)

/-- The row records the newest version, or some call will make it do so. -/
def SettlesRow : Prop := RecordsNewest target s ∨ ∃ i, StillRecords target s i

/-- A call commits a version other than the newest only while another one is still to record the newest. -/
def NeverLast (i : Client) : Prop :=
  (∃ storage, s.phase i = .persisting storage .commit) → ∀ w ∈ s.pending i, w.change.versionId.isSome →
    w.change.versionId ≠ target.newest s.external → ∃ j, j ≠ i ∧ StillRecords target s j

end SettlesRow

section Steps

variable {Client : Type} [DecidableEq Client] {target : SyncTarget} {calls : Client → StorageCall}
  {s : StorageState Client} {i j : Client} {effect : Effect StorageWrite} {next : StoragePhase}
  {bucket : S3Bucket} {row row' : SourceFile}

theorem stillRecords_other (other : j ≠ i) (newest : target.newest bucket = target.newest s.external) :
    StillRecords target ((storing target.setup calls).perform s i effect next bucket) j ↔
      StillRecords target s j := by
  unfold StillRecords
  rw [Program.perform_phase_other _ other, Program.perform_pending_other _ other, Program.perform_external, newest]

theorem settles_of_kept (newest : target.newest bucket = target.newest s.external)
    (kept : RecordsNewest target ((storing target.setup calls).perform s i effect next bucket) ↔
      RecordsNewest target s)
    (mine : StillRecords target ((storing target.setup calls).perform s i effect next bucket) i ↔
      StillRecords target s i) :
    SettlesRow target ((storing target.setup calls).perform s i effect next bucket) ↔ SettlesRow target s := by
  unfold SettlesRow
  refine or_congr kept (exists_congr fun j => ?_)
  by_cases same : j = i
  · subst same
    exact mine
  · exact stillRecords_other same newest

omit [DecidableEq Client] in
theorem recordsNewest_iff (got : s.committed.getSourceFile target.sourceFileId = some row) :
    RecordsNewest target s ↔ target.newest s.external = some row.storageVersionId := by
  constructor
  · rintro ⟨row', got', newest⟩
    cases got.symm.trans got'
    exact newest
  · exact fun newest => ⟨row, got, newest⟩

omit [DecidableEq Client] in
theorem StoragePhase.willRecord_early {phase : StoragePhase} {newest : Option (Option String)}
    {pending : List StorageWrite} (early : phase.isEarly = true) : phase.WillRecord newest pending := by
  cases phase with
  | idle => rfl
  | reading => rfl
  | storing metadata point =>
    cases point with
    | verify => rfl
    | head key content => rfl
    | put key content => rfl
    | headAgain key versionId => cases early
  | persisting storage point => cases early
  | finished result => cases early
  | crashed => cases early

omit [DecidableEq Client] in
theorem settles_of_still (still : StillRecords target s i) : SettlesRow target s := .inr ⟨i, still⟩

theorem flushed_versionId {loaded : SourceFile} {storage : StorageResult} (result : target.IsResult storage) :
    (loaded.flushed storage).versionId = differing loaded.storageVersionId storage.versionId := by
  rw [flushed_s3 result.backend]

/-- A turn before the commit settles nothing that was not settled, and takes nothing back. -/
theorem SyncTurn.settles (turn : SyncTurn target s.external row (s.phase i) effect next bucket)
    (calls : Client → StorageCall)
    (got : s.committed.getSourceFile target.sourceFileId = some row)
    (session : (s.phase i).Syncs target s.external row (s.pending i)) (notCommit : effect ≠ .commit) :
    SettlesRow target ((storing target.setup calls).perform s i effect next bucket) ↔ SettlesRow target s := by
  have committed : ((storing target.setup calls).perform s i effect next bucket).committed = s.committed :=
    (storing target.setup calls).perform_committed notCommit
  have kept : target.newest bucket = target.newest s.external →
      (RecordsNewest target ((storing target.setup calls).perform s i effect next bucket) ↔
        RecordsNewest target s) := by
    intro newest
    unfold RecordsNewest
    rw [committed, Program.perform_external, newest]
  generalize at_phase : s.phase i = phase at turn session
  cases turn with
  | waits before after syncs =>
    refine iff_of_true (settles_of_still (i := i) ?_) (settles_of_still (i := i) ?_)
    · rw [StillRecords, Program.perform_phase_self]
      exact StoragePhase.willRecord_early after
    · rw [StillRecords, at_phase]
      exact StoragePhase.willRecord_early before
  | finds found result version =>
    refine iff_of_true (settles_of_still (i := i) ?_) (settles_of_still (i := i) ?_)
    · rw [StillRecords, Program.perform_phase_self, Program.perform_external]
      show target.newest s.external = _
      rw [SyncTarget.newest, found, version]
      rfl
    · rw [StillRecords, at_phase]
      exact StoragePhase.willRecord_early rfl
  | uploads identifies =>
    refine iff_of_true (settles_of_still (i := i) ?_) (settles_of_still (i := i) ?_)
    · rw [StillRecords, Program.perform_phase_self, Program.perform_external]
      show target.newest _ = _
      rw [SyncTarget.newest, Bucket.latest_put_self]
      rfl
    · rw [StillRecords, at_phase]
      exact StoragePhase.willRecord_early rfl
  | accepts result version =>
    refine settles_of_kept rfl (kept rfl) ?_
    rw [StillRecords, StillRecords, Program.perform_phase_self, Program.perform_external, at_phase]
    show target.newest s.external = _ ↔ target.newest s.external = _
    rw [version]
  | @selects storage result =>
    -- the row that is loaded records the newest version or lacks what the call holds
    have mine : StillRecords target ((storing target.setup calls).perform s i .read
        (.persisting storage (.flush row)) s.external) i ↔
        target.newest s.external = some storage.versionId ∧ row.storageVersionId ≠ storage.versionId := by
      rw [StillRecords, Program.perform_phase_self]
      rfl
    constructor
    · rintro (records | ⟨j, still⟩)
      · exact .inl ((kept rfl).mp records)
      · by_cases same : j = i
        · subst same
          refine settles_of_still (i := j) ?_
          rw [StillRecords, at_phase]
          exact (mine.mp still).1
        · exact .inr ⟨j, (stillRecords_other same rfl).mp still⟩
    · rintro (records | ⟨j, still⟩)
      · exact .inl ((kept rfl).mpr records)
      · by_cases same : j = i
        · subst same
          rw [StillRecords, at_phase] at still
          have holds : target.newest s.external = some storage.versionId := still
          by_cases found : row.storageVersionId = storage.versionId
          · exact .inl ((kept rfl).mpr ((recordsNewest_iff got).mpr (found ▸ holds)))
          · exact settles_of_still (mine.mpr ⟨holds, found⟩)
        · exact .inr ⟨j, (stillRecords_other same rfl).mpr still⟩
  | @unchanged storage loaded result same =>
    refine settles_of_kept rfl (kept rfl) ?_
    rw [StillRecords, StillRecords, Program.perform_phase_self, Program.perform_external, at_phase]
    have version : loaded.storageVersionId = storage.versionId := by
      have none_set := congrArg StorageChange.versionId same
      rw [flushed_versionId result, differing] at none_set
      split at none_set
      · rename_i equal
        exact equal.symm
      · cases none_set
    refine iff_of_false ?_ fun still => still.2 version
    rintro ⟨w, member, -⟩
    rw [Program.perform_read_pending, session.2.1] at member
    exact List.not_mem_nil member
  | @flushes storage loaded result isLoaded durable =>
    refine settles_of_kept rfl (kept rfl) ?_
    rw [StillRecords, StillRecords, Program.perform_phase_self, Program.perform_external, at_phase,
      Program.perform_write_pending, session.2.1]
    show (∃ w ∈ [_], _) ↔ (_ ∧ _)
    simp only [List.mem_singleton, exists_eq_left, flushed_versionId result, differing]
    by_cases same : storage.versionId = loaded.storageVersionId
    · rw [if_pos same]
      exact iff_of_false (fun still => absurd still.1 (by decide)) fun still => still.2 same.symm
    · rw [if_neg same]
      exact ⟨fun still => ⟨still.2.symm, Ne.symm same⟩, fun still => ⟨rfl, still.1.symm⟩⟩
  | commits => exact absurd rfl notCommit

/-- What a commit settles: its own version if that is the newest, else only what others will record. -/
theorem Syncing.commit_settles (syncing : Syncing target s) {storage : StorageResult}
    (got : s.committed.getSourceFile target.sourceFileId = some row) (isRow : target.IsRow row)
    (at_commit : s.phase i = .persisting storage .commit) :
    (SettlesRow target s → (SettlesRow target ((storing target.setup calls).perform s i .commit
        (.finished (.ok storage)) s.external) ↔ NeverLast target s i)) ∧
      (¬ SettlesRow target s → ¬ SettlesRow target ((storing target.setup calls).perform s i .commit
        (.finished (.ok storage)) s.external)) := by
  obtain ⟨row', got', -, -, moved⟩ := syncing.row_after calls got isRow
    (at_commit ▸ .commits : SyncTurn target s.external row (s.phase i) .commit (.finished (.ok storage)) s.external)
  have session := syncing.calls i row got
  rw [at_commit] at session
  obtain ⟨-, at_point⟩ := session
  generalize after : (storing target.setup calls).perform s i .commit (.finished (.ok storage)) s.external = s'
    at got'
  have records : RecordsNewest target s' ↔ target.newest s.external = some row'.storageVersionId := by
    rw [recordsNewest_iff got', ← after, Program.perform_external]
  have others : ∀ j, j ≠ i → (StillRecords target s' j ↔ StillRecords target s j) := by
    intro j other
    rw [← after]
    exact stillRecords_other other rfl
  have ended : ¬ StillRecords target s' i := by
    rw [StillRecords, ← after, Program.perform_phase_self]
    exact Bool.false_ne_true
  have mine : StillRecords target s i ↔
      ∃ w ∈ s.pending i, w.change.versionId.isSome ∧ w.change.versionId = target.newest s.external := by
    rw [StillRecords, at_commit]
    rfl
  have settled : SettlesRow target s' ↔
      target.newest s.external = some row'.storageVersionId ∨ ∃ j, j ≠ i ∧ StillRecords target s j := by
    unfold SettlesRow
    refine or_congr records ⟨?_, ?_⟩
    · rintro ⟨j, still⟩
      have other : j ≠ i := fun same => ended (same ▸ still)
      exact ⟨j, other, (others j other).mp still⟩
    · rintro ⟨j, other, still⟩
      exact ⟨j, (others j other).mpr still⟩
  have before : SettlesRow target s ↔ target.newest s.external = some row.storageVersionId ∨
      StillRecords target s i ∨ ∃ j, j ≠ i ∧ StillRecords target s j := by
    unfold SettlesRow
    refine or_congr (recordsNewest_iff got) ⟨?_, ?_⟩
    · rintro ⟨j, still⟩
      by_cases same : j = i
      · exact .inl (same ▸ still)
      · exact .inr ⟨j, same, still⟩
    · rintro (still | ⟨j, -, still⟩)
      · exact ⟨i, still⟩
      · exact ⟨j, still⟩
  have never : NeverLast target s i ↔ ∀ w ∈ s.pending i, w.change.versionId.isSome →
      w.change.versionId ≠ target.newest s.external → ∃ j, j ≠ i ∧ StillRecords target s j :=
    ⟨fun last => last ⟨storage, at_commit⟩, fun each _ => each⟩
  rw [settled, before, never, mine]
  rcases at_point with empty | ⟨loaded, written, -, -⟩
  · rw [empty] at moved ⊢
    rw [show row' = row from moved]
    simp
  · rw [written] at moved ⊢
    simp only [List.mem_singleton, forall_eq, exists_eq_left]
    have version : row'.storageVersionId = (loaded.flushed storage).versionId.getD row.storageVersionId := by
      rw [moved]
      rfl
    rw [version]
    cases (loaded.flushed storage).versionId with
    | none => simp
    | some added =>
      simp only [Option.isSome_some, Option.getD_some, true_implies, true_and]
      by_cases newest : some added = target.newest s.external
      · simp [newest]
      · simp [newest, Ne.symm newest]

end Steps

/-- `verify_source_storage` finds nothing wrong. -/
def Verifies {Client : Type} (target : SyncTarget) (s : StorageState Client) : Prop :=
  ∀ (d : Deployment) (now : Timestamp), d.session.db = s.committed → d.bucket = s.external →
    ∃ result, (verifySourceStorage target.setup .s3Landing now target.sourceFileId d).1 = .ok result

section Runs

variable {Client : Type} {target : SyncTarget} {calls : Client → StorageCall} {s s' : StorageState Client}

theorem verifySourceStorage_recorded {d : Deployment} {now : Timestamp} {row : SourceFile} {setup : StorageSetup}
    {key : String} {sourceFileId : Nat} {object : S3Object}
    (got : d.session.db.getSourceFile sourceFileId = some row) (backend : row.storageBackend = "s3")
    (keyed : s3Key (metadataFromRecord row) = .ok key) (uri : row.storageUri = some (setup.uri key))
    (found : d.bucket.latest key = some object) (matched : object.Matches (metadataFromRecord row)) :
    (verifySourceStorage setup .s3Landing now sourceFileId d).1 =
      if versionsDiffer row.storageVersionId object.id then
        .error (valueError s!"Source file {sourceFileId} storage version does not match S3")
      else .ok (setup.result key object.id now) := by
  have inspected := inspect_found setup now keyed found matched
  simp only [verifySourceStorage, Attempt.bind_apply, requireS3_s3, getSource_got got, backend, ne_eq,
    not_true_eq_false, if_false, onBucket_apply, inspected, uri, StorageSetup.result]
  cases versionsDiffer row.storageVersionId object.id <;> rfl

theorem verifySourceStorage_missing {d : Deployment} {now : Timestamp} {row : SourceFile} {setup : StorageSetup}
    {key : String} {sourceFileId : Nat} (got : d.session.db.getSourceFile sourceFileId = some row)
    (backend : row.storageBackend = "s3") (keyed : s3Key (metadataFromRecord row) = .ok key)
    (missing : d.bucket.latest key = none) :
    (verifySourceStorage setup .s3Landing now sourceFileId d).1 =
      .error (storageIntegrityError "S3 object does not exist") := by
  have inspected := inspect_missing setup now keyed missing
  simp only [verifySourceStorage, Attempt.bind_apply, requireS3_s3, getSource_got got, backend, ne_eq,
    not_true_eq_false, if_false, onBucket_apply, inspected]

theorem verifySourceStorage_unrecorded {d : Deployment} {now : Timestamp} {row : SourceFile}
    {setup : StorageSetup} {sourceFileId : Nat} (got : d.session.db.getSourceFile sourceFileId = some row)
    (backend : row.storageBackend ≠ "s3") :
    (verifySourceStorage setup .s3Landing now sourceFileId d).1 =
      .error (valueError s!"Source file {sourceFileId} is not S3-backed") := by
  simp only [verifySourceStorage, Attempt.bind_apply, requireS3_s3, getSource_got got, ne_eq, backend,
    not_false_eq_true, if_true, Attempt.raise_apply]

/-- Verification succeeds exactly when the row records the newest version. -/
theorem Syncing.verifies_iff (syncing : Syncing target s) (resolved : Resolved target.source) :
    Verifies target s ↔ RecordsNewest target s := by
  obtain ⟨row, got, isRow⟩ := syncing.row
  rw [recordsNewest_iff got]
  let here : Deployment := ⟨⟨s.committed, Sequences.start⟩, s.external, ⟨[], fun _ => none⟩⟩
  have keyed := isRow.identifies.key resolved
  have answers : ∀ error : PyException,
      (∀ d now, d.session.db = s.committed → d.bucket = s.external →
        (verifySourceStorage target.setup .s3Landing now target.sourceFileId d).1 = .error error) →
      ¬ Verifies target s := by
    intro error fails verifies
    obtain ⟨result, ok⟩ := verifies here 0 rfl rfl
    cases (fails here 0 rfl rfl).symm.trans ok
  cases found : s.external.latest target.key with
  | none =>
    have noVersion : target.newest s.external = none := by rw [SyncTarget.newest, found]; rfl
    rw [noVersion]
    refine iff_of_false ?_ nofun
    rcases isRow.recorded with ⟨isLocal, -⟩ | ⟨isS3, -⟩
    · have notS3 : row.storageBackend ≠ "s3" := isLocal ▸ by decide
      exact answers _ fun d now db bucket => verifySourceStorage_unrecorded (db ▸ got) notS3
    · exact answers _ fun d now db bucket =>
        verifySourceStorage_missing (db ▸ got) isS3 keyed (bucket ▸ found)
  | some object =>
    have isObject := syncing.objects object found
    obtain ⟨newest, isNewest, -⟩ := isObject.version
    have version : target.newest s.external = some (some newest) := by
      rw [SyncTarget.newest, found, Option.map_some, isNewest]
    rw [version]
    rcases isRow.recorded with ⟨isLocal, -, noVersion⟩ | ⟨isS3, uri, recorded, isRecorded⟩
    · rw [noVersion]
      have notS3 : row.storageBackend ≠ "s3" := isLocal ▸ by decide
      exact iff_of_false (answers _ fun d now db bucket => verifySourceStorage_unrecorded (db ▸ got) notS3) nofun
    · rw [isRecorded, Option.some_inj, Option.some_inj]
      have comes : ∀ d now, d.session.db = s.committed → d.bucket = s.external →
          (verifySourceStorage target.setup .s3Landing now target.sourceFileId d).1 =
            if versionsDiffer row.storageVersionId object.id then
              .error (valueError s!"Source file {target.sourceFileId} storage version does not match S3")
            else .ok (target.setup.result target.key object.id now) :=
        fun d now db bucket => verifySourceStorage_recorded (db ▸ got) isS3 keyed uri (bucket ▸ found)
          (isObject.matches_all _ isRow.identifies)
      by_cases same : newest = recorded
      · refine iff_of_true (fun d now db bucket => ?_) same
        rw [comes d now db bucket, isRecorded, isNewest, same]
        exact ⟨_, if_neg (by simp [versionsDiffer])⟩
      · refine iff_of_false (answers (valueError
          s!"Source file {target.sourceFileId} storage version does not match S3") fun d now db bucket => ?_) same
        rw [comes d now db bucket, isRecorded, isNewest]
        exact if_pos (by simpa [versionsDiffer] using Ne.symm same)

theorem settles_ended (finished : ∀ i, (s.phase i).isRunning = false) :
    SettlesRow target s ↔ RecordsNewest target s := by
  refine or_iff_left ?_
  rintro ⟨i, still⟩
  have ended := finished i
  unfold StillRecords at still
  cases at_phase : s.phase i with
  | finished result =>
    rw [at_phase] at still
    exact Bool.false_ne_true still
  | crashed =>
    rw [at_phase] at still
    exact Bool.false_ne_true still
  | idle =>
    rw [at_phase] at ended
    cases ended
  | reading =>
    rw [at_phase] at ended
    cases ended
  | storing metadata point =>
    rw [at_phase] at ended
    cases ended
  | persisting storage point =>
    rw [at_phase] at ended
    cases ended

variable [Fintype Client] [DecidableEq Client]

/-- A call on the target settles the row exactly if it is never the last to record an old version. -/
theorem Syncing.step_settles {i : Client} {now : Timestamp} (syncing : Syncing target s)
    (syncs : SyncsOneSource target calls)
    (stepped : (storing target.setup calls).step s i (.next now) = some s') :
    (SettlesRow target s → (SettlesRow target s' ↔ NeverLast target s i)) ∧
      (¬ SettlesRow target s → ¬ SettlesRow target s') := by
  obtain ⟨row, got, isRow⟩ := syncing.row
  obtain ⟨effect, next, bucket, turn, rfl⟩ := syncing.turn syncs got isRow stepped
  by_cases commits : effect = .commit
  · subst commits
    obtain ⟨storage, at_commit, rfl, rfl⟩ := turn.of_commit
    exact syncing.commit_settles got isRow at_commit
  · have kept := turn.settles calls got (syncing.calls i row got) commits
    refine ⟨fun settles => iff_of_true (kept.mpr settles) ?_, fun lost => mt kept.mp lost⟩
    rintro ⟨storage, at_commit⟩
    rw [at_commit] at turn
    cases turn with
    | commits => exact absurd rfl commits
    | waits before after session => cases before

/-- The statements of a schedule that meets no fault. -/
def faultless (schedule : List (Client × Timestamp)) : List (Client × StorageEvent) :=
  schedule.map fun turn => (turn.1, .next turn.2)

/-- Concurrent syncs of one source leave a row that verifies exactly when no call commits an older
    version while no other call is still to record the newest. -/
theorem concurrent_syncs_verify_iff [Nonempty Client] {db : Database} {bucket : S3Bucket} {row : SourceFile}
    {schedule : List (Client × Timestamp)} (syncs : SyncsOneSource target calls)
    (got : db.getSourceFile target.sourceFileId = some row) (isRow : target.IsRow row)
    (objects : ∀ object, bucket.latest target.key = some object → target.IsObject object)
    (ran : (storing target.setup calls).run (storageStart db bucket) (faultless schedule) = some s)
    (finished : ∀ i, (s.phase i).isRunning = false) :
    Verifies target s ↔
      (storing target.setup calls).Throughout (fun s i _ => NeverLast target s i) (storageStart db bucket)
        (faultless schedule) := by
  have start : Syncing target (storageStart db bucket : StorageState Client) := syncing_start got isRow objects
  have side : (storing target.setup calls).Throughout (fun _ _ e => ∃ now, e = .next now)
      (storageStart db bucket) (faultless schedule) := by
    refine Program.throughout_of_events fun turn member => ?_
    obtain ⟨pair, -, rfl⟩ := List.mem_map.mp member
    exact ⟨pair.2, rfl⟩
  have preserved : ∀ s i e s', Syncing target s → (∃ now, e = StorageEvent.next now) →
      (storing target.setup calls).step s i e = some s' → Syncing target s' := by
    rintro s i e s' syncing ⟨now, rfl⟩ stepped
    exact syncing.step syncs stepped
  have syncing := Program.run_preserves_throughout preserved start side ran
  have good : SettlesRow target (storageStart db bucket : StorageState Client) :=
    .inr ⟨Classical.arbitrary Client, rfl⟩
  rw [syncing.verifies_iff syncs.resolved, ← settles_ended finished]
  refine Program.end_iff_throughout preserved ?_ ?_ start good side ran
  · rintro s i e s' syncing ⟨now, rfl⟩ settles stepped
    exact (syncing.step_settles syncs stepped).1 settles
  · rintro s i e s' syncing ⟨now, rfl⟩ lost stepped
    exact (syncing.step_settles syncs stepped).2 lost

end Runs

def zoneTarget : SyncTarget where
  setup := zoneStorage
  source := taxiZoneSource
  content := [1, 2, 3]
  sourceFileId := 1

theorem racingCalls_one_source : SyncsOneSource zoneTarget racingCalls where
  resolved := .zones
  versioned := by
    intro n
    refine ⟨toString n, rfl, ?_⟩
    rw [storable, show (toString n).toList = Nat.toDigits 10 n from Nat.toList_repr, List.all_eq_true]
    intro c member
    have digit := Nat.isDigit_of_mem_toDigits (by decide) le_rfl member
    exact bne_iff_ne.mpr fun nul => absurd (nul ▸ digit) (by decide)
  named := by decide
  backend := fun _ => rfl
  sourceFileId := fun _ => rfl
  inspected := by
    intro i metadata inspected
    cases inspected
    rfl
  files := by decide +kernel

theorem zoneRow_isRow : zoneTarget.IsRow (newSourceFile 1 .ready 0 zoneMetadata) where
  identifies := ⟨⟨rfl, rfl, rfl, rfl, rfl, rfl⟩, rfl, rfl⟩
  recorded := .inl ⟨rfl, rfl, rfl⟩

/-- Both calls upload, and the one that uploads first records its version last. -/
def overtakenSync : List (Bool × Timestamp) :=
  List.replicate 3 (false, 0) ++ List.replicate 3 (true, 0) ++ [(false, 0), (true, 0)] ++
    List.replicate 4 (true, 0) ++ List.replicate 4 (false, 0)

set_option maxRecDepth 10000 in
theorem overtakenSync_runs :
    ∃ s, (storing zoneStorage racingCalls).run (storageStart registeredZones []) (faultless overtakenSync) = some s ∧
      (∀ i, (s.phase i).isRunning = false) ∧
      (verifySourceStorage zoneStorage .s3Landing 0 1
        ⟨⟨s.committed, Sequences.start⟩, s.external, zoneLanding⟩).1.toOption = none := by
  have runs : ((storing zoneStorage racingCalls).run (storageStart registeredZones [])
      (faultless overtakenSync)).map (fun s => ((s.phase false).isRunning, (s.phase true).isRunning,
        (verifySourceStorage zoneStorage .s3Landing 0 1
          ⟨⟨s.committed, Sequences.start⟩, s.external, zoneLanding⟩).1.toOption)) =
      some (false, false, none) := by decide +kernel
  obtain ⟨s, ran, ends⟩ := Option.map_eq_some_iff.mp runs
  refine ⟨s, ran, fun i => ?_, congrArg (·.2.2) ends⟩
  cases i
  · exact congrArg (·.1) ends
  · exact congrArg (·.2.1) ends

theorem overtakenSync_not_verified :
    ∃ s, (storing zoneStorage racingCalls).run (storageStart registeredZones []) (faultless overtakenSync) = some s ∧
      (∀ i, (s.phase i).isRunning = false) ∧ ¬ Verifies zoneTarget s := by
  obtain ⟨s, ran, finished, fails⟩ := overtakenSync_runs
  refine ⟨s, ran, finished, fun verifies => ?_⟩
  obtain ⟨result, ok⟩ := verifies ⟨⟨s.committed, Sequences.start⟩, s.external, zoneLanding⟩ 0 rfl rfl
  rw [show (verifySourceStorage zoneStorage .s3Landing 0 1
    ⟨⟨s.committed, Sequences.start⟩, s.external, zoneLanding⟩).1 = .ok result from ok] at fails
  cases fails

theorem overtakenSync_last_records_old :
    ¬ (storing zoneStorage racingCalls).Throughout (fun s i _ => NeverLast zoneTarget s i)
      (storageStart registeredZones []) (faultless overtakenSync) := by
  obtain ⟨s, ran, finished, fails⟩ := overtakenSync_runs
  intro all
  have got : registeredZones.getSourceFile zoneTarget.sourceFileId = some (newSourceFile 1 .ready 0 zoneMetadata) := rfl
  have verifies := (concurrent_syncs_verify_iff racingCalls_one_source got zoneRow_isRow
    (fun _ found => by cases found) ran finished).mpr all
  obtain ⟨result, ok⟩ := verifies ⟨⟨s.committed, Sequences.start⟩, s.external, zoneLanding⟩ 0 rfl rfl
  rw [show (verifySourceStorage zoneStorage .s3Landing 0 1
    ⟨⟨s.committed, Sequences.start⟩, s.external, zoneLanding⟩).1 = .ok result from ok] at fails
  cases fails

end TaxiPipeline
