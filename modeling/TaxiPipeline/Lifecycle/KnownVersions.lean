import TaxiPipeline.Lifecycle.Skips

namespace TaxiPipeline

open ReadCommitted Stateful Transaction

/-- The call works on the version of the row, as the decision for its status says. -/
def Phase.Takes (row : SourceFile) : Phase → Prop
  | .registering .findExactVersion => True
  | .registering (.commit result) => result = registrationResult row false
  | .registering _ => False
  | .skipping sourceFileId reason _ =>
      sourceFileId = row.sourceFileId ∧ (decisionForSourceStatus row.status).skipReason = some reason
  | .starting sourceFileId _ | .loading sourceFileId _ _ | .failing sourceFileId _ _ _ =>
      sourceFileId = row.sourceFileId ∧ (decisionForSourceStatus row.status).skipReason = none
  | .finished (.registered result) _ => result = registrationResult row false
  | .finished (.returned result) _ =>
      result.sourceFileId = row.sourceFileId ∧ result.statusReason = (decisionForSourceStatus row.status).skipReason
  | .finished (.raised _) _ | .idle | .crashed _ => True

section Takes

variable {row : SourceFile} {request : Request} {db : Database} {sequences drawn : Sequences} {phase next : Phase}
  {effect : Effect Write}

theorem Request.begin_takes : request.begin.Takes row := by
  cases request with
  | register metadata => exact True.intro
  | ingest metadata batchSize =>
    unfold begin
    dsimp only
    split <;> exact True.intro

theorem Request.afterRegistration_takes : (request.afterRegistration (registrationResult row false)).Takes row := by
  unfold afterRegistration
  split
  · exact rfl
  · split
    · rename_i reason skipped
      exact ⟨rfl, skipped⟩
    · rename_i proceeds
      exact ⟨rfl, proceeds⟩

theorem Phase.advance_takes {now : Timestamp} {outcome : Effect Write × Phase} (takes : phase.Takes row)
    (known : phase = .registering .findExactVersion → db.findExactVersion request.metadata = some row)
    (advanced : phase.advance request db sequences now = some (outcome, drawn)) : outcome.2.Takes row := by
  cases phase with
  | idle =>
    cases advanced
    exact request.begin_takes
  | registering point =>
    cases advanced
    cases point with
    | findExactVersion =>
      have found := known rfl
      simp only [RegistrationPoint.exec, found]
      exact rfl
    | commit result =>
      obtain rfl : result = registrationResult row false := takes
      exact request.afterRegistration_takes
    | findPartition => exact takes.elim
    | insert status => exact takes.elim
    | findRacedVersion error => exact takes.elim
  | skipping sourceFileId reason point =>
    cases advanced
    exact Reply.proceed_next (fun _ => takes) (fun _ => ⟨takes.1, takes.2.symm⟩) fun _ => True.intro
  | starting sourceFileId point =>
    cases advanced
    exact Reply.proceed_next (fun _ => takes) (fun _ => takes) fun _ => True.intro
  | loading sourceFileId runId point =>
    obtain ⟨reply, -, same⟩ := Option.map_eq_some_iff.mp advanced
    cases same
    exact Reply.proceed_next (fun _ => takes) (fun _ => ⟨takes.1, takes.2.symm⟩) fun _ => takes
  | failing sourceFileId runId message point =>
    cases advanced
    exact Reply.proceed_next (fun _ => takes) (fun _ => True.intro) fun _ => True.intro
  | finished outcome recorded => cases advanced
  | crashed recorded => cases advanced

theorem Request.exec_takes {e : Event} (takes : phase.Takes row)
    (known : phase = .registering .findExactVersion → db.findExactVersion request.metadata = some row)
    (executed : request.exec phase db sequences e = some (effect, next, drawn)) : next.Takes row := by
  cases e with
  | next now =>
    obtain ⟨⟨outcome, drawn'⟩, advanced, same⟩ := Option.map_eq_some_iff.mp executed
    cases same
    exact Phase.advance_takes takes known advanced
  | openFile now file =>
    obtain ⟨outcome, opened, same⟩ := Option.map_eq_some_iff.mp executed
    cases same
    obtain ⟨metadata, batchSize, sourceFileId, runId, rfl, rfl, rfl⟩ := Phase.openFile_some opened
    exact Reply.proceed_next (fun _ => takes) (fun _ => ⟨takes.1, takes.2.symm⟩) fun _ => takes
  | raise error =>
    obtain ⟨next', raised, same⟩ := Option.map_eq_some_iff.mp executed
    cases same
    cases phase with
    | registering | skipping | starting | failing => cases raised; exact True.intro
    | loading => cases raised; exact takes
    | idle | finished | crashed => cases raised
  | commitRaises error =>
    obtain ⟨next', raised, same⟩ := Option.map_eq_some_iff.mp executed
    cases same
    unfold Phase.commitRaises at raised
    split at raised
    · cases raised; exact True.intro
    · cases raised; exact True.intro
    · cases raised; exact True.intro
    · cases raised; exact takes
    · cases raised; exact True.intro
    · cases raised
  | crash =>
    obtain ⟨next', crashed, same⟩ := Option.map_eq_some_iff.mp executed
    cases same
    rw [Phase.crash_some crashed]
    exact True.intro

end Takes

/-- Where the version of the metadata is registered, a call with the metadata adds no row. -/
theorem CommitStep.sameSources {metadata : SourceFileMetadata} {db db' : Database} {sourceFileId : Nat}
    {status : SourceStatus} (step : CommitStep metadata db db') (nodup : db'.index.Nodup)
    (held : db.Holds sourceFileId metadata status) :
    db'.sourceFiles.map (·.sourceFileId) = db.sourceFiles.map (·.sourceFileId) := by
  cases step with
  | nothing => rfl
  | @registered newId status now fits checks chosen =>
    obtain ⟨row, got, partition, checksum, -⟩ := held
    have known : IndexKey.version metadata.partitionKey metadata.checksumSha256 ∈ db.index :=
      Database.mem_index_version.mpr ⟨row, (getSourceFile_some got).1, partition, checksum⟩
    have inserted : IndexKey.version metadata.partitionKey metadata.checksumSha256 ∈
        (newSourceFile newId status now metadata).keys := by simp [SourceFile.keys, newSourceFile]
    have apart := (db.addSourceFile_index _).nodup_iff.mp nodup
    exact absurd rfl ((List.nodup_append.mp apart).2.2 _ known _ inserted)
  | started held shown => rfl
  | skipped held shown => rfl
  | @loaded loadedId runId table rows counts finishedAt run held got ofSource running counted =>
    show List.map _ (List.map _ db.sourceFiles) = _
    rw [List.map_map]
    refine List.map_congr_left fun row _ => ?_
    simp only [Function.comp_apply]
    split <;> rfl
  | failed got running => rfl

/-- What holds while a call alone works on a version that is registered in the session `s`. -/
structure Session.Taking (s : Session) (request : Request) (row : SourceFile) (t : Platform Unit) : Prop where
  coherent : Coherent (fun _ => request) t
  reached : s.AtPhase request.metadata t.committed t.external (t.pending ()) (t.phase ())
  held : t.committed.Holds row.sourceFileId request.metadata row.status
  takes : (t.phase ()).Takes row
  sources : t.committed.sourceFiles.map (·.sourceFileId) = s.db.sourceFiles.map (·.sourceFileId)

section Alone

variable {s : Session} {request : Request} {row : SourceFile} {t t' : Platform Unit} {e : Event}

theorem taking_start (consistent : s.Consistent) (found : s.db.findExactVersion request.metadata = some row) :
    s.Taking request row (.alone s.db s.sequences .idle []) where
  coherent := coherent_alone consistent
  reached := ⟨rfl, rfl, rfl⟩
  held := by
    obtain ⟨member, partition, checksum⟩ := findExactVersion_some found
    exact ⟨row, Database.getSourceFile_of_mem consistent.nodup member, partition, checksum, .refl _⟩
  takes := True.intro
  sources := rfl

theorem Session.Taking.step (taking : s.Taking request row t) (consistent : s.Consistent)
    (found : s.db.findExactVersion request.metadata = some row)
    (stepped : request.program.step t () e = some t') : s.Taking request row t' where
  coherent := taking.coherent.step stepped
  reached := step_atPhase consistent stepped taking.reached
  held := (taking.coherent.extends stepped).holds taking.held
  takes := by
    rw [t.eq_alone, Program.step_alone] at stepped
    obtain ⟨⟨effect, next, drawn⟩, executed, rfl⟩ := Option.map_eq_some_iff.mp stepped
    have takes : next.Takes row := by
      refine Request.exec_takes taking.takes (fun registering => ?_) executed
      have reached := taking.reached
      rw [registering] at reached
      obtain ⟨same, empty, -⟩ := reached
      rw [same, empty]
      exact found
    cases effect <;> exact takes
  sources :=
    ((taking.coherent.commitStep stepped).sameSources (taking.coherent.step stepped).distinct.committed
      taking.held).trans taking.sources

/-- Whatever it meets, a call alone on a registered version adds no row and takes that version's decision. -/
theorem run_taking {events : List (Unit × Event)} (consistent : s.Consistent)
    (found : s.db.findExactVersion request.metadata = some row)
    (ran : request.program.run (.alone s.db s.sequences .idle []) events = some t) : s.Taking request row t :=
  Program.run_preserves (fun _ _ _ _ taking stepped => taking.step consistent found stepped)
    (taking_start consistent found) ran

/-- Undisturbed, it comes to the phase that the decision names, and has written nothing. -/
theorem comes_taking {metadata : SourceFileMetadata} {batchSize : Int} {file : LandingFile}
    (found : s.db.findExactVersion metadata = some row) (positive : 0 < batchSize) :
    (Request.ingest metadata batchSize).Comes file
      (fun t => t = .alone s.db s.sequences
        ((Request.ingest metadata batchSize).afterRegistration (registrationResult row false)) [])
      (.alone s.db s.sequences .idle []) := by
  refine ingesting_comes positive fun now => .here ?_
  rw [prepareIngestion_known found now]
  rfl

end Alone

end TaxiPipeline
