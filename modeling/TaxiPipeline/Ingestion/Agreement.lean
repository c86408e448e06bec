import TaxiPipeline.Ingestion.AllOrNothing

namespace TaxiPipeline

open ReadCommitted

/-- Faults of a registration whose transaction commits or rolls back, and whose exceptions do not
    come from the constraints of the table. -/
def Event.Plain : Event → Prop
  | .raise error => error.kind ≠ .integrityError
  | .commitRaises _ => False
  | .next _ | .openFile .. | .crash => True

/-- The source row that a registration has inserted itself. -/
def RegistrationPoint.newId : RegistrationPoint → Option Nat
  | .commit result => if result.isNewRegistration then some result.sourceFileId else none
  | _ => none

def Phase.newId : Phase → Option Nat
  | .registering point => point.newId
  | .finished (.registered result) _ =>
    if result.isNewRegistration then some result.sourceFileId else none
  | _ => none

/-- The phases of a `prepare_ingestion` call. -/
def Phase.Registers : Phase → Prop
  | .idle | .registering _ | .crashed _ => True
  | .finished outcome recorded => recorded = none ∧ ∀ error, outcome = .raised error → error.kind ≠ .integrityError
  | _ => False

/-- The caller was given the result, by a transaction that has committed. -/
def Registered {Client : Type} (s : Platform Client) (i : Client) (result : SourceRegistrationResult) :
    Prop :=
  s.phase i = .finished (.registered result) none

def SameVersion (left right : SourceFileMetadata) : Prop :=
  left.partitionKey = right.partitionKey ∧ left.checksumSha256 = right.checksumSha256

/-- What the committed callers agree on. -/
structure RegistrationsAgree {Client : Type} (requests : Client → Request) (s : Platform Client) : Prop where
  unique : (s.committed.sourceFiles.map fun row => (row.partitionKey, row.checksumSha256)).Nodup
  sameId : ∀ i j left right, Registered s i left → Registered s j right →
    SameVersion (requests i).metadata (requests j).metadata → left.sourceFileId = right.sourceFileId
  oneNew : ∀ i result, Registered s i result → ∃! j, ∃ right, Registered s j right ∧
    SameVersion (requests i).metadata (requests j).metadata ∧ right.isNewRegistration = true
  noIntegrityError : ∀ i error recorded,
    s.phase i = .finished (.raised error) recorded → error.kind ≠ .integrityError

section Exec

variable {db : Database} {metadata : SourceFileMetadata} {sequences drawn : Sequences}

theorem RegistrationPoint.exec_newId (point : RegistrationPoint) (metadata : SourceFileMetadata)
    (db : Database) (sequences : Sequences) (now : Timestamp) :
    (point.exec metadata db sequences now).Spec
      (fun next => next.newId = none)
      (fun _ next => next.newId = some sequences.sourceFileId ∧
        (point.draw sequences).sourceFileId = sequences.sourceFileId + 1)
      (fun result => point = .commit result) (fun _ => True) := by
  cases point with
  | findExactVersion | findRacedVersion error =>
    simp only [RegistrationPoint.exec]
    split
    · exact rfl
    · first | exact rfl | exact True.intro
  | findPartition => exact rfl
  | insert status =>
    simp only [RegistrationPoint.exec]
    split
    · exact ⟨rfl, rfl⟩
    · split
      · exact rfl
      · exact True.intro
  | commit result => exact rfl

/-- One step of a registration. -/
inductive RegistrationStep (metadata : SourceFileMetadata) (db : Database) (sequences drawn : Sequences) :
    Phase → Effect Write → Phase → Prop where
  | begins : RegistrationStep metadata db sequences drawn .idle .read (.registering .findExactVersion)
  | reads {point next : RegistrationPoint} (sameId : next.newId = none) :
      RegistrationStep metadata db sequences drawn (.registering point) .read (.registering next)
  | writes {point next : RegistrationPoint} {w : Write} (newId : next.newId = some sequences.sourceFileId)
      (drew : drawn.sourceFileId = sequences.sourceFileId + 1) :
      RegistrationStep metadata db sequences drawn (.registering point) (.write w) (.registering next)
  | commits {result : SourceRegistrationResult} :
      RegistrationStep metadata db sequences drawn (.registering (.commit result)) .commit
        (.finished (.registered result) none)
  | raises {point : RegistrationPoint} {error : PyException} (kind : error.kind ≠ .integrityError) :
      RegistrationStep metadata db sequences drawn (.registering point) .rollback (raisedPhase none error)
  | crashes {phase : Phase} (active : phase = .idle ∨ ∃ point, phase = .registering point) :
      RegistrationStep metadata db sequences drawn phase .rollback (.crashed none)

theorem RegistrationStep.of_exec {phase next : Phase} {effect : Effect Write} {e : Event}
    {pending : List Write} (plain : e.Plain) (registers : phase.Registers)
    (session : phase.Session metadata db pending) (checks : metadata.meetsChecks = true)
    (nodup : (db.replay pending).index.Nodup)
    (below : ∀ k ∈ (db.replay pending).index, k.Below sequences) (positive : 1 ≤ sequences.sourceFileId)
    (executed : (Request.register metadata).exec phase (db.replay pending) sequences e =
      some (effect, next, drawn)) :
    RegistrationStep metadata db sequences drawn phase effect next := by
  cases e with
  | next now =>
    obtain ⟨⟨outcome, drawn'⟩, advanced, same⟩ := Option.map_eq_some_iff.mp executed
    cases same
    cases phase with
    | idle => cases advanced; exact .begins
    | registering point =>
      have ids := point.exec_newId metadata (db.replay pending) sequences now
      have spec : (point.exec metadata (db.replay pending) sequences now).Spec _ _ _ _ :=
        RegistrationPoint.exec_spec session nodup below positive
      simp only [Phase.advance, Request.metadata] at advanced
      cases reply : point.exec metadata (db.replay pending) sequences now <;>
        rw [reply] at ids spec advanced <;> cases advanced
      · exact .reads ids
      · exact .writes ids.1 ids.2
      · cases ids
        exact .commits
      · exact .raises fun integrity => by simp [spec.2 integrity] at checks
    | finished outcome recorded => cases advanced
    | crashed recorded => cases advanced
    | _ => exact registers.elim
  | openFile now file =>
    obtain ⟨outcome, opened, -⟩ := Option.map_eq_some_iff.mp executed
    cases phase <;> first | cases opened | exact registers.elim
  | raise error =>
    obtain ⟨next', raised, same⟩ := Option.map_eq_some_iff.mp executed
    cases same
    cases phase with
    | registering point => cases raised; exact .raises plain
    | idle => cases raised
    | finished outcome recorded => cases raised
    | crashed recorded => cases raised
    | _ => exact registers.elim
  | commitRaises error => exact plain.elim
  | crash =>
    obtain ⟨next', crashed, same⟩ := Option.map_eq_some_iff.mp executed
    cases same
    cases phase with
    | idle => cases crashed; exact .crashes (.inl rfl)
    | registering point => cases crashed; exact .crashes (.inr ⟨point, rfl⟩)
    | finished outcome recorded => cases crashed
    | crashed recorded => cases crashed
    | _ => exact registers.elim

theorem RegistrationStep.newId {phase next : Phase} {effect : Effect Write}
    (step : RegistrationStep metadata db sequences drawn phase effect next) :
    next.newId = none ∨ next.newId = phase.newId ∨
      (next.newId = some sequences.sourceFileId ∧ drawn.sourceFileId = sequences.sourceFileId + 1) := by
  cases step with
  | begins => exact .inl rfl
  | reads sameId => exact .inl sameId
  | writes newId drew => exact .inr (.inr ⟨newId, drew⟩)
  | commits => exact .inr (.inl rfl)
  | raises kind => exact .inl rfl
  | crashes active => exact .inl rfl

theorem RegistrationStep.registers {phase next : Phase} {effect : Effect Write}
    (step : RegistrationStep metadata db sequences drawn phase effect next) : next.Registers := by
  cases step with
  | begins => exact True.intro
  | reads sameId => exact True.intro
  | writes newId drew => exact True.intro
  | commits => exact ⟨rfl, nofun⟩
  | raises kind =>
    refine ⟨rfl, fun error same => ?_⟩
    cases same
    exact kind
  | crashes active => exact True.intro

end Exec

variable {Client : Type} {requests : Client → Request} {metadata : Client → SourceFileMetadata}
  {s s' : Platform Client} {i : Client} {e : Event}

/-- What a race of registrations keeps. -/
structure Agreeing (requests : Client → Request) (s : Platform Client) : Prop where
  coherent : Coherent requests s
  registers : ∀ i, (s.phase i).Registers
  drawn : ∀ i sourceFileId, (s.phase i).newId = some sourceFileId → sourceFileId < s.external.sourceFileId
  owners : ∀ i j sourceFileId, (s.phase i).newId = some sourceFileId →
    (s.phase j).newId = some sourceFileId → i = j
  inserted : ∀ row ∈ s.committed.sourceFiles, ∃ i result, Registered s i result ∧
    result.isNewRegistration = true ∧ result.sourceFileId = row.sourceFileId

theorem agreeing_start (requests : Client → Request) : Agreeing requests startState :=
  ⟨coherent_start requests, fun _ => True.intro, nofun, nofun,
    fun _ member => (List.not_mem_nil member).elim⟩

theorem Registered.newId {result : SourceRegistrationResult} (registered : Registered s i result)
    (isNew : result.isNewRegistration = true) : (s.phase i).newId = some result.sourceFileId := by
  rw [registered]
  simp [Phase.newId, isNew]

theorem Registered.holds {result : SourceRegistrationResult} (coherent : Coherent requests s)
    (registered : Registered s i result) :
    s.committed.Holds result.sourceFileId (requests i).metadata result.sourceStatus := by
  have session := coherent.sessions i
  rw [registered] at session
  exact session.2.2 result rfl

theorem Registered.sameId {j : Client} {left right : SourceRegistrationResult}
    (coherent : Coherent requests s) (hl : Registered s i left) (hr : Registered s j right)
    (same : SameVersion (requests i).metadata (requests j).metadata) :
    left.sourceFileId = right.sourceFileId := by
  obtain ⟨row, got, partition, checksum, -⟩ := hl.holds coherent
  obtain ⟨other, gotOther, partitionOther, checksumOther, -⟩ := hr.holds coherent
  obtain ⟨member, id⟩ := getSourceFile_some got
  obtain ⟨memberOther, idOther⟩ := getSourceFile_some gotOther
  have one := Database.unique_version coherent.distinct.committed member memberOther
    ((partition.trans same.1).trans partitionOther.symm) ((checksum.trans same.2).trans checksumOther.symm)
  rw [← id, ← idOther, one]

theorem Agreeing.oneNew (agreeing : Agreeing requests s) {result : SourceRegistrationResult}
    (registered : Registered s i result) :
    ∃! j, ∃ right, Registered s j right ∧
      SameVersion (requests i).metadata (requests j).metadata ∧ right.isNewRegistration = true := by
  obtain ⟨row, got, partition, checksum, -⟩ := registered.holds agreeing.coherent
  obtain ⟨member, id⟩ := getSourceFile_some got
  obtain ⟨j, right, registeredJ, isNew, sameId⟩ := agreeing.inserted row member
  obtain ⟨rowJ, gotJ, partitionJ, checksumJ, -⟩ := registeredJ.holds agreeing.coherent
  rw [sameId, id, got] at gotJ
  cases gotJ
  refine ⟨j, ⟨right, registeredJ, ⟨partition.symm.trans partitionJ, checksum.symm.trans checksumJ⟩,
    isNew⟩, ?_⟩
  rintro k ⟨other, registeredK, sameK, isNewK⟩
  have idK := registered.sameId agreeing.coherent registeredK sameK
  refine agreeing.owners k j right.sourceFileId ?_ (registeredJ.newId isNew)
  rw [registeredK.newId isNewK, ← idK, sameId, id]

variable [Fintype Client] [DecidableEq Client]

omit [Fintype Client] [DecidableEq Client] in
theorem Agreeing.registrationStep (agreeing : Agreeing requests s)
    (registers : ∀ i, requests i = .register (metadata i)) (checks : ∀ i, (metadata i).meetsChecks = true)
    (plain : e.Plain) {effect : Effect Write} {phase : Phase} {external : Sequences}
    (executed : (ingestion requests).exec i (s.phase i) ((ingestion requests).visible s i) s.external e =
      some (effect, phase, external)) :
    RegistrationStep (metadata i) s.committed s.external external (s.phase i) effect phase := by
  have session := agreeing.coherent.sessions i
  have exec_eq : (ingestion requests).exec i = (Request.register (metadata i)).exec :=
    congrArg Request.exec (registers i)
  rw [registers i] at session
  rw [exec_eq] at executed
  exact .of_exec plain (agreeing.registers i) session (checks i) (agreeing.coherent.distinct.visible i)
    agreeing.coherent.ranged.visible agreeing.coherent.positive executed

theorem Agreeing.step (agreeing : Agreeing requests s)
    (registers : ∀ i, requests i = .register (metadata i)) (checks : ∀ i, (metadata i).meetsChecks = true)
    (plain : e.Plain) (stepped : (ingestion requests).step s i e = some s') : Agreeing requests s' := by
  have coherent := agreeing.coherent.step stepped
  have grows := sequences_grow stepped
  have session := agreeing.coherent.sessions i
  obtain ⟨effect, phase, external, executed, -, rfl⟩ := (ingestion requests).step_some stepped
  have step := agreeing.registrationStep registers checks plain executed
  have newIds : ∀ j sourceFileId,
      (((ingestion requests).perform s i effect phase external).phase j).newId = some sourceFileId →
        (s.phase j).newId = some sourceFileId ∨ (j = i ∧ sourceFileId = s.external.sourceFileId ∧
          external.sourceFileId = s.external.sourceFileId + 1) := by
    intro j sourceFileId newId
    by_cases same : j = i
    · subst same
      rw [Program.perform_phase_self] at newId
      rcases step.newId with none | kept | ⟨fresh, drew⟩
      · rw [none] at newId
        cases newId
      · exact .inl (kept.symm.trans newId)
      · exact .inr ⟨rfl, Option.some.inj (newId.symm.trans fresh), drew⟩
    · rw [(ingestion requests).perform_phase_other same] at newId
      exact .inl newId
  have carry : ∀ j result, Registered s j result →
      Registered ((ingestion requests).perform s i effect phase external) j result := by
    intro j result registered
    have other : j ≠ i := by
      rintro rfl
      rw [registered] at step
      cases step with
      | crashes active => rcases active with impossible | ⟨point, impossible⟩ <;> cases impossible
    exact ((ingestion requests).perform_phase_other other).trans registered
  refine ⟨coherent, fun j => ?_, fun j sourceFileId newId => ?_, fun j k sourceFileId newJ newK => ?_, ?_⟩
  · by_cases same : j = i
    · subst same
      rw [Program.perform_phase_self]
      exact step.registers
    · rw [(ingestion requests).perform_phase_other same]
      exact agreeing.registers j
  · rcases newIds j sourceFileId newId with before | ⟨-, rfl, drew⟩
    · exact lt_of_lt_of_le (agreeing.drawn j sourceFileId before) grows.1
    · rw [Program.perform_external, drew]
      exact Nat.lt_succ_self _
  · rcases newIds j sourceFileId newJ with beforeJ | ⟨rfl, rfl, -⟩
    · rcases newIds k _ newK with beforeK | ⟨rfl, rfl, -⟩
      · exact agreeing.owners j k sourceFileId beforeJ beforeK
      · exact absurd (agreeing.drawn j _ beforeJ) (lt_irrefl _)
    · rcases newIds k _ newK with beforeK | ⟨rfl, -, -⟩
      · exact absurd (agreeing.drawn k _ beforeK) (lt_irrefl _)
      · rfl
  · intro row member
    have old : row ∈ s.committed.sourceFiles →
        ∃ j result, Registered ((ingestion requests).perform s i effect phase external) j result ∧
          result.isNewRegistration = true ∧ result.sourceFileId = row.sourceFileId := by
      intro before
      obtain ⟨j, result, registered, known⟩ := agreeing.inserted row before
      exact ⟨j, result, carry j result registered, known⟩
    generalize before_eq : s.phase i = before at step session
    cases step with
    | begins => exact old member
    | reads sameId => exact old member
    | writes newId drew => exact old member
    | raises kind => exact old member
    | crashes active => exact old member
    | @commits result =>
      rw [Program.perform_commit_committed, Program.visible] at member
      have rest := session.2
      split at rest
      · rename_i isNew
        obtain ⟨⟨now, pending⟩, -⟩ := rest
        rw [pending] at member
        rcases List.mem_append.mp member with before | added
        · exact old before
        · cases List.mem_singleton.mp added
          exact ⟨i, result, Program.perform_phase_self _, isNew, rfl⟩
      · rw [rest.1] at member
        exact old member

/-- Registrations that race agree: one row for each version, one id for all its callers, new to exactly
    one of them, and an integrity error to none. -/
theorem registrations_agree (registers : ∀ i, requests i = .register (metadata i))
    (checks : ∀ i, (metadata i).meetsChecks = true) {schedule : List (Client × Event)}
    (plain : ∀ turn ∈ schedule, turn.2.Plain)
    (ran : (ingestion requests).run startState schedule = some s) : RegistrationsAgree requests s := by
  have all : (ingestion requests).Throughout (fun _ _ e => e.Plain) startState schedule :=
    Program.throughout_of_events plain
  have agreeing : Agreeing requests s := Program.run_preserves_throughout
    (fun _ _ _ _ agreeing plain stepped => agreeing.step registers checks plain stepped)
    (agreeing_start requests) all ran
  have nodup := agreeing.coherent.distinct.committed
  refine ⟨?_, fun i j left right hl hr same => hl.sameId agreeing.coherent hr same,
    fun i result registered => agreeing.oneNew registered, fun i error recorded finished => ?_⟩
  · exact Database.versions_nodup nodup
  · have registers := agreeing.registers i
    rw [finished] at registers
    exact registers.2 error rfl

theorem turns_plain {i : Fin 2} {n : Nat} : ∀ turn ∈ turns i n, turn.2.Plain := by
  intro turn member
  rw [List.eq_of_mem_replicate member]
  exact True.intro

/-- The second insert waits for the first one, meets its row and takes the recovery branch. -/
def racingRegistrations : List (Fin 2 × Event) :=
  turns clientOne 3 ++ turns clientTwo 3 ++ turns clientOne 2 ++ turns clientTwo 3

set_option maxRecDepth 10000 in
theorem racingRegistrations_agree :
    ∃ s, (ingestion fun _ : Fin 2 => .register zoneMetadata).run startState racingRegistrations = some s ∧
      RegistrationsAgree (fun _ => .register zoneMetadata) s := by
  have runs : ((ingestion fun _ : Fin 2 => .register zoneMetadata).run startState
      racingRegistrations).isSome = true := by decide
  obtain ⟨s, ran⟩ := Option.isSome_iff_exists.mp runs
  have plain : ∀ turn ∈ racingRegistrations, turn.2.Plain := by
    simp only [racingRegistrations, List.forall_mem_append]
    exact ⟨⟨⟨turns_plain, turns_plain⟩, turns_plain⟩, turns_plain⟩
  exact ⟨s, ran, registrations_agree (fun _ => rfl) (fun _ => by decide) plain ran⟩

end TaxiPipeline
