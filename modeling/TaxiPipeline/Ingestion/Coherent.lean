import TaxiPipeline.Ingestion.Commits

namespace TaxiPipeline

open ReadCommitted

section Owned

variable {db : Database} {sequences drawn : Sequences} {now : Timestamp}

/-- The run of a call after a statement: none, the one it had, or one just drawn. -/
def OwnsAfter (sequences drawn : Sequences) (before after : Option Nat) : Prop :=
  after = none ∨ after = before ∨
    (after = some sequences.runId ∧ drawn.runId = sequences.runId + 1)

def RecordPoint.owned : RecordPoint → Option Nat
  | .commit runId => some runId
  | _ => none

theorem RecordPoint.exec_owned {require : SourceFile → Except PyException Unit}
    {newRun : Nat → SourceFile → PipelineRun} {sourceFileId : Nat} {point : RecordPoint}
    (numbered : ∀ runId source, (newRun runId source).runId = runId) :
    (RecordPoint.exec require newRun sourceFileId db sequences point).Spec
      (fun next => next.owned = none)
      (fun _ next => next.owned = some sequences.runId ∧
        (point.draw sequences).runId = sequences.runId + 1)
      (fun runId => point.owned = some runId) (fun _ => True) := by
  cases point with
  | select =>
    refine Reply.check_spec (fun source _ => ?_) fun _ _ => True.intro
    exact Reply.check_spec (fun _ _ => rfl) fun _ _ => True.intro
  | insert source =>
    refine Reply.guarded_spec (fun _ => ?_) fun _ _ => True.intro
    exact ⟨congrArg some (numbered _ _), rfl⟩
  | commit runId => exact rfl

theorem Reply.Spec.owned {Point Result : Type} {reply : Reply Point Result} {next : Point → Phase}
    {finish : Result → Phase} {abort : PyException → Phase} {before : Option Nat} {read : Point → Prop}
    {write : Write → Point → Prop} {commit : Result → Prop} {raise : PyException → Prop}
    (spec : reply.Spec read write commit raise)
    (onRead : ∀ point, read point → OwnsAfter sequences drawn before (next point).owned)
    (onWrite : ∀ w point, write w point → OwnsAfter sequences drawn before (next point).owned)
    (onCommit : ∀ result, commit result → OwnsAfter sequences drawn before (finish result).owned)
    (onRaise : ∀ error, OwnsAfter sequences drawn before (abort error).owned) :
    OwnsAfter sequences drawn before (reply.proceed next finish abort).2.owned := by
  cases reply with
  | read point => exact onRead point spec
  | write w point => exact onWrite w point spec
  | commit result => exact onCommit result spec
  | raise error => exact onRaise error

theorem Reply.proceed_next {Point Result : Type} {reply : Reply Point Result} {next : Point → Phase}
    {finish : Result → Phase} {abort : PyException → Phase} {P : Phase → Prop} (onNext : ∀ point, P (next point))
    (onFinish : ∀ result, P (finish result)) (onAbort : ∀ error, P (abort error)) :
    P (reply.proceed next finish abort).2 := by
  cases reply with
  | read point => exact onNext point
  | write w point => exact onNext point
  | commit result => exact onFinish result
  | raise error => exact onAbort error

theorem Reply.proceed_owned {Point Result : Type} {reply : Reply Point Result} {next : Point → Phase}
    {finish : Result → Phase} {abort : PyException → Phase} {owner : Option Nat}
    (onNext : ∀ point, (next point).owned = owner) (onFinish : ∀ result, (finish result).owned = owner)
    (onAbort : ∀ error, (abort error).owned = owner) :
    (reply.proceed next finish abort).2.owned = owner :=
  proceed_next (P := (·.owned = owner)) onNext onFinish onAbort

theorem skipping_owned {sourceFileId : Nat} {reason : SkipReason} {point : RecordPoint} :
    (Phase.skipping sourceFileId reason point).owned = point.owned := by
  cases point <;> rfl

theorem starting_owned {sourceFileId : Nat} {point : RecordPoint} :
    (Phase.starting sourceFileId point).owned = point.owned := by
  cases point <;> rfl

theorem afterRegistration_owned {request : Request} {result : SourceRegistrationResult} :
    (request.afterRegistration result).owned = none := by
  cases request with
  | register metadata => rfl
  | ingest metadata batchSize =>
    unfold Request.afterRegistration
    dsimp only
    split <;> rfl

theorem Phase.advance_owned {request : Request} {phase : Phase} {outcome : Effect Write × Phase}
    (advanced : phase.advance request db sequences now = some (outcome, drawn)) :
    OwnsAfter sequences drawn phase.owned outcome.2.owned := by
  cases phase with
  | idle =>
    cases advanced
    cases request with
    | register metadata => exact .inl rfl
    | ingest metadata batchSize =>
      unfold Request.begin
      dsimp only
      split <;> exact .inl rfl
  | registering point =>
    cases advanced
    exact .inl (Reply.proceed_owned (fun _ => rfl) (fun _ => afterRegistration_owned) fun _ => rfl)
  | skipping sourceFileId reason point =>
    cases advanced
    refine (RecordPoint.exec_owned fun _ _ => rfl).owned
      (fun _ owned => .inl (skipping_owned.trans owned))
      (fun _ _ owned => .inr (.inr ⟨skipping_owned.trans owned.1, owned.2⟩))
      (fun _ owned => .inr (.inl ?_)) fun _ => .inl rfl
    rw [skipping_owned, owned]
    rfl
  | starting sourceFileId point =>
    cases advanced
    refine (RecordPoint.exec_owned fun _ _ => rfl).owned
      (fun _ owned => .inl (starting_owned.trans owned))
      (fun _ _ owned => .inr (.inr ⟨starting_owned.trans owned.1, owned.2⟩))
      (fun _ owned => .inr (.inl ?_)) fun _ => .inl rfl
    rw [starting_owned, owned]
    rfl
  | loading sourceFileId runId point =>
    obtain ⟨reply, -, same⟩ := Option.map_eq_some_iff.mp advanced
    cases same
    exact .inr (.inl (Reply.proceed_owned (fun _ => rfl) (fun _ => rfl) fun _ => rfl))
  | failing sourceFileId runId message point =>
    cases advanced
    exact .inr (.inl (Reply.proceed_owned (fun _ => rfl) (fun _ => rfl) fun _ => rfl))
  | finished outcome recorded => cases advanced
  | crashed recorded => cases advanced

theorem Phase.raise_owned {phase next : Phase} {error : PyException}
    (raised : phase.raise error = some next) : OwnsAfter sequences drawn phase.owned next.owned := by
  cases phase <;> cases raised
  · exact .inl rfl
  · exact .inl rfl
  · exact .inl rfl
  · exact .inr (.inl rfl)
  · exact .inr (.inl rfl)

theorem Phase.commitRaises_owned {phase next : Phase} {error : PyException}
    (raised : phase.commitRaises error = some next) :
    OwnsAfter sequences drawn phase.owned next.owned := by
  unfold Phase.commitRaises at raised
  split at raised
  · cases raised; exact .inl rfl
  · cases raised; exact .inr (.inl rfl)
  · cases raised; exact .inr (.inl rfl)
  · cases raised; exact .inr (.inl rfl)
  · cases raised; exact .inr (.inl rfl)
  · cases raised

theorem Phase.crash_owned {phase next : Phase} (crashed : phase.crash = some next) :
    OwnsAfter sequences drawn phase.owned next.owned := by
  cases phase with
  | finished outcome recorded => cases crashed
  | crashed recorded => cases crashed
  | idle | registering | skipping | starting => cases crashed; exact .inl rfl
  | loading | failing => cases crashed; exact .inr (.inl rfl)

theorem Request.exec_owned {request : Request} {phase next : Phase} {effect : Effect Write} {e : Event}
    (executed : request.exec phase db sequences e = some (effect, next, drawn)) :
    OwnsAfter sequences drawn phase.owned next.owned := by
  cases e with
  | next now =>
    obtain ⟨⟨outcome, drawn'⟩, advanced, same⟩ := Option.map_eq_some_iff.mp executed
    cases same
    exact Phase.advance_owned advanced
  | openFile now file =>
    obtain ⟨outcome, opened, same⟩ := Option.map_eq_some_iff.mp executed
    cases same
    obtain ⟨metadata, batchSize, sourceFileId, runId, rfl, rfl, rfl⟩ := Phase.openFile_some opened
    exact .inr (.inl (Reply.proceed_owned (fun _ => rfl) (fun _ => rfl) fun _ => rfl))
  | raise error =>
    obtain ⟨next', raised, same⟩ := Option.map_eq_some_iff.mp executed
    cases same
    exact Phase.raise_owned raised
  | commitRaises error =>
    obtain ⟨next', raised, same⟩ := Option.map_eq_some_iff.mp executed
    cases same
    exact Phase.commitRaises_owned raised
  | crash =>
    obtain ⟨next', crashed, same⟩ := Option.map_eq_some_iff.mp executed
    cases same
    exact Phase.crash_owned crashed

end Owned

section Drawn

variable {db : Database} {sequences drawn : Sequences}

/-- Sequences only move forward. -/
def Sequences.Grows (before after : Sequences) : Prop :=
  before.sourceFileId ≤ after.sourceFileId ∧ before.runId ≤ after.runId

theorem RegistrationPoint.draw_grows (point : RegistrationPoint) :
    sequences.Grows (point.draw sequences) := by
  cases point <;> exact ⟨by simp [RegistrationPoint.draw], by simp [RegistrationPoint.draw]⟩

theorem RecordPoint.draw_grows (point : RecordPoint) : sequences.Grows (point.draw sequences) := by
  cases point <;> exact ⟨by simp [RecordPoint.draw], by simp [RecordPoint.draw]⟩

theorem Request.exec_grows {request : Request} {phase next : Phase} {effect : Effect Write} {e : Event}
    (executed : request.exec phase db sequences e = some (effect, next, drawn)) :
    sequences.Grows drawn := by
  cases e with
  | next now =>
    obtain ⟨⟨outcome, drawn'⟩, advanced, same⟩ := Option.map_eq_some_iff.mp executed
    cases same
    cases phase with
    | registering point => cases advanced; exact point.draw_grows
    | skipping sourceFileId reason point => cases advanced; exact point.draw_grows
    | starting sourceFileId point => cases advanced; exact point.draw_grows
    | loading sourceFileId runId point =>
      obtain ⟨reply, -, same⟩ := Option.map_eq_some_iff.mp advanced
      cases same
      exact ⟨le_rfl, le_rfl⟩
    | idle => cases advanced; exact ⟨le_rfl, le_rfl⟩
    | failing sourceFileId runId message point => cases advanced; exact ⟨le_rfl, le_rfl⟩
    | finished outcome recorded => cases advanced
    | crashed recorded => cases advanced
  | openFile now file =>
    obtain ⟨outcome, -, same⟩ := Option.map_eq_some_iff.mp executed
    cases same
    exact ⟨le_rfl, le_rfl⟩
  | raise error =>
    obtain ⟨next', -, same⟩ := Option.map_eq_some_iff.mp executed
    cases same
    exact ⟨le_rfl, le_rfl⟩
  | commitRaises error =>
    obtain ⟨next', -, same⟩ := Option.map_eq_some_iff.mp executed
    cases same
    exact ⟨le_rfl, le_rfl⟩
  | crash =>
    obtain ⟨next', -, same⟩ := Option.map_eq_some_iff.mp executed
    cases same
    exact ⟨le_rfl, le_rfl⟩

theorem IndexKey.Below.mono {k : IndexKey} (below : k.Below sequences) (grows : sequences.Grows drawn) :
    k.Below drawn := by
  cases k with
  | sourceFile sourceFileId => exact ⟨below.1, lt_of_lt_of_le below.2 grows.1⟩
  | run runId => exact lt_of_lt_of_le below grows.2
  | version partitionKey checksum => exact True.intro
  | rawRow table sourceFileId sourceRowNumber => exact True.intro
  | zoneLocation sourceFileId locationId => exact True.intro

end Drawn

variable {Client : Type} (requests : Client → Request)

/-- The primary keys and unique constraints of the platform. -/
def uniqueIndex : UniqueIndex (ingestion requests) where
  entries := Database.index
  inserts := Write.inserts
  locked := by
    intro w k member
    cases w with
    | insertSource row => exact member
    | insertRun run => exact member
    | insertRaw table row => exact member
    | loadSource sourceFileId loadedAt => cases member
    | succeedRun runId finishedAt counts => cases member
    | failRun runId finishedAt message => cases member
  apply_entries := by
    intro db w
    cases w with
    | insertSource row => exact db.addSourceFile_index row
    | insertRun run => exact db.addRun_index run
    | insertRaw table row => exact db.addRaw_index row
    | loadSource sourceFileId loadedAt => simp [ingestion, Write.apply, Write.inserts]
    | succeedRun runId finishedAt counts => simp [ingestion, Write.apply, Write.inserts]
    | failRun runId finishedAt message => simp [ingestion, Write.apply, Write.inserts]

abbrev Platform (Client : Type) := State Client Phase Database Sequences Write

/-- What holds of every reachable state, whatever the requests, the faults and the order. -/
structure Coherent (s : Platform Client) : Prop where
  exclusive : (ingestion requests).Exclusive s
  distinct : (uniqueIndex requests).Distinct s
  ranged : (uniqueIndex requests).Ranged (·.Below s.external) s
  positive : 1 ≤ s.external.sourceFileId
  sessions : ∀ i, (s.phase i).Session (requests i).metadata s.committed (s.pending i)
  drawn : ∀ i runId, (s.phase i).owned = some runId → runId < s.external.runId
  owners : ∀ i j runId, (s.phase i).owned = some runId → (s.phase j).owned = some runId → i = j

theorem coherent_start : Coherent requests startState where
  exclusive := (ingestion requests).exclusive_initial _ _ _
  distinct := (uniqueIndex requests).distinct_initial _ _ List.nodup_nil
  ranged := ⟨fun k member => (List.not_mem_nil member).elim, fun i w member => (List.not_mem_nil member).elim⟩
  positive := le_rfl
  sessions := fun _ => rfl
  drawn := fun _ _ owned => by cases owned
  owners := fun _ _ _ owned => by cases owned

variable {requests} [Fintype Client] [DecidableEq Client] {s s' : Platform Client} {i : Client} {e : Event}

theorem Coherent.commitStep (coherent : Coherent requests s)
    (stepped : (ingestion requests).step s i e = some s') :
    CommitStep (requests i).metadata s.committed s'.committed := by
  obtain ⟨effect, phase, external, executed, -, rfl⟩ := (ingestion requests).step_some stepped
  cases effect with
  | commit => exact (coherent.sessions i).commitStep (Request.exec_commit executed)
  | read => exact .nothing
  | write w => exact .nothing
  | rollback => exact .nothing

theorem Coherent.extends (coherent : Coherent requests s)
    (stepped : (ingestion requests).step s i e = some s') :
    s.committed.Extends ((s.phase i).owned = some ·) s'.committed := by
  obtain ⟨effect, phase, external, executed, -, rfl⟩ := (ingestion requests).step_some stepped
  cases effect with
  | commit => exact (coherent.sessions i).extends
  | read => exact .refl _ _
  | write w => exact .refl _ _
  | rollback => exact .refl _ _

theorem Coherent.session_step (coherent : Coherent requests s)
    (stepped : (ingestion requests).step s i e = some s') (j : Client) :
    (s'.phase j).Session (requests j).metadata s'.committed (s'.pending j) := by
  have extended := coherent.extends stepped
  obtain ⟨effect, phase, external, executed, -, rfl⟩ := (ingestion requests).step_some stepped
  by_cases same : j = i
  · subst same
    have settled := Request.exec_settles executed (coherent.sessions j) (coherent.distinct.visible j)
      coherent.ranged.visible coherent.positive
    rw [Program.perform_phase_self]
    cases effect with
    | read => exact settled
    | write w => rw [Program.perform_write_pending]; exact settled.2
    | commit => rw [Program.perform_commit_pending]; exact settled
    | rollback => rw [Program.perform_rollback_pending]; exact settled
  · rw [(ingestion requests).perform_phase_other same, (ingestion requests).perform_pending_other same]
    exact (coherent.sessions j).stable extended fun runId mine theirs =>
      same (coherent.owners j i runId mine theirs)

omit [Fintype Client] [DecidableEq Client] in
theorem Coherent.enters (coherent : Coherent requests s) {w : Write} {phase : Phase} {drawn : Sequences}
    (executed : (ingestion requests).exec i (s.phase i) ((ingestion requests).visible s i) s.external e =
      some (.write w, phase, drawn)) : w.Enters ((ingestion requests).visible s i) drawn :=
  (Request.exec_settles executed (coherent.sessions i) (coherent.distinct.visible i)
    coherent.ranged.visible coherent.positive).1

theorem owned_step
    (stepped : (ingestion requests).step s i e = some s') (j : Client) {runId : Nat}
    (owned : (s'.phase j).owned = some runId) :
    (s.phase j).owned = some runId ∨
      (j = i ∧ runId = s.external.runId ∧ s'.external.runId = s.external.runId + 1) := by
  obtain ⟨effect, phase, external, executed, -, rfl⟩ := (ingestion requests).step_some stepped
  by_cases same : j = i
  · subst same
    rw [Program.perform_phase_self] at owned
    rcases Request.exec_owned executed with none | kept | ⟨fresh, drawn⟩
    · rw [none] at owned
      cases owned
    · exact .inl (kept.symm.trans owned)
    · exact .inr ⟨rfl, Option.some.inj (owned.symm.trans fresh), drawn⟩
  · rw [(ingestion requests).perform_phase_other same] at owned
    exact .inl owned

theorem sequences_grow (stepped : (ingestion requests).step s i e = some s') :
    s.external.Grows s'.external := by
  obtain ⟨effect, phase, external, executed, -, rfl⟩ := (ingestion requests).step_some stepped
  exact Request.exec_grows executed

theorem Coherent.step (coherent : Coherent requests s)
    (stepped : (ingestion requests).step s i e = some s') : Coherent requests s' where
  exclusive := coherent.exclusive.step stepped
  distinct := by
    refine coherent.distinct.step coherent.exclusive (fun effect phase external executed => ?_) stepped
    cases effect with
    | write w =>
      have enters := coherent.enters executed
      exact ⟨enters.nodup, enters.absent⟩
    | read => exact True.intro
    | commit => exact True.intro
    | rollback => exact True.intro
  ranged := by
    refine coherent.ranged.step (fun k below => below.mono (sequences_grow stepped)) ?_ stepped
    intro w phase external executed
    obtain ⟨effect, phase', external', executed', -, rfl⟩ := (ingestion requests).step_some stepped
    cases executed.symm.trans executed'
    exact (coherent.enters executed).below
  positive := le_trans coherent.positive (sequences_grow stepped).1
  sessions := coherent.session_step stepped
  drawn := by
    intro j runId owned
    rcases owned_step stepped j owned with before | ⟨-, rfl, drawn⟩
    · exact lt_of_lt_of_le (coherent.drawn j runId before) (sequences_grow stepped).2
    · omega
  owners := by
    intro j k runId ownsJ ownsK
    rcases owned_step stepped j ownsJ with beforeJ | ⟨rfl, rfl, -⟩
    · rcases owned_step stepped k ownsK with beforeK | ⟨rfl, rfl, -⟩
      · exact coherent.owners j k runId beforeJ beforeK
      · exact absurd (coherent.drawn j _ beforeJ) (lt_irrefl _)
    · rcases owned_step stepped k ownsK with beforeK | ⟨rfl, -, -⟩
      · exact absurd (coherent.drawn k _ beforeK) (lt_irrefl _)
      · rfl

theorem coherent_run {schedule : List (Client × Event)}
    (ran : (ingestion requests).run startState schedule = some s) : Coherent requests s :=
  Program.run_preserves (fun _ _ _ _ coherent stepped => coherent.step stepped)
    (coherent_start requests) ran

end TaxiPipeline
