import Mathlib.Data.List.Nodup
import Mathlib.Data.List.Perm.Basic
import TaxiPipeline.ReadCommitted.Runs

namespace ReadCommitted

variable {Client Phase Event Data External Write Key : Type*}

namespace Program

variable (P : Program Client Phase Event Data External Write Key)

/-- No two open transactions hold one row or index entry. -/
def Exclusive (s : State Client Phase Data External Write) : Prop :=
  ∀ i j, i ≠ j → ∀ v ∈ s.pending i, ∀ w ∈ s.pending j, ∀ k ∈ P.locks v, k ∉ P.locks w

theorem exclusive_initial (data : Data) (external : External) (phase : Phase) :
    P.Exclusive (State.initial data external phase : State Client Phase Data External Write) := by
  intro i j _ v member
  cases member

variable {P} [Fintype Client] [DecidableEq Client] [DecidableEq Key]
  {s s' : State Client Phase Data External Write} {i : Client} {e : Event}

theorem Exclusive.step (exclusive : P.Exclusive s) (stepped : P.step s i e = some s') :
    P.Exclusive s' := by
  obtain ⟨effect, phase, external, -, free, rfl⟩ := P.step_some stepped
  intro a b distinct v inA w inB k heldA
  by_cases atA : a = i
  · subst atA
    rw [P.perform_pending_other distinct.symm] at inB
    cases effect with
    | read => exact exclusive a b distinct v inA w inB k heldA
    | write added =>
      rw [perform_write_pending] at inA
      rcases List.mem_append.mp inA with inA | inA
      · exact exclusive a b distinct v inA w inB k heldA
      · cases List.mem_singleton.mp inA
        exact free b distinct.symm w inB k heldA
    | commit => simp at inA
    | rollback => simp at inA
  · rw [P.perform_pending_other atA] at inA
    by_cases atB : b = i
    · subst atB
      cases effect with
      | read => exact exclusive a b distinct v inA w inB k heldA
      | write added =>
        rw [perform_write_pending] at inB
        rcases List.mem_append.mp inB with inB | inB
        · exact exclusive a b distinct v inA w inB k heldA
        · cases List.mem_singleton.mp inB
          exact fun heldB => free a atA v inA k heldB heldA
      | commit => simp at inB
      | rollback => simp at inB
    · rw [P.perform_pending_other atB] at inB
      exact exclusive a b distinct v inA w inB k heldA

end Program

/-- The entries of all unique indexes of a database, and those that a write adds. -/
structure UniqueIndex (P : Program Client Phase Event Data External Write Key) where
  entries : Data → List Key
  inserts : Write → List Key
  locked : ∀ w, ∀ k ∈ inserts w, k ∈ P.locks w
  apply_entries : ∀ data w, (entries (P.apply data w)).Perm (entries data ++ inserts w)

namespace UniqueIndex

variable {P : Program Client Phase Event Data External Write Key} (U : UniqueIndex P)

theorem replay_entries (data : Data) (writes : List Write) :
    (U.entries (P.replay data writes)).Perm (U.entries data ++ writes.flatMap U.inserts) := by
  induction writes generalizing data with
  | nil => simp
  | cons w rest ih =>
    have rest_entries := ih (P.apply data w)
    have one := (U.apply_entries data w).append_right (rest.flatMap U.inserts)
    simpa using rest_entries.trans one

/-- Every unique constraint holds of the committed rows and of what each transaction sees. -/
structure Distinct (s : State Client Phase Data External Write) : Prop where
  committed : (U.entries s.committed).Nodup
  visible : ∀ i, (U.entries (P.visible s i)).Nodup

/-- A statement may add only entries that its transaction does not see. -/
def Checked (s : State Client Phase Data External Write) (i : Client) : Effect Write → Prop
  | .write w => (U.inserts w).Nodup ∧ ∀ k ∈ U.inserts w, k ∉ U.entries (P.visible s i)
  | _ => True

theorem distinct_initial {data : Data} (external : External) (phase : Phase)
    (nodup : (U.entries data).Nodup) :
    U.Distinct (State.initial data external phase : State Client Phase Data External Write) :=
  ⟨nodup, fun _ => nodup⟩

variable {U} {s : State Client Phase Data External Write} {i : Client}

theorem Distinct.visible_other {j : Client} (distinct : U.Distinct s) (exclusive : P.Exclusive s)
    (other : j ≠ i) : (U.entries (P.replay (P.visible s i) (s.pending j))).Nodup := by
  have mine := distinct.visible i
  have theirs := distinct.visible j
  have apart : ∀ k ∈ (s.pending i).flatMap U.inserts, k ∉ (s.pending j).flatMap U.inserts := by
    intro k inI inJ
    obtain ⟨v, memberV, insertV⟩ := List.mem_flatMap.mp inI
    obtain ⟨w, memberW, insertW⟩ := List.mem_flatMap.mp inJ
    exact exclusive i j other.symm v memberV w memberW k (U.locked v k insertV) (U.locked w k insertW)
  rw [Program.visible, (U.replay_entries _ _).nodup_iff, List.nodup_append'] at mine theirs
  rw [(U.replay_entries _ _).nodup_iff, Program.visible,
    ((U.replay_entries _ _).append_right _).nodup_iff, List.nodup_append', List.nodup_append']
  refine ⟨⟨mine.1, mine.2.1, mine.2.2⟩, theirs.2.1, ?_⟩
  intro k left right
  rcases List.mem_append.mp left with old | added
  · exact theirs.2.2 old right
  · exact apart k added right

theorem Distinct.pending_absent (distinct : U.Distinct s) {w : Write} (member : w ∈ s.pending i)
    {k : Key} (inserted : k ∈ U.inserts w) : k ∉ U.entries s.committed := by
  have nodup := distinct.visible i
  rw [Program.visible, (U.replay_entries _ _).nodup_iff, List.nodup_append'] at nodup
  exact fun old => nodup.2.2 old (List.mem_flatMap.mpr ⟨w, member, inserted⟩)

variable [Fintype Client] [DecidableEq Client] [DecidableEq Key]
  {s' : State Client Phase Data External Write} {e : Event}

theorem Distinct.step (distinct : U.Distinct s) (exclusive : P.Exclusive s)
    (checked : ∀ effect phase external,
      P.exec i (s.phase i) (P.visible s i) s.external e = some (effect, phase, external) →
        U.Checked s i effect)
    (stepped : P.step s i e = some s') : U.Distinct s' := by
  obtain ⟨effect, phase, external, executed, -, rfl⟩ := P.step_some stepped
  have ok := checked _ _ _ executed
  refine ⟨?_, fun j => ?_⟩
  · cases effect with
    | commit => exact distinct.visible i
    | read => exact distinct.committed
    | write w => exact distinct.committed
    | rollback => exact distinct.committed
  · by_cases same : j = i
    · subst same
      cases effect with
      | read => exact distinct.visible j
      | write w =>
        simp only [Program.visible, Program.perform_write_pending, Program.perform_write_committed,
          Program.replay_append, Program.replay_cons, Program.replay_nil]
        rw [(U.apply_entries _ _).nodup_iff, List.nodup_append']
        exact ⟨distinct.visible j, ok.1, fun k old added => ok.2 k added old⟩
      | commit => simpa [Program.visible] using distinct.visible j
      | rollback => simpa [Program.visible] using distinct.committed
    · simp only [Program.visible, P.perform_pending_other same]
      cases effect with
      | commit => exact distinct.visible_other exclusive same
      | read => exact distinct.visible j
      | write w => exact distinct.visible j
      | rollback => exact distinct.visible j

/-- Every entry, committed or about to be, lies in a range. -/
structure Ranged (U : UniqueIndex P) (range : Key → Prop) (s : State Client Phase Data External Write) :
    Prop where
  committed : ∀ k ∈ U.entries s.committed, range k
  pending : ∀ i, ∀ w ∈ s.pending i, ∀ k ∈ U.inserts w, range k

omit [Fintype Client] [DecidableEq Client] [DecidableEq Key] in
theorem Ranged.visible {range : Key → Prop} (ranged : U.Ranged range s) :
    ∀ k ∈ U.entries (P.visible s i), range k := by
  intro k member
  rw [Program.visible, (U.replay_entries _ _).mem_iff] at member
  rcases List.mem_append.mp member with old | added
  · exact ranged.committed k old
  · obtain ⟨w, inPending, inserted⟩ := List.mem_flatMap.mp added
    exact ranged.pending i w inPending k inserted

theorem Ranged.step {range range' : Key → Prop} (ranged : U.Ranged range s)
    (wider : ∀ k, range k → range' k)
    (added : ∀ w phase external,
      P.exec i (s.phase i) (P.visible s i) s.external e = some (.write w, phase, external) →
        ∀ k ∈ U.inserts w, range' k)
    (stepped : P.step s i e = some s') : U.Ranged range' s' := by
  obtain ⟨effect, phase, external, executed, -, rfl⟩ := P.step_some stepped
  refine ⟨fun k member => ?_, fun j w member k inserted => ?_⟩
  · cases effect with
    | commit => exact wider k (ranged.visible k member)
    | read => exact wider k (ranged.committed k member)
    | write w => exact wider k (ranged.committed k member)
    | rollback => exact wider k (ranged.committed k member)
  · by_cases same : j = i
    · subst same
      cases effect with
      | read => exact wider k (ranged.pending j w member k inserted)
      | write v =>
        rw [Program.perform_write_pending] at member
        rcases List.mem_append.mp member with member | member
        · exact wider k (ranged.pending j w member k inserted)
        · cases List.mem_singleton.mp member
          exact added w _ _ executed k inserted
      | commit => simp at member
      | rollback => simp at member
    · rw [P.perform_pending_other same] at member
      exact wider k (ranged.pending j w member k inserted)

end UniqueIndex

end ReadCommitted
