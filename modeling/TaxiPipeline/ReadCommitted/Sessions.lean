import Mathlib.Data.Fintype.Defs
import Mathlib.Logic.Function.Basic

namespace ReadCommitted

/-- What one statement does to the open transaction of its session. -/
inductive Effect (Write : Type*) where
  | read
  | write (w : Write)
  | commit
  | rollback

/-- Client programs over one database. `locks` names the rows and index entries that a
    write holds until its transaction ends; `exec` is one statement, run on what its
    transaction sees. External data (sequences, other stores) is not transactional. -/
structure Program (Client Phase Event Data External Write Key : Type*) where
  apply : Data → Write → Data
  locks : Write → List Key
  exec : Client → Phase → Data → External → Event → Option (Effect Write × Phase × External)

/-- The committed rows, and for every client its program position and its uncommitted writes. -/
structure State (Client Phase Data External Write : Type*) where
  committed : Data
  external : External
  phase : Client → Phase
  pending : Client → List Write

variable {Client Phase Event Data External Write Key : Type*}

def State.initial (data : Data) (external : External) (phase : Phase) :
    State Client Phase Data External Write where
  committed := data
  external := external
  phase := fun _ => phase
  pending := fun _ => []

namespace Program

variable (P : Program Client Phase Event Data External Write Key)

def replay (data : Data) (writes : List Write) : Data := writes.foldl P.apply data

@[simp] theorem replay_nil (data : Data) : P.replay data [] = data := rfl

@[simp] theorem replay_cons (data : Data) (w : Write) (writes : List Write) :
    P.replay data (w :: writes) = P.replay (P.apply data w) writes := rfl

@[simp] theorem replay_append (data : Data) (left right : List Write) :
    P.replay data (left ++ right) = P.replay (P.replay data left) right :=
  List.foldl_append

/-- Each statement reads the rows committed by now, overlaid with its transaction's own writes. -/
def visible (s : State Client Phase Data External Write) (i : Client) : Data :=
  P.replay s.committed (s.pending i)

/-- A write waits while another open transaction holds one of its rows or index entries. -/
def Free (s : State Client Phase Data External Write) (i : Client) : Effect Write → Prop
  | .write w => ∀ j, j ≠ i → ∀ v ∈ s.pending j, ∀ k ∈ P.locks w, k ∉ P.locks v
  | _ => True

instance [Fintype Client] [DecidableEq Client] [DecidableEq Key]
    (s : State Client Phase Data External Write) (i : Client) (effect : Effect Write) :
    Decidable (P.Free s i effect) :=
  match effect with
  | .write w => inferInstanceAs
      (Decidable (∀ j, j ≠ i → ∀ v ∈ s.pending j, ∀ k ∈ P.locks w, k ∉ P.locks v))
  | .read | .commit | .rollback => inferInstanceAs (Decidable True)

variable [DecidableEq Client]

def perform (s : State Client Phase Data External Write) (i : Client) (effect : Effect Write)
    (phase : Phase) (external : External) : State Client Phase Data External Write where
  committed := match effect with
    | .commit => P.visible s i
    | _ => s.committed
  external := external
  phase := Function.update s.phase i phase
  pending := match effect with
    | .read => s.pending
    | .write w => Function.update s.pending i (s.pending i ++ [w])
    | .commit | .rollback => Function.update s.pending i []

section Perform

variable {s : State Client Phase Data External Write} {i j : Client} {effect : Effect Write}
  {phase : Phase} {external : External}

@[simp] theorem perform_external : (P.perform s i effect phase external).external = external := rfl

@[simp] theorem perform_phase_self : (P.perform s i effect phase external).phase i = phase :=
  Function.update_self ..

theorem perform_phase_other (other : j ≠ i) :
    (P.perform s i effect phase external).phase j = s.phase j :=
  Function.update_of_ne other ..

theorem perform_pending_other (other : j ≠ i) :
    (P.perform s i effect phase external).pending j = s.pending j := by
  cases effect <;> first | rfl | exact Function.update_of_ne other ..

@[simp] theorem perform_read_pending :
    (P.perform s i .read phase external).pending = s.pending := rfl

@[simp] theorem perform_write_pending (w : Write) :
    (P.perform s i (.write w) phase external).pending i = s.pending i ++ [w] :=
  Function.update_self ..

@[simp] theorem perform_commit_pending :
    (P.perform s i .commit phase external).pending i = [] := Function.update_self ..

@[simp] theorem perform_rollback_pending :
    (P.perform s i .rollback phase external).pending i = [] := Function.update_self ..

@[simp] theorem perform_commit_committed :
    (P.perform s i .commit phase external).committed = P.visible s i := rfl

@[simp] theorem perform_read_committed :
    (P.perform s i .read phase external).committed = s.committed := rfl

@[simp] theorem perform_write_committed (w : Write) :
    (P.perform s i (.write w) phase external).committed = s.committed := rfl

@[simp] theorem perform_rollback_committed :
    (P.perform s i .rollback phase external).committed = s.committed := rfl

theorem perform_committed (quiet : effect ≠ .commit) :
    (P.perform s i effect phase external).committed = s.committed := by
  cases effect <;> first | rfl | exact absurd rfl quiet

end Perform

variable [Fintype Client] [DecidableEq Key]

/-- One statement of client `i`, or `none` when it is blocked or has nothing to run. -/
def step (s : State Client Phase Data External Write) (i : Client) (e : Event) :
    Option (State Client Phase Data External Write) :=
  match P.exec i (s.phase i) (P.visible s i) s.external e with
  | none => none
  | some (effect, phase, external) =>
    if P.Free s i effect then some (P.perform s i effect phase external) else none

theorem step_some {s s' : State Client Phase Data External Write} {i : Client} {e : Event}
    (stepped : P.step s i e = some s') :
    ∃ effect phase external,
      P.exec i (s.phase i) (P.visible s i) s.external e = some (effect, phase, external) ∧
        P.Free s i effect ∧ s' = P.perform s i effect phase external := by
  unfold step at stepped
  split at stepped
  · cases stepped
  · rename_i effect phase external executed
    split at stepped
    · rename_i free
      exact ⟨effect, phase, external, executed, free, (Option.some.inj stepped).symm⟩
    · cases stepped

end Program

end ReadCommitted
