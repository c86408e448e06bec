import Mathlib.Logic.Function.Basic
import TaxiPipeline.Stateful.Runs
import TaxiPipeline.Stateful.Scripts

namespace Stateful

variable {Client Request Event Own σ ε α : Type} {Answer : Request → Type}

/-- A request of a client and what it has come to. -/
structure Entry (Client : Type) {Request : Type} (Answer : Request → Type) (ε : Type) where
  client : Client
  request : Request
  answer : Except ε (Answer request)

/-- Scripts of many clients over one environment. A client that has crashed has no script; the log holds what
    has been answered, the newest first. -/
structure Machine (Client σ : Type) {Request : Type} (Answer : Request → Type) (ε α : Type) where
  shared : σ
  phase : Client → Option (Script Answer ε α)
  log : List (Entry Client Answer ε)

namespace Machine

/-- The clients before any of them begins. -/
def start (shared : σ) (script : Client → Script Answer ε α) : Machine Client σ Answer ε α :=
  ⟨shared, fun i => some (script i), []⟩

variable [DecidableEq Client] (respond : Event → (request : Request) → Attempt σ ε (Answer request))

/-- The next request of a client with what it meets, or its crash. -/
def move (s : Machine Client σ Answer ε α) (turn : Client × Option Event) : Option (Machine Client σ Answer ε α) :=
  match s.phase turn.1 with
  | some (.ask request next) =>
    match turn.2 with
    | some event =>
      let answer := respond event request s.shared
      some ⟨answer.2, Function.update s.phase turn.1 (some (next answer.1)), ⟨turn.1, request, answer.1⟩ :: s.log⟩
    | none => some { s with phase := Function.update s.phase turn.1 none }
  | _ => none

/-- Every script follows its rules from what its client has, and the invariant ties what the clients have to the
    environment and the log. -/
structure Follows (rules : Client → Script.Rules Answer ε Own) (post : Client → Except ε α → Own → Prop)
    (Inv : (Client → Own) → σ → List (Entry Client Answer ε) → Prop) (s : Machine Client σ Answer ε α)
    (own : Client → Own) : Prop where
  scripts : ∀ i script, s.phase i = some script → script.Follows (rules i) (own i) (post i)
  inv : Inv own s.shared s.log

variable {respond} {rules : Client → Script.Rules Answer ε Own} {post : Client → Except ε α → Own → Prop}
  {Inv : (Client → Own) → σ → List (Entry Client Answer ε) → Prop} {s s' : Machine Client σ Answer ε α}

theorem move_some {turn : Client × Option Event} (moved : s.move respond turn = some s') :
    ∃ request next, s.phase turn.1 = some (.ask request next) ∧
      ((∃ event, turn.2 = some event ∧ s' = ⟨(respond event request s.shared).2,
          Function.update s.phase turn.1 (some (next (respond event request s.shared).1)),
          ⟨turn.1, request, (respond event request s.shared).1⟩ :: s.log⟩) ∨
        (turn.2 = none ∧ s' = { s with phase := Function.update s.phase turn.1 none })) := by
  obtain ⟨i, event⟩ := turn
  unfold move at moved
  dsimp only at moved
  split at moved
  · rename_i request next asks
    refine ⟨request, next, asks, ?_⟩
    cases event with
    | some event => exact .inl ⟨event, rfl, (Option.some.inj moved).symm⟩
    | none => exact .inr ⟨rfl, (Option.some.inj moved).symm⟩
  · cases moved

/-- What an allowed request keeps holds after a turn. -/
theorem move_follows {own : Client → Own} {turn : Client × Option Event}
    (keeps : ∀ request event, turn.2 = some event →
      s'.log = ⟨turn.1, request, (respond event request s.shared).1⟩ :: s.log →
      (rules turn.1).allowed (own turn.1) request →
      ∃ own', (rules turn.1).effect (own turn.1) request (respond event request s.shared).1 own' ∧
        Inv (Function.update own turn.1 own') (respond event request s.shared).2
          (⟨turn.1, request, (respond event request s.shared).1⟩ :: s.log))
    (follows : s.Follows rules post Inv own) (moved : s.move respond turn = some s') :
    ∃ own', s'.Follows rules post Inv own' := by
  obtain ⟨request, next, asks, ⟨event, given, rfl⟩ | ⟨-, rfl⟩⟩ := move_some moved
  · obtain ⟨allowed, after⟩ := follows.scripts _ _ asks
    obtain ⟨own', effect, inv⟩ := keeps request event given rfl allowed
    refine ⟨_, ⟨fun j script asked => ?_, inv⟩⟩
    dsimp only at asked
    by_cases same : j = turn.1
    · subst same
      rw [Function.update_self] at asked ⊢
      cases asked
      exact after _ own' effect
    · rw [Function.update_of_ne same] at asked ⊢
      exact follows.scripts j script asked
  · refine ⟨own, ⟨fun j script asked => ?_, follows.inv⟩⟩
    dsimp only at asked
    by_cases same : j = turn.1
    · subst same
      rw [Function.update_self] at asked
      cases asked
    · rw [Function.update_of_ne same] at asked
      exact follows.scripts j script asked

end Machine

end Stateful
