import Mathlib.Data.Fintype.Basic
import TaxiPipeline.ReadCommitted.Runs

namespace ReadCommitted

variable {Phase Event Data External Write Key Time : Type*}

/-- The state of a platform with one client, which stands at `phase`. -/
def State.alone (data : Data) (external : External) (phase : Phase) (pending : List Write) :
    State Unit Phase Data External Write where
  committed := data
  external := external
  phase := fun _ => phase
  pending := fun _ => pending

theorem State.eq_alone (s : State Unit Phase Data External Write) :
    s = .alone s.committed s.external (s.phase ()) (s.pending ()) := rfl

namespace Program

variable (P : Program Unit Phase Event Data External Write Key)

/-- The state after a statement with the given effect. -/
def settled (data : Data) (pending : List Write) (phase : Phase) (external : External) :
    Effect Write → State Unit Phase Data External Write
  | .read => .alone data external phase pending
  | .write w => .alone data external phase (pending ++ [w])
  | .commit => .alone (P.replay data pending) external phase []
  | .rollback => .alone data external phase []

variable [DecidableEq Key]

theorem step_alone {data : Data} {external : External} {phase : Phase} {pending : List Write} {e : Event} :
    P.step (.alone data external phase pending) () e =
      (P.exec () phase (P.replay data pending) external e).map fun outcome =>
        P.settled data pending outcome.2.1 outcome.2.2 outcome.1 := by
  unfold step
  rw [show P.exec () ((State.alone data external phase pending).phase ())
    (P.visible (.alone data external phase pending) ()) (State.alone data external phase pending).external e =
      P.exec () phase (P.replay data pending) external e from rfl]
  cases executed : P.exec () phase (P.replay data pending) external e with
  | none => rfl
  | some outcome =>
    obtain ⟨effect, next, external'⟩ := outcome
    have free : P.Free (.alone data external phase pending) () effect := by
      cases effect with
      | write w => exact fun j other => absurd rfl other
      | read => exact True.intro
      | commit => exact True.intro
      | rollback => exact True.intro
    dsimp only
    rw [if_pos free, Option.map_some]
    unfold perform settled State.alone
    congr 1
    cases effect <;> simp only [visible, State.mk.injEq, true_and] <;>
      refine ⟨?_, ?_⟩ <;> funext <;> simp

/-- The client meets the event `turn phase time` at every statement. Whatever the times, it comes
    to a state with `Q`. -/
inductive Eventually (turn : Phase → Time → Event) (Q : State Unit Phase Data External Write → Prop) :
    State Unit Phase Data External Write → Prop where
  | here {s : State Unit Phase Data External Write} (reached : Q s) : Eventually turn Q s
  | later {s : State Unit Phase Data External Write} (next : Time → State Unit Phase Data External Write)
      (stepped : ∀ time, P.step s () (turn (s.phase ()) time) = some (next time))
      (rest : ∀ time, Eventually turn Q (next time)) : Eventually turn Q s

variable {P} {turn : Phase → Time → Event} {Q R : State Unit Phase Data External Write → Prop}
  {s s' : State Unit Phase Data External Write}

theorem Eventually.bind (first : P.Eventually turn Q s) (second : ∀ s, Q s → P.Eventually turn R s) :
    P.Eventually turn R s := by
  induction first with
  | here reached => exact second _ reached
  | later next stepped rest ih => exact .later next stepped ih

theorem Eventually.mono (first : P.Eventually turn Q s) (weaker : ∀ s, Q s → R s) :
    P.Eventually turn R s :=
  first.bind fun s reached => .here (weaker s reached)

theorem Eventually.alone {data : Data} {external : External} {phase : Phase} {pending : List Write}
    {outcome : Time → Effect Write × Phase × External}
    (executed : ∀ time, P.exec () phase (P.replay data pending) external (turn phase time) =
      some (outcome time))
    (rest : ∀ time, P.Eventually turn Q
      (P.settled data pending (outcome time).2.1 (outcome time).2.2 (outcome time).1)) :
    P.Eventually turn Q (.alone data external phase pending) := by
  refine .later _ (fun time => ?_) rest
  rw [P.step_alone]
  exact congrArg _ (executed time)

/-- A schedule of undisturbed statements that comes to the end. -/
theorem Eventually.exists_run [Nonempty Time] (comes : P.Eventually turn Q s) :
    ∃ events : List Event, (∀ e ∈ events, ∃ phase time, e = turn phase time) ∧
      ∃ s', P.run s (events.map ((), ·)) = some s' ∧ Q s' := by
  have time := Classical.arbitrary Time
  induction comes with
  | @here s reached => exact ⟨[], fun e member => (List.not_mem_nil member).elim, s, rfl, reached⟩
  | @later s next stepped rest ih =>
    obtain ⟨events, undisturbed, s', ran, reached⟩ := ih time
    refine ⟨turn (s.phase ()) time :: events, ?_, s', ?_, reached⟩
    · intro e member
      rcases List.mem_cons.mp member with rfl | member
      · exact ⟨_, time, rfl⟩
      · exact undisturbed e member
    · exact Stateful.run_cons.mpr ⟨next time, stepped time, ran⟩

/-- Where the client comes to an end in two ways, it is one and the same end. -/
theorem Eventually.meet [Nonempty Time] (first : P.Eventually turn Q s) (second : P.Eventually turn R s)
    (endsQ : ∀ s, Q s → ∀ time, P.step s () (turn (s.phase ()) time) = none)
    (endsR : ∀ s, R s → ∀ time, P.step s () (turn (s.phase ()) time) = none) : ∃ s, Q s ∧ R s := by
  have time := Classical.arbitrary Time
  induction first with
  | here reached =>
    cases second with
    | here alsoReached => exact ⟨_, reached, alsoReached⟩
    | later next stepped rest => cases (endsQ _ reached time).symm.trans (stepped time)
  | later next stepped rest ih =>
    cases second with
    | here alsoReached => cases (endsR _ alsoReached time).symm.trans (stepped time)
    | later next' stepped' rest' =>
      have same := Option.some.inj ((stepped time).symm.trans (stepped' time))
      exact ih time (same ▸ rest' time)

end Program

end ReadCommitted
