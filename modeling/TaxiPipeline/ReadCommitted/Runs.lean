import TaxiPipeline.ReadCommitted.Sessions
import TaxiPipeline.Stateful.Runs

namespace ReadCommitted

variable {Client Phase Event Data External Write Key : Type*}

namespace Program

variable (P : Program Client Phase Event Data External Write Key)
variable [Fintype Client] [DecidableEq Client] [DecidableEq Key]

/-- One turn of a schedule: the client that moves and what it meets. -/
def move (s : State Client Phase Data External Write) (turn : Client × Event) :
    Option (State Client Phase Data External Write) :=
  P.step s turn.1 turn.2

/-- A schedule names, statement by statement, the client that moves and what it meets. -/
def run (s : State Client Phase Data External Write) (schedule : List (Client × Event)) :
    Option (State Client Phase Data External Write) :=
  Stateful.run P.move s schedule

/-- The state property `Q` holds now and after every statement of the schedule. -/
def Always (Q : State Client Phase Data External Write → Prop)
    (s : State Client Phase Data External Write) (schedule : List (Client × Event)) : Prop :=
  Stateful.Always P.move Q s schedule

/-- Every statement that the schedule runs meets the condition `C` in the state it starts from. -/
def Throughout (C : State Client Phase Data External Write → Client → Event → Prop)
    (s : State Client Phase Data External Write) (schedule : List (Client × Event)) : Prop :=
  Stateful.Throughout P.move (fun s turn => C s turn.1 turn.2) s schedule

variable {P} {I Q : State Client Phase Data External Write → Prop}
  {C D : State Client Phase Data External Write → Client → Event → Prop}
  {s s' : State Client Phase Data External Write} {schedule : List (Client × Event)}

/-- What every statement preserves holds after every schedule. -/
theorem run_preserves (preserved : ∀ s i e s', I s → P.step s i e = some s' → I s')
    (start : I s) (ran : P.run s schedule = some s') : I s' :=
  Stateful.run_preserves (fun s turn s' => preserved s turn.1 turn.2 s') start ran

theorem run_preserves_throughout
    (preserved : ∀ s i e s', I s → C s i e → P.step s i e = some s' → I s')
    (start : I s) (all : P.Throughout C s schedule) (ran : P.run s schedule = some s') : I s' :=
  Stateful.run_preserves_throughout (fun s turn s' => preserved s turn.1 turn.2 s') start all ran

theorem throughout_true : P.Throughout (fun _ _ _ => True) s schedule := Stateful.throughout_true

theorem throughout_of_events {allowed : Event → Prop} (all : ∀ turn ∈ schedule, allowed turn.2) :
    P.Throughout (fun _ _ e => allowed e) s schedule :=
  Stateful.throughout_of_events all

theorem Throughout.mono (weaker : ∀ s i e, C s i e → D s i e)
    (all : P.Throughout C s schedule) : P.Throughout D s schedule :=
  Stateful.Throughout.mono (fun s turn => weaker s turn.1 turn.2) all

/-- When, under the invariant `I` and the side condition `D`, a statement keeps `Q` exactly
    if it meets `C`, a schedule keeps `Q` exactly if all its statements meet `C`. -/
theorem always_iff_throughout
    (preserved : ∀ s i e s', I s → D s i e → P.step s i e = some s' → I s')
    (exact_step : ∀ s i e s', I s → D s i e → Q s → P.step s i e = some s' → (Q s' ↔ C s i e))
    (start : I s) (good : Q s) (side : P.Throughout D s schedule) :
    P.Always Q s schedule ↔ P.Throughout C s schedule :=
  Stateful.always_iff_throughout (fun s turn s' => preserved s turn.1 turn.2 s')
    (fun s turn s' => exact_step s turn.1 turn.2 s') start good side

/-- The same of the last state alone, when what is once lost never comes back. -/
theorem end_iff_throughout
    (preserved : ∀ s i e s', I s → D s i e → P.step s i e = some s' → I s')
    (exact_step : ∀ s i e s', I s → D s i e → Q s → P.step s i e = some s' → (Q s' ↔ C s i e))
    (lost : ∀ s i e s', I s → D s i e → ¬ Q s → P.step s i e = some s' → ¬ Q s')
    (start : I s) (good : Q s) (side : P.Throughout D s schedule) (ran : P.run s schedule = some s') :
    Q s' ↔ P.Throughout C s schedule :=
  Stateful.end_iff_throughout (fun s turn s' => preserved s turn.1 turn.2 s')
    (fun s turn s' => exact_step s turn.1 turn.2 s') (fun s turn s' => lost s turn.1 turn.2 s')
    start good side ran

end Program

end ReadCommitted
