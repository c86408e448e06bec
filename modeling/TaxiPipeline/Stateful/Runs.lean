import Mathlib.Logic.Basic

namespace Stateful

variable {σ ε : Type*} (step : σ → ε → Option σ)

/-- The state after the events of a schedule, if each of them can happen. -/
def run (s : σ) : List ε → Option σ
  | [] => some s
  | e :: rest => (step s e).bind (run · rest)

/-- The state property `Q` holds now and after every event of the schedule. -/
def Always (Q : σ → Prop) (s : σ) : List ε → Prop
  | [] => Q s
  | e :: rest => Q s ∧ ∀ s', step s e = some s' → Always Q s' rest

/-- Every event that the schedule runs meets the condition `C` in the state it starts from. -/
def Throughout (C : σ → ε → Prop) (s : σ) : List ε → Prop
  | [] => True
  | e :: rest => ∀ s', step s e = some s' → C s e ∧ Throughout C s' rest

instance decidableAlways (Q : σ → Prop) [DecidablePred Q] (s : σ) :
    (schedule : List ε) → Decidable (Always step Q s schedule)
  | [] => inferInstanceAs (Decidable (Q s))
  | e :: rest =>
    match stepped : step s e with
    | none => decidable_of_iff (Q s) (by simp [Always, stepped])
    | some next =>
      have := decidableAlways Q next rest
      decidable_of_iff (Q s ∧ Always step Q next rest) (by simp [Always, stepped])

instance decidableThroughout (C : σ → ε → Prop) [∀ s, DecidablePred (C s)] (s : σ) :
    (schedule : List ε) → Decidable (Throughout step C s schedule)
  | [] => inferInstanceAs (Decidable True)
  | e :: rest =>
    match stepped : step s e with
    | none => .isTrue (by simp [Throughout, stepped])
    | some next =>
      have := decidableThroughout C next rest
      decidable_of_iff (C s e ∧ Throughout step C next rest) (by simp [Throughout, stepped])

variable {step} {I Q : σ → Prop} {C D : σ → ε → Prop} {s s' : σ} {e : ε} {schedule later : List ε}

theorem run_cons : run step s (e :: schedule) = some s' ↔
    ∃ next, step s e = some next ∧ run step next schedule = some s' :=
  Option.bind_eq_some_iff

theorem run_append : run step s (schedule ++ later) = some s' ↔
    ∃ between, run step s schedule = some between ∧ run step between later = some s' := by
  induction schedule generalizing s with
  | nil => exact ⟨fun ran => ⟨s, rfl, ran⟩, fun ⟨_, same, ran⟩ => by cases same; exact ran⟩
  | cons e rest ih =>
    rw [List.cons_append, run_cons]
    constructor
    · rintro ⟨next, stepped, ran⟩
      obtain ⟨between, first, second⟩ := ih.mp ran
      exact ⟨between, run_cons.mpr ⟨next, stepped, first⟩, second⟩
    · rintro ⟨between, first, second⟩
      obtain ⟨next, stepped, ran⟩ := run_cons.mp first
      exact ⟨next, stepped, ih.mpr ⟨between, ran, second⟩⟩

/-- What every event preserves holds after every schedule. -/
theorem run_preserves (preserved : ∀ s e s', I s → step s e = some s' → I s') (start : I s)
    (ran : run step s schedule = some s') : I s' := by
  induction schedule generalizing s with
  | nil => cases ran; exact start
  | cons e rest ih =>
    obtain ⟨next, stepped, ran⟩ := run_cons.mp ran
    exact ih (preserved _ _ _ start stepped) ran

theorem run_preserves_throughout (preserved : ∀ s e s', I s → C s e → step s e = some s' → I s')
    (start : I s) (all : Throughout step C s schedule) (ran : run step s schedule = some s') : I s' := by
  induction schedule generalizing s with
  | nil => cases ran; exact start
  | cons e rest ih =>
    obtain ⟨next, stepped, ran⟩ := run_cons.mp ran
    obtain ⟨condition, all⟩ := all _ stepped
    exact ih (preserved _ _ _ start condition stepped) all ran

theorem Always.head (always : Always step Q s schedule) : Q s := by
  cases schedule with
  | nil => exact always
  | cons e rest => exact always.1

theorem Always.append (always : Always step Q s (schedule ++ later)) (ran : run step s schedule = some s') :
    Always step Q s schedule ∧ Always step Q s' later := by
  induction schedule generalizing s with
  | nil =>
    cases ran
    exact ⟨always.head, always⟩
  | cons e rest ih =>
    obtain ⟨next, stepped, ran⟩ := run_cons.mp ran
    obtain ⟨before, after⟩ := ih (always.2 next stepped) ran
    refine ⟨⟨always.1, fun other stepped' => ?_⟩, after⟩
    cases stepped.symm.trans stepped'
    exact before

theorem Always.throughout (always : Always step Q s schedule) :
    Throughout step (fun s e => Q s ∧ ∀ s', step s e = some s' → Q s') s schedule := by
  induction schedule generalizing s with
  | nil => exact True.intro
  | cons e rest ih =>
    exact fun next stepped => ⟨⟨always.1, fun _ stepped' => (always.2 _ stepped').head⟩,
      ih (always.2 next stepped)⟩

theorem Throughout.and (left : Throughout step C s schedule) (right : Throughout step D s schedule) :
    Throughout step (fun s e => C s e ∧ D s e) s schedule := by
  induction schedule generalizing s with
  | nil => exact True.intro
  | cons e rest ih =>
    intro next stepped
    obtain ⟨leftHere, leftRest⟩ := left next stepped
    obtain ⟨rightHere, rightRest⟩ := right next stepped
    exact ⟨⟨leftHere, rightHere⟩, ih leftRest rightRest⟩

/-- What holds under an invariant of the run holds throughout it. -/
theorem Throughout.of_invariant (preserved : ∀ s e s', I s → C s e → step s e = some s' → I s')
    (holds : ∀ s e, I s → C s e → D s e) (start : I s) (all : Throughout step C s schedule) :
    Throughout step D s schedule := by
  induction schedule generalizing s with
  | nil => exact True.intro
  | cons e rest ih =>
    intro next stepped
    obtain ⟨condition, all⟩ := all _ stepped
    exact ⟨holds _ _ start condition, ih (preserved _ _ _ start condition stepped) all⟩

theorem throughout_of_events {allowed : ε → Prop} (all : ∀ e ∈ schedule, allowed e) :
    Throughout step (fun _ e => allowed e) s schedule := by
  induction schedule generalizing s with
  | nil => exact True.intro
  | cons e rest ih =>
    exact fun _ _ => ⟨all e (by simp), ih fun other member => all other (List.mem_cons_of_mem _ member)⟩

theorem throughout_true : Throughout step (fun _ _ => True) s schedule :=
  throughout_of_events fun _ _ => True.intro

theorem Throughout.mono (weaker : ∀ s e, C s e → D s e) (all : Throughout step C s schedule) :
    Throughout step D s schedule :=
  all.of_invariant (I := fun _ => True) (fun _ _ _ _ _ _ => True.intro) (fun s e _ => weaker s e) True.intro

/-- When, under the invariant `I` and the side condition `D`, an event keeps `Q` exactly if it meets `C`,
    a schedule keeps `Q` exactly if all its events meet `C`. -/
theorem always_iff_throughout (preserved : ∀ s e s', I s → D s e → step s e = some s' → I s')
    (exact_step : ∀ s e s', I s → D s e → Q s → step s e = some s' → (Q s' ↔ C s e))
    (start : I s) (good : Q s) (side : Throughout step D s schedule) :
    Always step Q s schedule ↔ Throughout step C s schedule := by
  induction schedule generalizing s with
  | nil => exact ⟨fun _ => True.intro, fun _ => good⟩
  | cons e rest ih =>
    constructor
    · intro always next stepped
      obtain ⟨sideHere, sideRest⟩ := side _ stepped
      have later := always.2 _ stepped
      have condition := (exact_step _ _ _ start sideHere good stepped).mp later.head
      exact ⟨condition, (ih (preserved _ _ _ start sideHere stepped) later.head sideRest).mp later⟩
    · intro all
      refine ⟨good, fun next stepped => ?_⟩
      obtain ⟨sideHere, sideRest⟩ := side _ stepped
      obtain ⟨condition, all⟩ := all _ stepped
      have nextGood := (exact_step _ _ _ start sideHere good stepped).mpr condition
      exact (ih (preserved _ _ _ start sideHere stepped) nextGood sideRest).mpr all

/-- The same of the last state alone, when what is once lost never comes back. -/
theorem end_iff_throughout (preserved : ∀ s e s', I s → D s e → step s e = some s' → I s')
    (exact_step : ∀ s e s', I s → D s e → Q s → step s e = some s' → (Q s' ↔ C s e))
    (lost : ∀ s e s', I s → D s e → ¬ Q s → step s e = some s' → ¬ Q s') (start : I s) (good : Q s)
    (side : Throughout step D s schedule) (ran : run step s schedule = some s') :
    Q s' ↔ Throughout step C s schedule := by
  induction schedule generalizing s with
  | nil =>
    cases ran
    exact ⟨fun _ => True.intro, fun _ => good⟩
  | cons e rest ih =>
    obtain ⟨next, stepped, ran⟩ := run_cons.mp ran
    obtain ⟨sideHere, sideRest⟩ := side _ stepped
    have holds := preserved _ _ _ start sideHere stepped
    have here := exact_step _ _ _ start sideHere good stepped
    by_cases nextGood : Q next
    · rw [ih holds nextGood sideRest ran]
      constructor
      · intro all other stepped'
        cases stepped.symm.trans stepped'
        exact ⟨here.mp nextGood, all⟩
      · exact fun all => (all _ stepped).2
    · have gone := run_preserves_throughout (I := fun s => I s ∧ ¬ Q s)
        (fun s e s' holds side stepped => ⟨preserved s e s' holds.1 side stepped,
          lost s e s' holds.1 side holds.2 stepped⟩) ⟨holds, nextGood⟩ sideRest ran
      exact iff_of_false gone.2 fun all => nextGood (here.mpr (all _ stepped).1)

end Stateful
