import Mathlib.Init

namespace Stateful

/-- A computation that may raise, and then keeps what it has done to the state so far. -/
def Attempt (σ ε α : Type) : Type := σ → Except ε α × σ

namespace Attempt

variable {σ ε α β : Type}

instance : Monad (Attempt σ ε) where
  pure a := fun s => (.ok a, s)
  bind body next := fun s =>
    match body s with
    | (.ok a, s') => next a s'
    | (.error error, s') => (.error error, s')

def raise (error : ε) : Attempt σ ε α := fun s => (.error error, s)

def lift (result : Except ε α) : Attempt σ ε α := fun s => (result, s)

def tryCatch (body : Attempt σ ε α) (handler : ε → Attempt σ ε α) : Attempt σ ε α := fun s =>
  match body s with
  | (.ok a, s') => (.ok a, s')
  | (.error error, s') => handler error s'

@[simp] theorem pure_apply (a : α) (s : σ) : (pure a : Attempt σ ε α) s = (.ok a, s) := rfl

@[simp] theorem bind_apply (body : Attempt σ ε α) (next : α → Attempt σ ε β) (s : σ) :
    (body >>= next) s = match body s with
      | (.ok a, s') => next a s'
      | (.error error, s') => (.error error, s') := rfl

@[simp] theorem raise_apply (error : ε) (s : σ) : (raise error : Attempt σ ε α) s = (.error error, s) := rfl

@[simp] theorem lift_apply (result : Except ε α) (s : σ) : lift result s = (result, s) := rfl

/-- From `s` the computation returns into `returns` or raises into `raises`. -/
def Meets (body : Attempt σ ε α) (s : σ) (returns : α → σ → Prop) (raises : ε → σ → Prop) : Prop :=
  match body s with
  | (.ok a, s') => returns a s'
  | (.error error, s') => raises error s'

variable {body : Attempt σ ε α} {s s' : σ} {returns returns' : α → σ → Prop}
  {raises raises' : ε → σ → Prop}

theorem Meets.of_ok {a : α} (ran : body s = (.ok a, s')) (post : returns a s') :
    body.Meets s returns raises := by
  unfold Meets
  rw [ran]
  exact post

theorem Meets.of_error {error : ε} (ran : body s = (.error error, s')) (post : raises error s') :
    body.Meets s returns raises := by
  unfold Meets
  rw [ran]
  exact post

theorem Meets.ok {a : α} (meets : body.Meets s returns raises) (ran : body s = (.ok a, s')) :
    returns a s' := by
  unfold Meets at meets
  rwa [ran] at meets

theorem Meets.error {error : ε} (meets : body.Meets s returns raises)
    (ran : body s = (.error error, s')) : raises error s' := by
  unfold Meets at meets
  rwa [ran] at meets

theorem Meets.ends {ends : σ → Prop} (meets : body.Meets s (fun _ s' => ends s') fun _ s' => ends s') :
    ends (body s).2 := by
  rcases ran : body s with ⟨result, s'⟩
  cases result with
  | ok a => exact meets.ok ran
  | error error => exact meets.error ran

theorem Meets.mono (meets : body.Meets s returns raises)
    (weakerReturns : ∀ a s', returns a s' → returns' a s')
    (weakerRaises : ∀ error s', raises error s' → raises' error s') :
    body.Meets s returns' raises' := by
  rcases ran : body s with ⟨result, s'⟩
  cases result with
  | ok a => exact .of_ok ran (weakerReturns a s' (meets.ok ran))
  | error error => exact .of_error ran (weakerRaises error s' (meets.error ran))

theorem meets_pure {a : α} (post : returns a s) : (pure a : Attempt σ ε α).Meets s returns raises :=
  post

theorem meets_lift {result : Except ε α} (onOk : ∀ a, result = .ok a → returns a s)
    (onError : ∀ error, result = .error error → raises error s) :
    (lift result : Attempt σ ε α).Meets s returns raises := by
  cases result with
  | ok a => exact onOk a rfl
  | error error => exact onError error rfl

theorem Meets.bind {next : α → Attempt σ ε β} {returns : β → σ → Prop}
    (meets : body.Meets s (fun a s' => (next a).Meets s' returns raises) raises) :
    (body >>= next).Meets s returns raises := by
  rcases ran : body s with ⟨result, s'⟩
  cases result with
  | ok a =>
    have rest := meets.ok ran
    unfold Meets at rest ⊢
    rw [bind_apply, ran]
    exact rest
  | error error =>
    have stops : (body >>= next) s = (.error error, s') := by rw [bind_apply, ran]
    exact .of_error stops (meets.error ran)

theorem Meets.tryCatch {handler : ε → Attempt σ ε α}
    (meets : body.Meets s returns fun error s' => (handler error).Meets s' returns raises) :
    (body.tryCatch handler).Meets s returns raises := by
  rcases ran : body s with ⟨result, s'⟩
  unfold Meets Attempt.tryCatch
  rw [ran]
  cases result with
  | ok a => exact meets.ok ran
  | error error => exact meets.error ran

/-- A loop keeps an invariant of the items done, its value and the state, or ends with an item's error. -/
theorem Meets.foldlM {step : β → α → Attempt σ ε β} {Inv : List α → β → σ → Prop} {done items : List α} {b : β}
    (steps : ∀ done item b s, item ∈ items → Inv done b s →
      (step b item).Meets s (fun b' s' => Inv (done ++ [item]) b' s') raises)
    (holds : Inv done b s) :
    (items.foldlM step b).Meets s (fun b' s' => Inv (done ++ items) b' s') raises := by
  induction items generalizing done b s with
  | nil =>
    rw [List.append_nil]
    exact holds
  | cons item rest ih =>
    rw [List.foldlM_cons]
    refine .bind ((steps done item b s List.mem_cons_self holds).mono (fun b' s' after => ?_) fun _ _ => id)
    rw [List.append_cons]
    exact ih (fun done' item' b s member => steps done' item' b s (List.mem_cons_of_mem _ member)) after

end Attempt

end Stateful
