import TaxiPipeline.Stateful.Attempts

namespace Stateful

/-- A call as the requests that it makes, one after another; each is answered or raises. -/
inductive Script {Request : Type} (Answer : Request → Type) (ε α : Type) : Type where
  | done (result : Except ε α)
  | ask (request : Request) (next : Except ε (Answer request) → Script Answer ε α)

namespace Script

variable {Request : Type} {Answer : Request → Type} {ε α β : Type}

def bind (body : Script Answer ε α) (next : α → Script Answer ε β) : Script Answer ε β :=
  match body with
  | done (.ok a) => next a
  | done (.error error) => done (.error error)
  | ask request answered => ask request fun answer => (answered answer).bind next

instance : Monad (Script Answer ε) where
  pure a := done (.ok a)
  bind := bind

def raise (error : ε) : Script Answer ε α := done (.error error)

def lift (result : Except ε α) : Script Answer ε α := done result

def request (request : Request) : Script Answer ε (Answer request) := ask request done

/-- `try: body finally: final`, where an exception of `final` takes the place of the result. -/
def andFinally (body : Script Answer ε α) (final : Script Answer ε Unit) : Script Answer ε α :=
  match body with
  | done result => final.bind fun _ => done result
  | ask request answered => ask request fun answer => (answered answer).andFinally final

/-- The call alone, with all its requests answered by one environment. -/
def eval {σ : Type} (respond : (request : Request) → Attempt σ ε (Answer request)) :
    Script Answer ε α → Attempt σ ε α
  | done result => fun s => (result, s)
  | ask request next => fun s => (next (respond request s).1).eval respond (respond request s).2

section Eval

variable {σ : Type} {respond : (request : Request) → Attempt σ ε (Answer request)} {s s' : σ}

theorem eval_ask {request : Request} {next : Except ε (Answer request) → Script Answer ε α}
    {answer : Except ε (Answer request)} (answered : respond request s = (answer, s')) :
    (ask request next).eval respond s = (next answer).eval respond s' := by
  show (next (respond request s).1).eval respond (respond request s).2 = _
  rw [answered]

theorem eval_bind (body : Script Answer ε α) (next : α → Script Answer ε β) :
    (body >>= next).eval respond = body.eval respond >>= fun a => (next a).eval respond := by
  induction body with
  | done result => cases result <;> rfl
  | ask request answered ih =>
    funext s
    exact congrFun (ih (respond request s).1) (respond request s).2

theorem eval_bind_ok {body : Script Answer ε α} {next : α → Script Answer ε β} {a : α}
    (returned : body.eval respond s = (.ok a, s')) : (body >>= next).eval respond s = (next a).eval respond s' := by
  rw [eval_bind, Attempt.bind_apply, returned]

theorem eval_andFinally_ok {body : Script Answer ε α} {final : Script Answer ε Unit} {a : α} {s'' : σ}
    (returned : body.eval respond s = (.ok a, s')) (finished : final.eval respond s' = (.ok (), s'')) :
    (body.andFinally final).eval respond s = (.ok a, s'') := by
  induction body generalizing s with
  | done result =>
    cases returned
    exact eval_bind_ok finished
  | ask request answered ih => exact ih _ returned

end Eval

/-- The rules of an environment for one of its callers: what the caller may ask when it has `own`, and what it
    may have after the answer. -/
structure Rules (Answer : Request → Type) (ε Own : Type) where
  allowed : Own → Request → Prop
  effect : Own → (request : Request) → Except ε (Answer request) → Own → Prop

section Rules

variable {Own : Type} {rules : Rules Answer ε Own} {own : Own} {post post' : Except ε α → Own → Prop}

/-- From `own` on the call asks only what the rules allow, and ends as `post` says. -/
def Follows (rules : Rules Answer ε Own) (own : Own) (post : Except ε α → Own → Prop) : Script Answer ε α → Prop
  | done result => post result own
  | ask request next => rules.allowed own request ∧
      ∀ answer own', rules.effect own request answer own' → (next answer).Follows rules own' post

theorem Follows.mono {script : Script Answer ε α} (follows : script.Follows rules own post)
    (weaker : ∀ result own, post result own → post' result own) : script.Follows rules own post' := by
  induction script generalizing own with
  | done result => exact weaker result own follows
  | ask request next ih =>
    exact ⟨follows.1, fun answer own' effect => ih answer (follows.2 answer own' effect)⟩

theorem Follows.bind {body : Script Answer ε α} {next : α → Script Answer ε β} {post : Except ε β → Own → Prop}
    (follows : body.Follows rules own fun result own' => match result with
      | .ok a => (next a).Follows rules own' post
      | .error error => post (.error error) own') :
    (body >>= next).Follows rules own post := by
  induction body generalizing own with
  | done result => cases result <;> exact follows
  | ask request answered ih =>
    exact ⟨follows.1, fun answer own' effect => ih answer (follows.2 answer own' effect)⟩

theorem Follows.andFinally {body : Script Answer ε α} {final : Script Answer ε Unit}
    (follows : body.Follows rules own fun result own' => final.Follows rules own' fun finished own'' =>
      match finished with
      | .ok () => post result own''
      | .error error => post (.error error) own'') :
    (body.andFinally final).Follows rules own post := by
  induction body generalizing own with
  | done result =>
    have ends : final.Follows rules own fun finished own'' => match finished with
      | .ok () => post result own''
      | .error error => post (.error error) own'' := follows
    refine Follows.bind (ends.mono fun finished own'' after => ?_)
    cases finished <;> exact after
  | ask request answered ih =>
    exact ⟨follows.1, fun answer own' effect => ih answer (follows.2 answer own' effect)⟩

theorem follows_request {r : Request} {post : Except ε (Answer r) → Own → Prop} (allowed : rules.allowed own r)
    (ends : ∀ answer own', rules.effect own r answer own' → post answer own') :
    (request r : Script Answer ε (Answer r)).Follows rules own post :=
  ⟨allowed, ends⟩

theorem follows_lift {result : Except ε α} {next : α → Script Answer ε β} {post : Except ε β → Own → Prop}
    (onOk : ∀ a, result = .ok a → (next a).Follows rules own post)
    (onError : ∀ error, result = .error error → post (.error error) own) :
    (lift result >>= next).Follows rules own post := by
  cases result with
  | ok a => exact onOk a rfl
  | error error => exact onError error rfl

/-- Alone, a call that follows the rules ends as it should, if the environment keeps the rules. -/
theorem Follows.eval {σ : Type} {respond : (request : Request) → Attempt σ ε (Answer request)}
    {View : Own → σ → Prop} (keeps : ∀ own s request, View own s → rules.allowed own request →
      ∃ own', rules.effect own request (respond request s).1 own' ∧ View own' (respond request s).2)
    {script : Script Answer ε α} {s : σ} (follows : script.Follows rules own post) (view : View own s) :
    ∃ own', post (script.eval respond s).1 own' ∧ View own' (script.eval respond s).2 := by
  induction script generalizing own s with
  | done result => exact ⟨own, follows, view⟩
  | ask request next ih =>
    obtain ⟨own', effect, after⟩ := keeps own s request view follows.1
    exact ih _ (follows.2 _ own' effect) after

end Rules

section Noting

variable {Note σ : Type} (note : Request → Option Note)

/-- The environment that also notes down what it is asked. -/
def noting (respond : (request : Request) → Attempt σ ε (Answer request)) (request : Request) :
    Attempt (σ × List Note) ε (Answer request) :=
  fun (s, notes) => ((respond request s).1, (respond request s).2, notes ++ (note request).toList)

/-- Only what is not noted down may be asked. -/
def quietRules : Rules Answer ε Unit where
  allowed := fun _ request => note request = none
  effect := fun _ _ _ _ => True

/-- The call asks nothing that is noted down, whatever it is answered. -/
abbrev Quiet (script : Script Answer ε α) : Prop := script.Follows (quietRules note) () fun _ _ => True

variable {note}

theorem quiet_bind {body : Script Answer ε α} {next : α → Script Answer ε β} (quiet : body.Quiet note)
    (later : ∀ a, (next a).Quiet note) : (body >>= next).Quiet note := by
  refine .bind (Follows.mono quiet fun result own _ => ?_)
  cases result with
  | ok a => exact later a
  | error error => exact True.intro

theorem quiet_andFinally {body : Script Answer ε α} {final : Script Answer ε Unit} (quiet : body.Quiet note)
    (ends : final.Quiet note) : (body.andFinally final).Quiet note := by
  refine .andFinally (Follows.mono quiet fun result own _ => ?_)
  refine Follows.mono ends fun finished own _ => ?_
  cases finished <;> exact True.intro

theorem quiet_request {r : Request} (unnoted : note r = none) : (request r : Script Answer ε (Answer r)).Quiet note :=
  ⟨unnoted, fun _ _ _ => True.intro⟩

theorem quiet_done (result : Except ε α) : (done result : Script Answer ε α).Quiet note := True.intro

theorem noting_unnoted {respond : (request : Request) → Attempt σ ε (Answer request)} {r : Request}
    {answer : Except ε (Answer r)} {s s' : σ} (unnoted : note r = none) (answered : respond r s = (answer, s'))
    (notes : List Note) : noting note respond r (s, notes) = (answer, s', notes) := by
  show ((respond r s).1, (respond r s).2, notes ++ (note r).toList) = _
  rw [answered, unnoted, Option.toList_none, List.append_nil]

theorem eval_noting {respond : (request : Request) → Attempt σ ε (Answer request)} {script : Script Answer ε α}
    (quiet : script.Quiet note) (s : σ) (notes : List Note) :
    script.eval (noting note respond) (s, notes) =
      ((script.eval respond s).1, (script.eval respond s).2, notes) := by
  induction script generalizing s notes with
  | done result => rfl
  | ask request next ih =>
    obtain ⟨unnoted, later⟩ := quiet
    refine (eval_ask (noting_unnoted unnoted rfl notes)).trans ?_
    exact ih (respond request s).1 (later (respond request s).1 () True.intro) (respond request s).2 notes

end Noting

end Script

end Stateful
