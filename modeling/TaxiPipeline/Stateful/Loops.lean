import Mathlib.Data.List.Forall2

namespace Stateful

variable {ε α β σ : Type}

/-- A computation ends with a good value or with an allowed error. -/
def Ends (good : α → Prop) (allowed : ε → Prop) : Except ε α → Prop
  | .ok value => good value
  | .error error => allowed error

theorem bind_ok {first : Except ε α} {next : α → Except ε β} {result : β} :
    (first >>= next) = .ok result ↔ ∃ value, first = .ok value ∧ next value = .ok result := by
  cases first with
  | error error =>
    constructor
    · intro returned
      cases returned
    · rintro ⟨value, impossible, -⟩
      cases impossible
  | ok value =>
    constructor
    · intro returned
      exact ⟨value, rfl, returned⟩
    · rintro ⟨value', same, returned⟩
      cases same
      exact returned

variable {good : α → Prop} {good' : β → Prop} {allowed : ε → Prop}

theorem Ends.bind {first : Except ε α} {next : α → Except ε β} (ends : Ends good allowed first)
    (later : ∀ value, good value → Ends good' allowed (next value)) :
    Ends good' allowed (first >>= next) := by
  cases first with
  | error error => exact ends
  | ok value => exact later value ends

/-- A loop over a list keeps an invariant of the items done and the state, or ends with a step's error. -/
theorem Ends.foldlM {step : σ → α → Except ε σ} {Inv : List α → σ → Prop} {done items : List α} {state : σ}
    (steps : ∀ done item state, Inv done state → Ends (Inv (done ++ [item])) allowed (step state item))
    (holds : Inv done state) : Ends (Inv (done ++ items)) allowed (items.foldlM step state) := by
  induction items generalizing done state with
  | nil =>
    rw [List.append_nil]
    exact holds
  | cons item rest ih =>
    rw [List.foldlM_cons, List.append_cons]
    exact (steps done item state holds).bind fun next after => ih after

theorem mapM_ok {f : α → Except ε β} {items : List α} {results : List β} :
    items.mapM f = .ok results ↔ List.Forall₂ (fun item result => f item = .ok result) items results := by
  induction items generalizing results with
  | nil =>
    rw [List.forall₂_nil_left_iff]
    constructor
    · intro returned
      exact (Except.ok.inj returned).symm
    · intro empty
      rw [empty]
      rfl
  | cons item rest ih =>
    rw [List.mapM_cons]
    constructor
    · intro returned
      cases head : f item with
      | error error =>
        rw [head] at returned
        cases returned
      | ok result =>
        rw [head] at returned
        cases tail : rest.mapM f with
        | error error =>
          rw [tail] at returned
          cases returned
        | ok others =>
          rw [tail] at returned
          cases returned
          exact .cons head (ih.mp tail)
    · intro each
      cases each with
      | cons head tail =>
        rw [head, ih.mpr tail]
        rfl

theorem forall₂_mem {R : α → β → Prop} {items : List α} {results : List β} {result : β}
    (each : List.Forall₂ R items results) (member : result ∈ results) : ∃ item ∈ items, R item result := by
  induction each with
  | nil => cases member
  | cons head tail ih =>
    rcases List.mem_cons.mp member with rfl | later
    · exact ⟨_, List.mem_cons_self, head⟩
    · obtain ⟨item, inRest, related⟩ := ih later
      exact ⟨item, List.mem_cons_of_mem _ inRest, related⟩

theorem mapM_map {κ : Type} {f : α → Except ε β} {items : List α} {results : List β} {ofItem : α → κ}
    {ofResult : β → κ} (each : ∀ item result, f item = .ok result → ofResult result = ofItem item)
    (returned : items.mapM f = .ok results) : results.map ofResult = items.map ofItem := by
  have related := mapM_ok.mp returned
  clear returned
  induction related with
  | nil => rfl
  | cons head tail ih => rw [List.map_cons, List.map_cons, each _ _ head, ih]

theorem forall₂_item_mem {R : α → β → Prop} {items : List α} {results : List β} {item : α}
    (each : List.Forall₂ R items results) (member : item ∈ items) : ∃ result ∈ results, R item result :=
  forall₂_mem each.flip member

theorem mapM_exists {f : α → Except ε β} {items : List α} (each : ∀ item ∈ items, ∃ result, f item = .ok result) :
    ∃ results, items.mapM f = .ok results := by
  induction items with
  | nil => exact ⟨[], rfl⟩
  | cons item rest ih =>
    obtain ⟨result, head⟩ := each item List.mem_cons_self
    obtain ⟨results, tail⟩ := ih fun other member => each other (List.mem_cons_of_mem _ member)
    exact ⟨result :: results, mapM_ok.mpr (.cons head (mapM_ok.mp tail))⟩

theorem mapM_exists_iff {f : α → Except ε β} {items : List α} :
    (∃ results, items.mapM f = .ok results) ↔ ∀ item ∈ items, ∃ result, f item = .ok result := by
  constructor
  · rintro ⟨results, returned⟩ item member
    obtain ⟨result, -, given⟩ := forall₂_item_mem (mapM_ok.mp returned) member
    exact ⟨result, given⟩
  · exact mapM_exists

theorem foldlM_flatten {step : σ → α → Except ε σ} {batches : List (List α)} {state : σ} :
    batches.foldlM (fun state batch => batch.foldlM step state) state = batches.flatten.foldlM step state := by
  induction batches generalizing state with
  | nil => rfl
  | cons batch rest ih =>
    rw [List.foldlM_cons, List.flatten_cons, List.foldlM_append]
    exact congrArg _ (funext fun next => ih)

/-- A loop whose steps read an item and then change the state returns when every item is read. -/
theorem foldlM_reads {read : α → Except ε β} {change : σ → β → σ} {items : List α} {state result : σ} :
    items.foldlM (fun state item => read item >>= fun value => .ok (change state value)) state = .ok result ↔
      ∃ values, items.mapM read = .ok values ∧ result = values.foldl change state := by
  induction items generalizing state with
  | nil =>
    constructor
    · intro returned
      exact ⟨[], rfl, (Except.ok.inj returned).symm⟩
    · rintro ⟨values, returned, rfl⟩
      cases returned
      rfl
  | cons item rest ih =>
    rw [List.foldlM_cons, bind_ok]
    constructor
    · rintro ⟨next, step, returned⟩
      obtain ⟨value, head, same⟩ := bind_ok.mp step
      cases same
      obtain ⟨values, tail, rfl⟩ := ih.mp returned
      exact ⟨value :: values, mapM_ok.mpr (.cons head (mapM_ok.mp tail)), rfl⟩
    · rintro ⟨values, returned, rfl⟩
      cases mapM_ok.mp returned with
      | cons head tail =>
        exact ⟨_, bind_ok.mpr ⟨_, head, rfl⟩, ih.mpr ⟨_, mapM_ok.mpr tail, rfl⟩⟩

end Stateful
