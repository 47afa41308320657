import Mathlib.Data.List.Forall2
import Stencil.Proofs.Run.Collections

/-!
# Outcomes of loops

A loop gives the outcomes of its steps, up to the first failure, and keeps what its steps keep of the
store (`collect_gives`). Only a loop that succeeds has to keep it.
-/

namespace Stencil.Run

variable {σ α β γ : Type}

/-- What a run comes to, if it stays within its bound. -/
abbrev Outcome := ExceptT RenderError Option

theorem pure_inj {one other : α} (same : (pure one : Outcome α) = pure other) : one = other :=
  Except.ok.inj (Option.some.inj same)

theorem exists_of_bind_eq_pure {first : Outcome α} {next : α → Outcome β} {value : β}
    (same : first >>= next = pure value) : ∃ one, first = pure one ∧ next one = pure value := by
  cases first with
  | none => contradiction
  | some outcome =>
    cases outcome with
    | error error => cases Option.some.inj same
    | ok one => exact ⟨one, rfl, same⟩

theorem exists_of_map_eq_pure {first : Outcome α} {f : α → β} {value : β}
    (same : f <$> first = pure value) : ∃ one, first = pure one ∧ f one = value := by
  rw [← bind_pure_comp] at same
  obtain ⟨one, ran, mapped⟩ := exists_of_bind_eq_pure same
  exact ⟨one, ran, pure_inj mapped⟩

theorem forall₂_of_mapM {expected : α → Outcome β} {items : List α} {values : List β}
    (same : items.mapM expected = pure values) :
    List.Forall₂ (fun item value => expected item = pure value) items values := by
  induction items generalizing values with
  | nil =>
    obtain rfl := pure_inj same
    exact .nil
  | cons item rest ih =>
    rw [List.mapM_cons] at same
    obtain ⟨value, first, remaining⟩ := exists_of_bind_eq_pure same
    obtain ⟨others, restSame, ended⟩ := exists_of_bind_eq_pure remaining
    obtain rfl := pure_inj ended
    exact .cons first (ih restSame)

theorem mapM_map (expected : α → Outcome β) (f : α → β → γ) (g : γ → β)
    (inverse : ∀ item value, g (f item value) = value) (items : List α) :
    List.map g <$> items.mapM (fun item => f item <$> expected item) = items.mapM expected := by
  induction items with
  | nil => rfl
  | cons item rest ih =>
    rw [List.mapM_cons, List.mapM_cons, ← ih]
    simp [inverse]

/-- The result of a run in these scopes: its outcome and, after a success, a property of the store. -/
def Gives (result : Option (Except RenderError β × World σ)) (builder : Builder)
    (expected : Outcome β) (kept : β → σ → Prop) : Prop :=
  result.map Prod.fst = expected ∧
    ∀ outcome after, result = some (outcome, after) →
      after.builder = builder ∧ ∀ value, outcome = .ok value → kept value after.store

theorem gives_of_some {builder : Builder} {kept : β → σ → Prop} {outcome : Except RenderError β}
    {after : World σ} (scopes : after.builder = builder)
    (holds : ∀ value, outcome = .ok value → kept value after.store) :
    Gives (some (outcome, after)) builder (some outcome) kept := by
  refine ⟨rfl, fun answer final same => ?_⟩
  obtain ⟨rfl, rfl⟩ := result_inj same
  exact ⟨scopes, holds⟩

theorem gives_none (builder : Builder) (kept : β → σ → Prop) : Gives none builder none kept :=
  ⟨rfl, fun _ _ impossible => by contradiction⟩

theorem Gives.bind {first : Run σ (Except RenderError α)}
    {next : Except RenderError α → Run σ (Except RenderError β)} {world : World σ}
    {builder : Builder} {expected : Outcome α} {rest : α → Outcome β} {kept : α → σ → Prop}
    {final : β → σ → Prop} (one : Gives (first world) builder expected kept)
    (failed : ∀ error, next (.error error) = pure (.error error))
    (other : ∀ value middle, expected = pure value → middle.builder = builder → kept value middle.store →
      Gives (next (.ok value) middle) builder (rest value) final) :
    Gives ((first >>= next) world) builder (expected >>= rest) final := by
  obtain ⟨rfl, after⟩ := one
  rw [bind_apply]
  cases ran : first world with
  | none => exact gives_none builder final
  | some result =>
    obtain ⟨outcome, middle⟩ := result
    obtain ⟨scopes, holds⟩ := after outcome middle ran
    cases outcome with
    | error error =>
      show Gives (next (.error error) middle) builder _ final
      rw [failed]
      exact gives_of_some scopes fun _ impossible => by contradiction
    | ok value => exact other value middle (by rw [ran]; rfl) scopes (holds value rfl)

theorem collect_gives {step : α → Run σ (Except RenderError β)} {expected : α → Outcome β}
    {builder : Builder} (invariant : List α → σ → Prop) {items : List α}
    (each : ∀ done item world, (∀ other ∈ done, other ∈ items) → item ∈ items → world.builder = builder →
      invariant done world.store →
      Gives (step item world) builder (expected item) fun _ => invariant (done ++ [item]))
    (done rest : List α) (split : done ++ rest = items) (world : World σ)
    (scopes : world.builder = builder) (holds : invariant done world.store) :
    Gives (collect step rest world) builder (rest.mapM expected) fun _ => invariant items := by
  induction rest generalizing done world with
  | nil =>
    rw [List.append_nil] at split
    subst split
    exact gives_of_some scopes fun _ _ => holds
  | cons item rest ih =>
    have here : Gives (step item world) builder (expected item) fun _ => invariant (done ++ [item]) := by
      refine each done item world (fun other member => ?_) ?_ scopes holds
      · rw [← split]
        exact List.mem_append_left _ member
      · rw [← split]
        exact List.mem_append_right _ List.mem_cons_self
    rw [List.mapM_cons]
    refine here.bind (fun _ => rfl) fun value middle _ middleScopes middleHolds => ?_
    have others := ih (done ++ [item]) (by simpa using split) middle middleScopes middleHolds
    refine others.bind (fun _ => rfl) fun values last _ lastScopes lastHolds => ?_
    exact gives_of_some lastScopes fun _ _ => lastHolds

end Stencil.Run
