import Stencil.Proofs.Cache.Fragments
import Stencil.Proofs.Run.Collections

/-!
# Runs that shadow others

A run `Shadows` another one if it does the same to the scopes from every state of the store, as long as
the reads of the other one find nothing. Runs that are put together from such runs are of this kind again;
what the other run does without touching the scopes has no counterpart.
-/

namespace Stencil

open Cache (decode?)

/-- Whether the event gives the render no fragment that can be decoded. -/
def Event.findsNothing : Event → Bool
  | .read _ (.ok (some fragment)) => (decode? fragment).isNone
  | .readBatch keys (.ok found) => keys.all fun key => ((Entries.get? key found).bind decode?).isNone
  | _ => true

namespace Run

variable {σ α β γ δ : Type}

def Blind (world : World σ) : Prop := ∀ event ∈ world.events, event.findsNothing

theorem Blind.before {world after : World σ} (blind : Blind after)
    (grown : world.events <:+ after.events) : Blind world :=
  fun event member => blind event (grown.subset member)

/-- While the reads of `cached` find nothing, `plain` does the same to the scopes, whatever is stored. -/
def Shadows (form : α → β) (cached : Run σ (Except RenderError α))
    (plain : Run σ (Except RenderError β)) : Prop :=
  ∀ world result, cached world = some result → Blind result.2 →
    ∀ other : World σ, other.builder = world.builder →
      ∃ answer, plain other = some answer ∧
        success answer = (success result).map fun found => (form found.1, found.2)

namespace Shadows

theorem pure (form : α → β) (value : α) :
    Shadows (σ := σ) form (Pure.pure (.ok value)) (Pure.pure (.ok (form value))) := by
  intro world result ran blind other same
  refine ⟨(.ok (form value), other), rfl, ?_⟩
  rw [← Option.some.inj ran]
  show some (form value, other.builder) = some (form value, world.builder)
  rw [same]

theorem bind {form : α → β} {last : γ → δ} {cached : Run σ (Except RenderError α)}
    {plain : Run σ (Except RenderError β)} {next : Except RenderError α → Run σ (Except RenderError γ)}
    {plainNext : Except RenderError β → Run σ (Except RenderError δ)} (one : Shadows form cached plain)
    (grows : ∀ outcome, Grows (next outcome)) (failed : PassesErrors next)
    (plainFailed : PassesErrors plainNext)
    (other : ∀ value, Shadows last (next (.ok value)) (plainNext (.ok (form value)))) :
    Shadows last (cached >>= next) (plain >>= plainNext) := by
  intro world result ran blind elsewhere same
  obtain ⟨outcome, middle, firstRan, nextRan⟩ := bind_some ran
  have blindMiddle := blind.before (grows outcome middle result nextRan)
  obtain ⟨⟨answer, final⟩, plainRan, alike⟩ := one world _ firstRan blindMiddle elsewhere same
  rw [bind_of_some plainRan]
  cases outcome with
  | error error =>
    obtain ⟨failure, ends⟩ := failed error
    rw [ends] at nextRan
    cases answer with
    | ok value => contradiction
    | error plainError =>
      obtain ⟨plainFailure, plainEnds⟩ := plainFailed plainError
      rw [plainEnds, ← Option.some.inj nextRan]
      exact ⟨_, rfl, rfl⟩
  | ok value =>
    cases answer with
    | error plainError => contradiction
    | ok plainValue =>
      obtain ⟨rfl, sameBuilder⟩ : plainValue = form value ∧ final.builder = middle.builder := by
        simpa [success] using alike
      exact other value middle result nextRan blind final sameBuilder

/-- What the cached run does without touching the scopes has no counterpart. -/
theorem afterSilent {form : α → β} {first : Run σ γ} {next : γ → Run σ (Except RenderError α)}
    {plain : Run σ (Except RenderError β)} (silent : Silent True first)
    (each : ∀ value, Shadows form (next value) plain) : Shadows form (first >>= next) plain := by
  intro world result ran blind other same
  obtain ⟨value, middle, firstRan, nextRan⟩ := bind_some ran
  exact each value middle result nextRan blind other (same.trans (silent.keeps firstRan).symm)

theorem beforeSilent {form : α → β} {first : Run σ γ} {cached : Run σ (Except RenderError α)}
    {plain : γ → Run σ (Except RenderError β)} (silent : Silent True first)
    (each : ∀ value, Shadows form cached (plain value)) : Shadows form cached (first >>= plain) := by
  intro world result ran blind other same
  obtain ⟨value, store, events, firstRan⟩ := silent.result other
  rw [bind_of_some firstRan]
  exact each value world result ran blind _ same

theorem nested {cached plain : Run σ (Except RenderError Unit)} (body : Shadows id cached plain) :
    Shadows id (Run.nested cached) (Run.nested plain) := by
  intro world result ran blind other same
  rw [nested_eq, Option.map_eq_some_iff] at ran
  obtain ⟨⟨outcome, after⟩, bodyRan, rfl⟩ := ran
  obtain ⟨⟨answer, final⟩, plainRan, alike⟩ := body { world with builder := world.builder.push } _ bodyRan
    blind { other with builder := other.builder.push } (congrArg Builder.push same)
  refine ⟨_, by rw [nested_eq, plainRan]; rfl, ?_⟩
  cases outcome <;> cases answer <;> simp_all [success, Except.map]

theorem edit (operation : Scope → Edited) :
    Shadows (σ := σ) id (Run.edit operation) (Run.edit operation) := by
  intro world result ran blind other same
  refine ⟨_, rfl, ?_⟩
  rw [← Option.some.inj ran]
  simp only [same]
  cases (world.builder.edit operation).1 <;> simp [success]

theorem failed (error : RenderError) :
    Shadows (σ := σ) (id : α → α) (Pure.pure (.error error)) (Pure.pure (.error error)) := by
  intro world result ran blind other same
  refine ⟨_, rfl, ?_⟩
  rw [← Option.some.inj ran]
  rfl

theorem observe {form : α → β} {view : Builder → γ} {next : γ → Run σ (Except RenderError α)}
    {plain : γ → Run σ (Except RenderError β)} (each : ∀ value, Shadows form (next value) (plain value)) :
    Shadows form (Run.observe view >>= next) (Run.observe view >>= plain) := by
  intro world result ran blind other same
  show ∃ answer, plain (view other.builder) other = some answer ∧ _
  rw [same]
  exact each (view world.builder) world result ran blind other same

theorem splice (node : Except RenderError Json) :
    Shadows (σ := σ) id (Run.splice node) (Run.splice node) := by
  cases node with
  | ok node => exact edit (Scope.splice node)
  | error error => exact failed error

theorem spliced {cached plain : Run σ (Except RenderError Json)} (same : Shadows id cached plain) :
    Shadows id (cached >>= Run.splice) (plain >>= Run.splice) := by
  refine same.bind (fun node => ?_) (fun error => ⟨error, rfl⟩) (fun error => ⟨error, rfl⟩) fun node => ?_
  · exact hereditary_grows.splice node ()
  · exact splice (.ok node)

theorem mapped {form : α → β} {cached : Run σ (Except RenderError α)}
    {plain : Run σ (Except RenderError β)} (same : Shadows form cached plain) (f : α → γ) (g : β → γ)
    (agree : ∀ value, g (form value) = f value) :
    Shadows id (do return (← cached).map f) (do return (← plain).map g) := by
  refine same.bind (fun outcome => (Silent.pure _).grows) (fun error => ⟨error, rfl⟩)
    (fun error => ⟨error, rfl⟩) fun value => ?_
  show Shadows id (Pure.pure (.ok (f value))) (Pure.pure (.ok (g (form value))))
  rw [agree]
  exact pure id (f value)

theorem collect {form : α → β} {cached : γ → Run σ (Except RenderError α)}
    {plain : γ → Run σ (Except RenderError β)} {items : List γ} (grows : ∀ item, Grows (cached item))
    (each : ∀ item ∈ items, Shadows form (cached item) (plain item)) :
    Shadows (List.map form) (Run.collect cached items) (Run.collect plain items) := by
  induction items with
  | nil => exact pure (List.map form) []
  | cons item rest ih =>
    have others := ih fun other member => each other (List.mem_cons_of_mem _ member)
    have growing : Grows (Run.collect cached rest) :=
      hereditary_grows.collect (fun other _ (_ : Unit) => grows other) ()
    refine (each item List.mem_cons_self).bind ?_ (fun error => ⟨error, rfl⟩)
      (fun error => ⟨error, rfl⟩) fun value => ?_
    · rintro (error | value)
      · exact (Silent.pure _).grows
      · refine growing.bind fun outcome => ?_
        cases outcome <;> exact (Silent.pure _).grows
    · refine others.bind (fun outcome => ?_) (fun error => ⟨error, rfl⟩) (fun error => ⟨error, rfl⟩)
        fun values => pure (List.map form) (value :: values)
      cases outcome <;> exact (Silent.pure _).grows

end Shadows

end Run

end Stencil
