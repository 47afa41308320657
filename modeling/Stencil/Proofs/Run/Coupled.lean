import Mathlib.Data.List.Forall2
import Mathlib.Data.Option.Basic
import Stencil.Proofs.Run.Collections

/-!
# Runs side by side

Two runs are `Coupled` by a relation between their states if, from related states, both exceed their
bound or both end in related states with related results. A `Coupling` says that single steps keep the
relation; nested scopes, loops, partials and cache calls then keep it as well. An invariant of one run is
the case in which the relation holds between equal states only.
-/

namespace Stencil

/-- The state after one more event. -/
def World.noted {σ : Type} (event : Event) (world : World σ) : World σ :=
  { world with events := event :: world.events }

namespace Run

variable {σ α β γ δ : Type} {W : World σ → World σ → Prop}

def Coupled (W : World σ → World σ → Prop) (V : α → β → Prop) (one : Run σ α) (other : Run σ β) : Prop :=
  ∀ world elsewhere, W world elsewhere →
    Option.Rel (fun here there => V here.1 there.1 ∧ W here.2 there.2) (one world) (other elsewhere)

/-- The same error, or related values. -/
inductive Accord (N : α → β → Prop) : Except RenderError α → Except RenderError β → Prop where
  | error (error : RenderError) : Accord N (.error error) (.error error)
  | ok {value : α} {other : β} (related : N value other) : Accord N (.ok value) (.ok other)

theorem accord_eq_iff {one other : Except RenderError α} : Accord Eq one other ↔ one = other := by
  constructor
  · rintro (error | rfl) <;> rfl
  · rintro rfl
    cases one with
    | error error => exact .error error
    | ok value => exact .ok rfl

theorem Accord.map {N : α → β → Prop} {M : γ → δ → Prop} {one : Except RenderError α}
    {other : Except RenderError β} (accord : Accord N one other) {f : α → γ} {g : β → δ}
    (kept : ∀ value answer, N value answer → M (f value) (g answer)) :
    Accord M (one.map f) (other.map g) := by
  cases accord with
  | error error => exact .error error
  | ok related => exact .ok (kept _ _ related)

theorem rel_bind {R : α → β → Prop} {S : γ → δ → Prop} {here : Option α} {there : Option β}
    {next : α → Option γ} {follows : β → Option δ} (related : Option.Rel R here there)
    (each : ∀ value answer, here = some value → R value answer → Option.Rel S (next value) (follows answer)) :
    Option.Rel S (here.bind next) (there.bind follows) := by
  cases related with
  | some values => exact each _ _ rfl values
  | none => exact .none

theorem rel_imp {R S : α → β → Prop} {here : Option α} {there : Option β} (related : Option.Rel R here there)
    (each : ∀ value answer, R value answer → S value answer) : Option.Rel S here there := by
  cases related with
  | some values => exact .some (each _ _ values)
  | none => exact .none

theorem map_eq_of_rel {R : α → β → Prop} {here : Option α} {there : Option β} {f : α → γ} {g : β → γ}
    (related : Option.Rel R here there)
    (each : ∀ one two, here = some one → there = some two → R one two → f one = g two) :
    here.map f = there.map g := by
  cases related with
  | some values => exact congrArg some (each _ _ rfl rfl values)
  | none => rfl

theorem arr_of_forall₂ {nodes others : List Json} (same : List.Forall₂ Eq nodes others) :
    Json.arr nodes = .arr others := by
  rw [List.forall₂_eq_eq_eq] at same
  rw [same]

namespace Coupled

theorem pure {V : α → β → Prop} {value : α} {other : β} (related : V value other) :
    Coupled W V (Pure.pure value) (Pure.pure other) :=
  fun _ _ same => .some ⟨related, same⟩

theorem bind {V : α → β → Prop} {U : γ → δ → Prop} {one : Run σ α} {other : Run σ β}
    {next : α → Run σ γ} {follows : β → Run σ δ} (first : Coupled W V one other)
    (each : ∀ value answer, V value answer → Coupled W U (next value) (follows answer)) :
    Coupled W U (one >>= next) (other >>= follows) := by
  intro world elsewhere same
  refine rel_bind (first world elsewhere same) fun here there _ related => ?_
  exact each _ _ related.1 _ _ related.2

/-- What is known of the values of the first run may be used. -/
theorem with_value {V : α → β → Prop} {one : Run σ α} {other : Run σ β} {P : α → Prop}
    (coupled : Coupled W V one other)
    (known : ∀ world value after, one world = some (value, after) → P value) :
    Coupled W (fun value answer => P value ∧ V value answer) one other := by
  intro world elsewhere same
  rw [← Option.bind_fun_some (one world), ← Option.bind_fun_some (other elsewhere)]
  refine rel_bind (coupled world elsewhere same) fun here there ran related => ?_
  exact .some ⟨⟨known world here.1 here.2 ran, related.1⟩, related.2⟩

theorem succeeding {V : α → β → Prop} {U : γ → δ → Prop} {one : Run σ (Except RenderError α)}
    {other : Run σ (Except RenderError β)} {next : Except RenderError α → Run σ (Except RenderError γ)}
    {follows : Except RenderError β → Run σ (Except RenderError δ)} (first : Coupled W (Accord V) one other)
    (failed : ∀ error, next (.error error) = Pure.pure (.error error))
    (failedToo : ∀ error, follows (.error error) = Pure.pure (.error error))
    (each : ∀ value answer, V value answer → Coupled W (Accord U) (next (.ok value)) (follows (.ok answer))) :
    Coupled W (Accord U) (one >>= next) (other >>= follows) := by
  refine first.bind fun outcome answer accord => ?_
  cases accord with
  | error error =>
    rw [failed, failedToo]
    exact pure (.error error)
  | ok related => exact each _ _ related

theorem mapped {V : α → β → Prop} {U : γ → δ → Prop} {one : Run σ (Except RenderError α)}
    {other : Run σ (Except RenderError β)} (coupled : Coupled W (Accord V) one other) {f : α → γ} {g : β → δ}
    (kept : ∀ value answer, V value answer → U (f value) (g answer)) :
    Coupled W (Accord U) (do return (← one).map f) (do return (← other).map g) :=
  coupled.bind fun _ _ accord => pure (accord.map kept)

theorem collect {V : γ → δ → Prop} {step : α → Run σ (Except RenderError γ)}
    {stepToo : β → Run σ (Except RenderError δ)} {items : List α} {others : List β}
    (each : List.Forall₂ (fun item other => Coupled W (Accord V) (step item) (stepToo other)) items others) :
    Coupled W (Accord (List.Forall₂ V)) (Run.collect step items) (Run.collect stepToo others) := by
  induction each with
  | nil => exact pure (.ok .nil)
  | cons first _ ih =>
    refine first.succeeding (fun _ => rfl) (fun _ => rfl) fun value answer related => ?_
    refine ih.succeeding (fun _ => rfl) (fun _ => rfl) fun values answers more => ?_
    exact pure (.ok (.cons related more))

theorem accord_iff {one other : Run σ (Except RenderError α)} :
    Coupled W (Accord Eq) one other ↔ Coupled W Eq one other := by
  simp only [Coupled, accord_eq_iff]

/-- A call of the store that is answered alike and keeps the relation. -/
theorem recorded {call : σ → α × σ} {record : α → Event}
    (kept : ∀ world elsewhere, W world elsewhere → (call world.store).1 = (call elsewhere.store).1 ∧
      W ⟨world.builder, (call world.store).2, record (call world.store).1 :: world.events⟩
        ⟨elsewhere.builder, (call elsewhere.store).2, record (call elsewhere.store).1 :: elsewhere.events⟩) :
    Coupled W Eq (Run.recorded call record) (Run.recorded call record) := by
  intro world elsewhere same
  rw [recorded_apply, recorded_apply]
  exact .some (kept world elsewhere same)

theorem failure {V : α → β → Prop} : Coupled W V (failure : Run σ α) (failure : Run σ β) :=
  fun _ _ _ => .none

end Coupled

/--
What single steps keep: events, scopes that are opened and closed, and the edits by which nodes reach a
scope. An event may tell the depth, which need not be the same.
-/
structure Coupling (W : World σ → World σ → Prop) (N : Json → Json → Prop) : Prop where
  emits {event : Event} {world elsewhere : World σ} : event.ofStore = false → W world elsewhere →
    W (world.noted event) (elsewhere.noted event)
  logs (entry : Nat → LogEntry) {world elsewhere : World σ} : W world elsewhere →
    W (world.noted (.log (entry world.builder.depth))) (elsewhere.noted (.log (entry elsewhere.builder.depth)))
  enters {world elsewhere : World σ} : W world elsewhere →
    W { world with builder := world.builder.push } { elsewhere with builder := elsewhere.builder.push }
  leaves {world elsewhere inner innerToo : World σ} : W world elsewhere → W inner innerToo →
    N inner.builder.current.toNode innerToo.builder.current.toNode ∧
      W { inner with builder := world.builder } { innerToo with builder := elsewhere.builder }
  splices {node other : Json} : N node other →
    Coupled W Eq (edit (Scope.splice node)) (edit (Scope.splice other))
  pushes {node other : Json} : N node other →
    Coupled W Eq (edit (Scope.push node)) (edit (Scope.push other))
  opens : Coupled W Eq (edit (Scope.openArray .openArray)) (edit (Scope.openArray .openArray))
  arrays {nodes others : List Json} : List.Forall₂ N nodes others → N (.arr nodes) (.arr others)

namespace Coupling

variable {N : Json → Json → Prop} (coupling : Coupling W N)

include coupling

theorem emit {event : Event} (plain : event.ofStore = false) :
    Coupled W Eq (Run.emit event) (Run.emit event) :=
  fun _ _ same => .some ⟨rfl, coupling.emits plain same⟩

theorem log (entry : LogEntry) : Coupled W Eq (Run.log entry) (Run.log entry) :=
  coupling.emit rfl

theorem logDepth (entry : Nat → LogEntry) {next follows : Run σ α} {V : α → α → Prop}
    (each : Coupled W V next follows) :
    Coupled W V (do Run.log (entry (← depth)); next) (do Run.log (entry (← depth)); follows) :=
  fun _ _ same => each _ _ (coupling.logs entry same)

theorem perform {action : Action}
    (edits : Coupled W Eq (edit action.apply) (edit action.apply)) :
    Coupled W Eq (Run.perform action) (Run.perform action) := by
  unfold Run.perform
  split
  · exact coupling.logDepth _ edits
  · exact edits

theorem splice {node other : Except RenderError Json} (accord : Accord N node other) :
    Coupled W Eq (Run.splice node) (Run.splice other) := by
  cases accord with
  | error error => exact Coupled.pure rfl
  | ok related => exact coupling.splices related

theorem silent {first : Run σ α} (silent : Silent False first) : Coupled W Eq first first := by
  induction silent with
  | pure value => exact Coupled.pure rfl
  | emit other => exact coupling.emit other
  | store allowed => contradiction
  | bind _ _ one each =>
    refine one.bind fun value answer same => ?_
    subst same
    exact each value

theorem nested {body other : Run σ (Except RenderError Unit)} (coupled : Coupled W Eq body other)
    (isolated : Isolated body) (isolatedToo : Isolated other) :
    Coupled W (Accord N) (Run.nested body) (Run.nested other) := by
  intro world elsewhere same
  rw [nested_apply isolated, nested_apply isolatedToo]
  rw [Option.map_eq_bind, Option.map_eq_bind]
  refine rel_bind (coupled _ _ (coupling.enters same)) fun here there _ related => ?_
  obtain ⟨nodes, left⟩ := coupling.leaves same related.2
  have outcomes := accord_eq_iff.2 related.1
  exact .some ⟨outcomes.map fun _ _ _ => nodes, left⟩

theorem spliced {one other : Run σ (Except RenderError Json)} (coupled : Coupled W (Accord N) one other) :
    Coupled W Eq (one >>= Run.splice) (other >>= Run.splice) :=
  coupled.bind fun _ _ accord => coupling.splice accord

end Coupling

end Run

end Stencil
