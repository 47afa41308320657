import Stencil.Proofs.Partial.Registry
import Stencil.Proofs.Run.Bound
import Stencil.Proofs.Run.CoupledBlocks

/-!
# Partials under several names

A registry knows a partial under every name with the same normalized form. Calls under two such names give
the same node or the same error, except that what is not found is quoted as it was asked for, and the runs
differ in the names that they log only (`renderCall_under`). In a collection the elements are bound to the
same local, since it is the last segment of the normalized name (`calls_under_aliases`).
-/

namespace Stencil

/-- The events are the same, or tell of one step under the one name or the other. -/
inductive Event.Under (one other : String) : Event → Event → Prop where
  | same (event : Event) : Under one other event event
  | rendering (depth : Nat) :
      Under one other (.log (.renderingPartial one depth)) (.log (.renderingPartial other depth))
  | noCollection : Under one other (.log (.noCollection one)) (.log (.noCollection other))

/-- The states differ in the name that is logged. -/
structure World.Under {σ : Type} (one other : String) (world elsewhere : World σ) : Prop where
  builder : world.builder = elsewhere.builder
  store : world.store = elsewhere.store
  events : List.Forall₂ (Event.Under one other) world.events elsewhere.events

variable {σ α β : Type} {one other : String}

theorem World.Under.noted {world elsewhere : World σ} {event another : Event}
    (same : world.Under one other elsewhere) (alike : event.Under one other another) :
    (world.noted event).Under one other (elsewhere.noted another) :=
  ⟨same.builder, same.store, .cons alike same.events⟩

namespace Run

/-- The outcomes are the same, or both names are unknown. -/
inductive OutcomeUnder (one other : String) : Except RenderError α → Except RenderError α → Prop where
  | same (outcome : Except RenderError α) : OutcomeUnder one other outcome outcome
  | unknown (suggestions : List String) : OutcomeUnder one other
      (.error (.partialNotFound one suggestions)) (.error (.partialNotFound other suggestions))

/-- The runs have results within the same bounds, which differ in the name only. -/
abbrev AlikeUnder (one other : String) (here there : Run σ (Except RenderError α)) : Prop :=
  Coupled (World.Under one other) (OutcomeUnder one other) here there

theorem under_edit (operation : Scope → Edited) :
    Coupled (σ := σ) (World.Under one other) Eq (edit operation) (edit operation) := by
  rintro ⟨builder, store, events⟩ ⟨_, _, others⟩ ⟨rfl, rfl, alike⟩
  exact .some ⟨rfl, rfl, rfl, alike⟩

theorem coupling_under : Coupling (σ := σ) (World.Under one other) Eq where
  emits _ same := same.noted (.same _)
  logs := by
    rintro entry ⟨builder, store, events⟩ ⟨_, _, others⟩ ⟨rfl, rfl, alike⟩
    exact ⟨rfl, rfl, .cons (.same _) alike⟩
  enters same := ⟨congrArg Builder.push same.builder, same.store, same.events⟩
  leaves outside inside := by
    refine ⟨?_, outside.builder, inside.store, inside.events⟩
    rw [inside.builder]
  splices := by
    rintro node _ rfl
    exact under_edit (Scope.splice node)
  pushes := by
    rintro node _ rfl
    exact under_edit (Scope.push node)
  opens := under_edit _
  arrays := arr_of_forall₂

theorem under_recorded (call : σ → α × σ) (record : α → Event) :
    Coupled (World.Under one other) Eq (recorded call record) (recorded call record) := by
  refine .recorded fun world elsewhere same => ?_
  rw [same.store]
  exact ⟨rfl, same.builder, rfl, .cons (.same _) same.events⟩

theorem inStep_under (renderer : Renderer σ) :
    InStep (World.Under one other) (.same fun _ => True) renderer.resolve renderer renderer where
  steps := coupling_under
  asks _ same := by rw [same.builder]
  notes := by
    rintro content _ rfl
    exact coupling_under.emit rfl
  acts := by
    rintro action _ rfl
    exact coupling_under.perform (under_edit action.apply)
  caches := by
    refine coupling_under.caches (K := fun _ => True) (fun store _ => ?_) (fun _ _ => trivial) _
    exact
      { read := fun _ => under_recorded _ _
        write := fun _ _ _ => under_recorded _ _
        readBatch := fun _ _ => under_recorded _ _
        writeBatch := fun _ _ _ => under_recorded _ _ }
  resolves := rfl
  resolvesToo := rfl

/-- Whatever has been logged before, the block of a partial runs alike. -/
theorem under_callWithin (renderer : Renderer σ) (bound : Nat) (block : Block) :
    Coupled (World.Under one other) Eq (callWithin renderer bound block) (callWithin renderer bound block) := by
  cases bound with
  | zero => exact .failure
  | succ bound => exact coupled_same (inStep_under renderer) bound (every_asksOnly_true block)

/-! ### Calls -/

theorem OutcomeUnder.map {outcome another : Except RenderError α} (alike : OutcomeUnder one other outcome another)
    (f : α → β) : OutcomeUnder one other (outcome.map f) (another.map f) := by
  cases alike with
  | same outcome => exact .same _
  | unknown suggestions => exact .unknown suggestions

theorem collect_under {step stepToo : α → Run σ (Except RenderError β)}
    (each : ∀ item, AlikeUnder one other (step item) (stepToo item)) (items : List α) :
    AlikeUnder one other (collect step items) (collect stepToo items) := by
  induction items with
  | nil => exact .pure (.same _)
  | cons item rest ih =>
    refine (each item).bind fun outcome another alike => ?_
    cases alike with
    | unknown suggestions => exact .pure (.unknown suggestions)
    | same outcome =>
      cases outcome with
      | error error => exact .pure (.same _)
      | ok value =>
        refine ih.bind fun values others alike => ?_
        cases alike with
        | unknown suggestions => exact .pure (.unknown suggestions)
        | same values => cases values <;> exact .pure (.same _)

section Calls

variable (renderer : Renderer σ) (bound : Nat)
  (resolved : OutcomeUnder one other (renderer.resolve one) (renderer.resolve other))

include resolved

theorem renderOnce_under (locals : Locals) :
    AlikeUnder one other (renderOnce renderer (callWithin renderer bound) one locals)
      (renderOnce renderer (callWithin renderer bound) other locals) := by
  unfold renderOnce
  generalize renderer.resolve one = first at resolved
  generalize renderer.resolve other = second at resolved
  cases resolved with
  | unknown suggestions => exact .pure (.unknown suggestions)
  | same =>
    cases first with
    | error error => exact .pure (.same _)
    | ok template =>
      have isolated := isolated_callWithin renderer bound (template locals)
      have runs : Coupled (World.Under one other) Eq _ _ := under_callWithin renderer bound (template locals)
      have nested := coupling_under.nested runs isolated isolated
      intro world elsewhere same
      have logged : (world.noted (.log (.renderingPartial one world.builder.depth))).Under one other
          (elsewhere.noted (.log (.renderingPartial other elsewhere.builder.depth))) := by
        rw [same.builder]
        exact same.noted (.rendering _)
      refine rel_imp (nested _ _ logged) fun here there related => ⟨?_, related.2⟩
      rw [accord_eq_iff.1 related.1]
      exact .same _

theorem renderCall_under (mode : PartialMode) {binding bindingToo : Option String}
    (bound_alike : binding.getD (Partial.defaultBinding one) = bindingToo.getD (Partial.defaultBinding other))
    (locals : Locals) :
    AlikeUnder one other (renderCall renderer (callWithin renderer bound) ⟨some one, mode, binding, locals⟩)
      (renderCall renderer (callWithin renderer bound) ⟨some other, mode, bindingToo, locals⟩) := by
  cases mode with
  | once => exact renderOnce_under renderer bound resolved locals
  | absentCollection =>
    intro world elsewhere same
    exact .some ⟨.same _, same.noted .noCollection⟩
  | collection items =>
    simp only [renderCall, renderEach, bound_alike]
    refine (collect_under (fun item => renderOnce_under renderer bound resolved _) items).bind ?_
    exact fun nodes others alike => .pure (alike.map Json.arr)

end Calls

/-- If the blocks of the partial are finite, so is the call. -/
theorem settled_renderCall (renderer : Renderer σ) {call : PartialCall}
    (finite : ∀ block ∈ call.blocks renderer.resolve, block.Finite renderer.resolve) :
    Settled fun bound => renderCall renderer (callWithin renderer bound) call := by
  refine hereditary_settled.renderCall (fun _ => rfl) fun block member world => ?_
  obtain ⟨bound, result, ran⟩ := settled_runWithin (finite block member) world
  refine ⟨bound + 1, result, fun more enough => ?_⟩
  obtain ⟨less, rfl⟩ : ∃ less, more = less + 1 := ⟨more - 1, by omega⟩
  exact ran less (by omega)

end Run

open Run Partial

namespace Renderer

variable {σ : Type}

def withPartials (partials : Registry Template) (renderer : Renderer σ) : Renderer σ :=
  { renderer with resolve := partials.resolve }

/-- The call of a partial, with at most `bound` calls nested in it. -/
def callPartial (renderer : Renderer σ) (bound : Nat) (call : PartialCall) : Run σ (Except RenderError Json) :=
  renderCall renderer (callWithin renderer bound) call

/--
A name is resolved to the template that was registered last under a name with the same normalized form, and
is unknown if there is none; there are as many partials as normalized names. Calls under names with one
normalized form are alike; what an element is bound to by default is the normalized name's last segment.
-/
theorem calls_under_aliases (registrations : List (String × Template)) (renderer : Renderer σ) :
    let partials := Registry.ofList registrations
    let rendering := renderer.withPartials partials
    (∀ name : String,
      (∀ template, partials.resolve name = .ok template ↔
        ∃ before spelled after, registrations = before ++ (spelled, template) :: after ∧
          Partial.normalize spelled = Partial.normalize name ∧
          ∀ later ∈ after, Partial.normalize later.1 ≠ Partial.normalize name) ∧
      (∀ error, partials.resolve name = .error error ↔
        (∀ registration ∈ registrations, Partial.normalize registration.1 ≠ Partial.normalize name) ∧
          error = .partialNotFound name (Text.similar (Partial.normalize name) partials.names)) ∧
      ∃ directory, IsDirectory directory ∧ '/' ∉ (defaultBinding name).toList ∧
        (Partial.normalize name).toList = directory ++ (defaultBinding name).toList) ∧
    partials.size = (registrations.map fun registration => Partial.normalize registration.1).toFinset.card ∧
    ∀ one other : String, Partial.normalize one = Partial.normalize other →
      ∀ (mode : PartialMode) (binding : Option String) (locals : Locals),
        ((∀ block ∈ PartialCall.blocks partials.resolve ⟨some one, mode, binding, locals⟩,
            block.Finite partials.resolve) →
          ∀ world, ∃ bound result, rendering.callPartial bound ⟨some one, mode, binding, locals⟩ world = some result) ∧
        ∀ bound, AlikeUnder one other (rendering.callPartial bound ⟨some one, mode, binding, locals⟩)
          (rendering.callPartial bound ⟨some other, mode, binding, locals⟩) := by
  intro partials rendering
  refine ⟨fun name => ⟨fun template => ?_, fun error => ?_, ?_⟩, Registry.size_ofList registrations, ?_⟩
  · exact Registry.resolve_eq_ok_iff.trans Registry.get?_ofList
  · rw [Registry.resolve_eq_error_iff, Registry.mem_names_ofList]
    push Not
    rfl
  · rw [toList_defaultBinding]
    exact ⟨directory (Partial.normalize name), isDirectory_directory _, no_slash_segment _,
      (directory_append_segment _).symm⟩
  · intro one other same mode binding locals
    have bound_alike : binding.getD (defaultBinding one) = binding.getD (defaultBinding other) := by
      rw [defaultBinding_congr same]
    have resolved : OutcomeUnder one other (partials.resolve one) (partials.resolve other) := by
      obtain ⟨template, known, knownToo⟩ | ⟨suggestions, unknown, unknownToo⟩ := partials.resolve_alias same
      · rw [known, knownToo]
        exact .same _
      · rw [unknown, unknownToo]
        exact .unknown suggestions
    refine ⟨fun finite world => ?_, fun bound => renderCall_under rendering bound resolved mode bound_alike locals⟩
    obtain ⟨bound, result, ran⟩ := settled_renderCall rendering finite world
    exact ⟨bound, result, ran bound (Nat.le_refl bound)⟩

/-- A post with the title that the caller binds. -/
def summary (locals : Locals) : Block :=
  .act (.set "title" (.ok ((locals.get? "summary").getD .null))) .done

def summaries : List (String × Template) :=
  [("posts/_summary", fun _ => .done (.ok ())), ("posts/summary", summary)]

theorem calls_under_aliases_summaries :
    (Registry.ofList summaries).resolve "posts/_summary" = .ok summary ∧ (Registry.ofList summaries).size = 1 ∧
      ((Renderer.default.withPartials (.ofList summaries)).callPartial 1
          ⟨some "posts/_summary", .collection [.str "New"], none, {}⟩ (default.start ())).map Prod.fst =
        some (.ok (.arr [.obj [("title", .str "New")]])) := by
  obtain ⟨resolved, size, alike⟩ := calls_under_aliases summaries (default : Renderer Unit)
  refine ⟨?_, size.trans (by decide +kernel), ?_⟩
  · exact ((resolved "posts/_summary").1 summary).2 ⟨[summaries[0]], "posts/summary", [], rfl, rfl, by simp⟩
  · have titled : ((Renderer.default.withPartials (.ofList summaries)).callPartial 1
        ⟨some "posts/summary", .collection [.str "New"], none, {}⟩ (default.start ())).map Prod.fst =
          some (.ok (.arr [.obj [("title", .str "New")]])) := by
      decide +kernel
    obtain ⟨-, rendered⟩ := alike "posts/_summary" "posts/summary" (by decide +kernel)
      (.collection [.str "New"]) none {}
    have related := rendered 1 (default.start ()) (default.start ()) ⟨rfl, rfl, .nil⟩
    obtain ⟨⟨_, after⟩, ran, rfl⟩ := Option.map_eq_some_iff.1 titled
    rw [ran] at related
    generalize callPartial _ _ ⟨some "posts/_summary", _, _, _⟩ _ = result at related ⊢
    obtain _ | ⟨outcome, after⟩ := result
    · cases related
    · cases related with
      | some alike =>
        obtain ⟨⟨⟩, -⟩ := alike
        rfl

end Renderer

end Stencil
