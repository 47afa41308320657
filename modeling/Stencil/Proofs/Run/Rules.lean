import Stencil.Proofs.Block.Reach
import Stencil.Proofs.Run.Bound
import Stencil.Proofs.Run.Invariants

/-!
# Programs that keep to rules

Rules say what a program may do, if what it learns on its way is as they say. A program keeps to them in
partials and in nested blocks as well (`Block.Abides`). An invariant that single steps, the calls of the store
and all permitted actions keep is kept by every run of such a program (`upholds_runWithin`).
-/

namespace Stencil

/-- What a program may be answered, which actions it may take, and which nodes it may be given. -/
structure Rules where
  answers : (query : Query) → query.Answer → Prop
  acts : Action → Prop
  nodes : Json → Prop

/-- The first step of the block is within the rules, and the blocks that it leads to have the property. -/
inductive Block.Obeys (rules : Rules) (resolve : String → Except RenderError Template) (R : Block → Prop) :
    Block → Prop where
  | done (outcome : Except RenderError Unit) : Obeys rules resolve R (.done outcome)
  | ask {query : Query} {next : query.Answer → Block}
      (after : ∀ answer, rules.answers query answer → R (next answer)) : Obeys rules resolve R (.ask query next)
  | note {content : Json} {next : Block} (after : R next) : Obeys rules resolve R (.note content next)
  | act {action : Action} {next : Except RenderError Unit → Block} (permitted : rules.acts action)
      (after : ∀ outcome, R (next outcome)) : Obeys rules resolve R (.act action next)
  | capture {block : Block} {next : Except RenderError Json → Block} (within : R block)
      (after : ∀ outcome, Run.Delivers rules.nodes outcome → R (next outcome)) :
      Obeys rules resolve R (.capture block next)
  | renderPartial {call : PartialCall} {next : Except RenderError Json → Block}
      (called : ∀ block ∈ call.blocks resolve, R block)
      (after : ∀ outcome, Run.Delivers rules.nodes outcome → R (next outcome)) :
      Obeys rules resolve R (.renderPartial call next)
  | splicePartial {call : PartialCall} {next : Except RenderError Unit → Block}
      (called : ∀ block ∈ call.blocks resolve, R block) (after : ∀ outcome, R (next outcome)) :
      Obeys rules resolve R (.splicePartial call next)
  | cache {condition : Bool} {key : Cache.KeyExpr} {options : Cache.Options} {block : Block}
      {next : Except RenderError Unit → Block} (within : R block) (after : ∀ outcome, R (next outcome)) :
      Obeys rules resolve R (.cache condition key options block next)
  | cacheCollection {items : Option (List Json.Payload)} {options : Cache.Options}
      {key : Option (Nat → Cache.KeyExpr)} {block : Nat → Block} {next : Except RenderError Unit → Block}
      (within : ∀ index, R (block index)) (after : ∀ outcome, R (next outcome)) :
      Obeys rules resolve R (.cacheCollection items options key block next)

section Abides

variable {rules : Rules} {resolve : String → Except RenderError Template} {R S : Block → Prop}

namespace Block

theorem Obeys.imp {block : Block} (obeys : block.Obeys rules resolve R) (weaker : ∀ b, R b → S b) :
    block.Obeys rules resolve S := by
  cases obeys with
  | done outcome => exact .done outcome
  | ask after => exact .ask fun answer answered => weaker _ (after answer answered)
  | note after => exact .note (weaker _ after)
  | act permitted after => exact .act permitted fun outcome => weaker _ (after outcome)
  | capture within after => exact .capture (weaker _ within) fun outcome given => weaker _ (after outcome given)
  | renderPartial called after =>
    exact .renderPartial (fun block member => weaker _ (called block member)) fun outcome given =>
      weaker _ (after outcome given)
  | splicePartial called after =>
    exact .splicePartial (fun block member => weaker _ (called block member)) fun outcome =>
      weaker _ (after outcome)
  | cache within after => exact .cache (weaker _ within) fun outcome => weaker _ (after outcome)
  | cacheCollection within after =>
    exact .cacheCollection (fun index => weaker _ (within index)) fun outcome => weaker _ (after outcome)

/-- However far the program is followed, its steps are within the rules. -/
def Abides (rules : Rules) (resolve : String → Except RenderError Template) (block : Block) : Prop :=
  ∃ R : Block → Prop, (∀ reached, R reached → reached.Obeys rules resolve R) ∧ R block

theorem Abides.obeys {block : Block} (abides : block.Abides rules resolve) :
    block.Obeys rules resolve (Abides rules resolve) := by
  obtain ⟨R, closed, first⟩ := abides
  exact (closed block first).imp fun _ later => ⟨R, closed, later⟩

theorem abides_of_obeys {block : Block} (obeys : block.Obeys rules resolve (Abides rules resolve)) :
    block.Abides rules resolve := by
  refine ⟨fun reached => reached.Obeys rules resolve (Abides rules resolve), ?_, obeys⟩
  exact fun _ step => step.imp fun _ later => later.obeys

end Block

end Abides

namespace Run

variable {σ : Type} {renderer : Renderer σ} {rules : Rules} {invariant : Invariant σ}

/-- What has to be kept for every program within the rules to keep the invariant. -/
structure Invariant.Guarded (invariant : Invariant σ) (rules : Rules) (renderer : Renderer σ) : Prop where
  stable : invariant.Stable rules.nodes
  stored {store : Cache.Store σ} : renderer.activeStore = some store → invariant.Stored rules.nodes store
  acts {action : Action} : rules.acts action → Scope.Preserves invariant.scope action.apply
  answers (query : Query) {builder : Builder} : invariant.scope builder.current →
    rules.answers query (query.answer renderer builder)

variable (guarded : invariant.Guarded rules renderer)

include guarded

theorem upholds_run (bound : Nat)
    (called : ∀ block : Block, block.Abides rules renderer.resolve →
      Upholds invariant.At (callWithin renderer bound block))
    {block : Block} (abides : block.Abides rules renderer.resolve) :
    Upholds invariant.At (block.runWithin renderer bound) := by
  have stable := guarded.stable
  have isolated := fun block : Block => isolated_runWithin renderer bound block
  have rendered {call : PartialCall}
      (blocks : ∀ block ∈ call.blocks renderer.resolve, block.Abides rules renderer.resolve) :=
    stable.renderCall (isolated_callWithin renderer bound) fun block member => called block (blocks block member)
  simp only [Block.runWithin_eq] at isolated ⊢
  -- On the block alone: the blocks of partials are not parts of it, and keep the invariant by `called`.
  induction block with
  | done outcome => exact Keeps.pure trivial
  | ask query next ih =>
    cases abides.obeys with
    | ask after =>
      intro world kept
      exact ih _ (after _ (guarded.answers query kept.1)) world kept
  | note content next ih =>
    cases abides.obeys with
    | note after => exact (stable.emit rfl).bind fun _ _ => ih after
  | act action next ih =>
    cases abides.obeys with
    | act permitted after =>
      exact (stable.perform (guarded.acts permitted)).bind fun outcome _ => ih outcome (after outcome)
  | capture block next within ih =>
    cases abides.obeys with
    | capture inner after =>
      exact (stable.nested (within inner) (isolated _)).bind fun outcome given => ih outcome (after outcome given)
  | renderPartial call next ih =>
    cases abides.obeys with
    | renderPartial blocks after =>
      exact (rendered blocks).bind fun outcome given => ih outcome (after outcome given)
  | splicePartial call next ih =>
    cases abides.obeys with
    | splicePartial blocks after =>
      refine (rendered blocks).bind fun node given => ?_
      exact (stable.splice given).bind fun outcome _ => ih outcome (after outcome)
  | cache condition key options block next within ih =>
    cases abides.obeys with
    | cache inner after =>
      have cached := stable.cacheOne (fun _ => guarded.stored) condition key options (within inner) (isolated _)
      exact cached.bind fun outcome _ => ih outcome (after outcome)
  | cacheCollection items options key block next within ih =>
    cases abides.obeys with
    | cacheCollection inner after =>
      have cached := stable.cacheEach (fun _ => guarded.stored) items options key
        (fun index => within index (inner index)) fun _ => isolated _
      exact cached.bind fun outcome _ => ih outcome (after outcome)

theorem upholds_runWithin (bound : Nat) {block : Block} (abides : block.Abides rules renderer.resolve) :
    Upholds invariant.At (block.runWithin renderer bound) := by
  induction bound generalizing block with
  | zero => exact upholds_run guarded 0 (fun _ _ => Keeps.failure) abides
  | succ bound ih => exact upholds_run guarded (bound + 1) (fun _ inner => ih inner) abides

/-- What is known of the result of a render, if the invariant holds at its start. -/
theorem guarded_yields {block : Block} (abides : block.Abides rules renderer.resolve) {store : σ}
    (start : invariant.At (renderer.start store)) {rendered : Rendered σ Json}
    (yields : renderer.Yields block store rendered) :
    Delivers rules.nodes rendered.outcome ∧ invariant.record rendered.store rendered.events.reverse := by
  obtain ⟨bound, ran⟩ := yields
  rw [Renderer.renderNode_eq, Option.map_eq_some_iff] at ran
  obtain ⟨⟨outcome, after⟩, blockRan, rfl⟩ := ran
  obtain ⟨-, inScope, record⟩ := upholds_runWithin guarded bound abides _ start outcome after blockRan
  have document := Renderer.result_of_start (isolated_runWithin renderer bound block) blockRan
  have built : Delivers (fun _ => True) outcome := fun _ _ => trivial
  constructor
  · refine built.map fun _ _ => ?_
    rw [document]
    exact guarded.stable.toNode inScope
  · show invariant.record after.store after.events.reverse.reverse
    rw [List.reverse_reverse]
    exact record

end Run

end Stencil
