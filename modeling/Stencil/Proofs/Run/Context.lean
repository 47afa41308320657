import Stencil.Cache.MemoryStore
import Stencil.Proofs.Entries
import Stencil.Proofs.Run.Bound
import Stencil.Proofs.Run.CoupledBlocks
import Stencil.Proofs.Scope.Preserved
import Stencil.Script

/-!
# Programs do not see where they run

A program that does not ask how deep it is nested gives the same node or the same error, and makes the
same calls of the store, in all scopes with the same settings (`context_independent`). A template is a
document of its own by the same token: what is spliced into an untouched scope comes out as it was.
-/

namespace Stencil

namespace Scope

/-- If the scope resolves to an object, the object has no key twice. -/
def Regular (scope : Scope) : Prop :=
  ∀ members, scope.toNode = .obj members → Entries.Distinct members

theorem regular_fresh (keyFormat : KeyFormat) (ignoreNil : Bool) : (fresh keyFormat ignoreNil).Regular := by
  rintro members ⟨⟩

/-- The node of a regular scope comes out of an untouched scope as it was. -/
theorem Regular.splice_fresh {scope : Scope} (regular : scope.Regular) (keyFormat : KeyFormat)
    (ignoreNil : Bool) :
    ∃ after, (fresh keyFormat ignoreNil).splice scope.toNode = (.ok (), after) ∧
      after.toNode = scope.toNode := by
  cases same : scope.toNode with
  | obj members =>
    have kept : Entries.insertAll [] members = members := Entries.ofPairs_of_distinct (regular members same)
    exact ⟨_, rfl, congrArg Json.obj kept⟩
  | _ => exact ⟨_, rfl, rfl⟩

/-- A document into which the node of a regular scope is spliced is that node. -/
theorem Regular.document {scope : Scope} (regular : scope.Regular) (keyFormat : KeyFormat) (ignoreNil : Bool) :
    ∃ after, (Builder.new keyFormat ignoreNil).edit (splice scope.toNode) = (.ok (), after) ∧
      after.result = scope.toNode := by
  obtain ⟨after, spliced, node⟩ := regular.splice_fresh keyFormat ignoreNil
  refine ⟨⟨after, []⟩, ?_, node⟩
  simp only [Builder.edit, Builder.new, Builder.current, List.headD_nil, spliced, Builder.setCurrent]

def KeepsRegular (operation : Scope → Edited) : Prop :=
  ∀ scope, scope.Regular → (operation scope).2.Regular

theorem keepsRegular_editMembers (attempt : Attempt) {edit : Entries Json → Entries Json}
    (keeps : ∀ entries, Entries.Distinct entries → Entries.Distinct (edit entries)) :
    KeepsRegular (editMembers attempt edit) := by
  rintro ⟨body, keyFormat, ignoreNil⟩ regular
  cases body with
  | empty =>
    rintro members ⟨⟩
    exact keeps [] List.nodup_nil
  | members entries =>
    rintro members ⟨⟩
    exact keeps entries (regular entries rfl)
  | elements items => exact regular
  | whole value => exact regular

theorem keepsRegular_editElements (attempt : Attempt) (edit : List Json → List Json) :
    KeepsRegular (editElements attempt edit) := by
  rintro ⟨body, keyFormat, ignoreNil⟩ regular
  cases body with
  | members entries => exact regular
  | whole value => exact regular
  | _ => rintro members ⟨⟩

theorem keepsRegular_set (name : String) (value : Json) : KeepsRegular (set name value) := by
  intro scope regular
  unfold set
  split
  · exact regular
  · exact keepsRegular_editMembers _ (fun _ distinct => distinct.insert _ value) scope regular

theorem keepsRegular_push (value : Json) : KeepsRegular (push value) :=
  keepsRegular_editElements _ _

theorem keepsRegular_splice (node : Json) : KeepsRegular (splice node) := by
  intro scope regular
  unfold splice
  split
  · exact regular
  · exact keepsRegular_editMembers _ (fun _ distinct => distinct.insertAll _) scope regular
  · exact keepsRegular_editElements _ _ scope regular
  · rename_i notNull notObject notArray
    split
    · intro members same
      exact (notObject members same).elim
    · intro members same
      exact (notObject members same).elim
    · exact regular

theorem keepsRegular_merge (value : Json) : KeepsRegular (merge value) :=
  Preserves.merge (keepsRegular_editMembers _ fun _ distinct => distinct)
    (fun _ _ member _ => keepsRegular_set member.1 member.2) fun _ _ => keepsRegular_editElements _ _

theorem keepsRegular_apply (action : Action) : KeepsRegular action.apply := by
  have payload {operation : Json → Scope → Edited} (keeps : ∀ value, KeepsRegular (operation value))
      (value : Json.Payload) : KeepsRegular (withPayload operation value) :=
    Preserves.withPayload fun node _ => keeps node
  cases action with
  | openObject => exact keepsRegular_editMembers _ fun _ distinct => distinct
  | openArray => exact keepsRegular_editElements _ _
  | set name value => exact payload (keepsRegular_set name) value
  | append value => exact payload keepsRegular_push value
  | appendAll values =>
    exact Preserves.appendAll (keepsRegular_editElements _ _) fun value _ => keepsRegular_push value
  | merge value => exact payload keepsRegular_merge value
  | extract source names => exact Preserves.forEach fun name _ => keepsRegular_set name _
  | setNull => rintro scope regular members ⟨⟩
  | ignoreNil ignore => exact fun _ regular => regular
  | setKeyFormat format => exact fun _ regular => regular

end Scope

def Event.isLog : Event → Bool
  | .log _ => true
  | _ => false

/-- The events that are no log entries: the calls of the store, and what namers and templates leave. -/
def Event.shown (events : List Event) : List Event :=
  events.filter fun event => !event.isLog

theorem Event.shown_reverse {one other : List Event} (same : shown one = shown other) :
    shown one.reverse = shown other.reverse := by
  unfold shown at same ⊢
  rw [List.filter_reverse, List.filter_reverse, same]

namespace Run

variable {σ : Type}

/-- The states differ in how deep they are nested, in the enclosing scopes and in what has been logged. -/
structure SameScope (world elsewhere : World σ) : Prop where
  current : world.builder.current = elsewhere.builder.current
  regular : world.builder.current.Regular
  store : world.store = elsewhere.store
  events : Event.shown world.events = Event.shown elsewhere.events

theorem SameScope.noted {world elsewhere : World σ} (same : SameScope world elsewhere) (event : Event) :
    SameScope (world.noted event) (elsewhere.noted event) where
  current := same.current
  regular := same.regular
  store := same.store
  events := by
    have events := same.events
    simp only [Event.shown, World.noted, List.filter_cons] at events ⊢
    rw [events]

theorem coupled_edit {operation : Scope → Edited} (keeps : Scope.KeepsRegular operation) :
    Coupled (σ := σ) SameScope Eq (edit operation) (edit operation) := by
  intro world elsewhere same
  refine .some ⟨?_, ?_⟩
  · show (operation world.builder.current).1 = (operation elsewhere.builder.current).1
    rw [same.current]
  · constructor
    · show (world.builder.setCurrent _).current = (elsewhere.builder.setCurrent _).current
      rw [Builder.current_setCurrent, Builder.current_setCurrent, same.current]
    · show (world.builder.setCurrent _).current.Regular
      rw [Builder.current_setCurrent]
      exact keeps _ same.regular
    · exact same.store
    · exact same.events

theorem coupling_sameScope : Coupling (σ := σ) SameScope Eq where
  emits _ same := same.noted _
  logs entry world elsewhere same :=
    { current := same.current, regular := same.regular, store := same.store, events := same.events }
  enters same :=
    { current := congrArg Scope.child same.current
      regular := Scope.regular_fresh _ _
      store := same.store
      events := same.events }
  leaves outside inside :=
    ⟨congrArg Scope.toNode inside.current,
      { current := outside.current
        regular := outside.regular
        store := inside.store
        events := inside.events }⟩
  splices := by
    rintro node _ rfl
    exact coupled_edit (Scope.keepsRegular_splice node)
  pushes := by
    rintro node _ rfl
    exact coupled_edit (Scope.keepsRegular_push node)
  opens := coupled_edit (Scope.keepsRegular_editElements _ _)
  arrays := arr_of_forall₂

theorem coupled_recorded {α : Type} (call : σ → α × σ) (record : α → Event) :
    Coupled SameScope Eq (recorded call record) (recorded call record) := by
  refine .recorded fun world elsewhere same => ?_
  rw [same.store]
  have noted := same.noted (record (call elsewhere.store).1)
  exact ⟨rfl, { current := same.current, regular := same.regular, store := rfl, events := noted.events }⟩

theorem inStep_sameScope (renderer : Renderer σ) :
    InStep SameScope (.same (· ≠ .depth)) renderer.resolve renderer renderer where
  steps := coupling_sameScope
  asks := by
    intro query world elsewhere asked same
    cases query with
    | shape => exact congrArg Scope.shape same.current
    | depth => contradiction
    | key name => exact congrArg (fun scope => scope.keyFormat.apply name) same.current
    | settings => rfl
  notes := by
    rintro content _ rfl
    exact coupling_sameScope.emit rfl
  acts := by
    rintro action _ rfl
    exact coupling_sameScope.perform (coupled_edit (Scope.keepsRegular_apply action))
  caches := by
    refine coupling_sameScope.caches (K := fun _ => True) (fun store _ => ?_) (fun _ _ => trivial) _
    exact
      { read := fun _ => coupled_recorded _ _
        write := fun _ _ _ => coupled_recorded _ _
        readBatch := fun _ _ => coupled_recorded _ _
        writeBatch := fun _ _ _ => coupled_recorded _ _ }
  resolves := rfl
  resolvesToo := rfl

/-- What there is to be seen of a run's result besides the log and the scopes. -/
def seen {α : Type} (result : Except RenderError α × World σ) : Except RenderError α × σ × List Event :=
  (result.1, result.2.store, Event.shown result.2.events)

theorem seen_nested {body : Run σ (Except RenderError Unit)} (coupled : Coupled SameScope Eq body body)
    (isolated : Isolated body) (world : World σ) (builder : Builder)
    (keyFormat : builder.current.keyFormat = world.builder.current.keyFormat)
    (ignoreNil : builder.current.ignoreNil = world.builder.current.ignoreNil) :
    (nested body { world with builder }).map seen = (nested body world).map seen := by
  have child : builder.current.child = world.builder.current.child := by
    unfold Scope.child
    rw [keyFormat, ignoreNil]
  have entered : SameScope { world with builder := builder.push } { world with builder := world.builder.push } :=
    { current := child, regular := Scope.regular_fresh _ _, store := rfl, events := rfl }
  rw [nested_apply isolated, nested_apply isolated, Option.map_map, Option.map_map]
  refine map_eq_of_rel (coupled _ _ entered) fun here there _ _ related => ?_
  obtain ⟨outcome, same⟩ := related
  simp only [Function.comp_apply, seen, outcome, same.current, same.store, same.events]

end Run

open Run

variable {σ : Type}

def Rendered.told {α : Type} (rendered : Rendered σ α) : Except RenderError α × σ × List Event :=
  (rendered.outcome, rendered.store, Event.shown rendered.events)

namespace Renderer

/-- The state in which the partial of a fresh document starts. -/
def startPartial (renderer : Renderer σ) (name : String) (store : σ) : World σ :=
  { (renderer.start store).noted (.log (.renderingPartial name 0)) with
    builder := (renderer.start store).builder.push }

/-- What a fresh document comes to when it takes the node of its partial. -/
def takeNode (renderer : Renderer σ) (result : Except RenderError Unit × World σ) :
    Except RenderError Unit × World σ :=
  let document := Builder.new renderer.keyFormat renderer.settings.ignoreNil
  match result.1 with
  | .error error => (.error error, { result.2 with builder := document })
  | .ok _ =>
    let edited := document.edit (Scope.splice result.2.builder.current.toNode)
    (edited.1, { result.2 with builder := edited.2 })

theorem runWithin_splicePartial (renderer : Renderer σ) (bound : Nat) (call : PartialCall) :
    (Script.splicePartial call).toBlock.runWithin renderer (bound + 1) =
      renderCall renderer (Block.runWithin renderer bound) call >>= splice := by
  rw [← bind_pure (_ >>= splice), bind_assoc]
  rfl

theorem renderNode_splicePartial (renderer : Renderer σ) {name : String} {locals : Locals}
    {template : Template} (found : renderer.resolve name = .ok template) (bound : Nat) (store : σ) :
    renderer.renderNode (bound + 1) (Script.splicePartial { name := some name, locals }).toBlock store =
      ((template locals).runWithin renderer bound (renderer.startPartial name store)).map
        (ended ∘ renderer.takeNode) := by
  have called : renderCall renderer (Block.runWithin renderer bound) { name := some name, locals }
      (renderer.start store) = nested ((template locals).runWithin renderer bound)
        ((renderer.start store).noted (.log (.renderingPartial name 0))) := by
    simp only [renderCall, renderOnce, found]
    rfl
  rw [renderNode_eq, runWithin_splicePartial, bind_apply, called,
    nested_apply (isolated_runWithin renderer bound (template locals)), ← Option.map_map]
  refine congrArg (Option.map ended) ?_
  show (Option.map _ ((template locals).runWithin renderer bound (renderer.startPartial name store))).bind _ = _
  cases (template locals).runWithin renderer bound (renderer.startPartial name store) with
  | none => rfl
  | some result =>
    obtain ⟨error | _, after⟩ := result <;> rfl

/-- A document that takes the node of a regular scope is that node. -/
theorem told_takeNode (renderer : Renderer σ) {result : Except RenderError Unit × World σ}
    (regular : result.2.builder.current.Regular) :
    (ended (renderer.takeNode result)).told = (result.1.map fun _ => result.2.builder.current.toNode,
      result.2.store, Event.shown result.2.events.reverse) := by
  obtain ⟨error | _, inner⟩ := result
  · rfl
  · obtain ⟨after, spliced, node⟩ := regular.document renderer.keyFormat renderer.settings.ignoreNil
    simp only [takeNode, spliced, ended, Rendered.told, Except.map, node]

theorem told_splicePartial (renderer : Renderer σ) {name : String} {locals : Locals} {template : Template}
    (found : renderer.resolve name = .ok template) (bound : Nat)
    (coupled : Coupled SameScope Eq ((template locals).runWithin renderer bound)
      ((template locals).runWithin renderer bound)) (store : σ) :
    (renderer.renderNode (bound + 1) (Script.splicePartial { name := some name, locals }).toBlock store).map
        Rendered.told =
      (renderer.renderNode bound (template locals) store).map Rendered.told := by
  have entered : SameScope (renderer.startPartial name store) (renderer.start store) :=
    { current := rfl, regular := Scope.regular_fresh _ _, store := rfl, events := rfl }
  rw [renderNode_splicePartial renderer found, renderNode_eq, Option.map_map, Option.map_map]
  refine map_eq_of_rel (coupled _ _ entered) fun inner whole _ ran related => ?_
  obtain ⟨outcome, same⟩ := related
  have document : whole.2.builder.result = inner.2.builder.current.toNode := by
    rw [result_of_start (isolated_runWithin renderer bound (template locals)) ran, same.current]
  show (ended (renderer.takeNode inner)).told = (ended whole).told
  rw [told_takeNode renderer same.regular]
  simp only [ended, Rendered.told, document, outcome, same.store, Event.shown_reverse same.events]

/--
In scopes with the same settings a program that does not ask for the depth gives the same node or error
and makes the same calls of the store. A template gives the text of a document that only splices it.
-/
theorem context_independent (renderer : Renderer σ) :
    (∀ block : Block, block.Every renderer.resolve (Block.AsksOnly (· ≠ .depth)) →
      (block.Finite renderer.resolve → ∀ world : World σ,
        ∃ bound result, nested (block.runWithin renderer bound) world = some result) ∧
      ∀ (bound : Nat) (world : World σ) (builder : Builder),
        builder.current.keyFormat = world.builder.current.keyFormat →
        builder.current.ignoreNil = world.builder.current.ignoreNil →
        (nested (block.runWithin renderer bound) { world with builder }).map seen =
          (nested (block.runWithin renderer bound) world).map seen) ∧
    ∀ (name : String) (locals : Locals),
      (∀ template, renderer.resolve name = .ok template →
        (template locals).Every renderer.resolve (Block.AsksOnly (· ≠ .depth))) →
      ((∀ template, renderer.resolve name = .ok template → (template locals).Finite renderer.resolve) →
        ∀ store, ∃ bound rendered, renderer.renderTemplate bound name locals store = some rendered) ∧
      ∀ (bound : Nat) (store : σ),
        (renderer.render (bound + 1) (Script.splicePartial { name := some name, locals }).toBlock store).map
            Rendered.told =
          (renderer.renderTemplate bound name locals store).map Rendered.told := by
  constructor
  · intro block ignores
    refine ⟨fun finite world => ?_, fun bound world builder keyFormat ignoreNil => ?_⟩
    · obtain ⟨bound, result, ran⟩ := hereditary_settled.nesting (settled_runWithin finite) world
      exact ⟨bound, result, ran bound (Nat.le_refl bound)⟩
    · have coupled := coupled_same (inStep_sameScope renderer) bound ignores
      exact seen_nested coupled (isolated_runWithin renderer bound block) world builder keyFormat ignoreNil
  · intro name locals ignores
    cases found : renderer.resolve name with
    | error error =>
      have failed : ∀ bound store, renderer.renderTemplate bound name locals store =
          some ⟨.error error, store, []⟩ := by
        intro bound store
        simp only [renderTemplate, found]
      refine ⟨fun _ store => ⟨0, _, failed 0 store⟩, fun bound store => ?_⟩
      have called : renderCall renderer (Block.runWithin renderer bound) { name := some name, locals } =
          pure (.error error) := by
        simp only [renderCall, renderOnce, found]
      rw [failed, render, renderNode_eq, runWithin_splicePartial, called]
      rfl
    | ok template =>
      refine ⟨fun finite store => ?_, fun bound store => ?_⟩
      · obtain ⟨rendered, bound, ran⟩ := exists_yields (finite template rfl) store
        refine ⟨bound, { rendered.map Json.compact with
          events := .log (.renderingTemplate name) :: rendered.events }, ?_⟩
        simp only [renderTemplate, found, render, ran]
        rfl
      · have coupled := coupled_same (inStep_sameScope renderer) bound (ignores template found)
        have told := congrArg (Option.map fun seen => (seen.1.map Json.compact, seen.2))
          (told_splicePartial renderer found bound coupled store)
        rw [Option.map_map, Option.map_map] at told
        simp only [renderTemplate, found, render, Option.map_map]
        exact told

/-- A cached label. -/
def badge (locals : Locals) : Block :=
  .cache true (.text "badge") {} (.act (.set "label" (.ok ((locals.get? "label").getD .null))) .done) .done

def withBadge : Renderer Cache.MemoryStore :=
  ⟨{}, ⟨[.upcase]⟩, fun name => if name = "badge" then .ok badge else noPartials name,
    some (Cache.MemoryStore.store true), .plain⟩

theorem ignoresDepth_badge (locals : Locals) :
    (badge locals).Every withBadge.resolve (Block.AsksOnly (· ≠ .depth)) := by
  simp [badge, Block.every_cache, Block.every_act, Block.every_done, Block.AsksOnly]

theorem context_independent_badge :
    (withBadge.render 1 (Script.splicePartial { name := some "badge", locals := ⟨[("label", .str "new")]⟩ }).toBlock
        {}).bind Rendered.document? = some "\x7b\"LABEL\":\"new\"\x7d" ∧
      (nested ((badge {}).runWithin withBadge 0)
        ⟨⟨.fresh .identity false, [⟨.elements [.null], ⟨[.upcase]⟩, true⟩]⟩, {}, []⟩).map seen =
      (nested ((badge {}).runWithin withBadge 0) ⟨.new ⟨[.upcase]⟩ true, {}, []⟩).map seen := by
  obtain ⟨captured, rendered⟩ := context_independent withBadge
  have ignores : ∀ template, withBadge.resolve "badge" = .ok template → (template
      ⟨[("label", .str "new")]⟩).Every withBadge.resolve (Block.AsksOnly (· ≠ .depth)) := by
    rintro template ⟨⟩
    exact ignoresDepth_badge _
  obtain ⟨-, text⟩ := rendered "badge" ⟨[("label", .str "new")]⟩ ignores
  obtain ⟨-, seen⟩ := captured (badge {}) (ignoresDepth_badge {})
  constructor
  · have whole : (withBadge.renderTemplate 0 "badge" ⟨[("label", .str "new")]⟩ {}).bind Rendered.document? =
        some "\x7b\"LABEL\":\"new\"\x7d" := by
      decide +kernel
    have documents := congrArg (Option.bind · fun told => told.1.toOption) (text 0 {})
    simp only [Option.bind_map] at documents
    exact documents.trans whole
  · exact seen 0 ⟨.new ⟨[.upcase]⟩ true, {}, []⟩ _ rfl rfl

end Renderer

end Stencil
