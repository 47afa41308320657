import Stencil.Proofs.Cache.Faithful
import Stencil.Proofs.Json.Pruned
import Stencil.Proofs.Run.Rules

/-!
# Documents without null members

A scope that ignores nulls has no null members, and neither have the scopes within it, if no value brings some
along. So a render that ignores nulls gives no document with a null member and keeps no such fragment, as long
as its templates leave the setting alone and its store had no such fragment before (`no_null_members`).
-/

namespace Stencil

open Json (PrunedItems PrunedMembers)

/-- The value itself may be an object with null members, but there is none within it. -/
def Json.PrunedWithin : Json → Prop
  | .obj members => ∀ member ∈ members, member.2.Pruned
  | value => value.Pruned

/-- The values of the action are pruned, those of a merge within, and nulls go on to be ignored. -/
def Action.Pruned : Action → Prop
  | .set _ value | .append value => ∀ node, value = .ok node → node.Pruned
  | .appendAll values => ∀ node, .ok node ∈ values → node.Pruned
  | .merge value => ∀ node, value = .ok node → node.PrunedWithin
  | .extract source names => ∀ name ∈ names, ∀ node, source name = some node → node.Pruned
  | .ignoreNil ignore => ignore = true
  | .openObject | .openArray | .setNull | .setKeyFormat _ => True

/-- Programs that may learn the settings, and otherwise anything, and act without null members. -/
def Rules.pruned (settings : Settings) : Rules where
  answers
    | .settings => fun answer => answer = settings
    | _ => fun _ => True
  acts := Action.Pruned
  nodes := Json.Pruned

namespace Scope

structure Pruned (scope : Scope) : Prop where
  ignoresNil : scope.ignoreNil = true
  node : scope.toNode.Pruned

theorem pruned_editMembers (attempt : Attempt) {edit : Entries Json → Entries Json}
    (kept : ∀ entries, PrunedMembers entries → PrunedMembers (edit entries)) :
    Preserves Pruned (editMembers attempt edit) := by
  rintro ⟨body, keyFormat, ignoreNil⟩ ⟨ignoresNil, node⟩
  cases body with
  | empty => exact ⟨ignoresNil, kept [] Json.prunedMembers_nil⟩
  | members entries => exact ⟨ignoresNil, kept entries node⟩
  | elements items => exact ⟨ignoresNil, node⟩
  | whole value => exact ⟨ignoresNil, node⟩

theorem pruned_editElements (attempt : Attempt) {edit : List Json → List Json}
    (kept : ∀ items, PrunedItems items → PrunedItems (edit items)) :
    Preserves Pruned (editElements attempt edit) := by
  rintro ⟨body, keyFormat, ignoreNil⟩ ⟨ignoresNil, node⟩
  cases body with
  | empty => exact ⟨ignoresNil, kept [] Json.prunedItems_nil⟩
  | members entries => exact ⟨ignoresNil, node⟩
  | elements items => exact ⟨ignoresNil, kept items node⟩
  | whole value => exact ⟨ignoresNil, node⟩

theorem pruned_openObject (attempt : Attempt) : Preserves Pruned (openObject attempt) :=
  pruned_editMembers attempt fun _ pruned => pruned

theorem pruned_openArray (attempt : Attempt) : Preserves Pruned (openArray attempt) :=
  pruned_editElements attempt fun _ pruned => pruned

/-- A null is not set, since the scope ignores it. -/
theorem pruned_set (name : String) {value : Json} (pruned : value.Pruned) : Preserves Pruned (set name value) := by
  intro scope kept
  unfold set
  split
  · exact kept
  · rename_i written
    have present : value.isNull = false := by
      rw [kept.ignoresNil, Bool.and_true] at written
      exact Bool.eq_false_iff.2 written
    exact pruned_editMembers _ (fun _ members => members.insert ⟨present, pruned⟩ _) scope kept

theorem pruned_push {value : Json} (pruned : value.Pruned) : Preserves Pruned (push value) :=
  pruned_editElements _ fun _ items => items.append ⟨pruned, Json.prunedItems_nil⟩

theorem pruned_splice {node : Json} (pruned : node.Pruned) : Preserves Pruned (splice node) := by
  intro scope kept
  unfold splice
  split
  · exact kept
  · exact pruned_editMembers _ (fun _ members => members.insertAll pruned) scope kept
  · exact pruned_editElements _ (fun _ items => items.append pruned) scope kept
  · split
    · exact ⟨kept.ignoresNil, pruned⟩
    · exact ⟨kept.ignoresNil, pruned⟩
    · exact kept

theorem pruned_merge {value : Json} (pruned : value.PrunedWithin) : Preserves Pruned (merge value) := by
  refine Preserves.merge (pruned_openObject _) ?_ ?_
  · rintro members rfl member among
    exact pruned_set member.1 (pruned member among)
  · rintro items rfl
    exact pruned_editElements _ fun _ others => others.append pruned

theorem pruned_extract {source : String → Option Json} {names : List String}
    (pruned : ∀ name ∈ names, ∀ node, source name = some node → node.Pruned) :
    Preserves Pruned (extract source names) := by
  refine Preserves.forEach fun name member => pruned_set name ?_
  cases found : source name with
  | none => exact trivial
  | some node => exact pruned name member node found

theorem pruned_apply {action : Action} (pruned : action.Pruned) : Preserves Pruned action.apply := by
  cases action with
  | openObject => exact pruned_openObject _
  | openArray => exact pruned_openArray _
  | set name value => exact Preserves.withPayload fun node given => pruned_set name (pruned node given)
  | append value => exact Preserves.withPayload fun node given => pruned_push (pruned node given)
  | appendAll values =>
    exact Preserves.appendAll (pruned_openArray _) fun node member => pruned_push (pruned node member)
  | merge value => exact Preserves.withPayload fun node given => pruned_merge (pruned node given)
  | extract source names => exact pruned_extract pruned
  | setNull => exact fun _ kept => ⟨kept.ignoresNil, trivial⟩
  | ignoreNil ignore => exact fun _ kept => ⟨pruned, kept.node⟩
  | setKeyFormat format => exact fun _ kept => ⟨kept.ignoresNil, kept.node⟩

end Scope

variable {σ : Type} {holds : σ → String → Prop}

namespace Run

theorem stable_pruned : Invariant.Stable ⟨Scope.Pruned, Clean holds Json.Pruned⟩ Json.Pruned where
  emits := clean_emit
  child kept := ⟨kept.ignoresNil, trivial⟩
  toNode kept := kept.node
  splices := Scope.pruned_splice
  pushes := Scope.pruned_push
  opens := Scope.pruned_openArray _
  arrays pruned := Json.prunedItems_iff.2 pruned

theorem denotes_of_tells {text : String} (tells : Json.Tells Json.Pruned text) : Json.Denotes Json.Pruned text := by
  obtain ⟨node, pruned, rfl⟩ := tells
  exact fun _ read => Json.pruned_of_ofText pruned read

theorem guarded_pruned {renderer : Renderer σ}
    (faithful : ∀ store, renderer.store = some store → store.Faithful holds) :
    Invariant.Guarded ⟨Scope.Pruned, Clean holds Json.Pruned⟩ (.pruned renderer.settings) renderer where
  stable := stable_pruned
  stored {store} active := by
    have known : renderer.store = some store := (Option.ite_none_right_eq_some.1 active).2
    exact stored_of_faithful (faithful store known) (fun _ => denotes_of_tells) _
  acts := Scope.pruned_apply
  answers query _ _ := by
    cases query with
    | settings => rfl
    | _ => trivial

end Run

namespace Renderer

/--
A render that ignores nulls, of a block that goes on to do so, on a store without null members in what it
holds: neither the document nor any fragment that is written has a null member, and nor has what the store
holds afterwards.
-/
theorem no_null_members (renderer : Renderer σ) (ignoring : renderer.settings.ignoreNil = true)
    (faithful : ∀ store, renderer.store = some store → store.Faithful holds) (block : Block)
    (abides : block.Abides (.pruned renderer.settings) renderer.resolve) (store : σ)
    (held : ∀ fragment, holds store fragment → Json.Denotes Json.Pruned fragment) :
    (block.Finite renderer.resolve → ∃ rendered, renderer.Yields block store rendered) ∧
    ∀ rendered, renderer.Yields block store rendered →
      (∀ document, rendered.outcome = .ok document → document.Pruned) ∧
      (∀ event ∈ rendered.events, ∀ fragment ∈ event.fragments,
        Json.Tells Json.Pruned fragment ∧ Json.Denotes Json.Pruned fragment) ∧
      ∀ fragment, holds rendered.store fragment → Json.Denotes Json.Pruned fragment := by
  refine ⟨fun finite => exists_yields finite store, fun rendered yields => ?_⟩
  have start : Run.Invariant.At ⟨Scope.Pruned, Run.Clean holds Json.Pruned⟩ (renderer.start store) :=
    ⟨⟨ignoring, trivial⟩, held, nofun⟩
  obtain ⟨document, clean⟩ := Run.guarded_yields (Run.guarded_pruned faithful) abides start yields
  refine ⟨document, fun event member fragment among => ?_, clean.held⟩
  have tells := clean.written event (List.mem_reverse.2 member) fragment among
  exact ⟨tells, Run.denotes_of_tells tells⟩

def ignoringNulls : Renderer Cache.MemoryStore where
  settings := { ignoreNil := true }
  keyFormat := .identity
  resolve _ := .ok fun _ => .done (.ok ())
  store := some (Cache.MemoryStore.store true)
  namer := .plain

def profile : Json := .obj [("name", .str "Ada"), ("email", .null)]

/-- Nulls that are merged, missing or left behind by a partial, and one in a fragment. -/
def sparse : Block :=
  .act (.merge (.ok profile)) fun _ =>
    .act (.extract profile.get? ["phone"]) fun _ =>
      .renderPartial { name := some "footer" } fun
        | .ok node => .act (.set "footer" (.ok node)) fun _ =>
            .cache true (.text "tags") {}
              (.act (.set "count" (.ok .null)) fun _ => .act (.set "tags" (.ok (.arr [.null]))) .done) .done
        | .error error => .done (.error error)

theorem abides_sparse :
    sparse.Abides (.pruned ignoringNulls.settings) ignoringNulls.resolve := by
  have ended (outcome : Except RenderError Unit) :
      (Block.done outcome).Abides (.pruned ignoringNulls.settings) ignoringNulls.resolve :=
    Block.abides_of_obeys (.done outcome)
  refine Block.abides_of_obeys (.act ?_ fun _ => Block.abides_of_obeys (.act ?_ fun _ =>
    Block.abides_of_obeys (.renderPartial ?_ fun outcome given => ?_)))
  · rintro _ ⟨⟩ member among
    simp only [List.mem_cons, List.not_mem_nil, or_false] at among
    rcases among with rfl | rfl <;> exact trivial
  · rintro name among node found
    rw [List.mem_singleton.1 among] at found
    contradiction
  · rintro block among
    rw [List.mem_singleton.1 among]
    exact ended _
  · cases outcome with
    | error error => exact ended _
    | ok node =>
      refine Block.abides_of_obeys (.act ?_ fun _ => Block.abides_of_obeys (.cache ?_ ended))
      · rintro _ ⟨⟩
        exact given node rfl
      · refine Block.abides_of_obeys (.act ?_ fun _ => Block.abides_of_obeys (.act ?_ ended))
        · rintro _ ⟨⟩
          exact trivial
        · rintro _ ⟨⟩
          exact ⟨trivial, trivial⟩

theorem no_null_members_sparse :
    (Json.obj [("name", .str "Ada"), ("tags", .arr [.null])]).Pruned ∧
      ∃ rendered, ignoringNulls.Yields sparse {} rendered ∧
        rendered.document? = some (.obj [("name", .str "Ada"), ("tags", .arr [.null])]) ∧
        ∀ event ∈ rendered.events, ∀ fragment ∈ event.fragments,
          Json.Tells Json.Pruned fragment ∧ Json.Denotes Json.Pruned fragment := by
  have faithful : ∀ store, ignoringNulls.store = some store → store.Faithful Cache.MemoryStore.Holds := by
    rintro store ⟨⟩
    exact Cache.MemoryStore.faithful true
  have empty : ∀ fragment, Cache.MemoryStore.Holds {} fragment → Json.Denotes Json.Pruned fragment := by
    rintro fragment ⟨key, lifetime, found⟩
    contradiction
  obtain ⟨-, results⟩ := no_null_members ignoringNulls rfl faithful sparse abides_sparse {} empty
  have ran : (ignoringNulls.renderNode 1 sparse {}).bind Rendered.document? =
      some (.obj [("name", .str "Ada"), ("tags", .arr [.null])]) := by
    decide +kernel
  obtain ⟨rendered, yields, document⟩ := Option.bind_eq_some_iff.1 ran
  obtain ⟨pruned, written, -⟩ := results rendered ⟨1, yields⟩
  exact ⟨pruned _ (Rendered.document?_eq_some.1 document), rendered, ⟨1, yields⟩, document, written⟩

end Renderer

end Stencil
