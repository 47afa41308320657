import Stencil.Proofs.Json.UniqueKeys
import Stencil.Proofs.Run.Reached
import Stencil.Proofs.Run.Written

/-!
# Keys of objects

No object in a scope, in a node that is built or in one that is decoded repeats a key, however deep it is, if no
value that templates bring along does. A scope that calls make an object has every key where it was first
written, with the value that was written last (`keys_in_order`).
-/

namespace Stencil

open Json (UniqueKeysItems UniqueKeysMembers)

/-- The values of the action do not repeat keys, those of a merge within. -/
def Action.SuppliesUniqueKeys : Action → Prop
  | .set _ value | .append value | .merge value => ∀ node, value = .ok node → node.UniqueKeys
  | .appendAll values => ∀ node, .ok node ∈ values → node.UniqueKeys
  | .extract source names => ∀ name ∈ names, ∀ node, source name = some node → node.UniqueKeys
  | _ => True

/-- Programs that may learn anything and bring along values without repeated keys. -/
def Rules.uniqueKeys : Rules where
  answers _ _ := True
  acts := Action.SuppliesUniqueKeys
  nodes := Json.UniqueKeys

namespace Scope

def UniqueKeys (scope : Scope) : Prop := scope.toNode.UniqueKeys

theorem uniqueKeys_editMembers (attempt : Attempt) {edit : Entries Json → Entries Json}
    (kept : ∀ entries, (Json.obj entries).UniqueKeys → (Json.obj (edit entries)).UniqueKeys) :
    Preserves UniqueKeys (editMembers attempt edit) := by
  rintro ⟨_ | entries | items | value, keyFormat, ignoreNil⟩ unique
  · exact kept [] Json.uniqueKeys_nil
  · exact kept entries unique
  · exact unique
  · exact unique

theorem uniqueKeys_editElements (attempt : Attempt) {edit : List Json → List Json}
    (kept : ∀ items, UniqueKeysItems items → UniqueKeysItems (edit items)) :
    Preserves UniqueKeys (editElements attempt edit) := by
  rintro ⟨_ | entries | items | value, keyFormat, ignoreNil⟩ unique
  · exact kept [] Json.uniqueKeysItems_nil
  · exact unique
  · exact kept items unique
  · exact unique

theorem uniqueKeys_openObject (attempt : Attempt) : Preserves UniqueKeys (openObject attempt) :=
  uniqueKeys_editMembers attempt fun _ unique => unique

theorem uniqueKeys_openArray (attempt : Attempt) : Preserves UniqueKeys (openArray attempt) :=
  uniqueKeys_editElements attempt fun _ unique => unique

theorem uniqueKeys_set (name : String) {value : Json} (unique : value.UniqueKeys) :
    Preserves UniqueKeys (set name value) := by
  intro scope kept
  unfold set
  split
  · exact kept
  · exact uniqueKeys_editMembers _ (fun _ members => members.insert unique _) scope kept

theorem uniqueKeys_push {value : Json} (unique : value.UniqueKeys) : Preserves UniqueKeys (push value) :=
  uniqueKeys_editElements _ fun _ items => items.append ⟨unique, Json.uniqueKeysItems_nil⟩

theorem uniqueKeys_splice {node : Json} (unique : node.UniqueKeys) : Preserves UniqueKeys (splice node) := by
  intro scope kept
  unfold splice
  split
  · exact kept
  · exact uniqueKeys_editMembers _ (fun _ members => members.insertAll unique.2) scope kept
  · exact uniqueKeys_editElements _ (fun _ items => items.append unique) scope kept
  · split
    · exact unique
    · exact unique
    · exact kept

theorem uniqueKeys_merge {value : Json} (unique : value.UniqueKeys) : Preserves UniqueKeys (merge value) := by
  refine Preserves.merge (uniqueKeys_openObject _) ?_ ?_
  · rintro members rfl member among
    exact uniqueKeys_set member.1 (Json.uniqueKeysMembers_iff.1 unique.2 member among)
  · rintro items rfl
    exact uniqueKeys_editElements _ fun _ others => others.append unique

theorem uniqueKeys_extract {source : String → Option Json} {names : List String}
    (unique : ∀ name ∈ names, ∀ node, source name = some node → node.UniqueKeys) :
    Preserves UniqueKeys (extract source names) := by
  refine Preserves.forEach fun name member => uniqueKeys_set name ?_
  cases found : source name with
  | none => exact trivial
  | some node => exact unique name member node found

theorem uniqueKeys_apply {action : Action} (supplies : action.SuppliesUniqueKeys) :
    Preserves UniqueKeys action.apply := by
  cases action with
  | openObject => exact uniqueKeys_openObject _
  | openArray => exact uniqueKeys_openArray _
  | set name value => exact Preserves.withPayload fun node given => uniqueKeys_set name (supplies node given)
  | append value => exact Preserves.withPayload fun node given => uniqueKeys_push (supplies node given)
  | appendAll values =>
    exact Preserves.appendAll (uniqueKeys_openArray _) fun node member => uniqueKeys_push (supplies node member)
  | merge value => exact Preserves.withPayload fun node given => uniqueKeys_merge (supplies node given)
  | extract source names => exact uniqueKeys_extract supplies
  | setNull => exact fun _ _ => trivial
  | ignoreNil ignore => exact fun _ kept => kept
  | setKeyFormat format => exact fun _ kept => kept

end Scope

namespace Run

variable {σ : Type}

/-- Whatever the store holds: a text does not denote repeated keys. -/
def Invariant.uniqueKeys (σ : Type) : Invariant σ := ⟨Scope.UniqueKeys, fun _ _ => True⟩

theorem stable_uniqueKeys : (Invariant.uniqueKeys σ).Stable Json.UniqueKeys where
  emits _ _ := trivial
  child _ := trivial
  toNode unique := unique
  splices := Scope.uniqueKeys_splice
  pushes := Scope.uniqueKeys_push
  opens := Scope.uniqueKeys_openArray _
  arrays unique := Json.uniqueKeysItems_iff.2 unique

theorem denotes_uniqueKeys (text : String) : Json.Denotes Json.UniqueKeys text :=
  fun _ read => Json.uniqueKeys_of_ofText read

theorem stored_uniqueKeys (store : Cache.Store σ) : (Invariant.uniqueKeys σ).Stored Json.UniqueKeys store where
  read _ := Invariant.keeps_recorded fun _ _ _ => ⟨fun fragment _ => denotes_uniqueKeys fragment, trivial⟩
  write _ _ _ _ := Invariant.keeps_recorded fun _ _ _ => ⟨trivial, trivial⟩
  readBatch _ _ := Invariant.keeps_recorded fun _ _ _ => ⟨fun _ _ _ fragment _ => denotes_uniqueKeys fragment, trivial⟩
  writeBatch _ _ _ := Invariant.keeps_recorded fun _ _ _ => ⟨trivial, trivial⟩

theorem guarded_uniqueKeys (renderer : Renderer σ) : (Invariant.uniqueKeys σ).Guarded .uniqueKeys renderer where
  stable := stable_uniqueKeys
  stored _ := stored_uniqueKeys _
  acts := Scope.uniqueKeys_apply
  answers _ _ _ := trivial

end Run

namespace Renderer

variable {σ : Type}

open Operation in
/--
In the course of a render no object repeats a key, however deep it is: not in an open scope, not in a node that
a nested block builds, not in the document and not in what a text denotes, whoever wrote the text. And calls
that succeed one after the other give an object its keys in the order in which they first write them, each with
the value that they write last.
-/
theorem keys_in_order (renderer : Renderer σ) :
    (∀ block, block.Abides .uniqueKeys renderer.resolve → ∀ store,
      (∀ bound moment, Moment.Reaches renderer ⟨bound, block, renderer.start store⟩ moment →
        (∀ scope ∈ moment.world.builder.scopes, scope.toNode.UniqueKeys) ∧
        ∀ purpose inner node ended, moment.Nests renderer purpose inner →
          inner.build renderer = some (.ok node, ended) → node.UniqueKeys) ∧
      ∀ rendered document, renderer.Yields block store rendered → rendered.outcome = .ok document →
        document.UniqueKeys) ∧
    (∀ text node, Json.ofText text = .ok node → node.UniqueKeys) ∧
    ∀ bound operations (world after : World σ), world.members.Distinct → after.shape = .object →
      runUpToFailure renderer bound operations world = some (.ok (), after) →
      ∃ written, WriteInTurn renderer bound world operations written after ∧
        after.builder.current.toNode = .obj (Entries.lastWrites (world.members ++ written)) := by
  have guarded := Run.guarded_uniqueKeys renderer
  refine ⟨fun block abides store => ⟨?_, ?_⟩, fun _ _ => Json.uniqueKeys_of_ofText, ?_⟩
  · intro bound moment reaches
    have start : (Run.Invariant.uniqueKeys σ).Throughout (renderer.start store) :=
      ⟨List.forall_mem_singleton.2 trivial, trivial⟩
    obtain ⟨still, throughout⟩ := guarded.holds_of_reaches abides start reaches
    refine ⟨throughout.1, fun purpose inner node ended nests builds => ?_⟩
    exact guarded.delivers_of_nests still throughout nests builds node rfl
  · intro rendered document yields built
    have start : (Run.Invariant.uniqueKeys σ).At (renderer.start store) := ⟨trivial, trivial⟩
    exact (Run.guarded_yields guarded abides start yields).1 document built
  · exact fun bound operations world after => entries_of_upToFailure renderer bound

/-- A fragment whose text repeats a key. -/
def repeating : Cache.MemoryStore :=
  ⟨[("jstreamer/names", ⟨"\x7b\"first\":1,\"last\":2,\"first\":3\x7d", none⟩)], {}⟩

def namesFragment : Block := .cache true (.text "names") {} (.done (.ok ())) .done

open Operation in
/-- Two names of one key, a null that is skipped, and an object that is spliced in with its keys as they are. -/
def namedTwice : List Operation :=
  [.act (.setKeyFormat ⟨[.camelize .lower]⟩), .act (.set "first_name" (.ok (.str "Ada"))), .act (.ignoreNil true),
    .act (.merge (.ok (.obj [("born", .null), ("firstName", .str "Augusta")]))),
    .child "last_name" (Script.set "family" (.str "King")),
    .cache false (.text "plain") {} (do
      Script.setKeyFormat .identity
      Script.set "last_name" (.str "Lovelace")
      Script.set "firstName" (.str "Ada King")),
    .act (.extract (fun _ => none) ["died"])]

open Operation in
theorem keys_in_order_namedTwice :
    (∃ rendered, withMemory.Yields namesFragment repeating rendered ∧
      rendered.document? = some (.obj [("first", .num (.int 3)), ("last", .num (.int 2))]) ∧
      (Json.obj [("first", .num (.int 3)), ("last", .num (.int 2))]).UniqueKeys) ∧
    ∃ after written, WriteInTurn withMemory 0 untouched namedTwice written after ∧
      after.builder.current.toNode = .obj (Entries.lastWrites written) ∧
      after.builder.current.toNode = .obj [("firstName", .str "Ada King"), ("lastName", .obj [("family", .str "King")]),
        ("last_name", .str "Lovelace")] := by
  obtain ⟨renders, -, writes⟩ := keys_in_order withMemory
  constructor
  · have ended : ∀ outcome, (Block.done outcome).Abides .uniqueKeys withMemory.resolve :=
      fun outcome => Block.abides_of_obeys (.done outcome)
    have abides : namesFragment.Abides .uniqueKeys withMemory.resolve :=
      Block.abides_of_obeys (.cache (ended _) ended)
    obtain ⟨-, documents⟩ := renders namesFragment abides repeating
    have ran : (withMemory.renderNode 0 namesFragment repeating).bind Rendered.document? =
        some (.obj [("first", .num (.int 3)), ("last", .num (.int 2))]) := by
      decide +kernel
    obtain ⟨rendered, rendering, document⟩ := Option.bind_eq_some_iff.1 ran
    exact ⟨rendered, ⟨0, rendering⟩, document,
      documents rendered _ ⟨0, rendering⟩ (Rendered.document?_eq_some.1 document)⟩
  · have ran : (runUpToFailure withMemory 0 namedTwice untouched).map
        (fun result => (result.1.toOption, result.2.shape, result.2.builder.current.toNode)) =
          some (some (), .object, .obj [("firstName", .str "Ada King"), ("lastName", .obj [("family", .str "King")]),
            ("last_name", .str "Lovelace")]) := by
      decide +kernel
    obtain ⟨⟨_ | _, after⟩, succeeded, same⟩ := Option.map_eq_some_iff.1 ran
    · nomatch same
    obtain ⟨-, shown⟩ := Prod.mk.inj same
    obtain ⟨object, node⟩ := Prod.mk.inj shown
    obtain ⟨written, inTurn, entries⟩ := writes 0 namedTwice untouched after List.nodup_nil object succeeded
    exact ⟨after, written, inTurn, entries, node⟩

end Renderer

end Stencil
