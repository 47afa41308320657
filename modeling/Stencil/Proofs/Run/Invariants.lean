import Stencil.Proofs.Run.Collections
import Stencil.Proofs.Scope.Preserved

/-!
# Invariants of runs

A run keeps an invariant if the state has it afterwards whenever it had it before, and the results of the run
then have a property (`Keeps`). An `Invariant` concerns the innermost scope and the store with its events. If
single steps keep it (`Stable`) and the calls of the store do (`Stored`), nested scopes, loops and all cache
calls keep it as well.
-/

namespace Stencil

/-- If the text denotes a node at all, the node has the property. -/
def Json.Denotes (N : Json → Prop) (text : String) : Prop := ∀ node, ofText text = .ok node → N node

def Entries.Denote (N : Json → Prop) (found : Entries String) : Prop :=
  ∀ key fragment, get? key found = some fragment → Json.Denotes N fragment

/-- The text is the compact one of a node with the property. -/
def Json.Tells (N : Json → Prop) (text : String) : Prop := ∃ node, N node ∧ text = node.compact

namespace Run

variable {σ α β : Type}

/-- The outcome is an error or a value with the property. -/
def Delivers (P : α → Prop) (outcome : Except RenderError α) : Prop := ∀ value, outcome = .ok value → P value

theorem delivers_error (P : α → Prop) (error : RenderError) : Delivers P (.error error) := nofun

theorem delivers_ok {P : α → Prop} {value : α} (holds : P value) : Delivers P (.ok value) := by
  rintro _ ⟨⟩
  exact holds

theorem Delivers.map {P : α → Prop} {Q : β → Prop} {outcome : Except RenderError α} (holds : Delivers P outcome)
    {f : α → β} (kept : ∀ value, P value → Q (f value)) : Delivers Q (outcome.map f) := by
  cases outcome with
  | error error => exact delivers_error Q error
  | ok value => exact delivers_ok (kept value (holds value rfl))

/-- From states with the invariant the run ends in such states, with results that have the property. -/
def Keeps (I : World σ → Prop) (P : α → Prop) (run : Run σ α) : Prop :=
  ∀ world, I world → ∀ value after, run world = some (value, after) → P value ∧ I after

/-- The run keeps the invariant, whatever its result. -/
abbrev Upholds (I : World σ → Prop) (run : Run σ α) : Prop := Keeps I (fun _ => True) run

namespace Keeps

variable {I : World σ → Prop} {P : α → Prop} {Q : β → Prop}

theorem pure {value : α} (holds : P value) : Keeps I P (Pure.pure value) := by
  rintro world kept _ _ ⟨⟩
  exact ⟨holds, kept⟩

theorem bind {first : Run σ α} {next : α → Run σ β} (one : Keeps I P first)
    (each : ∀ value, P value → Keeps I Q (next value)) : Keeps I Q (first >>= next) := by
  intro world kept last after ran
  obtain ⟨value, middle, firstRan, nextRan⟩ := bind_some ran
  obtain ⟨holds, keptToo⟩ := one world kept value middle firstRan
  exact each value holds middle keptToo last after nextRan

theorem upholds {run : Run σ α} (keeps : Keeps I P run) : Upholds I run :=
  fun world kept value after ran => ⟨trivial, (keeps world kept value after ran).2⟩

theorem failure : Keeps I P (failure : Run σ α) := nofun

theorem delivers {run : Run σ (Except RenderError α)} (upholds : Upholds I run) :
    Keeps I (Delivers fun _ => True) run :=
  fun world kept value after ran => ⟨fun _ _ => trivial, (upholds world kept value after ran).2⟩

theorem succeeding {first : Run σ (Except RenderError α)}
    {next : Except RenderError α → Run σ (Except RenderError β)} (one : Keeps I (Delivers P) first)
    (failed : ∀ error, next (.error error) = Pure.pure (.error error))
    (each : ∀ value, P value → Keeps I (Delivers Q) (next (.ok value))) :
    Keeps I (Delivers Q) (first >>= next) := by
  refine one.bind fun outcome holds => ?_
  cases outcome with
  | error error =>
    rw [failed]
    exact pure (delivers_error Q error)
  | ok value => exact each value (holds value rfl)

theorem mapped {first : Run σ (Except RenderError α)} (one : Keeps I (Delivers P) first) {f : α → β}
    (kept : ∀ value, P value → Q (f value)) :
    Keeps I (Delivers Q) (do return (← first).map f) :=
  one.bind fun _ holds => pure (holds.map kept)

theorem collect {step : α → Run σ (Except RenderError β)} {items : List α}
    (each : ∀ item ∈ items, Keeps I (Delivers Q) (step item)) :
    Keeps I (Delivers fun values => ∀ value ∈ values, Q value) (Run.collect step items) := by
  induction items with
  | nil => exact pure (delivers_ok nofun)
  | cons item rest ih =>
    have others := ih fun item member => each item (List.mem_cons_of_mem _ member)
    refine (each item List.mem_cons_self).succeeding (fun _ => rfl) fun value holds => ?_
    refine others.succeeding (fun _ => rfl) fun values all => ?_
    exact pure (delivers_ok (List.forall_mem_cons.2 ⟨holds, all⟩))

end Keeps

/-- A property of the innermost scope, and one of the store with the events so far. -/
structure Invariant (σ : Type) where
  scope : Scope → Prop
  record : σ → List Event → Prop

namespace Invariant

variable (invariant : Invariant σ)

def At (world : World σ) : Prop :=
  invariant.scope world.builder.current ∧ invariant.record world.store world.events

/-- Single steps keep the invariant, the nodes of `N` being those that scopes resolve to. -/
structure Stable (N : Json → Prop) : Prop where
  emits {event : Event} {store : σ} {events : List Event} : event.ofStore = false →
    invariant.record store events → invariant.record store (event :: events)
  child {scope : Scope} : invariant.scope scope → invariant.scope scope.child
  toNode {scope : Scope} : invariant.scope scope → N scope.toNode
  splices {node : Json} : N node → Scope.Preserves invariant.scope (Scope.splice node)
  pushes {node : Json} : N node → Scope.Preserves invariant.scope (Scope.push node)
  opens : Scope.Preserves invariant.scope (Scope.openArray .openArray)
  arrays {nodes : List Json} : (∀ node ∈ nodes, N node) → N (.arr nodes)

/-- The calls of a store keep the invariant if only texts of such nodes are written, and find only such. -/
structure Stored (N : Json → Prop) (store : Cache.Store σ) : Prop where
  read (key : String) : Keeps invariant.At
    (fun answer => ∀ fragment, answer = .ok (some fragment) → Json.Denotes N fragment) (readStore store key)
  write (key : String) (lifetime : Option Nat) {fragment : String} : Json.Tells N fragment →
    Upholds invariant.At (writeStore store key fragment lifetime)
  readBatch {batch : Cache.Batch σ} (keys : List String) : store.batch = some batch → Keeps invariant.At
    (fun answer => ∀ found, answer = .ok found → Entries.Denote N found) (readBatch batch keys)
  writeBatch {batch : Cache.Batch σ} {fragments : List (String × String)} (lifetime : Option Nat) :
    store.batch = some batch → (∀ fragment ∈ fragments, Json.Tells N fragment.2) →
      Upholds invariant.At (writeBatch batch fragments lifetime)

variable {invariant} {N : Json → Prop}

theorem keeps_recorded {call : σ → α × σ} {record : α → Event} {P : α → Prop}
    (kept : ∀ store events, invariant.record store events →
      P (call store).1 ∧ invariant.record (call store).2 (record (call store).1 :: events)) :
    Keeps invariant.At P (recorded call record) := by
  rintro world ⟨inScope, recordKept⟩ value after ran
  rw [recorded_apply] at ran
  obtain ⟨rfl, rfl⟩ := result_inj ran
  obtain ⟨holds, after⟩ := kept world.store world.events recordKept
  exact ⟨holds, inScope, after⟩

theorem upholds_edit {operation : Scope → Edited} (preserves : Scope.Preserves invariant.scope operation) :
    Upholds invariant.At (edit operation) := by
  rintro world ⟨inScope, recordKept⟩ outcome after ran
  obtain ⟨-, rfl⟩ := result_inj ran
  refine ⟨trivial, ?_, recordKept⟩
  show invariant.scope (world.builder.setCurrent _).current
  rw [Builder.current_setCurrent]
  exact preserves _ inScope

namespace Stable

variable (stable : invariant.Stable N)

include stable

theorem emptyArray : N (.arr []) := stable.arrays nofun

theorem emit {event : Event} (plain : event.ofStore = false) : Upholds invariant.At (Run.emit event) := by
  rintro world ⟨inScope, recordKept⟩ value after ran
  obtain ⟨-, rfl⟩ := result_inj ran
  exact ⟨trivial, inScope, stable.emits plain recordKept⟩

theorem log (entry : LogEntry) : Upholds invariant.At (Run.log entry) := stable.emit rfl

theorem logDepth (entry : Nat → LogEntry) {next : Run σ α} {P : α → Prop} (keeps : Keeps invariant.At P next) :
    Keeps invariant.At P (do Run.log (entry (← depth)); next) := by
  intro world kept
  exact ((stable.log (entry world.builder.depth)).bind fun _ _ => keeps) world kept

theorem silent {first : Run σ α} (silent : Silent False first) : Upholds invariant.At first := by
  induction silent with
  | pure value => exact Keeps.pure trivial
  | emit plain => exact stable.emit plain
  | store allowed => contradiction
  | bind _ _ one each => exact one.bind fun value _ => each value

theorem perform {action : Action} (preserves : Scope.Preserves invariant.scope action.apply) :
    Upholds invariant.At (Run.perform action) := by
  unfold Run.perform
  split
  · exact stable.logDepth _ (upholds_edit preserves)
  · exact upholds_edit preserves

theorem nested {body : Run σ (Except RenderError Unit)} (upholds : Upholds invariant.At body)
    (isolated : Isolated body) : Keeps invariant.At (Delivers N) (Run.nested body) := by
  rintro world ⟨inScope, recordKept⟩ outcome after ran
  rw [nested_apply isolated, Option.map_eq_some_iff] at ran
  obtain ⟨⟨inner, middle⟩, bodyRan, same⟩ := ran
  obtain ⟨rfl, rfl⟩ := Prod.mk.inj same
  have entered : invariant.At { world with builder := world.builder.push } := ⟨stable.child inScope, recordKept⟩
  obtain ⟨-, within, record⟩ := upholds _ entered inner middle bodyRan
  have built : Delivers (fun _ => True) inner := fun _ _ => trivial
  exact ⟨built.map fun _ _ => stable.toNode within, inScope, record⟩

theorem splice {node : Except RenderError Json} (holds : Delivers N node) :
    Upholds invariant.At (Run.splice node) := by
  cases node with
  | error error => exact Keeps.pure trivial
  | ok node => exact upholds_edit (stable.splices (holds node rfl))

theorem spliced {first : Run σ (Except RenderError Json)} (keeps : Keeps invariant.At (Delivers N) first) :
    Upholds invariant.At (first >>= Run.splice) :=
  keeps.bind fun _ holds => stable.splice holds

/-! ### Partials -/

section Partials

variable {renderer : Renderer σ} {runBlock : Block → Run σ (Except RenderError Unit)}
  (isolated : ∀ block, Isolated (runBlock block))

include isolated

theorem renderOnce {name : String} {locals : Locals}
    (called : ∀ template, renderer.resolve name = .ok template →
      Upholds invariant.At (runBlock (template locals))) :
    Keeps invariant.At (Delivers N) (Run.renderOnce renderer runBlock name locals) := by
  unfold Run.renderOnce
  cases found : renderer.resolve name with
  | error error => exact Keeps.pure (delivers_error N error)
  | ok template => exact stable.logDepth _ (stable.nested (called template found) (isolated _))

theorem renderCall {call : PartialCall}
    (called : ∀ block ∈ call.blocks renderer.resolve, Upholds invariant.At (runBlock block)) :
    Keeps invariant.At (Delivers N) (Run.renderCall renderer runBlock call) := by
  obtain ⟨name, mode, binding, locals⟩ := call
  unfold Run.renderCall
  cases name with
  | none => exact Keeps.pure (delivers_error N _)
  | some name =>
    cases mode with
    | once =>
      refine stable.renderOnce isolated fun template found => called _ ?_
      simp only [PartialCall.blocks, found, List.mem_singleton]
    | absentCollection =>
      exact (stable.log _).bind fun _ _ => Keeps.pure (delivers_ok stable.emptyArray)
    | collection items =>
      refine Keeps.mapped (Keeps.collect fun item member => ?_) fun nodes => stable.arrays
      refine stable.renderOnce isolated fun template found => called _ ?_
      simp only [PartialCall.blocks, found]
      exact List.mem_map_of_mem member

end Partials

/-! ### Cached fragments -/

theorem pushElement {body : Nat → Run σ (Except RenderError Unit)} (index : Nat)
    (upholds : Upholds invariant.At (body index)) (isolated : Isolated (body index)) :
    Upholds invariant.At (Run.pushElement body index) := by
  have pushed : Keeps invariant.At (Delivers fun _ => True) (Run.pushElement body index) := by
    refine (stable.nested upholds isolated).succeeding (fun _ => rfl) fun node holds => ?_
    exact (upholds_edit (stable.pushes holds)).delivers
  exact pushed.upholds

theorem buildElements {body : Nat → Run σ (Except RenderError Unit)}
    (upholds : ∀ index, Upholds invariant.At (body index)) (isolated : ∀ index, Isolated (body index))
    (indices : List Nat) : Upholds invariant.At (Run.buildElements body indices) := by
  have built : Keeps invariant.At (Delivers fun _ => True) (Run.buildElements body indices) := by
    rw [buildElements_eq]
    refine (upholds_edit stable.opens).delivers.succeeding (fun _ => rfl) fun _ _ => ?_
    have each := fun index (_ : index ∈ indices) =>
      (stable.pushElement index (upholds index) (isolated index)).delivers
    exact (Keeps.collect each).mapped fun _ _ => trivial
  exact built.upholds

theorem decodeFragment (key : String) {fragment : String} (denotes : Json.Denotes N fragment) :
    Keeps invariant.At (fun kept => ∀ node, kept = some node → N node) (Run.decodeFragment key fragment) := by
  unfold Run.decodeFragment
  split
  · rename_i node read
    refine Keeps.pure ?_
    rintro _ ⟨⟩
    exact denotes node read
  · exact (stable.log _).bind fun _ _ => Keeps.pure nofun

theorem decodeFound {found : Entries String} (denotes : Entries.Denote N found) (key : String) :
    Keeps invariant.At (fun kept => ∀ node, kept = some node → N node) (Run.decodeFound found key) := by
  unfold Run.decodeFound
  split
  · rename_i fragment present
    exact stable.decodeFragment key (denotes key fragment present)
  · exact Keeps.pure nofun

theorem elementOf {found : Entries String} (denotes : Entries.Denote N found)
    {body : Nat → Run σ (Except RenderError Unit)} (element : Nat × String)
    (upholds : Upholds invariant.At (body element.1)) (isolated : Isolated (body element.1)) :
    Keeps invariant.At
      (Delivers fun built => N built.1 ∧ ∀ fragment, built.2 = some fragment → Json.Tells N fragment.2)
      (Run.elementOf found body element) := by
  rw [elementOf_eq]
  refine (stable.decodeFound denotes element.2).bind fun kept holds => ?_
  cases kept with
  | some node =>
    exact (stable.log _).bind fun _ _ => Keeps.pure (delivers_ok ⟨holds node rfl, nofun⟩)
  | none =>
    refine (stable.log _).bind fun _ _ => ?_
    refine (stable.nested upholds isolated).bind fun outcome built => Keeps.pure (built.map fun node holds => ?_)
    refine ⟨holds, ?_⟩
    rintro fragment ⟨⟩
    exact ⟨node, holds, rfl⟩

section Stored

variable {store : Cache.Store σ} (stored : invariant.Stored N store)

include stored

theorem readFragment (key : String) :
    Keeps invariant.At (fun kept => ∀ node, kept = some node → N node) (Run.readFragment store key) := by
  refine (stored.read key).bind fun answer found => ?_
  split
  · exact Keeps.pure nofun
  · exact stable.decodeFragment key (found _ rfl)
  · exact (stable.log _).bind fun _ _ => Keeps.pure nofun

theorem writeFragment (key : String) (lifetime : Option Nat) {node : Json} (holds : N node) :
    Upholds invariant.At (Run.writeFragment store key lifetime node) := by
  refine (stored.write key lifetime ⟨node, holds, rfl⟩).bind fun answer _ => ?_
  split
  · exact Keeps.pure trivial
  · exact stable.log _

theorem fetchOrBuild (key : String) (lifetime : Option Nat) {body : Run σ (Except RenderError Unit)}
    (upholds : Upholds invariant.At body) (isolated : Isolated body) :
    Keeps invariant.At (Delivers N) (Run.fetchOrBuild store key lifetime body) := by
  rw [fetchOrBuild_eq]
  refine (stable.readFragment stored key).bind fun kept holds => ?_
  cases kept with
  | some node => exact (stable.log _).bind fun _ _ => Keeps.pure (delivers_ok (holds node rfl))
  | none =>
    refine (stable.log _).bind fun _ _ => ?_
    refine (stable.nested upholds isolated).succeeding (fun _ => rfl) fun node holds => ?_
    exact (stable.writeFragment stored key lifetime holds).bind fun _ _ => Keeps.pure (delivers_ok holds)

theorem readFragments {batch : Cache.Batch σ} (batched : store.batch = some batch) (keys : List String) :
    Keeps invariant.At (Entries.Denote N) (Run.readFragments batch keys) := by
  refine (stored.readBatch keys batched).bind fun answer denotes => ?_
  cases answer with
  | ok found => exact (stable.log _).bind fun _ _ => Keeps.pure (denotes found rfl)
  | error error =>
    exact (stable.log _).bind fun _ _ => (stable.log _).bind fun _ _ => Keeps.pure nofun

theorem writeFragments {batch : Cache.Batch σ} (batched : store.batch = some batch) (lifetime : Option Nat)
    {fragments : List (String × String)} (tells : ∀ fragment ∈ fragments, Json.Tells N fragment.2) :
    Upholds invariant.At (Run.writeFragments batch lifetime fragments) := by
  unfold Run.writeFragments
  split
  · exact Keeps.pure trivial
  · refine (stored.writeBatch lifetime batched tells).bind fun failed _ => ?_
    exact (stable.silent (.logAll failed)).bind fun _ _ => stable.log _

variable {body : Nat → Run σ (Except RenderError Unit)} (upholds : ∀ index, Upholds invariant.At (body index))
  (isolated : ∀ index, Isolated (body index))

include upholds isolated

theorem cacheBatched {batch : Cache.Batch σ} (batched : store.batch = some batch) (lifetime : Option Nat)
    (elements : List (Nat × String)) :
    Keeps invariant.At (Delivers N) (Run.cacheBatched batch lifetime body elements) := by
  rw [cacheBatched_eq]
  refine (stable.readFragments stored batched _).bind fun found denotes => ?_
  have each := fun element (_ : element ∈ elements) =>
    stable.elementOf denotes element (upholds element.1) (isolated element.1)
  refine (Keeps.collect each).succeeding (fun _ => rfl) fun results built => ?_
  have tells : ∀ fragment ∈ results.filterMap Prod.snd, Json.Tells N fragment.2 := by
    intro fragment member
    obtain ⟨result, among, kept⟩ := List.mem_filterMap.1 member
    exact (built result among).2 fragment kept
  have nodes : ∀ node ∈ results.map Prod.fst, N node := by
    intro node member
    obtain ⟨result, among, rfl⟩ := List.mem_map.1 member
    exact (built result among).1
  refine (stable.writeFragments stored batched lifetime tells).bind fun _ _ => ?_
  exact Keeps.pure (delivers_ok (stable.arrays nodes))

theorem cacheNamed (lifetime : Option Nat) (names : Except RenderError (List (Nat × String))) :
    Keeps invariant.At (Delivers N) (Run.cacheNamed store lifetime body names) := by
  unfold Run.cacheNamed
  cases names with
  | error error => exact Keeps.pure (delivers_error N error)
  | ok elements =>
    dsimp only
    split
    · rename_i batch batched
      exact stable.cacheBatched stored upholds isolated batched lifetime elements
    · refine (stable.log _).bind fun _ _ => Keeps.mapped (Keeps.collect fun element _ => ?_) fun _ => stable.arrays
      exact stable.fetchOrBuild stored element.2 lifetime (upholds element.1) (isolated element.1)

end Stored

variable {renderer : Renderer σ} (stored : ∀ store, renderer.activeStore = some store → invariant.Stored N store)

include stored

theorem cacheOne (condition : Bool) (key : Cache.KeyExpr) (options : Cache.Options)
    {body : Run σ (Except RenderError Unit)} (upholds : Upholds invariant.At body) (isolated : Isolated body) :
    Upholds invariant.At (Run.cacheOne renderer condition key options body) := by
  have built := stable.spliced (stable.nested upholds isolated)
  unfold Run.cacheOne
  split
  · split
    · exact (stable.log _).bind fun _ _ => built
    · rename_i store active
      refine (stable.silent (.nameFragment renderer key options)).bind fun name _ => ?_
      exact stable.spliced (stable.fetchOrBuild (stored store active) name _ upholds isolated)
  · exact (stable.log _).bind fun _ _ => built

theorem cacheEach (items : Option (List Json.Payload)) (options : Cache.Options)
    (key : Option (Nat → Cache.KeyExpr)) {body : Nat → Run σ (Except RenderError Unit)}
    (upholds : ∀ index, Upholds invariant.At (body index)) (isolated : ∀ index, Isolated (body index)) :
    Upholds invariant.At (Run.cacheEach renderer items options key body) := by
  cases items with
  | none => exact stable.splice (delivers_ok stable.emptyArray)
  | some items =>
    cases active : renderer.activeStore with
    | none =>
      rw [cacheEach_inactive active]
      exact (stable.log _).bind fun _ _ => stable.buildElements upholds isolated _
    | some store =>
      rw [cacheEach_eq active]
      refine (stable.silent (.nameElements renderer options key (indexed items))).bind fun names _ => ?_
      exact stable.spliced (stable.cacheNamed (stored store active) upholds isolated _ names)

end Stable

end Invariant

end Run

end Stencil
