import Mathlib.Data.Set.List
import Stencil.Proofs.Cache.Warm
import Stencil.Proofs.Run.Added
import Stencil.Proofs.Run.Quiet

/-!
# Collections in one batch

A collection that is cached in one batch takes each element from what one read has found, or else from the block,
and keeps what the block has built with one write. If the block makes no cache calls of its own, that is all there
is to such a call: `collected_in_batch` gives the scopes, the store and the events after it, whatever the store
answers. The latest event comes first in every list of them.
-/

namespace Stencil

open Cache

variable {σ : Type}

/-- What the scope holds as an array, if it may be one. -/
def Body.elements? : Body → Option (List Json)
  | .empty => some []
  | .elements items => some items
  | _ => none

theorem Scope.splice_array_of_some {scope : Scope} {before : List Json} (holds : scope.body.elements? = some before)
    (nodes : List Json) :
    scope.splice (.arr nodes) = (.ok (), { scope with body := .elements (before ++ nodes) }) := by
  obtain ⟨body, keyFormat, ignoreNil⟩ := scope
  cases body <;> cases holds <;> rfl

theorem Scope.splice_array_of_none {scope : Scope} (other : scope.body.elements? = none) (nodes : List Json) :
    scope.splice (.arr nodes) = (.error (.shapeConflict .mergeArray scope.shape), scope) := by
  obtain ⟨body, keyFormat, ignoreNil⟩ := scope
  cases body <;> cases other <;> rfl

namespace Run

/-- The fragment of an element that had to be built. -/
def rebuilt? (found : Entries String) (element : String × Json) : Option (String × String) :=
  if (nodeIn found element.1).isSome then none else some (element.1, element.2.compact)

/-- The fragments of the elements that had to be built, in their order. -/
def rebuilt (found : Entries String) (keys : List String) (nodes : List Json) : List (String × String) :=
  (keys.zip nodes).filterMap (rebuilt? found)

/-! ### Events -/

theorem filter_readEvents (keys : List String) (answer : Except StoreError (Entries String)) :
    (readEvents keys answer).filter Event.ofStore = [.readBatch keys answer] := by
  cases answer <;> rfl

theorem filter_of_plain {events : List Event} (plain : ∀ event ∈ events, event.ofStore = false) :
    events.filter Event.ofStore = [] :=
  List.filter_eq_nil_iff.2 fun event member => by simp [plain event member]

theorem filter_writeEvents (fragments : List (String × String)) (lifetime : Option Nat)
    (failed : List (String × StoreError)) :
    (writeEvents fragments lifetime failed).filter Event.ofStore =
      if fragments = [] then [] else [.writeBatch fragments lifetime failed] := by
  unfold writeEvents
  split
  · rfl
  · have logged : ∀ event ∈ (failed.map fun failure => Event.log (.writeFailed failure.1 failure.2)).reverse,
        event.ofStore = false := by
      intro event member
      obtain ⟨failure, -, rfl⟩ := List.mem_map.1 (List.mem_reverse.1 member)
      rfl
    rw [List.filter_cons_of_neg (by simp [Event.ofStore]), List.filter_append, filter_of_plain logged]
    rfl

/-- If all else calls no store, what is left of the events is one read and at most one write. -/
theorem filter_collected {fragments : List (String × String)} {lifetime : Option Nat}
    {failed : List (String × StoreError)} {served : List (List Event)} {keys : List String}
    {answer : Except StoreError (Entries String)} {naming : List Event}
    (plainServed : ∀ events ∈ served, ∀ event ∈ events, event.ofStore = false)
    (plainNaming : ∀ event ∈ naming, event.ofStore = false) :
    (writeEvents fragments lifetime failed ++ (served.reverse.flatten ++
      (readEvents keys answer ++ naming))).reverse.filter Event.ofStore =
        .readBatch keys answer :: if fragments = [] then [] else [.writeBatch fragments lifetime failed] := by
  have plain : ∀ event ∈ served.reverse.flatten, event.ofStore = false := by
    intro event member
    obtain ⟨events, among, within⟩ := List.mem_flatten.1 member
    exact plainServed events (List.mem_reverse.1 among) event within
  rw [List.filter_reverse, List.filter_append, List.filter_append, List.filter_append, filter_writeEvents,
    filter_of_plain plain, filter_readEvents, filter_of_plain plainNaming]
  split <;> rfl

/-! ### The array -/

theorem splice_array {world : World σ} {before : List Json}
    (holds : world.builder.current.body.elements? = some before) (nodes : List Json) :
    splice (.ok (.arr nodes)) world = some (.ok (), world.withElements (before ++ nodes)) := by
  show some _ = some _
  simp only [Builder.edit, Scope.splice_array_of_some holds, World.withElements]

theorem splice_array_ok {nodes : List Json} {world after : World σ}
    (ran : splice (.ok (.arr nodes)) world = some (.ok (), after)) :
    ∃ before, world.builder.current.body.elements? = some before ∧ after = world.withElements (before ++ nodes) := by
  cases holds : world.builder.current.body.elements? with
  | none =>
    have edited : (world.builder.edit (Scope.splice (.arr nodes))).1 = .ok () := (result_inj ran).1
    simp only [Builder.edit, Scope.splice_array_of_none holds] at edited
    contradiction
  | some before => exact ⟨before, rfl, (result_inj (ran.symm.trans (splice_array holds nodes))).2⟩

/-! ### What the blocks do -/

theorem adds_of_free {Q : Event → List Event → Prop} (plain : ∀ event earlier, event.ofStore = false → Q event earlier)
    {renderer : Renderer σ} {block : Block} (free : block.Every renderer.resolve Block.CacheFree) (bound : Nat)
    (world : World σ) : Adds Q (nested (block.runWithin renderer bound)) world := by
  have kept : Hereditary False (fun _ run => ∀ (i : Unit) world, Adds Q (run i) world : Property Unit σ) :=
    hereditary_adds plain
  have lifts : Lifts False (fun _ run => ∀ (i : Unit) world, Adds Q (run i) world) (fun _ => renderer)
      renderer.resolve Block.CacheFree :=
    { kept := kept
      caches := ⟨False.elim, False.elim⟩
      shared := fun _ => rfl
      settings := fun _ => ⟨renderer.settings, fun _ => rfl⟩
      stops := False.elim }
  have exceeded : ∀ (i : Unit) world, Adds Q (failure : Run σ (Except RenderError Unit)) world :=
    fun _ _ _ _ impossible => by contradiction
  exact kept.nesting (block.runWithin_of_hereditary lifts exceeded bound free) () world

end Run

open Run

namespace Renderer

/-- Nested in these scopes the block builds the node and leaves the events, and it leaves all else as it is. -/
def Makes (renderer : Renderer σ) (bound : Nat) (block : Block) (builder : Builder) (node : Json)
    (events : List Event) : Prop :=
  ∀ world : World σ, world.builder = builder → Moment.build renderer ⟨bound, block, world⟩ =
    some (.ok node, { world with events := events ++ world.events })

/-- An element comes by its node, and leaves its events: it was found, or its block builds it. -/
inductive Serves (renderer : Renderer σ) (bound : Nat) (block : Nat → Block) (builder : Builder)
    (found : Entries String) (element : Nat × String) : Json × List Event → Prop where
  | kept {node : Json} (present : nodeIn found element.2 = some node) :
      Serves renderer bound block builder found element (node, [.log (.fragmentHit element.2)])
  | built {node : Json} {events : List Event} (absent : nodeIn found element.2 = none)
      (makes : renderer.Makes bound (block element.1) builder node events) :
      Serves renderer bound block builder found element
        (node, events ++ .log (.fragmentMiss element.2) :: discarded found element.2)

/-- The store keys of a collection's elements. -/
def elementKeys (renderer : Renderer σ) (options : Options) (key : Option (Nat → KeyExpr)) (values : List Json) :
    List String :=
  (indexed values).map fun item => renderer.storeKey (elementKey key item.1 item.2) options

variable {renderer : Renderer σ} {options : Options} {key : Option (Nat → KeyExpr)}

theorem elements_of_names {items : List Json.Payload} {elements : List (Nat × String)}
    (named : (indexed items).mapM (elementName renderer options key) = .ok elements) :
    ∃ values, items = values.map .ok ∧ elements = indexed (renderer.elementKeys options key values) := by
  have each := forall₂_of_mapM_ok named
  have converted : ∀ item ∈ items, item ∈ Set.range (Except.ok : Json → Json.Payload) := by
    intro item member
    rw [← map_snd_indexed items] at member
    obtain ⟨⟨index, item⟩, numbered, rfl⟩ := List.mem_map.1 member
    obtain ⟨element, -, name⟩ := exists_zip_of_mem each numbered
    obtain ⟨value, same, -⟩ := elementName_ok name
    exact ⟨value, (Prod.mk.inj same).2.symm⟩
  obtain ⟨values, rfl⟩ : items ∈ Set.range (List.map Except.ok) := Set.range_list_map _ ▸ converted
  refine ⟨values, rfl, ?_⟩
  rw [indexed_map, List.forall₂_map_left_iff] at each
  rw [elementKeys, indexed_map_indexed]
  have same : List.Forall₂ Eq ((indexed values).map fun item =>
      (item.1, renderer.storeKey (elementKey key item.1 item.2) options)) elements :=
    List.forall₂_map_left_iff.2 (each.imp fun _ _ name => Except.ok.inj name)
  rw [List.forall₂_eq_eq_eq] at same
  exact same.symm

theorem cacheBatched_of_cacheEach {store : Store σ} {batch : Batch σ} (active : renderer.activeStore = some store)
    (batched : store.batch = some batch) {items : List Json.Payload}
    {body : Nat → Run σ (Except RenderError Unit)} {world after : World σ}
    (ran : cacheEach renderer (some items) options key body world = some (.ok (), after)) :
    ∃ values naming array cached, items = values.map .ok ∧ (∀ event ∈ naming, event.ofStore = false) ∧
      collect (nameElement renderer options key) (indexed items) world =
        some (.ok (indexed (renderer.elementKeys options key values)), { world with events := naming ++ world.events }) ∧
      cacheBatched batch (renderer.lifetime options) body (indexed (renderer.elementKeys options key values))
        { world with events := naming ++ world.events } = some (.ok array, cached) ∧
      splice (.ok array) cached = some (.ok (), after) := by
  rw [cacheEach_eq active] at ran
  obtain ⟨outcome, named, names, rest⟩ := bind_some ran
  obtain ⟨array, cached, caching, splicing⟩ := bind_some rest
  cases array with
  | error error => cases (result_inj splicing).1
  | ok array =>
    obtain ⟨value, naming, result, plain⟩ := (Silent.nameElements renderer options key (indexed items)).plain world
    obtain ⟨rfl, rfl⟩ := result_inj (result.symm.trans names)
    cases value with
    | error error => cases (result_inj caching).1
    | ok elements =>
      obtain ⟨values, same, rfl⟩ := elements_of_names (nameElements_value names).symm
      simp only [cacheNamed, batched] at caching
      exact ⟨values, naming, array, cached, same, plain, names, caching, splicing⟩

section Elements

variable {bound : Nat} {block : Nat → Block} (free : ∀ index, (block index).Every renderer.resolve Block.CacheFree)
  {found : Entries String}

theorem makes_of_free {body : Block} (free : body.Every renderer.resolve Block.CacheFree) {world after : World σ}
    {node : Json} (building : nested (body.runWithin renderer bound) world = some (.ok node, after)) :
    ∃ events, renderer.Makes bound body world.builder node events ∧ (∀ event ∈ events, event.ofStore = false) ∧
      after = { world with events := events ++ world.events } := by
  have quiet : Quiet fun _ : Unit => body.runWithin renderer bound :=
    quiet_runWithin (fun _ => renderer) (fun _ => rfl) (fun _ => rfl) bound free
  have kept : after.builder = world.builder := nested_keeps (isolated_runWithin renderer bound body) building
  obtain ⟨effect, ran⟩ := quiet.nested
  obtain ⟨⟨outcome, builder, events⟩, did, same⟩ := Option.map_eq_some_iff.1 ((ran () world).symm.trans building)
  obtain ⟨rfl, rfl⟩ := Prod.mk.inj same
  obtain rfl : builder = world.builder := kept
  refine ⟨events, fun other same => ?_, fun event member => ?_, rfl⟩
  · rw [Moment.build]
    refine (ran () other).trans ?_
    rw [same, did, ← same]
    rfl
  · have adds := adds_of_free (fun event _ plain => plain) free bound world
    obtain ⟨-, plain⟩ := adds.of_mem building rfl member
    exact plain

include free

theorem serves_element {element : Nat × String} {world after : World σ} {result : Json × Option (String × String)}
    (ran : elementOf found (fun index => (block index).runWithin renderer bound) element world =
      some (.ok result, after)) :
    ∃ course, renderer.Serves bound block world.builder found element course ∧
      (∀ event ∈ course.2, event.ofStore = false) ∧ result = (course.1, rebuilt? found (element.2, course.1)) ∧
      after = { world with events := course.2 ++ world.events } := by
  rw [elementOf_eq, bind_of_some (decodeFound_apply found element.2 world)] at ran
  cases decoded : nodeIn found element.2 with
  | some node =>
    rw [decoded, discarded_of_nodeIn decoded] at ran
    obtain ⟨rfl, rfl⟩ := ok_inj ran
    exact ⟨_, .kept decoded, by simp [Event.ofStore], by simp [rebuilt?, decoded], rfl⟩
  | none =>
    rw [decoded, elementFrom_none, Option.map_eq_some_iff] at ran
    obtain ⟨⟨outcome, ended⟩, building, same⟩ := ran
    obtain ⟨built, rfl⟩ := Prod.mk.inj same
    cases outcome with
    | error error => contradiction
    | ok node =>
      obtain rfl := Except.ok.inj built
      obtain ⟨events, makes, plain, rfl⟩ := makes_of_free (free element.1) building
      refine ⟨_, .built decoded makes, fun event member => ?_, by simp [rebuilt?, decoded], by simp⟩
      rcases List.mem_append.1 member with own | before
      · exact plain event own
      · rcases List.mem_cons.1 before with rfl | undecodable
        · rfl
        · exact plain_of_discarded undecodable

theorem serves_elements {elements : List (Nat × String)} {world after : World σ}
    {results : List (Json × Option (String × String))}
    (loop : collect (elementOf found fun index => (block index).runWithin renderer bound) elements world =
      some (.ok results, after)) :
    ∃ courses, List.Forall₂ (renderer.Serves bound block world.builder found) elements courses ∧
      (∀ course ∈ courses, ∀ event ∈ course.2, event.ofStore = false) ∧
      results.map Prod.fst = courses.map Prod.fst ∧
      results.filterMap Prod.snd = rebuilt found (elements.map Prod.snd) (courses.map Prod.fst) ∧
      after = { world with events := (courses.map Prod.snd).reverse.flatten ++ world.events } := by
  induction elements generalizing world results with
  | nil =>
    obtain ⟨rfl, rfl⟩ := ok_inj loop
    exact ⟨[], .nil, by simp, rfl, rfl, rfl⟩
  | cons element rest ih =>
    obtain ⟨error, -, impossible⟩ | ⟨result, middle, outcome, stepped, others, same⟩ := collect_cons_some loop
    · contradiction
    · cases outcome with
      | error error => contradiction
      | ok more =>
        obtain rfl := Except.ok.inj same
        obtain ⟨course, serves, plain, rfl, rfl⟩ := serves_element free stepped
        obtain ⟨courses, servesAll, plainAll, nodes, fragments, rfl⟩ := ih others
        refine ⟨course :: courses, .cons serves servesAll, ?_, ?_, ?_, ?_⟩
        · exact List.forall_mem_cons.2 ⟨plain, plainAll⟩
        · rw [List.map_cons, List.map_cons, nodes]
        · unfold rebuilt at fragments ⊢
          rw [List.filterMap_cons, fragments]
          rfl
        · simp

omit free

theorem loop_of_cacheBatched {batch : Batch σ} {lifetime : Option Nat} {body : Nat → Run σ (Except RenderError Unit)}
    {keys : List String} {world after : World σ} {array : Json}
    (ran : cacheBatched batch lifetime body (indexed keys) world = some (.ok array, after)) :
    ∃ results last, collect (elementOf (foundBy (batch.read keys world.store).1) body) (indexed keys)
        ⟨world.builder, (batch.read keys world.store).2, readEvents keys (batch.read keys world.store).1 ++ world.events⟩ =
          some (.ok results, last) ∧ array = .arr (results.map Prod.fst) ∧
      writeFragments batch lifetime (results.filterMap Prod.snd) last = some ((), after) := by
  rw [cacheBatched_eq, map_snd_indexed, bind_of_some (readFragments_apply batch keys world)] at ran
  obtain ⟨outcome, last, loop, keeping⟩ := bind_some ran
  cases outcome with
  | error error => cases (result_inj keeping).1
  | ok results =>
    obtain ⟨_, written, writing, ended⟩ := bind_some keeping
    obtain ⟨rfl, rfl⟩ := ok_inj ended
    exact ⟨results, last, loop, rfl, writing⟩

/-! ### Calls that succeed -/

theorem elementOf_of_serves {element : Nat × String} {course : Json × List Event} {world : World σ}
    (serves : renderer.Serves bound block world.builder found element course) :
    ∃ result, elementOf found (fun index => (block index).runWithin renderer bound) element world =
      some (.ok result, { world with events := course.2 ++ world.events }) := by
  rw [elementOf_eq, bind_of_some (decodeFound_apply found element.2 world)]
  cases serves with
  | kept present =>
    rw [present, discarded_of_nodeIn present]
    exact ⟨_, rfl⟩
  | @built node events absent makes =>
    have building := makes (World.noted (.log (.fragmentMiss element.2))
      { world with events := discarded found element.2 ++ world.events }) rfl
    have built : nested ((block element.1).runWithin renderer bound) _ = _ := building
    rw [absent, elementFrom_none]
    refine ⟨(node, some (element.2, node.compact)), ?_⟩
    refine (congrArg (Option.map _) built).trans ?_
    simp [World.noted, withBuilt, Except.map]

theorem collect_of_serves {elements : List (Nat × String)} {builder : Builder}
    (each : ∀ element ∈ elements, ∃ course, renderer.Serves bound block builder found element course)
    {world : World σ} (scopes : world.builder = builder) :
    ∃ results after, collect (elementOf found fun index => (block index).runWithin renderer bound) elements world =
      some (.ok results, after) ∧ after.builder = builder := by
  induction elements generalizing world with
  | nil => exact ⟨[], world, rfl, scopes⟩
  | cons element rest ih =>
    obtain ⟨course, serves⟩ := each element List.mem_cons_self
    obtain ⟨result, stepped⟩ := elementOf_of_serves (scopes ▸ serves)
    have noted : { world with events := course.2 ++ world.events : World σ }.builder = builder := scopes
    obtain ⟨results, after, others, kept⟩ :=
      ih (fun other member => each other (List.mem_cons_of_mem _ member)) noted
    refine ⟨result :: results, after, ?_, kept⟩
    rw [collect_of_ok stepped others]
    rfl

section Batched

variable {store : Store σ} {batch : Batch σ} {lifetime : Option Nat} {keys : List String} {world after : World σ}
  {array : Json}

/-- The blocks that run are those of the elements that have not been found. -/
theorem nests_iff_absent {items : List Json.Payload} (next : Except RenderError Unit → Block) {start : World σ}
    (active : renderer.activeStore = some store) (batched : store.batch = some batch)
    (names : collect (nameElement renderer options key) (indexed items) start = some (.ok (indexed keys), world))
    (ran : cacheBatched batch lifetime (fun index => (block index).runWithin renderer bound) (indexed keys) world =
      some (.ok array, after)) (purpose : Purpose) :
    (∃ inner, Moment.Nests renderer ⟨bound, .cacheCollection (some items) options key block next, start⟩
      purpose inner) ↔
    ∃ index name, purpose = .element index ∧ keys[index]? = some name ∧
      nodeIn (foundBy (batch.read keys world.store).1) name = none := by
  have reads := readFragments_apply batch keys world
  rw [← map_snd_indexed keys] at reads
  constructor
  · rintro ⟨inner, nests⟩
    obtain ⟨index, name, reached, missed, rfl, -, visits, absent⟩ := nests.of_batched active batched names reads
    rw [decodeFound_apply, map_snd_indexed] at absent
    exact ⟨index, name, rfl, mem_indexed.1 visits.mem, (result_inj absent).1⟩
  · rintro ⟨index, name, rfl, found, absent⟩
    obtain ⟨results, last, loop, -, -⟩ := loop_of_cacheBatched ran
    obtain ⟨reached, visits⟩ := Visits.exists_of_mem loop (mem_indexed.2 found : (index, name) ∈ _)
    have missed := decodeFound_apply (foundBy (batch.read keys world.store).1) name reached
    rw [absent] at missed
    rw [map_snd_indexed] at reads
    exact ⟨_, .batched active batched names (by rw [map_snd_indexed, reads]) visits missed⟩

include free

theorem cacheBatched_ok
    (ran : cacheBatched batch lifetime (fun index => (block index).runWithin renderer bound) (indexed keys) world =
      some (.ok array, after)) :
    ∃ courses, List.Forall₂ (renderer.Serves bound block world.builder (foundBy (batch.read keys world.store).1))
        (indexed keys) courses ∧
      (∀ course ∈ courses, ∀ event ∈ course.2, event.ofStore = false) ∧ array = .arr (courses.map Prod.fst) ∧
      let fragments := rebuilt (foundBy (batch.read keys world.store).1) keys (courses.map Prod.fst)
      let kept := batch.keep lifetime fragments (batch.read keys world.store).2
      after = ⟨world.builder, kept.2, writeEvents fragments lifetime kept.1 ++
        ((courses.map Prod.snd).reverse.flatten ++ (readEvents keys (batch.read keys world.store).1 ++ world.events))⟩ := by
  obtain ⟨results, last, loop, rfl, writing⟩ := loop_of_cacheBatched ran
  obtain ⟨courses, serves, plain, nodes, fragments, rfl⟩ := serves_elements free loop
  rw [fragments, map_snd_indexed, writeFragments_apply] at writing
  obtain ⟨-, rfl⟩ := result_inj writing
  exact ⟨courses, serves, plain, by rw [nodes], rfl⟩

omit free

theorem cacheBatched_of_serves (each : ∀ element ∈ indexed keys, ∃ course,
      renderer.Serves bound block world.builder (foundBy (batch.read keys world.store).1) element course) :
    ∃ nodes after, cacheBatched batch lifetime (fun index => (block index).runWithin renderer bound) (indexed keys)
      world = some (.ok (.arr nodes), after) ∧ after.builder = world.builder := by
  rw [cacheBatched_eq, map_snd_indexed, bind_of_some (readFragments_apply batch keys world)]
  have asked : (⟨world.builder, (batch.read keys world.store).2,
      readEvents keys (batch.read keys world.store).1 ++ world.events⟩ : World σ).builder = world.builder := rfl
  obtain ⟨results, last, loop, scopes⟩ := collect_of_serves each asked
  rw [bind_of_some loop]
  exact ⟨results.map Prod.fst, _, bind_of_some (writeFragments_apply batch lifetime _ last), scopes⟩

end Batched

end Elements

/-- Such a call succeeds if all items have a JSON form, each is served, and the innermost scope may be an array. -/
theorem succeeds_of_serves {store : Store σ} {batch : Batch σ} (active : renderer.activeStore = some store)
    (batched : store.batch = some batch) (values : List Json) {bound : Nat} {block : Nat → Block} {world : World σ}
    (each : ∀ element ∈ indexed (renderer.elementKeys options key values), ∃ course,
      renderer.Serves bound block world.builder
        (foundBy (batch.read (renderer.elementKeys options key values) world.store).1) element course)
    {before : List Json} (holds : world.builder.current.body.elements? = some before) :
    ∃ after, (Block.cacheCollection (some (values.map .ok)) options key block .done).runWithin renderer bound world =
      some (.ok (), after) := by
  rw [collection_runWithin, cacheEach_eq active]
  have converted : ∀ item ∈ indexed (values.map .ok : List Json.Payload), ∃ value, item.2 = .ok value := by
    intro item member
    obtain ⟨value, -, same⟩ := List.mem_map.1 (snd_mem_of_indexed member)
    exact ⟨value, same.symm⟩
  obtain ⟨elements, value, -⟩ := names_of_values renderer options key converted
  obtain ⟨again, same, rfl⟩ := elements_of_names value
  obtain rfl := List.map_injective_iff.2 (fun _ _ => Except.ok.inj) same
  obtain ⟨names, naming, named, -⟩ :=
    (Silent.nameElements renderer options key (indexed (values.map .ok))).plain world
  obtain rfl : names = .ok _ := (nameElements_value named).trans value
  rw [bind_of_some named]
  simp only [cacheNamed, batched]
  obtain ⟨nodes, cached, caching, scopes⟩ : ∃ nodes cached, cacheBatched batch (renderer.lifetime options)
      (fun index => (block index).runWithin renderer bound) (indexed (renderer.elementKeys options key values))
      { world with events := naming ++ world.events } = some (.ok (.arr nodes), cached) ∧
        cached.builder = world.builder :=
    cacheBatched_of_serves each
  rw [bind_of_some caching]
  exact ⟨_, splice_array (scopes ▸ holds) nodes⟩

/--
Caching a collection in one batch succeeds if each element can be served. It names the elements, reads them all,
serves one after the other, writes those that had to be built, and appends the nodes to the innermost scope. The
blocks make no cache calls of their own.
-/
theorem collected_in_batch (renderer : Renderer σ) {store : Store σ} {batch : Batch σ}
    (active : renderer.activeStore = some store) (batched : store.batch = some batch) (items : List Json.Payload)
    (options : Options) (key : Option (Nat → KeyExpr)) (block : Nat → Block)
    (free : ∀ index, (block index).Every renderer.resolve Block.CacheFree) (world : World σ) :
    let call : Block := .cacheCollection (some items) options key block .done
    (call.Finite renderer.resolve → ∃ bound result, call.runWithin renderer bound world = some result) ∧
    (∀ bound values before, items = values.map .ok → world.builder.current.body.elements? = some before →
      let keys := renderer.elementKeys options key values
      (∀ element ∈ indexed keys, ∃ course,
        renderer.Serves bound block world.builder (foundBy (batch.read keys world.store).1) element course) →
      ∃ after, call.runWithin renderer bound world = some (.ok (), after)) ∧
    ∀ bound after, call.runWithin renderer bound world = some (.ok (), after) →
      ∃ values before naming courses, items = values.map .ok ∧ world.builder.current.body.elements? = some before ∧
        let keys := renderer.elementKeys options key values
        let asked := batch.read keys world.store
        let found := foundBy asked.1
        let nodes := courses.map Prod.fst
        let fragments := rebuilt found keys nodes
        let kept := batch.keep (renderer.lifetime options) fragments asked.2
        let added := writeEvents fragments (renderer.lifetime options) kept.1 ++
          ((courses.map Prod.snd).reverse.flatten ++ (readEvents keys asked.1 ++ naming))
        collect (nameElement renderer options key) (indexed items) world =
          some (.ok (indexed keys), { world with events := naming ++ world.events }) ∧
        List.Forall₂ (renderer.Serves bound block world.builder found) (indexed keys) courses ∧
        (∀ purpose, (∃ inner, Moment.Nests renderer ⟨bound, call, world⟩ purpose inner) ↔
          ∃ index name, purpose = .element index ∧ keys[index]? = some name ∧ nodeIn found name = none) ∧
        after = ⟨(world.withElements (before ++ nodes)).builder, kept.2, added ++ world.events⟩ ∧
        added.reverse.filter Event.ofStore = .readBatch keys asked.1 ::
          if fragments = [] then [] else [.writeBatch fragments (renderer.lifetime options) kept.1] := by
  intro call
  refine ⟨fun finite => ?_, ?_, fun bound after ran => ?_⟩
  · have settled : Settled fun bound => call.runWithin renderer bound := settled_runWithin finite
    obtain ⟨bound, result, ran⟩ := settled world
    exact ⟨bound, result, ran bound (Nat.le_refl bound)⟩
  · rintro bound values before rfl holds keys each
    exact succeeds_of_serves active batched values each holds
  · rw [collection_runWithin] at ran
    obtain ⟨values, naming, array, cached, converted, plain, names, caching, splicing⟩ :=
      cacheBatched_of_cacheEach active batched ran
    have nests := nests_iff_absent .done active batched names caching
    obtain ⟨courses, serves, plainCourses, rfl, rfl⟩ := cacheBatched_ok free caching
    obtain ⟨before, holds, rfl⟩ := splice_array_ok splicing
    refine ⟨values, before, naming, courses, converted, holds, names, serves, nests, ?_, ?_⟩
    · simp only [World.withElements, List.append_assoc]
    · refine filter_collected (fun events member => ?_) plain
      obtain ⟨course, among, rfl⟩ := List.mem_map.1 member
      exact plainCourses course among

/-- A list in a document with keys in camel case; one fragment was kept with other keys, and one is broken. -/
def inCamelCase : World MemoryStore :=
  ⟨⟨.fresh ⟨[.camelize .lower]⟩ false, []⟩, ⟨[("jstreamer/true", ⟨"\x7b\"first_name\":\"Ada\"\x7d", none⟩),
    ("jstreamer/false", ⟨"broken", none⟩)], {}⟩, []⟩

def authors : List Json := [.bool true, .bool false, .str "new", .bool true]

def author (_ : Nat) : Block := .act (.set "first_name" (.ok (.str "Grace"))) .done

def authorNodes : List Json :=
  [.obj [("first_name", .str "Ada")], .obj [("firstName", .str "Grace")], .obj [("firstName", .str "Grace")],
    .obj [("first_name", .str "Ada")]]

def graceText : String := "\x7b\"firstName\":\"Grace\"\x7d"

theorem collected_in_batch_authors : ∃ after,
    (Block.cacheCollection (some (authors.map .ok)) {} none author .done).runWithin withMemory 0 inCamelCase =
      some (.ok (), after) ∧ after.builder.current.body = .elements authorNodes ∧
    ∃ answer failed, after.events.reverse.filter Event.ofStore =
      [.readBatch ["jstreamer/true", "jstreamer/false", "jstreamer/new", "jstreamer/true"] answer,
        .writeBatch [("jstreamer/false", graceText), ("jstreamer/new", graceText)]
          none failed] := by
  have free : ∀ index, (author index).Every withMemory.resolve Block.CacheFree := by
    intro index
    simp [author, Block.every_act, Block.every_done, Block.CacheFree]
  obtain ⟨-, -, collects⟩ := collected_in_batch withMemory rfl rfl (authors.map .ok) {} none author free inCamelCase
  have ran : ((Block.cacheCollection (some (authors.map .ok)) {} none author .done).runWithin withMemory 0
      inCamelCase).map (fun result => (result.1.toOption, result.2.builder.current.body)) =
        some (some (), .elements authorNodes) := by
    decide +kernel
  obtain ⟨⟨outcome, after⟩, running, same⟩ := Option.map_eq_some_iff.1 ran
  obtain ⟨succeeded, body⟩ := Prod.mk.inj same
  cases outcome with
  | error error => cases succeeded
  | ok =>
    obtain ⟨values, before, naming, courses, converted, holds, rest⟩ := collects 0 after running
    obtain ⟨-, -, -, world, calls⟩ := rest
    obtain rfl := List.map_injective_iff.2 (fun _ _ => Except.ok.inj) converted
    obtain rfl := Option.some.inj holds
    have nodes : courses.map Prod.fst = authorNodes :=
      Body.elements.inj ((congrArg (fun world => world.builder.current.body) world).symm.trans body)
    have keys : withMemory.elementKeys {} none authors =
        ["jstreamer/true", "jstreamer/false", "jstreamer/new", "jstreamer/true"] := by
      decide +kernel
    have fragments : rebuilt (foundBy (MemoryStore.batch.read
          ["jstreamer/true", "jstreamer/false", "jstreamer/new", "jstreamer/true"] inCamelCase.store).1)
        ["jstreamer/true", "jstreamer/false", "jstreamer/new", "jstreamer/true"] authorNodes =
          [("jstreamer/false", graceText), ("jstreamer/new", graceText)] := by
      decide +kernel
    have events : after.events = _ ++ [] := congrArg World.events world
    rw [List.append_nil] at events
    rw [← events, nodes, keys, fragments] at calls
    exact ⟨after, running, body, _, _, calls⟩

end Renderer

end Stencil
