import Stencil.Proofs.Cache.Warm
import Stencil.Proofs.Run.Added

/-!
# Only completed blocks are cached

A fragment that is handed to the store is the text of a node that a block has built before without an error,
under the key that the call derives for it (`written_completed`). A call that keeps its fragments at once, as
one for a single fragment or for a collection in one batch does, keeps none if one of its blocks fails.
-/

namespace Stencil

open Run

variable {σ : Type}

/-- The fragments that are handed to the store, with their keys. -/
def Event.written : Event → List (String × String)
  | .write key fragment _ _ => [(key, fragment)]
  | .writeBatch fragments _ _ => fragments
  | _ => []

theorem Event.written_of_plain {event : Event} (plain : event.ofStore = false) : event.written = [] := by
  cases event <;> first | rfl | contradiction

/-- The block's first step derives the key for what it builds to this purpose. -/
def Block.Derives (renderer : Renderer σ) (block : Block) (purpose : Purpose) (name : String) : Prop :=
  match block, purpose with
  | .cache _ key options _ _, .kept => name = renderer.storeKey key options
  | .cacheCollection (some items) options key _ _, .element index =>
    ∃ value, items[index]? = some (.ok value) ∧ name = renderer.storeKey (elementKey key index value) options
  | _, _ => False

namespace Moment

variable {renderer : Renderer σ} {moment : Moment σ}

/-- The first step is a cache call that keeps all that it builds with one call of the store. -/
def KeepsAtOnce (renderer : Renderer σ) (moment : Moment σ) : Prop :=
  match moment.block with
  | .cache _ _ _ _ _ => True
  | .cacheCollection _ _ _ _ _ => ∃ store batch, renderer.activeStore = some store ∧ store.batch = some batch
  | _ => False

/-- The text is that of a node that the first step has built before these events, under the key it derives. -/
def Completes (renderer : Renderer σ) (moment : Moment σ) (fragment : String × String) (earlier : List Event) :
    Prop :=
  ∃ purpose inner node ended, moment.Nests renderer purpose inner ∧
    inner.build renderer = some (.ok node, ended) ∧ ended.events <:+ earlier ∧
      moment.block.Derives renderer purpose fragment.1 ∧ fragment.2 = node.compact

/-- None of the first step's nested blocks has failed, if it keeps at once what they build. -/
def Unfailing (renderer : Renderer σ) (moment : Moment σ) : Prop :=
  moment.KeepsAtOnce renderer → ∀ purpose inner outcome ended, moment.Nests renderer purpose inner →
    inner.build renderer = some (outcome, ended) → ∃ node, outcome = .ok node

/-- What can be said of an event that the first step adds. -/
inductive Tells (renderer : Renderer σ) (moment : Moment σ) (event : Event) (earlier : List Event) : Prop where
  | writesNothing (nothing : event.written = [])
  | writes (unfailing : moment.Unfailing renderer)
      (completes : ∀ fragment ∈ event.written, moment.Completes renderer fragment earlier)

/-- The step adds what its nested blocks add, and what can be told. -/
abbrev Told (renderer : Renderer σ) (moment : Moment σ) (event : Event) (earlier : List Event) : Prop :=
  moment.Covers renderer event earlier ∨ moment.Tells renderer event earlier

theorem told_of_nothing {event : Event} {earlier : List Event} (nothing : event.written = []) :
    moment.Told renderer event earlier :=
  .inr (.writesNothing nothing)

theorem told_plain (event : Event) (earlier : List Event) (plain : event.ofStore = false) :
    moment.Told renderer event earlier :=
  told_of_nothing (Event.written_of_plain plain)

theorem admits_told (moment : Moment σ) : moment.Admits renderer (moment.Told renderer) where
  covers := .inl
  logs _ _ := told_of_nothing rfl
  notes _ _ := told_of_nothing rfl

/-! ### Calls of the store -/

theorem adds_decodeFragment (key fragment : String) (world : World σ) :
    Adds (moment.Told renderer) (decodeFragment key fragment) world :=
  adds_plain (.decodeFragment key fragment) told_plain

theorem adds_readFragment (store : Cache.Store σ) (key : String) (world : World σ) :
    Adds (moment.Told renderer) (readFragment store key) world := by
  have reads : Adds (moment.Told renderer) (recorded (store.read key) (.read key)) world :=
    adds_recorded fun _ => told_of_nothing rfl
  refine reads.bind fun answer middle _ => ?_
  split
  · exact adds_pure _
  · exact adds_decodeFragment key _ _
  · exact (adds_log fun _ => told_of_nothing rfl).bind fun _ _ _ => adds_pure _

theorem adds_readFragments (batch : Cache.Batch σ) (keys : List String) (world : World σ) :
    Adds (moment.Told renderer) (readFragments batch keys) world := by
  have logs : ∀ (entry : LogEntry) world, Adds (moment.Told renderer) (log entry : Run σ Unit) world :=
    fun _ _ => adds_log fun _ => told_of_nothing rfl
  have reads : Adds (moment.Told renderer) (recorded (batch.read keys) (.readBatch keys)) world :=
    adds_recorded fun _ => told_of_nothing rfl
  refine reads.bind fun answer middle _ => ?_
  cases answer with
  | ok found => exact (adds_pure _).bind fun _ _ _ => (logs _ _).bind fun _ _ _ => adds_pure _
  | error error =>
    exact (logs _ _).bind fun _ _ _ => (adds_pure _).bind fun _ _ _ => (logs _ _).bind fun _ _ _ => adds_pure _

theorem adds_keepFragment {store : Cache.Store σ} {key : String} {lifetime : Option Nat}
    {built : Except RenderError Json} {world : World σ}
    (completed : ∀ node, built = .ok node → moment.Unfailing renderer ∧
      moment.Completes renderer (key, node.compact) world.events) :
    Adds (moment.Told renderer) (keepFragment store key lifetime built) world := by
  cases built with
  | error error => exact adds_pure _
  | ok node =>
    obtain ⟨unfailing, completes⟩ := completed node rfl
    have writes : Adds (moment.Told renderer)
        (recorded (store.write key node.compact lifetime) (.write key node.compact lifetime)) world := by
      refine adds_recorded fun answer => .inr (.writes unfailing fun fragment member => ?_)
      obtain rfl := List.mem_singleton.1 member
      exact completes
    have written : Adds (moment.Told renderer) (writeFragment store key lifetime node) world := by
      refine writes.bind fun answer middle _ => ?_
      split
      · exact adds_pure _
      · exact adds_log fun _ => told_of_nothing rfl
    exact written.bind fun _ _ _ => adds_pure _

theorem adds_keepElements {batch : Cache.Batch σ} {lifetime : Option Nat}
    {outcome : Except RenderError (List (Json × Option (String × String)))} {world : World σ}
    (completed : ∀ results, outcome = .ok results → moment.Unfailing renderer ∧
      ∀ fragment ∈ results.filterMap Prod.snd, moment.Completes renderer fragment world.events) :
    Adds (moment.Told renderer) (keepElements batch lifetime outcome) world := by
  cases outcome with
  | error error => exact adds_pure _
  | ok results =>
    obtain ⟨unfailing, completes⟩ := completed results rfl
    refine Adds.bind ?_ fun _ _ _ => adds_pure _
    unfold writeFragments
    split
    · exact adds_pure _
    · have writes : Adds (moment.Told renderer) (recorded (batch.write (results.filterMap Prod.snd) lifetime)
          (.writeBatch (results.filterMap Prod.snd) lifetime)) world :=
        adds_recorded fun answer => .inr (.writes unfailing completes)
      refine writes.bind fun failed middle _ => ?_
      exact (adds_plain (.logAll failed) told_plain).bind fun _ _ _ =>
        adds_log fun _ => told_of_nothing rfl

theorem adds_fetchOrBuild {store : Cache.Store σ} {name : String} {lifetime : Option Nat} {bound : Nat}
    {block : Block} {purpose : Purpose} {world : World σ}
    (nests : ∀ missed, readFragment store name world = some (none, missed) →
      moment.Nests renderer purpose ⟨bound, block, missed.noted (.log (.fragmentMiss name))⟩)
    (derives : moment.block.Derives renderer purpose name)
    (unfailing : ∀ missed node ended, readFragment store name world = some (none, missed) →
      build renderer ⟨bound, block, missed.noted (.log (.fragmentMiss name))⟩ = some (.ok node, ended) →
        moment.Unfailing renderer) :
    Adds (moment.Told renderer) (fetchOrBuild store name lifetime (block.runWithin renderer bound)) world := by
  rw [fetchOrBuild_eq]
  refine (adds_readFragment store name world).bind fun found missed reading => ?_
  cases found with
  | some node => exact (adds_log fun _ => told_of_nothing rfl).bind fun _ _ _ => adds_pure _
  | none =>
    refine (adds_log fun _ => told_of_nothing rfl).bind fun _ after logged => ?_
    obtain ⟨-, rfl⟩ := result_inj logged
    refine ((admits_told moment).nested (nests missed reading)).bind fun built ended building => ?_
    refine adds_keepFragment fun node same => ?_
    subst same
    exact ⟨unfailing missed node ended reading building, purpose, _, node, ended, nests missed reading, building,
      List.suffix_rfl, derives, rfl⟩

/-! ### Single fragments -/

theorem eq_of_nests_cached {bound : Nat} {key : Cache.KeyExpr} {options : Cache.Options} {block : Block}
    {next : Except RenderError Unit → Block} {store : Cache.Store σ} {world missed : World σ} {purpose : Purpose}
    {inner : Moment σ} (active : renderer.activeStore = some store)
    (absent : lookUp renderer store key options world = some (none, missed))
    (nests : Nests renderer ⟨bound, .cache true key options block next, world⟩ purpose inner) :
    inner = ⟨bound, block, missed.noted (.log (.fragmentMiss (renderer.storeKey key options)))⟩ := by
  cases nests with
  | uncached plain => simp [active] at plain
  | cached again absentAgain =>
    obtain rfl := Option.some.inj (active.symm.trans again)
    obtain ⟨-, rfl⟩ := result_inj (absent.symm.trans absentAgain)
    rfl

theorem adds_cached {bound : Nat} {key : Cache.KeyExpr} {options : Cache.Options} {block : Block}
    {next : Except RenderError Unit → Block} {store : Cache.Store σ} {world : World σ}
    (active : renderer.activeStore = some store) :
    Adds (Told renderer ⟨bound, .cache true key options block next, world⟩)
      (cacheOne renderer true key options (block.runWithin renderer bound)) world := by
  simp only [cacheOne, active, if_true]
  refine (adds_plain (.nameFragment renderer key options) told_plain).bind fun name named naming => ?_
  obtain rfl := nameFragment_value naming
  have looked : ∀ missed, readFragment store (renderer.storeKey key options) named = some (none, missed) →
      lookUp renderer store key options world = some (none, missed) :=
    fun missed reading => (bind_of_some naming).trans reading
  refine Adds.bind (adds_fetchOrBuild (fun missed reading => .cached active (looked missed reading)) rfl ?_)
    fun node _ _ => adds_splice node
  intro missed node ended reading building _ purpose inner outcome again nests built
  obtain rfl := eq_of_nests_cached active (looked missed reading) nests
  exact ⟨node, (result_inj (built.symm.trans building)).1⟩

/-! ### Collections -/

section Collections

variable {bound : Nat} {items : List Json.Payload} {options : Cache.Options}
  {key : Option (Nat → Cache.KeyExpr)} {block : Nat → Block} {next : Except RenderError Unit → Block}
  {store : Cache.Store σ} {elements : List (Nat × String)} {world named : World σ}

theorem derives_of_named
    (names : collect (nameElement renderer options key) (indexed items) world = some (.ok elements, named))
    {element : Nat × String} (member : element ∈ elements) :
    (Block.cacheCollection (some items) options key block next).Derives renderer (.element element.1) element.2 := by
  obtain ⟨value, converted, name⟩ := elementName_of_mem (nameElements_value names).symm member
  exact ⟨value, mem_indexed.1 converted, name⟩

variable {batch : Cache.Batch σ} {found : Entries String} {fetched : World σ}

/-- Once the loop of a batch has succeeded, all of its blocks have. -/
theorem unfailing_of_batched (active : renderer.activeStore = some store) (batched : store.batch = some batch)
    (names : collect (nameElement renderer options key) (indexed items) world = some (.ok elements, named))
    (reads : readFragments batch (elements.map Prod.snd) named = some (found, fetched))
    {results : List (Json × Option (String × String))} {after : World σ}
    (loop : collect (elementOf found fun index => (block index).runWithin renderer bound) elements fetched =
      some (.ok results, after)) {purpose : Purpose} {inner : Moment σ} {outcome : Except RenderError Json}
    {ended : World σ} (nests : Nests renderer ⟨bound, .cacheCollection (some items) options key block next, world⟩
      purpose inner) (building : inner.build renderer = some (outcome, ended)) :
    ∃ node, outcome = .ok node := by
  obtain ⟨index, name, reached, missed, rfl, rfl, visits, absent⟩ := nests.of_batched active batched names reads
  obtain ⟨one, middle, stepped, unfailing⟩ := visits.ran loop
  obtain ⟨node, _, decoded, -⟩ | ⟨_, built, absentAgain, buildingAgain, rfl⟩ := elementOf_cases stepped
  · cases (result_inj (absent.symm.trans decoded)).1
  · obtain ⟨-, rfl⟩ := result_inj (absent.symm.trans absentAgain)
    obtain ⟨rfl, rfl⟩ := result_inj (building.symm.trans buildingAgain)
    cases outcome with
    | error error => cases unfailing error rfl
    | ok node => exact ⟨node, rfl⟩

theorem adds_batched (active : renderer.activeStore = some store) (batched : store.batch = some batch)
    (names : collect (nameElement renderer options key) (indexed items) world = some (.ok elements, named)) :
    Adds (Told renderer ⟨bound, .cacheCollection (some items) options key block next, world⟩)
      (cacheBatched batch (renderer.lifetime options) (fun index => (block index).runWithin renderer bound) elements)
      named := by
  rw [cacheBatched_eq]
  refine (adds_readFragments batch _ named).bind fun found fetched reads => ?_
  refine (adds_collect fun element reached visits => ?_).bind fun outcome after loop => ?_
  · rw [elementOf_eq]
    refine (adds_plain (.decodeFound found element.2) told_plain).bind fun node missed absent => ?_
    cases node with
    | some node => exact (adds_log fun _ => told_of_nothing rfl).bind fun _ _ _ => adds_pure _
    | none =>
      refine (adds_log fun _ => told_of_nothing rfl).bind fun _ noted logged => ?_
      obtain ⟨-, rfl⟩ := result_inj logged
      exact ((admits_told _).nested (.batched active batched names reads visits absent)).bind fun _ _ _ => adds_pure _
  · refine adds_keepElements fun results same => ?_
    subst same
    refine ⟨fun _ _ _ _ _ nests building =>
      unfailing_of_batched active batched names reads loop nests building, fun fragment member => ?_⟩
    obtain ⟨result, resultMember, kept⟩ := List.mem_filterMap.1 member
    obtain ⟨element, reached, middle, visits, stepped, grown⟩ :=
      Visits.of_mem (grows_elementOf (fun _ => grows_runWithin renderer bound _) found) loop resultMember
    obtain ⟨node, _, -, same, -⟩ | ⟨missed, outcome, absent, building, same⟩ := elementOf_cases stepped
    · obtain rfl := Except.ok.inj same
      contradiction
    · cases outcome with
      | error error => contradiction
      | ok node =>
        obtain rfl := Except.ok.inj same
        obtain rfl := Option.some.inj kept
        exact ⟨.element element.1, _, node, middle, .batched active batched names reads visits absent, building,
          grown, derives_of_named names visits.mem, rfl⟩

theorem adds_singly (active : renderer.activeStore = some store) (single : store.batch = none)
    (names : collect (nameElement renderer options key) (indexed items) world = some (.ok elements, named)) :
    Adds (Told renderer ⟨bound, .cacheCollection (some items) options key block next, world⟩)
      (cacheSingly store (renderer.lifetime options) (fun index => (block index).runWithin renderer bound) elements)
      named := by
  refine (adds_log fun _ => told_of_nothing rfl).bind fun _ after logged => ?_
  obtain ⟨-, rfl⟩ := result_inj logged
  refine (adds_collect fun element reached visits => ?_).bind fun _ _ _ => adds_pure _
  refine adds_fetchOrBuild (fun missed reading => .singly active single names visits reading)
    (derives_of_named names visits.mem) ?_
  rintro missed node ended reading building ⟨other, batch, otherActive, batched⟩
  obtain rfl := Option.some.inj (active.symm.trans otherActive)
  simp [single] at batched

end Collections

/-- What a step adds beside what its nested blocks add can be told. -/
theorem told_step (moment : Moment σ) :
    Adds (moment.Told renderer) (moment.block.step renderer moment.bound) moment.world := by
  refine (admits_told moment).step ?_ ?_
  · obtain ⟨bound, block, world⟩ := moment
    rintro key options block next store rfl active
    exact adds_cached active
  · obtain ⟨bound, block, world⟩ := moment
    rintro items options key block next store rfl active
    rw [cacheEach_eq active]
    refine (adds_plain (.nameElements renderer options key _) told_plain).bind fun outcome named names => ?_
    refine Adds.bind ?_ fun node _ _ => adds_splice node
    cases outcome with
    | error error => exact adds_pure _
    | ok elements =>
      unfold cacheNamed
      cases batched : store.batch with
      | some batch => exact adds_batched active batched names
      | none => exact adds_singly active batched names

theorem Issues.tells {event : Event} {earlier : List Event} (issues : moment.Issues renderer event earlier) :
    moment.Tells renderer event earlier :=
  issues.holds (told_step moment)

end Moment

namespace Renderer

/--
In the course of a render, a call that keeps its fragments at once writes nothing if one of its blocks fails,
and each fragment that is written has been completed by the call that writes it.
-/
theorem written_completed (renderer : Renderer σ) (block : Block) (store : σ) :
    (block.Finite renderer.resolve → ∃ rendered, renderer.Yields block store rendered) ∧
    ∀ bound rendered, renderer.renderNode bound block store = some rendered →
      (∀ call, Moment.Reaches renderer ⟨bound, block, renderer.start store⟩ call → call.KeepsAtOnce renderer →
        ∀ purpose inner error ended, call.Nests renderer purpose inner →
          inner.build renderer = some (.error error, ended) →
            ∀ event earlier, call.Issues renderer event earlier → event.written = []) ∧
      ∀ before event after, rendered.events = before ++ event :: after → ∀ fragment ∈ event.written,
        ∃ call, Moment.Reaches renderer ⟨bound, block, renderer.start store⟩ call ∧
          call.Issues renderer event before.reverse ∧ call.Completes renderer fragment before.reverse := by
  refine ⟨fun finite => exists_yields finite store, fun bound rendered ran => ⟨?_, ?_⟩⟩
  · intro call _ once purpose inner error ended nests failed event earlier issues
    cases issues.tells with
    | writesNothing nothing => exact nothing
    | writes unfailing completes =>
      obtain ⟨node, impossible⟩ := unfailing once purpose inner _ ended nests failed
      contradiction
  · intro before event after split fragment member
    obtain ⟨call, reaches, issues⟩ := issuer_of_renderNode ran split
    cases issues.tells with
    | writesNothing nothing =>
      rw [nothing] at member
      contradiction
    | writes unfailing completes => exact ⟨call, reaches, issues, completes fragment member⟩

/-- A cached fragment that fails after it has cached another one. -/
def interrupted : Block :=
  let flag : Block := .act (.set "flag" (.ok (.bool true))) .done
  .cache true (.text "outer") {} (.cache true (.text "inner") {} flag fun _ => .done (.error (.other "interrupted")))
    .done

theorem written_completed_interrupted :
    (∃ before event, ((withMemory.renderNode 0 interrupted {}).map Rendered.events) = some (before ++ [event]) ∧
      event.written = [("jstreamer/inner", "\x7b\"flag\":true\x7d")] ∧
      ∃ call, Moment.Reaches withMemory ⟨0, interrupted, withMemory.start {}⟩ call ∧
        call.Completes withMemory ("jstreamer/inner", "\x7b\"flag\":true\x7d") before.reverse) ∧
    ∀ event earlier, Moment.Issues withMemory ⟨0, interrupted, withMemory.start {}⟩ event earlier →
      event.written = [] := by
  obtain ⟨-, writes⟩ := written_completed withMemory interrupted {}
  have ran : (withMemory.renderNode 0 interrupted {}).map (fun rendered => rendered.events.map Event.written) =
      some (List.replicate 8 [] ++ [[("jstreamer/inner", "\x7b\"flag\":true\x7d")]]) := by
    decide +kernel
  obtain ⟨rendered, rendering, events⟩ := Option.map_eq_some_iff.1 ran
  obtain ⟨before, rest, split, -, last⟩ := List.map_eq_append_iff.1 events
  obtain ⟨event, rfl, written⟩ := List.map_eq_singleton_iff.1 last
  obtain ⟨failed, completed⟩ := writes 0 rendered rendering
  refine ⟨⟨before, event, by rw [rendering, Option.map_some, split], written, ?_⟩, ?_⟩
  · obtain ⟨call, reaches, -, completes⟩ := completed before event [] split _ (written ▸ List.mem_singleton.2 rfl)
    exact ⟨call, reaches, completes⟩
  · exact failed _ .refl trivial .kept _ _ _ (.cached rfl rfl) rfl

end Renderer

end Stencil
