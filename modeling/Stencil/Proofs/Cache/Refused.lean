import Stencil.Proofs.Cache.Collected

/-!
# Stores that refuse keys

A store that refuses to write some keys treats the others as it would without. So a collection that is cached in one
batch comes to its write with the same fragments whatever is refused (`cacheBatched_refusing`), and keys under which a
program keeps nothing make no difference to it (`runWithin_refusing`).
-/

namespace Stencil

open Cache

variable {σ : Type}

namespace Cache

variable (store : Store σ) (lifetime : Option Nat)

theorem failing_write_of_accepted {rejected : String → Option StoreError} {key : String}
    (accepted : rejected key = none) : (store.failing { write := rejected }).write key = store.write key := by
  funext fragment lifetime state
  simp only [Store.failing, accepted]

theorem writeEach_failing_of_accepted {rejected : String → Option StoreError} {fragments : List (String × String)}
    (accepted : ∀ fragment ∈ fragments, rejected fragment.1 = none) (state : σ) :
    writeEach (store.failing { write := rejected }).write lifetime fragments state =
      writeEach store.write lifetime fragments state := by
  induction fragments generalizing state with
  | nil => rfl
  | cons fragment rest ih =>
    have first := failing_write_of_accepted store (accepted fragment List.mem_cons_self)
    have others := ih fun other member => accepted other (List.mem_cons_of_mem _ member)
    simp only [writeEach, first, others]

end Cache

namespace Run

/-- The fragments to be written are those of the elements that were not found. -/
theorem rebuilt_of_loop {found : Entries String} {body : Nat → Run σ (Except RenderError Unit)}
    {elements : List (Nat × String)} {world after : World σ} {results : List (Json × Option (String × String))}
    (loop : collect (elementOf found body) elements world = some (.ok results, after)) :
    results.filterMap Prod.snd = rebuilt found (elements.map Prod.snd) (results.map Prod.fst) := by
  induction elements generalizing world results with
  | nil =>
    obtain ⟨rfl, -⟩ := ok_inj loop
    rfl
  | cons element rest ih =>
    obtain ⟨error, -, impossible⟩ | ⟨result, middle, outcome, stepped, others, same⟩ := collect_cons_some loop
    · contradiction
    · cases outcome with
      | error error => contradiction
      | ok more =>
        obtain rfl := Except.ok.inj same
        have first : result.2 = rebuilt? found (element.2, result.1) := by
          obtain ⟨node, decoded, decoding, kept, -⟩ | ⟨missed, built, decoding, -, made⟩ := elementOf_cases stepped
          · have usable := (result_inj ((decodeFound_apply found element.2 world).symm.trans decoding)).1
            rw [Except.ok.inj kept, rebuilt?, usable]
            rfl
          · have absent := (result_inj ((decodeFound_apply found element.2 world).symm.trans decoding)).1
            cases built with
            | error error => contradiction
            | ok node =>
              rw [Except.ok.inj made, rebuilt?, absent]
              rfl
        have later := ih others
        unfold rebuilt at later ⊢
        rw [List.map_cons, List.map_cons, List.zip_cons_cons, List.filterMap_cons, List.filterMap_cons, first, later]

theorem fst_mem_of_rebuilt {found : Entries String} {keys : List String} {nodes : List Json}
    {fragment : String × String} (member : fragment ∈ rebuilt found keys nodes) : fragment.1 ∈ keys := by
  obtain ⟨⟨name, node⟩, zipped, kept⟩ := List.mem_filterMap.1 member
  unfold rebuilt? at kept
  split at kept
  · contradiction
  · rw [← Option.some.inj kept]
    exact (List.of_mem_zip zipped).1

theorem fetchOrBuild_of_accepted (store : Store σ) {rejected : String → Option StoreError} {key : String}
    (accepted : rejected key = none) (lifetime : Option Nat) (body : Run σ (Except RenderError Unit)) :
    fetchOrBuild (store.failing { write := rejected }) key lifetime body = fetchOrBuild store key lifetime body := by
  have writes : writeFragment (store.failing { write := rejected }) key = writeFragment store key := by
    funext lifetime node
    simp only [writeFragment, writeStore, failing_write_of_accepted store accepted]
  have reads : readFragment (store.failing { write := rejected }) key = readFragment store key := rfl
  simp only [fetchOrBuild, writes, reads]

theorem hereditary_alike : Hereditary False (fun _ runs => runs true = runs false : Property Bool σ) where
  done _ := rfl
  sequence first next _ := congrArg₂ (· >>= ·) first (funext next)
  emitting _ := fun _ each => congrArg (emit _ >>= ·) (funext each)
  observing _ := fun _ each => congrArg (observe _ >>= ·) (funext each)
  editing _ := rfl
  nesting := congrArg nested

end Run

open Run

/-- The world after a batch of fragments has been written to a store that refuses some keys. -/
def World.written (store : Store σ) (rejected : String → Option StoreError) (lifetime : Option Nat)
    (fragments : List (String × String)) (world : World σ) : World σ :=
  let failed := writeEach (store.failing { write := rejected }).write lifetime fragments world.store
  ⟨world.builder, failed.2, writeEvents fragments lifetime failed.1 ++ world.events⟩

theorem World.written_of_accepted (store : Store σ) (lifetime : Option Nat) {rejected : String → Option StoreError}
    {fragments : List (String × String)} (accepted : ∀ fragment ∈ fragments, rejected fragment.1 = none)
    (world : World σ) :
    world.written store rejected lifetime fragments = world.written store (fun _ => none) lifetime fragments := by
  simp only [World.written, writeEach_failing_of_accepted store lifetime accepted]
  rfl

/-- The block's first step keeps no fragment under a refused key. -/
def Block.Spares (renderer : Renderer σ) (rejected : String → Option StoreError) : Block → Prop
  | .cache condition key options _ _ => condition = true → rejected (renderer.storeKey key options) = none
  | .cacheCollection items options key _ _ =>
    ∀ values, items = some (values.map .ok) → ∀ name ∈ renderer.elementKeys options key values, rejected name = none
  | _ => True

theorem Block.spares_none (renderer : Renderer σ) (block : Block) : block.Spares renderer fun _ => none := by
  cases block with
  | cache => exact fun _ => rfl
  | cacheCollection => exact fun _ _ _ _ => rfl
  | _ => trivial

namespace Renderer

/-- The renderer with a store that refuses to write some keys. -/
def refusing (renderer : Renderer σ) (store : Store σ) (rejected : String → Option StoreError) : Renderer σ :=
  { renderer with store := some (store.failing { write := rejected }) }

section Collections

variable {renderer : Renderer σ} {store : Store σ} {batch : Batch σ} {lifetime : Option Nat}

/-- The batched calls of a store that refuses some keys. -/
def refusingBatch (store : Store σ) (batch : Batch σ) (rejected : String → Option StoreError) : Batch σ :=
  { batch with
    write := fun fragments lifetime => writeEach (store.failing { write := rejected }).write lifetime fragments }

theorem writeFragments_refusing (rejected : String → Option StoreError) (fragments : List (String × String))
    (world : World σ) : writeFragments (refusingBatch store batch rejected) lifetime fragments world =
      some ((), world.written store rejected lifetime fragments) := by
  rw [writeFragments_apply]
  unfold Batch.keep
  split
  · subst fragments
    rfl
  · rfl

theorem cacheBatched_refusing (store : Store σ) (batch : Batch σ) (lifetime : Option Nat)
    (body : Nat → Run σ (Except RenderError Unit)) (keys : List String) (world : World σ) :
    (∀ rejected, cacheBatched (refusingBatch store batch rejected) lifetime body (indexed keys) world = none) ∨
    (∃ error reached, ∀ rejected,
      cacheBatched (refusingBatch store batch rejected) lifetime body (indexed keys) world =
        some (.error error, reached)) ∨
    ∃ nodes, ∃ reached : World σ, ∀ rejected,
      cacheBatched (refusingBatch store batch rejected) lifetime body (indexed keys) world =
        some (.ok (.arr nodes), reached.written store rejected lifetime
          (rebuilt (foundBy (batch.read keys world.store).1) keys nodes)) := by
  have reads := fun rejected => readFragments_apply (refusingBatch store batch rejected) keys world
  simp only [cacheBatched_eq, map_snd_indexed, bind_of_some (reads _)]
  have found : ∀ rejected, (refusingBatch store batch rejected).read = batch.read := fun _ => rfl
  simp only [found]
  rcases loop : collect (elementOf (foundBy (batch.read keys world.store).1) body) (indexed keys) _ with
    _ | ⟨error | results, reached⟩
  · refine .inl fun rejected => ?_
    rw [bind_apply, loop]
    rfl
  · refine .inr (.inl ⟨error, reached, fun rejected => ?_⟩)
    rw [bind_of_some loop]
    rfl
  · refine .inr (.inr ⟨results.map Prod.fst, reached, fun rejected => ?_⟩)
    have fragments := rebuilt_of_loop loop
    rw [map_snd_indexed] at fragments
    rw [bind_of_some loop, ← fragments]
    exact bind_of_some (writeFragments_refusing rejected _ reached)

variable {items : Option (List Json.Payload)} {options : Options} {key : Option (Nat → KeyExpr)}

theorem activeStore_refusing (caching : renderer.settings.performCaching = true)
    (rejected : String → Option StoreError) :
    (renderer.refusing store rejected).activeStore = some (store.failing { write := rejected }) := by
  rw [activeStore, refusing, caching, if_pos rfl]

variable (items options key) in
/-- Whatever keys are refused, a collection ends before it has read or goes on to the same elements. -/
theorem cacheEach_refusing (caching : renderer.settings.performCaching = true) (batched : store.batch = some batch)
    (world : World σ) :
    (∃ outcome reached, (∀ payloads, items = some payloads → outcome ≠ .ok ()) ∧
      ∀ rejected body, cacheEach (renderer.refusing store rejected) items options key body world =
        some (outcome, reached)) ∨
    ∃ values reached, items = some (values.map .ok) ∧ reached.store = world.store ∧
      ∀ rejected body, cacheEach (renderer.refusing store rejected) items options key body world =
        (cacheBatched (refusingBatch store batch rejected) (renderer.lifetime options) body
          (indexed (renderer.elementKeys options key values)) >>= splice) reached := by
  cases items with
  | none => exact .inl ⟨_, _, nofun, fun _ _ => rfl⟩
  | some payloads =>
    have calls : ∀ rejected,
        (store.failing { write := rejected }).batch = some (refusingBatch store batch rejected) := by
      intro rejected
      simp only [Store.failing, batched, Option.map_some]
      rfl
    simp only [cacheEach_eq (activeStore_refusing caching _)]
    obtain ⟨names, naming, named, -⟩ := (Silent.nameElements renderer options key (indexed payloads)).plain world
    have namedAlike : ∀ rejected, collect (nameElement (renderer.refusing store rejected) options key)
        (indexed payloads) world = some (names, { world with events := naming ++ world.events }) := fun _ => named
    simp only [bind_of_some (namedAlike _)]
    cases names with
    | error error => exact .inl ⟨.error error, _, fun _ _ => nofun, fun _ _ => rfl⟩
    | ok elements =>
      obtain ⟨values, rfl, rfl⟩ := elements_of_names (nameElements_value named).symm
      refine .inr ⟨values, { world with events := naming ++ world.events }, rfl, rfl, fun rejected body => ?_⟩
      simp only [cacheNamed, calls]
      rfl

/-! ### Blocks that keep nothing under refused keys -/

section Spared

variable {rejected : String → Option StoreError}

theorem cacheBatched_spared {keys : List String} (spared : ∀ key ∈ keys, rejected key = none)
    (body : Nat → Run σ (Except RenderError Unit)) (world : World σ) :
    cacheBatched (refusingBatch store batch rejected) lifetime body (indexed keys) world =
      cacheBatched (refusingBatch store batch fun _ => none) lifetime body (indexed keys) world := by
  obtain exceeded | ⟨error, reached, ran⟩ | ⟨nodes, reached, ran⟩ :=
    cacheBatched_refusing store batch lifetime body keys world
  · rw [exceeded, exceeded]
  · rw [ran, ran]
  · rw [ran, ran, World.written_of_accepted store lifetime fun _ member => spared _ (fst_mem_of_rebuilt member)]

theorem cacheEach_spared (caching : renderer.settings.performCaching = true) (batched : store.batch = some batch)
    (spared : ∀ values, items = some (values.map .ok) →
      ∀ name ∈ renderer.elementKeys options key values, rejected name = none)
    (body : Nat → Run σ (Except RenderError Unit)) :
    cacheEach (renderer.refusing store rejected) items options key body =
      cacheEach (renderer.refusing store fun _ => none) items options key body := by
  funext world
  obtain ⟨outcome, reached, -, ran⟩ | ⟨values, reached, same, -, ran⟩ :=
    cacheEach_refusing items options key caching batched world
  · rw [ran, ran]
  · rw [ran, ran, bind_apply, bind_apply, cacheBatched_spared (spared values same)]

theorem cacheOne_spared (caching : renderer.settings.performCaching = true) {condition : Bool} {key : KeyExpr}
    (spared : condition = true → rejected (renderer.storeKey key options) = none)
    (body : Run σ (Except RenderError Unit)) :
    cacheOne (renderer.refusing store rejected) condition key options body =
      cacheOne (renderer.refusing store fun _ => none) condition key options body := by
  cases condition with
  | false => rfl
  | true =>
    funext world
    simp only [cacheOne, activeStore_refusing caching, if_true]
    obtain ⟨name, naming, named, -⟩ := (Silent.nameFragment renderer key options).plain world
    have namedAlike : ∀ rejected, nameFragment (renderer.refusing store rejected) key options world =
        some (name, { world with events := naming ++ world.events }) := fun _ => named
    have accepted : rejected name = none := nameFragment_value named ▸ spared rfl
    simp only [bind_of_some (namedAlike _), fetchOrBuild_of_accepted store accepted]
    rfl

/-- Refused keys under which a program keeps nothing make no difference to it. -/
theorem runWithin_refusing (caching : renderer.settings.performCaching = true) (batched : store.batch = some batch)
    {block : Block} (spares : block.Every renderer.resolve (Block.Spares renderer rejected)) (bound : Nat) :
    block.runWithin (renderer.refusing store rejected) bound =
      block.runWithin (renderer.refusing store fun _ => none) bound := by
  -- The property relates the two runs, so that it is about a family of two renderers.
  let renderers (refuses : Bool) := renderer.refusing store (if refuses then rejected else fun _ => none)
  have lifts : Lifts False (fun _ runs => runs true = runs false) renderers renderer.resolve
      (Block.Spares renderer rejected) :=
    { kept := hereditary_alike
      caches :=
        { one := fun spared body same =>
            (cacheOne_spared caching spared _).trans (congrArg (cacheOne (renderers false) _ _ _) same)
          each := fun spared body same =>
            (cacheEach_spared caching batched spared _).trans
              (congrArg (cacheEach (renderers false) _ _ _) (funext same)) }
      shared := fun _ => rfl
      settings := fun _ => ⟨renderer.settings, fun _ => rfl⟩
      stops := False.elim }
  exact block.runWithin_of_hereditary lifts rfl bound spares

end Spared

end Collections

end Renderer

end Stencil
