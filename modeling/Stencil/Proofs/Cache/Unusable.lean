import Stencil.Proofs.Cache.Shadows
import Stencil.Proofs.Run.Bound

/-!
# A cache without usable fragments

If no read of a cached render finds a fragment that can be decoded, the render succeeds with the document
of the uncached one: the uncached run of a block shadows the cached one, cache call by cache call. What
the store answers to writes makes no difference.
-/

namespace Stencil

open Cache (decode?)

namespace Run

variable {σ α : Type}

/-! ### Reads that find nothing -/

theorem readFragment_blind {store : Cache.Store σ} {key : String} {world after : World σ}
    {kept : Option Json} (ran : readFragment store key world = some (kept, after)) (blind : Blind after) :
    kept = none := by
  obtain ⟨answer, asked, readRan, rest⟩ := bind_some ran
  have reading : .read key answer ∈ asked.events := by
    rw [← (result_inj readRan).2, ← (result_inj readRan).1]
    exact List.mem_cons_self
  rcases answer with error | _ | fragment
  · exact (result_inj rest).1.symm
  · exact (result_inj rest).1.symm
  · have found := blind.before ((Silent.decodeFragment key fragment).grows asked _ rest) _ reading
    rw [decodeFragment_value rest]
    exact Option.isNone_iff_eq_none.1 found

theorem readFragments_blind {batch : Cache.Batch σ} {keys : List String} {world after : World σ}
    {found : Entries String} (ran : readFragments batch keys world = some (found, after))
    (blind : Blind after) :
    ∀ key ∈ keys, (Entries.get? key found).bind decode? = none := by
  obtain ⟨answer, asked, readRan, rest⟩ := bind_some ran
  have reading : .readBatch keys answer ∈ asked.events := by
    rw [← (result_inj readRan).2, ← (result_inj readRan).1]
    exact List.mem_cons_self
  cases answer with
  | error error =>
    rw [← (result_inj rest).1]
    intro key member
    rfl
  | ok entries =>
    obtain ⟨rfl, ended⟩ := result_inj rest
    have grown : asked.events <:+ after.events := by
      rw [← ended]
      exact List.suffix_cons _ _
    have nothing := blind.before grown _ reading
    intro key member
    exact Option.isNone_iff_eq_none.1 (List.all_eq_true.1 nothing key member)

/-! ### Cache calls -/

namespace Shadows

theorem keepFragment (store : Cache.Store σ) (key : String) (lifetime : Option Nat)
    {body plain : Run σ (Except RenderError Unit)} (same : Shadows id body plain) :
    Shadows id (Run.nested body >>= Run.keepFragment store key lifetime) (Run.nested plain) := by
  rw [← bind_pure (Run.nested plain)]
  refine same.nested.bind ?_ (fun error => ⟨error, rfl⟩) (fun error => ⟨error, rfl⟩) fun node => ?_
  · rintro (error | node)
    · exact (Silent.pure _).grows
    · exact (Silent.writeFragment store key lifetime node).grows.bind fun _ => (Silent.pure _).grows
  · exact afterSilent (.writeFragment store key lifetime node) fun _ => pure id node

theorem fetchOrBuild (store : Cache.Store σ) (key : String) (lifetime : Option Nat)
    {body plain : Run σ (Except RenderError Unit)} (same : Shadows id body plain) :
    Shadows id (Run.fetchOrBuild store key lifetime body) (Run.nested plain) := by
  intro world result ran blind other sameBuilder
  rw [fetchOrBuild_eq] at ran
  obtain ⟨kept, middle, readRan, rest⟩ := bind_some ran
  have builder := (Silent.readFragment store key).keeps readRan
  cases kept with
  | some node =>
    have grown := ((Silent.log (.fragmentHit key)).bind fun _ => .pure _).grows middle result rest
    have absent := readFragment_blind readRan (blind.before grown)
    contradiction
  | none =>
    exact afterSilent (.log _) (fun _ => same.keepFragment store key lifetime) middle result rest blind other
      (sameBuilder.trans builder.symm)

theorem elementOf {found : Entries String} {body plain : Nat → Run σ (Except RenderError Unit)}
    (same : ∀ index, Shadows id (body index) (plain index)) {element : Nat × String}
    (missing : (Entries.get? element.2 found).bind decode? = none) :
    Shadows Prod.fst (Run.elementOf found body element) (Run.nested (plain element.1)) := by
  intro world result ran blind other sameBuilder
  obtain ⟨events, decoding, -⟩ := decodeFound_plain found element.2 world
  rw [elementOf_eq, bind_of_some decoding, missing, elementFrom_none, Option.map_eq_some_iff] at ran
  obtain ⟨⟨outcome, after⟩, bodyRan, rfl⟩ := ran
  obtain ⟨answer, plainRan, alike⟩ := (same element.1).nested _ _ bodyRan blind other sameBuilder
  refine ⟨answer, plainRan, alike.trans ?_⟩
  cases outcome <;> rfl

end Shadows

theorem Shadows.cacheSingly (store : Cache.Store σ) (lifetime : Option Nat)
    {body plain : Nat → Run σ (Except RenderError Unit)} (grows : ∀ index, Grows (body index))
    (same : ∀ index, Shadows id (body index) (plain index)) (elements : List (Nat × String)) :
    Shadows id (Run.cacheSingly store lifetime body elements)
      (buildNodes plain (elements.map Prod.fst)) := by
  have growing : ∀ element : Nat × String,
      Grows (Run.fetchOrBuild store element.2 lifetime (body element.1)) := fun element =>
    hereditary_grows.fetchOrBuild grows_storing store element.2 lifetime (fun _ => grows element.1) ()
  have nodes := Shadows.collect growing fun element (_ : element ∈ elements) =>
    Shadows.fetchOrBuild store element.2 lifetime (same element.1)
  unfold buildNodes
  rw [collect_map]
  refine Shadows.afterSilent (.log _) fun _ => nodes.mapped Json.arr Json.arr fun values => ?_
  rw [List.map_id]

theorem grows_keepElements (batch : Cache.Batch σ) (lifetime : Option Nat)
    (outcome : Except RenderError (List (Json × Option (String × String)))) :
    Grows (keepElements batch lifetime outcome) := by
  cases outcome with
  | error error => exact (Silent.pure _).grows
  | ok results =>
    exact (Silent.writeFragments batch lifetime _).grows.bind fun _ => (Silent.pure _).grows

theorem Shadows.cacheBatched (batch : Cache.Batch σ) (lifetime : Option Nat)
    {body plain : Nat → Run σ (Except RenderError Unit)} (grows : ∀ index, Grows (body index))
    (same : ∀ index, Shadows id (body index) (plain index)) (elements : List (Nat × String)) :
    Shadows id (Run.cacheBatched batch lifetime body elements)
      (buildNodes plain (elements.map Prod.fst)) := by
  intro world result ran blind other sameBuilder
  rw [cacheBatched_eq] at ran
  obtain ⟨found, middle, readRan, rest⟩ := bind_some ran
  have builder := (Silent.readFragments batch _).keeps readRan
  have growing : Grows (Run.collect (Run.elementOf found body) elements >>= keepElements batch lifetime) :=
    (grows_elements grows found elements).bind (grows_keepElements batch lifetime)
  have missing := readFragments_blind readRan (blind.before (growing middle result rest))
  have nodes := Shadows.collect (fun element => hereditary_grows.elementOf
    (fun index (_ : Unit) => grows index) found element ()) fun element member =>
      Shadows.elementOf same (missing element.2 (List.mem_map_of_mem member))
  have kept : Shadows id (Run.collect (Run.elementOf found body) elements >>= keepElements batch lifetime)
      (buildNodes plain (elements.map Prod.fst)) := by
    unfold buildNodes
    rw [collect_map]
    refine nodes.bind (grows_keepElements batch lifetime) (fun error => ⟨error, rfl⟩)
      (fun error => ⟨error, rfl⟩) fun results => ?_
    exact Shadows.afterSilent (.writeFragments batch lifetime _) fun _ =>
      Shadows.pure id (Json.arr (results.map Prod.fst))
  exact kept middle result rest blind other (sameBuilder.trans builder.symm)

/-- A run and the uncached one that shadows it. -/
structure Unseen (runs : Bool → Run σ (Except RenderError α)) : Prop where
  isolated : ∀ caching, Isolated (runs caching)
  grows : ∀ caching, Grows (runs caching)
  shadows : Shadows id (runs true) (runs false)

theorem hereditary_unseen : Hereditary True (fun _ runs => Unseen runs : Property Bool σ) where
  done outcome := by
    refine ⟨hereditary_isolated.done outcome, hereditary_grows.done outcome, ?_⟩
    cases outcome with
    | ok value => exact Shadows.pure id value
    | error error => exact Shadows.failed error
  sequence first next passes := by
    refine ⟨hereditary_isolated.sequence first.isolated (fun outcome => (next outcome).isolated) False.elim,
      hereditary_grows.sequence first.grows (fun outcome => (next outcome).grows) False.elim, ?_⟩
    exact first.shadows.bind (fun outcome => (next outcome).grows true) (passes trivial true)
      (passes trivial false) fun value => (next (.ok value)).shadows
  emitting other := fun next each =>
    ⟨hereditary_isolated.emitting other next fun value => (each value).isolated,
      hereditary_grows.emitting other next fun value => (each value).grows,
      .afterSilent (.emit other) fun value => .beforeSilent (.emit other) fun _ => (each value).shadows⟩
  observing islocal := fun next each =>
    ⟨hereditary_isolated.observing islocal next fun value => (each value).isolated,
      hereditary_grows.observing islocal next fun value => (each value).grows,
      .observe fun value => (each value).shadows⟩
  editing operation :=
    ⟨hereditary_isolated.editing operation, hereditary_grows.editing operation, .edit operation⟩
  nesting body :=
    ⟨hereditary_isolated.nesting body.isolated, hereditary_grows.nesting body.grows, body.shadows.nested⟩

theorem unseen_exceeded : Unseen fun _ => (failure : Run σ (Except RenderError α)) := by
  refine ⟨fun _ _ _ _ _ => rfl, fun _ world result ran => ?_, fun world result ran => ?_⟩ <;> contradiction

theorem unseen_cacheOne (renderer : Renderer σ) (condition : Bool) (key : Cache.KeyExpr)
    (options : Cache.Options) {bodies : Bool → Run σ (Except RenderError Unit)} (unseen : Unseen bodies) :
    Unseen fun caching => cacheOne (renderer.withCaching caching) condition key options (bodies caching) := by
  refine ⟨fun caching => ?_, fun caching => ?_, ?_⟩
  · exact hereditary_isolated.cacheOne isolated_storing _ condition key options
      (fun (_ : Unit) => unseen.isolated caching) ()
  · exact hereditary_grows.cacheOne grows_storing _ condition key options
      (fun (_ : Unit) => unseen.grows caching) ()
  · have plain := unseen.shadows.nested.spliced
    cases condition with
    | false => exact .afterSilent (.log _) fun _ => .beforeSilent (.log _) fun _ => plain
    | true =>
      refine Shadows.beforeSilent (.log (.fragmentBypassed key.expand)) fun _ => ?_
      cases stored : renderer.store with
      | none =>
        have inactive : (renderer.withCaching true).activeStore = none := stored
        simp only [cacheOne, inactive, if_true]
        exact .afterSilent (.log _) fun _ => plain
      | some store =>
        have active : (renderer.withCaching true).activeStore = some store := stored
        simp only [cacheOne, active, if_true]
        refine Shadows.afterSilent (.nameFragment _ key options) fun name => ?_
        exact (Shadows.fetchOrBuild store name _ unseen.shadows).spliced

/-- The uncached collection is built in place, the cached one is assembled and spliced. -/
theorem shadows_cacheEach (renderer : Renderer σ) {items : List Json.Payload} (options : Cache.Options)
    (key : Option (Nat → Cache.KeyExpr)) {bodies : Bool → Nat → Run σ (Except RenderError Unit)}
    (unseen : ∀ index, Unseen fun caching => bodies caching index)
    (converted : ∀ item ∈ items, ∃ value, item = .ok value) :
    Shadows id (cacheEach (renderer.withCaching true) (some items) options key (bodies true))
      (buildElements (bodies false) (List.range items.length)) := by
  cases stored : renderer.store with
  | none =>
    have inactive : (renderer.withCaching true).activeStore = none := stored
    simp only [cacheEach, inactive]
    exact .afterSilent (.log _) fun _ => (hereditary_unseen.buildElements unseen).shadows
  | some store =>
    have active : (renderer.withCaching true).activeStore = some store := stored
    obtain ⟨elements, named, indices⟩ := names_of_values (renderer.withCaching true) options key
      fun item member => converted item.2 (snd_mem_of_indexed member)
    rw [map_fst_indexed] at indices
    have assembled : Shadows id (cacheNamed store ((renderer.withCaching true).lifetime options)
        (bodies true) (.ok elements)) (buildNodes (bodies false) (List.range items.length)) := by
      rw [← indices]
      unfold cacheNamed
      cases store.batch with
      | some batch =>
        exact Shadows.cacheBatched batch _ (fun index => (unseen index).grows true)
          (fun index => (unseen index).shadows) elements
      | none =>
        exact Shadows.cacheSingly store _ (fun index => (unseen index).grows true)
          (fun index => (unseen index).shadows) elements
    intro world result ran blind other same
    rw [cacheEach_eq active] at ran
    obtain ⟨outcome, middle, naming, rest⟩ := bind_some ran
    rw [nameElements_value naming, named] at rest
    have builder := (Silent.nameElements _ options key _).keeps naming
    obtain ⟨answer, plainRan, alike⟩ :=
      assembled.spliced middle result rest blind other (same.trans builder.symm)
    obtain ⟨inPlace, inPlaceRan, inPlaceAlike⟩ :=
      buildElements_of_buildNodes (fun index => (unseen index).isolated false) plainRan
    exact ⟨inPlace, inPlaceRan, inPlaceAlike.trans alike⟩

theorem unseen_cacheEach (renderer : Renderer σ) {items : Option (List Json.Payload)}
    (options : Cache.Options) (key : Option (Nat → Cache.KeyExpr))
    {bodies : Bool → Nat → Run σ (Except RenderError Unit)}
    (unseen : ∀ index, Unseen fun caching => bodies caching index)
    (converted : ∀ list, items = some list → ∀ item ∈ list, ∃ value, item = .ok value) :
    Unseen fun caching => cacheEach (renderer.withCaching caching) items options key (bodies caching) := by
  refine ⟨fun caching => ?_, fun caching => ?_, ?_⟩
  · exact hereditary_isolated.cacheEach isolated_storing _ items options key
      (fun index (_ : Unit) => (unseen index).isolated caching) ()
  · exact hereditary_grows.cacheEach grows_storing _ items options key
      (fun index (_ : Unit) => (unseen index).grows caching) ()
  · cases items with
    | none => exact .splice (.ok (.arr []))
    | some list =>
      exact .beforeSilent (.log (.collectionBypassed list.length)) fun _ =>
        shadows_cacheEach renderer options key unseen (converted list rfl)

/-- Blocks that stop at errors, do not ask for settings and cache only what has a JSON form. -/
theorem lifts_unseen (renderer : Renderer σ) :
    Lifts True (fun _ runs => Unseen runs) (fun caching => renderer.withCaching caching) renderer.resolve
      fun block => block.StopsAtErrors ∧ block.IgnoresSettings ∧ block.ConvertsItems where
  kept := hereditary_unseen
  caches :=
    { one := fun _ _ unseen => unseen_cacheOne renderer _ _ _ unseen
      each := fun holds _ unseen => unseen_cacheEach renderer _ _ unseen fun list same => by
        subst same
        exact holds.2.2 }
  shared _ := rfl
  settings holds := holds.2.1.elim
  stops _ holds := holds.1

end Run

namespace Renderer

variable {σ : Type}

/--
A cached render of a finite block has a result; if its reads found nothing that could be used, then the
render without caching succeeds with the same documents.
-/
theorem unusable_cache_invisible (renderer : Renderer σ) (block : Block) (store : σ)
    (stops : block.Every renderer.resolve Block.StopsAtErrors)
    (ignores : block.Every renderer.resolve Block.IgnoresSettings)
    (converts : block.Every renderer.resolve Block.ConvertsItems) :
    (block.Finite renderer.resolve → ∃ cached, (renderer.withCaching true).Yields block store cached) ∧
    ∀ cached, (renderer.withCaching true).Yields block store cached →
      (∀ event ∈ cached.events, event.findsNothing) →
        ∃ plain, (renderer.withCaching false).Yields block store plain ∧
          ∀ document, cached.outcome = .ok document ↔ plain.outcome = .ok document := by
  refine ⟨fun finite => ?_, ?_⟩
  · have resolves : block.Finite (renderer.withCaching true).resolve := finite
    exact exists_yields resolves store
  rintro cached ⟨bound, ran⟩ blind
  have unseen := block.runWithin_of_hereditary (Run.lifts_unseen renderer)
    Run.unseen_exceeded bound (stops.and (ignores.and converts))
  rw [renderNode_eq, Option.map_eq_some_iff] at ran
  obtain ⟨⟨outcome, after⟩, cachedRan, rfl⟩ := ran
  have finds : Run.Blind after := fun event member => blind event (List.mem_reverse.2 member)
  obtain ⟨⟨answer, final⟩, plainRan, alike⟩ := unseen.shadows _ _ cachedRan finds
    ((renderer.withCaching false).start store) rfl
  refine ⟨ended (answer, final), ⟨bound, by rw [renderNode_eq, plainRan]; rfl⟩, fun document => ?_⟩
  cases outcome <;> cases answer <;> simp_all [Run.success, ended, Except.map]

def withStoreDown : Renderer Unit :=
  let down := Cache.StoreError.unavailable "down"
  let batch : Cache.Batch Unit :=
    ⟨fun _ _ => (.error down, ()), fun fragments _ _ => (fragments.map fun fragment => (fragment.1, down), ())⟩
  ⟨{}, .identity, noPartials, some ⟨fun _ _ => (.error down, ()), fun _ _ _ _ => (.error down, ()), batch⟩, .plain⟩

/-- A cached list whose elements hold a cached fragment. -/
def greetings : Block :=
  let greeting : Block := .act (.set "text" (.ok (.str "hello"))) .done
  .cacheCollection (some [.ok (.bool true), .ok (.bool false)]) {} none
    (fun _ => .cache true (.text "greeting") {} greeting .done) .done

theorem every_greetings (resolve : String → Except RenderError Template) :
    greetings.Every resolve fun block =>
      block.StopsAtErrors ∧ block.IgnoresSettings ∧ block.ConvertsItems := by
  simp [greetings, Block.every_cacheCollection, Block.every_cache, Block.every_act, Block.every_done,
    Block.StopsAtErrors, Block.StopsWith, Block.IgnoresSettings, Block.ConvertsItems]

theorem unusable_cache_invisible_greetings :
    ∃ plain, (withStoreDown.withCaching false).Yields greetings () plain ∧
      plain.outcome = .ok (.arr [.obj [("text", .str "hello")], .obj [("text", .str "hello")]]) := by
  have every := every_greetings withStoreDown.resolve
  obtain ⟨-, invisible⟩ := unusable_cache_invisible withStoreDown greetings ()
    (every.imp fun _ holds => holds.1) (every.imp fun _ holds => holds.2.1)
    (every.imp fun _ holds => holds.2.2)
  have ran : ((withStoreDown.withCaching true).renderNode 0 greetings ()).map
      (fun cached => (cached.document?, cached.events.all Event.findsNothing)) =
        some (some (.arr [.obj [("text", .str "hello")], .obj [("text", .str "hello")]]), true) := by
    decide +kernel
  obtain ⟨cached, cachedRan, same⟩ := Option.map_eq_some_iff.1 ran
  obtain ⟨document, blind⟩ := Prod.mk.inj same
  obtain ⟨plain, plainRan, alike⟩ := invisible cached ⟨0, cachedRan⟩ (List.all_eq_true.1 blind)
  exact ⟨plain, plainRan, (alike _).1 (Rendered.document?_eq_some.1 document)⟩

end Renderer

end Stencil
