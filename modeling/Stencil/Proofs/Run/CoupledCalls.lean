import Stencil.Proofs.Run.Coupled

/-!
# Cache calls side by side

Two runs stay coupled over a cache call: where nothing is cached, if what is logged is coupled; where
something is, if the calls of the store are, as far as they are about the keys that the call can name.
-/

namespace Stencil

/-- What a cache call is given besides its block. -/
structure Cache.Call where
  condition : Bool
  key : KeyExpr
  options : Options

/-- What a cache call for a collection is given besides its blocks. -/
structure Cache.CollectionCall where
  items : Option (List Json.Payload)
  options : Options
  key : Option (Nat → KeyExpr)

/-- Which steps of two programs count as alike; a question is asked by both or by none. -/
structure Pairing where
  asks : Query → Prop
  notes : Json → Json → Prop
  acts : Action → Action → Prop
  nodes : Json → Json → Prop
  caches : Cache.Call → Cache.Call → Prop
  collections : Cache.CollectionCall → Cache.CollectionCall → Prop

/-- The same steps, with these questions only. -/
def Pairing.same (asks : Query → Prop) : Pairing := ⟨asks, Eq, Eq, Eq, Eq, Eq⟩

namespace Run

variable {σ : Type} {W : World σ → World σ → Prop} {N : Json → Json → Prop} {pairing : Pairing}

/-- Cache calls that are alike keep the relation if their bodies do. -/
structure CachesCoupled (W : World σ → World σ → Prop) (pairing : Pairing) (one other : Renderer σ) :
    Prop where
  single {call callToo : Cache.Call} {body bodyToo : Run σ (Except RenderError Unit)} :
    pairing.caches call callToo → Coupled W Eq body bodyToo → Isolated body → Isolated bodyToo →
      Coupled W Eq (cacheOne one call.condition call.key call.options body)
        (cacheOne other callToo.condition callToo.key callToo.options bodyToo)
  each {call callToo : Cache.CollectionCall} {body bodyToo : Nat → Run σ (Except RenderError Unit)} :
    pairing.collections call callToo → (∀ index, Coupled W Eq (body index) (bodyToo index)) →
      (∀ index, Isolated (body index)) → (∀ index, Isolated (bodyToo index)) →
      Coupled W Eq (cacheEach one call.items call.options call.key body)
        (cacheEach other callToo.items callToo.options callToo.key bodyToo)

/-- The calls of a store keep the relation, as far as they are about these keys. -/
structure CallsCoupled (W : World σ → World σ → Prop) (store : Cache.Store σ) (K : String → Prop) : Prop where
  read {key : String} : K key → Coupled W Eq (readStore store key) (readStore store key)
  write {key : String} (fragment : String) (lifetime : Option Nat) : K key →
    Coupled W Eq (writeStore store key fragment lifetime) (writeStore store key fragment lifetime)
  readBatch {batch : Cache.Batch σ} {keys : List String} : store.batch = some batch →
    (∀ key ∈ keys, K key) → Coupled W Eq (readBatch batch keys) (readBatch batch keys)
  writeBatch {batch : Cache.Batch σ} {fragments : List (String × String)} (lifetime : Option Nat) :
    store.batch = some batch → (∀ fragment ∈ fragments, K fragment.1) →
      Coupled W Eq (writeBatch batch fragments lifetime) (writeBatch batch fragments lifetime)

namespace Coupling

theorem buildElements (coupling : Coupling W N) {body bodyToo : Nat → Run σ (Except RenderError Unit)}
    (coupled : ∀ index, Coupled W Eq (body index) (bodyToo index))
    (isolated : ∀ index, Isolated (body index)) (isolatedToo : ∀ index, Isolated (bodyToo index))
    (indices : List Nat) : Coupled W Eq (buildElements body indices) (buildElements bodyToo indices) := by
  have pushed : ∀ index,
      Coupled W (Accord Eq) (pushElement body index) (pushElement bodyToo index) := by
    intro index
    refine (coupling.nested (coupled index) (isolated index) (isolatedToo index)).succeeding
      (fun _ => rfl) (fun _ => rfl) fun node other related => ?_
    exact Coupled.accord_iff.2 (coupling.pushes related)
  rw [buildElements_eq, buildElements_eq, ← Coupled.accord_iff]
  refine (Coupled.accord_iff.2 coupling.opens).succeeding (fun _ => rfl) (fun _ => rfl) fun _ _ _ => ?_
  exact (Coupled.collect (List.forall₂_same.2 fun index _ => pushed index)).mapped fun _ _ _ => rfl

/-- Where nothing is cached, only what is logged may differ. -/
theorem caches_of_inactive (coupling : Coupling W pairing.nodes) {one other : Renderer σ}
    (inactive : one.activeStore = none) (inactiveToo : other.activeStore = none)
    (logs : ∀ call callToo, pairing.caches call callToo → Coupled W Eq
      (Run.log (bypassed call.condition call.key)) (Run.log (bypassed callToo.condition callToo.key)))
    (lengths : ∀ call callToo, pairing.collections call callToo →
      call.items.map List.length = callToo.items.map List.length) :
    CachesCoupled W pairing one other where
  single {call callToo body bodyToo} called coupled isolated isolatedToo := by
    rw [cacheOne_inactive inactive, cacheOne_inactive inactiveToo]
    exact (logs call callToo called).bind fun _ _ _ =>
      coupling.spliced (coupling.nested coupled isolated isolatedToo)
  each {call callToo body bodyToo} called coupled isolated isolatedToo := by
    obtain ⟨items, options, key⟩ := call
    obtain ⟨others, optionsToo, keyToo⟩ := callToo
    have equal := lengths _ _ called
    cases items with
    | none =>
      obtain rfl := Option.map_eq_none_iff.1 equal.symm
      exact coupling.splice (.ok (coupling.arrays .nil))
    | some items =>
      obtain ⟨others, rfl, length⟩ := Option.map_eq_some_iff.1 equal.symm
      rw [cacheEach_inactive inactive, cacheEach_inactive inactiveToo, length]
      exact (coupling.log _).bind fun _ _ _ => coupling.buildElements coupled isolated isolatedToo _

section Stored

variable (coupling : Coupling W Eq) {store : Cache.Store σ} {K : String → Prop}
  (calls : CallsCoupled W store K)

include coupling

theorem decodeFound (found : Entries String) (key : String) :
    Coupled W Eq (Run.decodeFound found key) (Run.decodeFound found key) :=
  coupling.silent (.decodeFound found key)

/-- A fragment that has to be kept has the key of its element. -/
theorem elementOf (found : Entries String) {body bodyToo : Nat → Run σ (Except RenderError Unit)}
    {element : Nat × String} (known : K element.2)
    (coupled : Coupled W Eq (body element.1) (bodyToo element.1)) (isolated : Isolated (body element.1))
    (isolatedToo : Isolated (bodyToo element.1)) :
    Coupled W (Accord fun built other => (∀ fragment ∈ built.2, K fragment.1) ∧ built = other)
      (Run.elementOf found body element) (Run.elementOf found bodyToo element) := by
  rw [elementOf_eq, elementOf_eq]
  refine (coupling.decodeFound found element.2).bind ?_
  rintro (_ | node) _ rfl
  · refine (coupling.log _).bind fun _ _ _ => ?_
    refine (coupling.nested coupled isolated isolatedToo).bind fun outcome other accord => ?_
    refine .pure (accord.map fun node other same => ⟨?_, by rw [same]⟩)
    rintro fragment built
    obtain rfl := Option.mem_some_iff.1 built
    exact known
  · refine (coupling.log _).bind fun _ _ _ => .pure (.ok ⟨?_, rfl⟩)
    simp

include calls

theorem readFragment {key : String} (known : K key) :
    Coupled W Eq (Run.readFragment store key) (Run.readFragment store key) := by
  refine (calls.read known).bind ?_
  rintro (error | _ | fragment) _ rfl
  · exact (coupling.log _).bind fun _ _ _ => .pure rfl
  · exact .pure rfl
  · exact coupling.silent (.decodeFragment key fragment)

theorem writeFragment {key : String} (known : K key) (lifetime : Option Nat) (node : Json) :
    Coupled W Eq (Run.writeFragment store key lifetime node) (Run.writeFragment store key lifetime node) := by
  refine (calls.write node.compact lifetime known).bind ?_
  rintro (error | _) _ rfl
  · exact coupling.log _
  · exact .pure rfl

theorem fetchOrBuild {key : String} (known : K key) (lifetime : Option Nat)
    {body bodyToo : Run σ (Except RenderError Unit)} (coupled : Coupled W Eq body bodyToo)
    (isolated : Isolated body) (isolatedToo : Isolated bodyToo) :
    Coupled W (Accord Eq) (Run.fetchOrBuild store key lifetime body)
      (Run.fetchOrBuild store key lifetime bodyToo) := by
  rw [fetchOrBuild_eq, fetchOrBuild_eq]
  refine (coupling.readFragment calls known).bind ?_
  rintro (_ | node) _ rfl
  · refine (coupling.log _).bind fun _ _ _ => ?_
    refine (coupling.nested coupled isolated isolatedToo).succeeding (fun _ => rfl) (fun _ => rfl) ?_
    rintro node _ rfl
    exact (coupling.writeFragment calls known lifetime node).bind fun _ _ _ => .pure (.ok rfl)
  · exact (coupling.log _).bind fun _ _ _ => .pure (.ok rfl)

theorem readFragments {batch : Cache.Batch σ} (batched : store.batch = some batch) {keys : List String}
    (known : ∀ key ∈ keys, K key) :
    Coupled W Eq (Run.readFragments batch keys) (Run.readFragments batch keys) := by
  refine (calls.readBatch batched known).bind ?_
  rintro (error | found) _ rfl
  · exact (coupling.log _).bind fun _ _ _ => (coupling.log _).bind fun _ _ _ => .pure rfl
  · exact (coupling.log _).bind fun _ _ _ => .pure rfl

theorem writeFragments {batch : Cache.Batch σ} (batched : store.batch = some batch) (lifetime : Option Nat)
    {fragments : List (String × String)} (known : ∀ fragment ∈ fragments, K fragment.1) :
    Coupled W Eq (Run.writeFragments batch lifetime fragments)
      (Run.writeFragments batch lifetime fragments) := by
  unfold Run.writeFragments
  split
  · exact .pure rfl
  · refine (calls.writeBatch lifetime batched known).bind ?_
    rintro failed _ rfl
    exact (coupling.silent (.logAll failed)).bind fun _ _ _ => coupling.log _

theorem cacheBatched {batch : Cache.Batch σ} (batched : store.batch = some batch) (lifetime : Option Nat)
    {body bodyToo : Nat → Run σ (Except RenderError Unit)}
    (coupled : ∀ index, Coupled W Eq (body index) (bodyToo index))
    (isolated : ∀ index, Isolated (body index)) (isolatedToo : ∀ index, Isolated (bodyToo index))
    {elements : List (Nat × String)} (known : ∀ element ∈ elements, K element.2) :
    Coupled W (Accord Eq) (Run.cacheBatched batch lifetime body elements)
      (Run.cacheBatched batch lifetime bodyToo elements) := by
  have keys : ∀ key ∈ elements.map Prod.snd, K key := by
    intro key member
    obtain ⟨element, among, rfl⟩ := List.mem_map.1 member
    exact known element among
  rw [cacheBatched_eq, cacheBatched_eq]
  refine (coupling.readFragments calls batched keys).bind ?_
  rintro found _ rfl
  have each := fun element (among : element ∈ elements) => coupling.elementOf found (known element among)
    (coupled element.1) (isolated element.1) (isolatedToo element.1)
  refine (Coupled.collect (List.forall₂_same.2 each)).succeeding (fun _ => rfl) (fun _ => rfl) ?_
  intro results others related
  have same : results = others := by
    rw [← List.forall₂_eq_eq_eq]
    exact related.imp fun _ _ built => built.2
  subst same
  have written : ∀ fragment ∈ results.filterMap Prod.snd, K fragment.1 := by
    intro fragment member
    obtain ⟨built, among, kept⟩ := List.mem_filterMap.1 member
    exact (List.forall₂_same.1 related built among).1 fragment kept
  exact (coupling.writeFragments calls batched lifetime written).bind fun _ _ _ => .pure (.ok rfl)

theorem cacheNamed (lifetime : Option Nat) {body bodyToo : Nat → Run σ (Except RenderError Unit)}
    (coupled : ∀ index, Coupled W Eq (body index) (bodyToo index))
    (isolated : ∀ index, Isolated (body index)) (isolatedToo : ∀ index, Isolated (bodyToo index))
    {elements : List (Nat × String)} (known : ∀ element ∈ elements, K element.2) :
    Coupled W (Accord Eq) (Run.cacheNamed store lifetime body (.ok elements))
      (Run.cacheNamed store lifetime bodyToo (.ok elements)) := by
  unfold Run.cacheNamed
  cases batched : store.batch with
  | some batch => exact coupling.cacheBatched calls batched lifetime coupled isolated isolatedToo known
  | none =>
    have each := fun element (among : element ∈ elements) => coupling.fetchOrBuild calls
      (known element among) lifetime (coupled element.1) (isolated element.1) (isolatedToo element.1)
    refine (coupling.log _).bind fun _ _ _ => (Coupled.collect (List.forall₂_same.2 each)).mapped ?_
    intro nodes others related
    rw [List.forall₂_eq_eq_eq] at related
    rw [related]

theorem caches_of_store {renderer : Renderer σ} (active : renderer.activeStore = some store)
    (keys : ∀ key options, K (renderer.storeKey key options)) (asks : Query → Prop) :
    CachesCoupled W (.same asks) renderer renderer where
  single := by
    rintro ⟨condition, key, options⟩ _ body bodyToo rfl coupled isolated isolatedToo
    unfold cacheOne
    rw [active]
    dsimp only
    split
    · have named := (coupling.silent (.nameFragment renderer key options)).with_value
        fun _ _ _ ran => nameFragment_value ran
      refine named.bind ?_
      rintro name _ ⟨rfl, rfl⟩
      exact coupling.spliced
        (coupling.fetchOrBuild calls (keys key options) _ coupled isolated isolatedToo)
    · exact (coupling.log _).bind fun _ _ _ =>
        coupling.spliced (coupling.nested coupled isolated isolatedToo)
  each := by
    rintro ⟨_ | items, options, key⟩ _ body bodyToo rfl coupled isolated isolatedToo
    · have empty : Accord Eq (.ok (.arr []) : Except RenderError Json) (.ok (.arr [])) := .ok rfl
      exact coupling.splice empty
    · rw [cacheEach_eq active, cacheEach_eq active]
      have named := (coupling.silent (.nameElements renderer options key (indexed items))).with_value
        fun _ _ _ ran => nameElements_value ran
      refine named.bind ?_
      rintro names _ ⟨same, rfl⟩
      cases names with
      | error error => exact .pure rfl
      | ok elements =>
        refine coupling.spliced (coupling.cacheNamed calls _ coupled isolated isolatedToo ?_)
        intro element member
        obtain ⟨expr, named⟩ := storeKeys_of_names same.symm element member
        rw [named]
        exact keys expr options

end Stored

theorem caches (coupling : Coupling W Eq) {renderer : Renderer σ} {K : String → Prop}
    (calls : ∀ store, renderer.activeStore = some store → CallsCoupled W store K)
    (keys : ∀ key options, K (renderer.storeKey key options)) (asks : Query → Prop) :
    CachesCoupled W (.same asks) renderer renderer := by
  cases active : renderer.activeStore with
  | none =>
    refine caches_of_inactive coupling active active ?_ ?_
    · rintro call _ rfl
      exact coupling.log _
    · rintro call _ rfl
      rfl
  | some store => exact coupling.caches_of_store (calls store active) active keys asks

end Coupling

end Run

end Stencil
