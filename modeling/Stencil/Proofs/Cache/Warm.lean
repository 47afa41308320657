import Mathlib.Data.List.Forall2
import Mathlib.Data.List.Nodup
import Stencil.Proofs.Cache.Repeats
import Stencil.Proofs.Run.Bound
import Stencil.Proofs.Run.Collections

/-!
# Rendering again

A render that succeeds leaves a node in the store for every cache call that no other one encloses. Each
call then finds its node when the block is rendered again, so that the whole render is repeated.
-/

namespace Stencil

open Cache

open MemoryStore (Extends)

namespace Run

/-! ### One cache call -/

section Single

variable {batched : Bool} {key : String} {lifetime : Option Nat}
  {body : Run MemoryStore (Except RenderError Unit)}

theorem nested_ok (steady : Steady body) {world after : World MemoryStore} {node : Json}
    (ran : nested body world = some (.ok node, after)) (lasting : Lasting after) :
    Extends world.store after.store ∧ after.builder = world.builder :=
  ⟨(repeats_nested (steady.repeats ()) node world after ran lasting).1, nested_keeps steady.isolated ran⟩

/-- A cache call that succeeds leaves its node under its key. -/
theorem fetchOrBuild_first (steady : Steady body) {world after : World MemoryStore} {node : Json}
    (ran : fetchOrBuild (MemoryStore.store batched) key lifetime body world = some (.ok node, after))
    (lasting : Lasting after) :
    Extends world.store after.store ∧ after.store.node? key = some node ∧
      after.builder = world.builder := by
  obtain ⟨events, reading, -⟩ := readFragment_memory batched key world
  have looked : ∀ name, (world.store.lookup key).2.live? name = world.store.live? name :=
    fun name => MemoryStore.live?_lookup key name world.store
  rw [fetchOrBuild_eq, bind_of_some reading] at ran
  cases found : world.store.node? key with
  | some kept =>
    rw [found] at ran
    obtain ⟨rfl, rfl⟩ := ok_inj ran
    exact ⟨MemoryStore.extends_of_live? looked, (MemoryStore.node?_of_live? (looked key)).trans found, rfl⟩
  | none =>
    rw [found] at ran
    obtain ⟨_, logged, logging, building⟩ := bind_some ran
    obtain ⟨-, rfl⟩ := result_inj logging
    obtain ⟨outcome, built, buildRan, rest⟩ := bind_some building
    cases outcome with
    | error error => exact absurd (result_inj rest).1 (by simp)
    | ok value =>
      rw [keepFragment_memory] at rest
      obtain ⟨rfl, rfl⟩ := ok_inj rest
      obtain ⟨within, builder⟩ := nested_ok steady buildRan (lasting.before (List.suffix_cons _ _))
      obtain ⟨lives, portable, isPortable, text⟩ :=
        lasting (.write key value.compact lifetime (.ok ())) List.mem_cons_self
      refine ⟨fun name node kept => ?_, ?_, builder⟩
      · have other : key ≠ name := by
          rintro rfl
          rw [found] at kept
          contradiction
        have inBuilt := within name node ((MemoryStore.node?_of_live? (looked name)).trans kept)
        refine (MemoryStore.node?_of_live? ?_).trans inBuilt
        rw [MemoryStore.live?_write, if_neg other]
      · refine MemoryStore.node?_of_portable lives isPortable text ?_
        rw [MemoryStore.get?_write, if_pos rfl]

/-- A cache call whose node is kept gives it, and does nothing else. -/
theorem fetchOrBuild_again {later : World MemoryStore} {node : Json}
    (kept : later.store.node? key = some node) :
    ∃ final, fetchOrBuild (MemoryStore.store batched) key lifetime body later = some (.ok node, final) ∧
      final.builder = later.builder ∧ Served later final := by
  obtain ⟨events, reading, reads⟩ := readFragment_memory batched key later
  rw [kept] at reading
  rw [fetchOrBuild_eq, bind_of_some reading]
  refine ⟨_, rfl, rfl, fun name => MemoryStore.live?_lookup key name later.store, ?_,
    .log (.fragmentHit key) :: events, rfl, ?_⟩
  · exact MemoryStore.misses_lookup (MemoryStore.isSome_fragment? kept)
  · intro event member
    rcases List.mem_cons.1 member with rfl | earlier
    · rfl
    · exact reads event earlier

theorem steady_fetchOrBuild (steady : Steady body) :
    Steady (fetchOrBuild (MemoryStore.store batched) key lifetime body) where
  isolated := hereditary_isolated.fetchOrBuild isolated_storing _ key lifetime
    (fun (_ : Unit) => steady.isolated) ()
  grows := hereditary_grows.fetchOrBuild grows_storing _ key lifetime
    (fun (_ : Unit) => steady.grows) ()
  repeats node := by
    intro world after ran lasting
    obtain ⟨extends_, kept, builder⟩ := fetchOrBuild_first steady ran lasting
    refine ⟨extends_, fun later same keeps => ?_⟩
    obtain ⟨final, finalRan, finalBuilder, served⟩ := fetchOrBuild_again (keeps key node kept)
    exact ⟨final, finalRan, finalBuilder.trans (same.trans builder.symm), served⟩

end Single

/-! ### A batched collection -/

/-- What becomes of an element: its node was found, or it was built and has to be written. -/
def Resolved (found : Entries String) (element : Nat × String)
    (result : Json × Option (String × String)) : Prop :=
  ((Entries.get? element.2 found).bind decode? = some result.1 ∧ result.2 = none) ∨
  ((Entries.get? element.2 found).bind decode? = none ∧ result.2 = some (element.2, result.1.compact))

section Batched

variable {lifetime : Option Nat} {body : Nat → Run MemoryStore (Except RenderError Unit)}

theorem elementOf_first (steady : ∀ index, Steady (body index)) {found : Entries String}
    {element : Nat × String} {world after : World MemoryStore} {result : Json × Option (String × String)}
    (ran : elementOf found body element world = some (.ok result, after)) (lasting : Lasting after) :
    Extends world.store after.store ∧ after.builder = world.builder ∧ Resolved found element result := by
  obtain ⟨events, decoding, -⟩ := decodeFound_plain found element.2 world
  rw [elementOf_eq, bind_of_some decoding] at ran
  cases decoded : (Entries.get? element.2 found).bind decode? with
  | some node =>
    rw [decoded] at ran
    obtain ⟨rfl, rfl⟩ := ok_inj ran
    exact ⟨.refl _, rfl, .inl ⟨decoded, rfl⟩⟩
  | none =>
    rw [decoded, elementFrom_none, Option.map_eq_some_iff] at ran
    obtain ⟨⟨outcome, built⟩, buildRan, ended⟩ := ran
    cases outcome with
    | error error => exact absurd (Prod.mk.inj ended).1 (by simp [withBuilt, Except.map])
    | ok node =>
      obtain ⟨same, rfl⟩ := Prod.mk.inj ended
      obtain rfl := Except.ok.inj same
      obtain ⟨within, builder⟩ := nested_ok (steady element.1) buildRan lasting
      exact ⟨within, builder, .inr ⟨decoded, rfl⟩⟩

theorem collect_elementOf_first (steady : ∀ index, Steady (body index)) {found : Entries String}
    {elements : List (Nat × String)} {world after : World MemoryStore}
    {results : List (Json × Option (String × String))}
    (ran : collect (elementOf found body) elements world = some (.ok results, after))
    (lasting : Lasting after) :
    Extends world.store after.store ∧ after.builder = world.builder ∧
      List.Forall₂ (Resolved found) elements results := by
  induction elements generalizing world results with
  | nil =>
    obtain ⟨rfl, rfl⟩ := ok_inj ran
    exact ⟨.refl _, rfl, .nil⟩
  | cons element rest ih =>
    obtain ⟨error, -, failed⟩ | ⟨result, middle, outcome, firstRan, restRan, mapped⟩ :=
      collect_cons_some ran
    · contradiction
    · cases outcome with
      | error error => contradiction
      | ok others =>
        obtain rfl := Except.ok.inj mapped
        have growing := grows_elements (fun index => (steady index).grows) found rest
        have lastingMiddle := lasting.before (growing middle _ restRan)
        obtain ⟨within, builder, resolved⟩ := elementOf_first steady firstRan lastingMiddle
        obtain ⟨later, laterBuilder, others⟩ := ih restRan
        exact ⟨within.trans later, laterBuilder.trans builder, .cons resolved others⟩

theorem mem_fragments {found : Entries String} {elements : List (Nat × String)}
    {results : List (Json × Option (String × String))}
    (resolved : List.Forall₂ (Resolved found) elements results) {key text : String}
    (member : (key, text) ∈ results.filterMap Prod.snd) :
    ∃ element result, (element, result) ∈ elements.zip results ∧ element.2 = key ∧
      result.2 = some (key, text) ∧ (Entries.get? key found).bind decode? = none := by
  obtain ⟨result, among, written⟩ := List.mem_filterMap.1 member
  have second : (elements.zip results).map Prod.snd = results :=
    List.map_snd_zip (Nat.le_of_eq resolved.length_eq.symm)
  rw [← second] at among
  obtain ⟨⟨element, result⟩, paired, rfl⟩ := List.mem_map.1 among
  obtain ⟨-, absent⟩ | ⟨undecoded, same⟩ := List.forall₂_zip resolved paired
  · rw [absent] at written
    contradiction
  · have key_eq := (Prod.mk.inj (Option.some.inj (same.symm.trans written))).1
    rw [key_eq] at undecoded
    exact ⟨element, result, paired, key_eq, written, undecoded⟩

theorem eq_of_key_eq {elements : List (Nat × String)} {results : List (Json × Option (String × String))}
    (distinct : (elements.map Prod.snd).Nodup) (lengths : elements.length = results.length)
    {one other : (Nat × String) × (Json × Option (String × String))}
    (oneMember : one ∈ elements.zip results) (otherMember : other ∈ elements.zip results)
    (same : one.1.2 = other.1.2) : one = other := by
  have first : (elements.zip results).map Prod.fst = elements := List.map_fst_zip (Nat.le_of_eq lengths)
  rw [← first, List.map_map] at distinct
  exact List.inj_on_of_nodup_map distinct oneMember otherMember same

/-- Writing what had to be built keeps what was found, and adds the rest. -/
theorem writeAll_resolved {elements : List (Nat × String)} {world built : MemoryStore}
    {results : List (Json × Option (String × String))}
    (resolved : List.Forall₂ (Resolved (world.readAll (elements.map Prod.snd)).1) elements results)
    (within : Extends world built) (distinct : (elements.map Prod.snd).Nodup)
    (lasting : results.filterMap Prod.snd ≠ [] →
      (Event.writeBatch (results.filterMap Prod.snd) lifetime []).Lasting) :
    Extends world (built.writeAll lifetime (results.filterMap Prod.snd)) ∧
      ∀ element result, (element, result) ∈ elements.zip results →
        (built.writeAll lifetime (results.filterMap Prod.snd)).node? element.2 = some result.1 := by
  have lengths := resolved.length_eq
  constructor
  · intro key node kept
    refine (MemoryStore.node?_writeAll_of_absent (fun text member => ?_) lifetime built).trans
      (within key node kept)
    obtain ⟨element, result, paired, rfl, -, undecoded⟩ := mem_fragments resolved member
    have asked := List.mem_map_of_mem (f := Prod.snd) (List.of_mem_zip paired).1
    rw [MemoryStore.node?_readAll asked, kept] at undecoded
    contradiction
  · intro element result paired
    have only : ∀ {text : String}, (element.2, text) ∈ results.filterMap Prod.snd →
        result.2 = some (element.2, text) := by
      intro text member
      obtain ⟨other, found, otherPaired, same, written, -⟩ := mem_fragments resolved member
      have equal := eq_of_key_eq distinct lengths otherPaired paired same
      rw [← (Prod.mk.inj equal).2]
      exact written
    obtain ⟨decoded, absent⟩ | ⟨-, written⟩ := List.forall₂_zip resolved paired
    · have asked := List.mem_map_of_mem (f := Prod.snd) (List.of_mem_zip paired).1
      rw [MemoryStore.node?_readAll asked] at decoded
      refine (MemoryStore.node?_writeAll_of_absent (fun text member => ?_) lifetime built).trans
        (within _ _ decoded)
      rw [only member] at absent
      contradiction
    · have member : (element.2, result.1.compact) ∈ results.filterMap Prod.snd :=
        List.mem_filterMap.2 ⟨result, (List.of_mem_zip paired).2, written⟩
      obtain ⟨lives, portable⟩ := lasting (List.ne_nil_of_mem member)
      obtain ⟨node, isPortable, text⟩ := portable _ member
      refine MemoryStore.node?_of_portable lives isPortable text ?_
      refine MemoryStore.get?_writeAll_of_mem member (fun other among => ?_) lifetime built
      exact (Prod.mk.inj (Option.some.inj ((only among).symm.trans written))).2

/-- A batched collection that succeeds leaves the nodes of its elements under their keys. -/
theorem cacheBatched_first (steady : ∀ index, Steady (body index)) {elements : List (Nat × String)}
    {world after : World MemoryStore} {array : Json}
    (ran : cacheBatched MemoryStore.batch lifetime body elements world = some (.ok array, after))
    (lasting : Lasting after) :
    Extends world.store after.store ∧ after.builder = world.builder ∧
      ∃ nodes, array = .arr nodes ∧
        List.Forall₂ (fun element node => after.store.node? element.2 = some node) elements nodes := by
  rw [cacheBatched_eq, bind_of_some (readFragments_memory world (elements.map Prod.snd))] at ran
  obtain ⟨outcome, built, buildRan, rest⟩ := bind_some ran
  cases outcome with
  | error error => exact absurd (result_inj rest).1 (by simp)
  | ok results =>
    obtain ⟨_, written, writing, ended⟩ := bind_some rest
    obtain ⟨rfl, rfl⟩ := ok_inj ended
    obtain ⟨events, writes, recorded⟩ :=
      writeFragments_memory built lifetime (results.filterMap Prod.snd)
    obtain ⟨-, rfl⟩ := result_inj (writing.symm.trans writes)
    have lastingBuilt : Lasting built := lasting.before (List.suffix_append _ _)
    obtain ⟨within, builder, resolved⟩ := collect_elementOf_first steady buildRan lastingBuilt
    have read : Extends world.store (world.store.readAll (elements.map Prod.snd)).2 :=
      MemoryStore.extends_of_live? fun key => MemoryStore.live?_readAll _ key world.store
    have grown := grows_elements (fun index => (steady index).grows) _ elements _ _ buildRan
    have asked := grown.subset (List.mem_cons_of_mem _ List.mem_cons_self)
    have distinct : (elements.map Prod.snd).Nodup := lastingBuilt _ asked
    obtain ⟨extends_, kept⟩ := writeAll_resolved resolved (read.trans within) distinct fun some => by
      rcases recorded with ⟨none, -⟩ | member
      · exact absurd none some
      · exact lasting _ (List.mem_append_left _ member)
    refine ⟨extends_, builder, results.map Prod.fst, rfl, ?_⟩
    rw [List.forall₂_map_right_iff, List.forall₂_iff_zip]
    exact ⟨resolved.length_eq, kept _ _⟩

theorem collect_elementOf_again {found : Entries String} {elements : List (Nat × String)}
    {nodes : List Json}
    (kept : List.Forall₂ (fun element node => (Entries.get? element.2 found).bind decode? = some node)
      elements nodes) (later : World MemoryStore) :
    ∃ events, collect (elementOf found body) elements later =
        some (.ok (nodes.map fun node => (node, none)), { later with events := events ++ later.events }) ∧
      ∀ event ∈ events, event.isWrite = false := by
  induction kept generalizing later with
  | nil => exact ⟨[], rfl, by simp⟩
  | @cons element node elements nodes decoded _ ih =>
    obtain ⟨decodes, decoding, plain⟩ := decodeFound_plain found element.2 later
    rw [decoded] at decoding
    obtain ⟨events, others, reads⟩ :=
      ih { later with events := .log (.fragmentHit element.2) :: decodes ++ later.events }
    have first : elementOf found body element later = some (.ok (node, none),
        { later with events := .log (.fragmentHit element.2) :: decodes ++ later.events }) := by
      rw [elementOf_eq, bind_of_some decoding]
      rfl
    refine ⟨events ++ .log (.fragmentHit element.2) :: decodes, ?_, ?_⟩
    · rw [collect_of_ok first others, List.append_assoc]
      rfl
    · intro event member
      rcases List.mem_append.1 member with late | early
      · exact reads event late
      · rcases List.mem_cons.1 early with rfl | decode
        · rfl
        · exact Event.isWrite_of_plain (plain event decode)

/-- A batched collection whose nodes are kept gives them, and does nothing else. -/
theorem cacheBatched_again (lifetime : Option Nat) (body : Nat → Run MemoryStore (Except RenderError Unit))
    {elements : List (Nat × String)} {nodes : List Json} {later : World MemoryStore}
    (kept : List.Forall₂ (fun element node => later.store.node? element.2 = some node) elements nodes) :
    ∃ final, cacheBatched MemoryStore.batch lifetime body elements later = some (.ok (.arr nodes), final) ∧
      final.builder = later.builder ∧ Served later final := by
  have usable : ∀ key ∈ elements.map Prod.snd, (later.store.fragment? key).isSome := by
    intro key member
    obtain ⟨element, among, rfl⟩ := List.mem_map.1 member
    obtain ⟨node, -, found⟩ := exists_zip_of_mem kept among
    exact MemoryStore.isSome_fragment? found
  have decoded : List.Forall₂ (fun element node =>
      (Entries.get? element.2 (later.store.readAll (elements.map Prod.snd)).1).bind decode? = some node)
      elements nodes := by
    rw [List.forall₂_iff_zip] at kept ⊢
    refine ⟨kept.1, fun {element node} paired => ?_⟩
    rw [MemoryStore.node?_readAll (List.mem_map_of_mem (List.of_mem_zip paired).1)]
    exact kept.2 paired
  have nothing : (nodes.map fun node => (node, none)).filterMap Prod.snd = ([] : List (String × String)) :=
    List.filterMap_eq_nil_iff.2 (by simp)
  have array : (nodes.map fun node => (node, (none : Option (String × String)))).map Prod.fst = nodes := by
    simp [Function.comp_def]
  have rest : ∀ world : World MemoryStore, keepElements MemoryStore.batch lifetime
      (.ok (nodes.map fun node => (node, none))) world = some (.ok (.arr nodes), world) := by
    intro world
    simp only [keepElements, nothing, array]
    rfl
  rw [cacheBatched_eq, bind_of_some (readFragments_memory later (elements.map Prod.snd))]
  let read : List Event :=
    [.log (.batchRead (later.store.readAll (elements.map Prod.snd)).1.length (elements.map Prod.snd).length),
      .readBatch (elements.map Prod.snd) (.ok (later.store.readAll (elements.map Prod.snd)).1)]
  obtain ⟨events, collected, reads⟩ := collect_elementOf_again decoded
    ⟨later.builder, (later.store.readAll (elements.map Prod.snd)).2, read ++ later.events⟩
  refine ⟨_, (bind_of_some collected).trans (rest _), rfl,
    fun name => MemoryStore.live?_readAll _ name later.store, MemoryStore.misses_lookupAll usable,
    events ++ read, (List.append_assoc events read later.events).symm, fun event member => ?_⟩
  rcases List.mem_append.1 member with late | early
  · exact reads event late
  · simp only [read, List.mem_cons, List.not_mem_nil, or_false] at early
    rcases early with rfl | rfl <;> rfl

theorem steady_cacheBatched (steady : ∀ index, Steady (body index)) (elements : List (Nat × String)) :
    Steady (cacheBatched MemoryStore.batch lifetime body elements) where
  isolated := hereditary_isolated.cacheBatched isolated_storing _ lifetime
    (fun index (_ : Unit) => (steady index).isolated) elements ()
  grows := hereditary_grows.cacheBatched grows_storing _ lifetime
    (fun index (_ : Unit) => (steady index).grows) elements ()
  repeats array := by
    intro world after ran lasting
    obtain ⟨extends_, builder, nodes, rfl, kept⟩ := cacheBatched_first steady ran lasting
    refine ⟨extends_, fun later same keeps => ?_⟩
    obtain ⟨final, finalRan, finalBuilder, served⟩ :=
      cacheBatched_again lifetime body (kept.imp fun (element : Nat × String) node => keeps element.2 node)
    exact ⟨final, finalRan, finalBuilder.trans (same.trans builder.symm), served⟩

end Batched

/-! ### Whole blocks -/

theorem activeStore_cases {σ : Type} {renderer : Renderer σ} {store : Cache.Store σ}
    (stored : renderer.store = some store) :
    renderer.activeStore = none ∨ renderer.activeStore = some store := by
  unfold Renderer.activeStore
  split
  · exact .inr stored
  · exact .inl rfl

theorem steady_caches {renderer : Renderer MemoryStore} {batched : Bool}
    (stored : renderer.store = some (MemoryStore.store batched)) (H : Block → Prop) :
    KeptByCaches (fun _ run => ∀ i : Unit, Steady (run i)) (fun _ => renderer) H where
  one {condition key options _ _} _ body steady := by
    have plain := hereditary_steady.spliced (hereditary_steady.nesting steady)
    unfold cacheOne
    split
    · obtain inactive | active := activeStore_cases stored
      · rw [inactive]
        exact hereditary_steady.log _ _ fun _ => plain
      · rw [active]
        refine (Silent.nameFragment renderer key options).precedes hereditary_steady False.elim _ fun name => ?_
        exact hereditary_steady.spliced fun i => steady_fetchOrBuild (steady i)
    · exact hereditary_steady.log _ _ fun _ => plain
  each {items options key _ _} _ body steady := by
    unfold cacheEach
    cases items with
    | none => exact hereditary_steady.splice _
    | some items =>
      obtain inactive | active := activeStore_cases stored
      · simp only [inactive]
        exact hereditary_steady.log _ _ fun _ => hereditary_steady.buildElements steady
      · simp only [active]
        refine (Silent.nameElements renderer options key _).precedes hereditary_steady False.elim _ ?_
        rintro (error | elements)
        · exact hereditary_steady.done _
        · cases batched with
          | false =>
            refine hereditary_steady.spliced (hereditary_steady.log _ _ fun _ => ?_)
            refine hereditary_steady.mapped Json.arr (hereditary_steady.collect fun element _ i => ?_)
            exact steady_fetchOrBuild (steady element.1 i)
          | true =>
            exact hereditary_steady.spliced fun i => steady_cacheBatched (fun index => steady index i) elements

theorem steady_runWithin {renderer : Renderer MemoryStore} {batched : Bool}
    (stored : renderer.store = some (MemoryStore.store batched)) (bound : Nat) {block : Block}
    (stops : block.Every renderer.resolve Block.StopsAtErrors) :
    Steady (block.runWithin renderer bound) := by
  have lifts : Lifts True (fun _ run => ∀ i : Unit, Steady (run i)) (fun _ => renderer) renderer.resolve
      Block.StopsAtErrors :=
    { kept := hereditary_steady
      caches := steady_caches stored _
      shared := fun _ => rfl
      settings := fun _ => ⟨renderer.settings, fun _ => rfl⟩
      stops := fun _ stops => stops }
  refine block.runWithin_of_hereditary lifts (fun _ => ?_) bound stops ()
  refine ⟨fun _ _ _ _ => rfl, fun world result ran => ?_, fun value world after ran => ?_⟩ <;> contradiction

end Run

namespace Renderer

/--
Rendering again from the store that a successful render has left gives the same document, writes nothing
and misses nothing, if all that the render wrote lasts and no batch asked for a key twice.
-/
theorem warm_rerender (renderer : Renderer MemoryStore) {batched : Bool}
    (stored : renderer.store = some (MemoryStore.store batched)) (block : Block) (memory : MemoryStore)
    (stops : block.Every renderer.resolve Block.StopsAtErrors) (first : Rendered MemoryStore Json)
    (rendered : renderer.Yields block memory first) (lasting : ∀ event ∈ first.events, event.Lasting)
    (document : Json) (succeeded : first.outcome = .ok document) :
    ∃ second, renderer.Yields block first.store second ∧ second.outcome = .ok document ∧
      (∀ event ∈ second.events, event.isWrite = false) ∧
      second.store.stats.misses = first.store.stats.misses := by
  obtain ⟨bound, ran⟩ := rendered
  rw [renderNode_eq, Option.map_eq_some_iff] at ran
  obtain ⟨⟨outcome, after⟩, blockRan, rfl⟩ := ran
  cases outcome with
  | error error => contradiction
  | ok value =>
    have calls : Run.Lasting after := fun event member => lasting event (List.mem_reverse.2 member)
    have steady := Run.steady_runWithin stored bound stops
    obtain ⟨-, again⟩ := steady.repeats value _ after blockRan calls
    obtain ⟨final, finalRan, builder, served⟩ :=
      again (renderer.start after.store) rfl (Extends.refl after.store)
    obtain ⟨added, events, reads⟩ := served.events
    have rerun := (renderer.renderNode_eq bound block after.store).trans (congrArg (Option.map ended) finalRan)
    refine ⟨ended (.ok value, final), ⟨bound, rerun⟩, ?_, ?_, served.misses⟩
    · rw [← succeeded]
      show Except.ok final.builder.result = Except.ok after.builder.result
      rw [builder]
    · intro event member
      have among : event ∈ final.events := List.mem_reverse.1 member
      rw [events] at among
      exact reads event (by simpa [start] using among)

def withMemory : Renderer MemoryStore := ⟨{}, .identity, noPartials, some (MemoryStore.store true), .plain⟩

/-- A cached list whose elements hold one fragment in another one of the same key. -/
def nestedGreetings : Block :=
  let greeting : Block := .cache true (.text "greeting") {} (.act (.set "text" (.ok (.str "hello"))) .done) .done
  .cacheCollection (some [.ok (.bool true), .ok (.bool false)]) {} none
    (fun _ => .cache true (.text "greeting") {} greeting .done) .done

theorem every_nestedGreetings (resolve : String → Except RenderError Template) :
    nestedGreetings.Every resolve Block.StopsAtErrors := by
  simp [nestedGreetings, Block.every_cacheCollection, Block.every_cache, Block.every_act, Block.every_done,
    Block.StopsAtErrors, Block.StopsWith]

theorem warm_rerender_nestedGreetings :
    ∃ first second : Rendered MemoryStore Json,
      withMemory.Yields nestedGreetings
        ⟨[("jstreamer/greeting", ⟨"broken", none⟩), ("jstreamer/true", ⟨"7", some 0⟩)], {}⟩ first ∧
      withMemory.Yields nestedGreetings first.store second ∧
      second.document? = some (.arr [.obj [("text", .str "hello")], .obj [("text", .str "hello")]]) ∧
      second.store.stats.misses = first.store.stats.misses := by
  have ran : (withMemory.renderNode 0 nestedGreetings
      ⟨[("jstreamer/greeting", ⟨"broken", none⟩), ("jstreamer/true", ⟨"7", some 0⟩)], {}⟩).map
      (fun first => (first.document?, decide (∀ event ∈ first.events, event.Lasting))) =
        some (some (.arr [.obj [("text", .str "hello")], .obj [("text", .str "hello")]]), true) := by
    decide +kernel
  obtain ⟨first, firstRan, same⟩ := Option.map_eq_some_iff.1 ran
  obtain ⟨document, lasting⟩ := Prod.mk.inj same
  obtain ⟨second, secondRan, succeeded, -, misses⟩ :=
    warm_rerender withMemory rfl nestedGreetings _ (every_nestedGreetings _) first ⟨0, firstRan⟩
      (of_decide_eq_true lasting) _ (Rendered.document?_eq_some.1 document)
  exact ⟨first, second, ⟨0, firstRan⟩, secondRan, Rendered.document?_eq_some.2 succeeded, misses⟩

end Renderer

end Stencil
