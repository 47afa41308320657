import Stencil.Proofs.Cache.Memory
import Stencil.Proofs.Cache.StoreKey
import Stencil.Proofs.Run.Bound
import Stencil.Proofs.Run.CoupledBlocks

/-!
# Namespaces on one store

All keys of a renderer are its namespace or start with it and a separator, so that no key belongs to two
namespaces unless one of them goes on from the other. A render leaves the entries outside its namespace
as they are, and sees only those within. Renders with different namespaces therefore cannot tell whether
the other has taken place (`namespaces_isolated`).
-/

namespace Stencil

namespace Cache

/-- The key is the namespace, or starts with it and a separator. -/
def InSpace (space key : String) : Prop :=
  key = space ∨ ∃ rest, key = space ++ "/" ++ rest

theorem toList_in_space (space rest : String) :
    (space ++ "/" ++ rest).toList = space.toList ++ keySeparator :: rest.toList := by
  simp [keySeparator]

theorem Namer.inSpace_storeKey (namer : Namer) {space : String} (named : space ≠ "") (key : KeyExpr)
    (options : Options) : InSpace space (namer.storeKey space key options) := by
  have parts : namer.storeKey space key options = String.ofList (glue space.toList
      (joinParts (KeyExpr.charsOfParts ((namer.name key options).1 :: (options.version.map .text).toList)))) := by
    have solid : space.isEmpty = false := by simpa using named
    simp only [storeKey, keyParts, solid, KeyExpr.expand, KeyExpr.chars, KeyExpr.charsOfParts,
      List.cons_append, List.nil_append, Bool.false_eq_true, if_false, joinParts_cons]
  rw [parts]
  generalize joinParts _ = rest
  have some : space.toList ≠ [] := by simpa using named
  by_cases empty : rest = []
  · left
    rw [empty, glue_nil, String.ofList_toList]
  · right
    refine ⟨String.ofList rest, ?_⟩
    rw [glue_of_ne_nil some empty, ← String.toList_inj, toList_in_space, String.toList_ofList,
      String.toList_ofList]

theorem exists_append_of_longer {space other : String} {between rest more : List Char}
    (different : space ≠ other) (longer : other.toList = space.toList ++ between)
    (same : keySeparator :: rest = between ++ keySeparator :: more) : ∃ more, other = space ++ "/" ++ more := by
  cases between with
  | nil =>
    rw [List.append_nil, String.toList_inj] at longer
    exact absurd longer.symm different
  | cons c between =>
    obtain ⟨rfl, -⟩ := List.cons.inj same
    refine ⟨String.ofList between, ?_⟩
    rw [← String.toList_inj, longer, toList_in_space, String.toList_ofList]

/-- Of two namespaces with a common key, one goes on from the other if they differ. -/
theorem exists_append_of_inSpace {space other key : String} (different : space ≠ other)
    (one : InSpace space key) (two : InSpace other key) :
    (∃ more, other = space ++ "/" ++ more) ∨ ∃ more, space = other ++ "/" ++ more := by
  rcases one with rfl | ⟨rest, rfl⟩ <;> rcases two with same | ⟨more, same⟩
  · exact absurd same different
  · exact .inr ⟨more, same⟩
  · exact .inl ⟨rest, same.symm⟩
  · rw [← String.toList_inj, toList_in_space, toList_in_space, List.append_eq_append_iff] at same
    rcases same with ⟨between, longer, tails⟩ | ⟨between, longer, tails⟩
    · exact .inl (exists_append_of_longer different longer tails)
    · exact .inr (exists_append_of_longer different.symm longer tails)

/-- A valid namespace does not end in a separator. -/
theorem ne_nil_of_valid {settings : Settings} {space more : String} (valid : settings.validate = .ok ())
    (longer : settings.cacheNamespace = space ++ "/" ++ more) : more ≠ "" := by
  rintro rfl
  have fault : Settings.namespaceFault? settings.cacheNamespace = some .surroundingSeparator := by
    simp [Settings.namespaceFault?, longer]
  simp [Settings.validate, fault] at valid

/-! ### What stays outside, and what is seen within -/

namespace MemoryStore

/-- The stores keep the same in the namespace. -/
def Agree (space : String) (one other : MemoryStore) : Prop :=
  ∀ key, InSpace space key → Entries.get? key one.entries = Entries.get? key other.entries

variable {space key : String} {one other : MemoryStore}

theorem Agree.live? (agree : Agree space one other) (known : InSpace space key) :
    one.live? key = other.live? key := by
  unfold MemoryStore.live?
  rw [agree key known]

theorem Agree.lookup (agree : Agree space one other) (known : InSpace space key) :
    (one.lookup key).1 = (other.lookup key).1 ∧ Agree space (one.lookup key).2 (other.lookup key).2 := by
  constructor
  · rw [lookup_fragment, lookup_fragment, fragment?, fragment?, agree.live? known]
  · intro name among
    rw [get?_lookup, get?_lookup, agree.live? known, agree name among]

theorem Agree.lookupAll {keys : List String} (agree : Agree space one other)
    (known : ∀ key ∈ keys, InSpace space key) :
    (MemoryStore.lookupAll keys one).1 = (MemoryStore.lookupAll keys other).1 ∧
      Agree space (MemoryStore.lookupAll keys one).2 (MemoryStore.lookupAll keys other).2 := by
  induction keys generalizing one other with
  | nil => exact ⟨rfl, agree⟩
  | cons key rest ih =>
    have first := known key List.mem_cons_self
    obtain ⟨found, after⟩ := ih (agree.lookup first).2 fun name member =>
      known name (List.mem_cons_of_mem _ member)
    rw [lookupAll_cons_after, lookupAll_cons_after, lookupAll_cons_found, lookupAll_cons_found]
    rw [fragment?, fragment?, agree.live? first, found]
    exact ⟨rfl, after⟩

theorem Agree.write (agree : Agree space one other) (key fragment : String) (lifetime : Option Nat) :
    Agree space (one.write key fragment lifetime) (other.write key fragment lifetime) := by
  intro name among
  rw [get?_write, get?_write, agree name among]

theorem Agree.writeAll (agree : Agree space one other) (lifetime : Option Nat)
    (fragments : List (String × String)) :
    Agree space (one.writeAll lifetime fragments) (other.writeAll lifetime fragments) := by
  induction fragments generalizing one other with
  | nil => exact agree
  | cons fragment rest ih => exact ih (agree.write fragment.1 fragment.2 lifetime)

end MemoryStore

end Cache

/-- The keys that the event asks a store for. -/
def Event.keys : Event → List String
  | .read key _ | .write key _ _ _ => [key]
  | .readBatch keys _ => keys
  | .writeBatch fragments _ _ => fragments.map Prod.fst
  | _ => []

theorem Event.keys_of_plain {event : Event} (plain : event.ofStore = false) : event.keys = [] := by
  cases event <;> first | rfl | contradiction

open Cache

namespace Run

/-- One store, which has been asked for keys of the namespace only and is as before elsewhere. -/
structure Confined (space : String) (before store other : MemoryStore) (events : List Event) : Prop where
  same : store = other
  outside : ∀ key, ¬InSpace space key → Entries.get? key store.entries = Entries.get? key before.entries
  keys : ∀ event ∈ events, ∀ key ∈ event.keys, InSpace space key

variable {space : String} {before : MemoryStore}

theorem Confined.noted {store other : MemoryStore} {events : List Event}
    (confined : Confined space before store other events) {event : Event}
    (known : ∀ key ∈ event.keys, InSpace space key) : Confined space before store other (event :: events) where
  same := confined.same
  outside := confined.outside
  keys := by
    rintro later (_ | ⟨_, member⟩)
    · exact known
    · exact confined.keys later member

theorem confined_recorded {α : Type} {call : MemoryStore → α × MemoryStore} {record : α → Event}
    (untouched : ∀ memory key, ¬InSpace space key →
      Entries.get? key (call memory).2.entries = Entries.get? key memory.entries)
    (known : ∀ answer, ∀ key ∈ (record answer).keys, InSpace space key) :
    Coupled (Abreast (Confined space before)) Eq (recorded call record) (recorded call record) := by
  refine .recorded ?_
  rintro ⟨builder, store, events⟩ ⟨_, _, _⟩ ⟨rfl, rfl, ⟨rfl, outside, keys⟩⟩
  have after : Confined space before (call store).2 (call store).2 events :=
    { same := rfl
      outside := fun key foreign => (untouched store key foreign).trans (outside key foreign)
      keys := keys }
  exact ⟨rfl, rfl, rfl, after.noted (known (call store).1)⟩

theorem calls_confined (batched : Bool) :
    CallsCoupled (Abreast (Confined space before)) (MemoryStore.store batched) (InSpace space) where
  read {key} known := by
    refine confined_recorded (fun memory name foreign => ?_) fun _ _ member => ?_
    · have different : name ≠ key := by
        rintro rfl
        exact foreign known
      exact (MemoryStore.get?_lookup key name memory).trans (if_neg different)
    · rwa [List.mem_singleton.1 member]
  write {key} fragment lifetime known := by
    refine confined_recorded (fun memory name foreign => ?_) fun _ _ member => ?_
    · have different : key ≠ name := by
        rintro rfl
        exact foreign known
      exact (MemoryStore.get?_write key name fragment lifetime memory).trans (if_neg different)
    · rwa [List.mem_singleton.1 member]
  readBatch {batch keys} stored known := by
    cases batched with
    | false => contradiction
    | true =>
      obtain rfl := Option.some.inj stored
      refine confined_recorded (fun memory name foreign => ?_) fun _ => known
      exact (MemoryStore.get?_entries_lookupAll keys name _).trans
        (if_neg fun member => foreign (known name member))
  writeBatch {batch fragments} lifetime stored known := by
    cases batched with
    | false => contradiction
    | true =>
      obtain rfl := Option.some.inj stored
      refine confined_recorded (fun memory name foreign => ?_) fun _ key member => ?_
      · rw [MemoryStore.batch_write]
        exact MemoryStore.get?_writeAll_of_absent (fun text member => foreign (known _ member)) lifetime memory
      · obtain ⟨fragment, among, rfl⟩ := List.mem_map.1 member
        exact known fragment among

theorem agree_recorded {α : Type} {call : MemoryStore → α × MemoryStore} {record : α → Event}
    (kept : ∀ one other, MemoryStore.Agree space one other →
      (call one).1 = (call other).1 ∧ MemoryStore.Agree space (call one).2 (call other).2) :
    Coupled (Abreast fun one other _ => MemoryStore.Agree space one other) Eq (recorded call record)
      (recorded call record) := by
  refine .recorded ?_
  rintro ⟨builder, store, events⟩ ⟨_, other, _⟩ ⟨rfl, rfl, agree⟩
  obtain ⟨answered, after⟩ := kept store other agree
  rw [answered]
  exact ⟨rfl, rfl, rfl, after⟩

theorem calls_agree (batched : Bool) :
    CallsCoupled (Abreast fun one other _ => MemoryStore.Agree space one other) (MemoryStore.store batched)
      (InSpace space) where
  read {key} known := by
    refine agree_recorded fun one other agree => ?_
    exact ⟨congrArg Except.ok (agree.lookup known).1, (agree.lookup known).2⟩
  write {key} fragment lifetime known := by
    exact agree_recorded fun one other agree => ⟨rfl, agree.write key fragment lifetime⟩
  readBatch {batch keys} stored known := by
    cases batched with
    | false => contradiction
    | true =>
      obtain rfl := Option.some.inj stored
      refine agree_recorded fun one other agree => ?_
      -- The counter of batched reads goes up in both stores, which no look-up notices.
      have counted : MemoryStore.Agree space { one with stats.batchReads := one.stats.batchReads + 1 }
          { other with stats.batchReads := other.stats.batchReads + 1 } := agree
      obtain ⟨found, after⟩ := counted.lookupAll known
      exact ⟨congrArg Except.ok found, after⟩
  writeBatch {batch fragments} lifetime stored known := by
    cases batched with
    | false => contradiction
    | true =>
      obtain rfl := Option.some.inj stored
      refine agree_recorded fun one other agree => ?_
      rw [MemoryStore.batch_write, MemoryStore.batch_write]
      exact ⟨rfl, agree.writeAll lifetime fragments⟩

end Run

namespace Renderer

open Run

theorem inSpace_storeKey {σ : Type} (renderer : Renderer σ) (named : renderer.settings.cacheNamespace ≠ "")
    (key : KeyExpr) (options : Options) :
    InSpace renderer.settings.cacheNamespace (renderer.storeKey key options) :=
  renderer.namer.inSpace_storeKey named key options

section Stored

variable {renderer : Renderer MemoryStore} {batched : Bool}
  (stored : renderer.store = some (MemoryStore.store batched))
  (named : renderer.settings.cacheNamespace ≠ "")

include stored

theorem eq_of_active {store : Store MemoryStore} (active : renderer.activeStore = some store) :
    store = MemoryStore.store batched := by
  unfold activeStore at active
  split at active
  · exact Option.some.inj (active.symm.trans stored)
  · contradiction

include named

/-- A render asks for keys of its namespace only and leaves the other ones as they are. -/
theorem yields_confined {block : Block} {memory : MemoryStore} {rendered : Rendered MemoryStore Json}
    (yields : renderer.Yields block memory rendered) :
    Confined renderer.settings.cacheNamespace memory rendered.store rendered.store rendered.events := by
  obtain ⟨bound, ran⟩ := yields
  rw [renderNode_eq, Option.map_eq_some_iff] at ran
  obtain ⟨⟨outcome, after⟩, blockRan, rfl⟩ := ran
  have coupled := abreast_runWithin (S := Confined renderer.settings.cacheNamespace memory)
    (fun event store other events plain confined => confined.noted (by simp [Event.keys_of_plain plain]))
    (fun store active => eq_of_active stored active ▸ calls_confined batched)
    (renderer.inSpace_storeKey named) bound block
  have start : Confined renderer.settings.cacheNamespace memory memory memory [] :=
    { same := rfl, outside := fun _ _ => rfl, keys := by simp }
  have related := coupled (renderer.start memory) (renderer.start memory) ⟨rfl, rfl, start⟩
  rw [blockRan] at related
  cases related with
  | some related =>
    have confined := related.2.stores
    refine { same := rfl, outside := confined.outside, keys := fun event member => ?_ }
    exact confined.keys event (List.mem_reverse.1 member)

/-- Stores that keep the same in the namespace make no difference to a render. -/
theorem renderNode_of_agree {one other : MemoryStore}
    (agree : MemoryStore.Agree renderer.settings.cacheNamespace one other) (bound : Nat) (block : Block) :
    (renderer.renderNode bound block one).map (fun rendered => (rendered.outcome, rendered.events)) =
      (renderer.renderNode bound block other).map fun rendered => (rendered.outcome, rendered.events) := by
  have coupled := abreast_runWithin
    (S := fun one other _ => MemoryStore.Agree renderer.settings.cacheNamespace one other)
    (fun _ _ _ _ _ agree => agree) (fun store active => eq_of_active stored active ▸ calls_agree batched)
    (renderer.inSpace_storeKey named) bound block
  have related := coupled (renderer.start one) (renderer.start other) ⟨rfl, rfl, agree⟩
  rw [renderNode_eq, renderNode_eq, Option.map_map, Option.map_map]
  refine map_eq_of_rel related fun here there _ _ same => ?_
  obtain ⟨outcome, builder, events, -⟩ := same
  simp only [Function.comp_apply, ended, outcome, builder, events]

end Stored

/--
Of two renderers with valid namespaces on one store, of which none goes on from the other, each keeps to
its own keys and renders the same whether or not the other one has rendered before.
-/
theorem namespaces_isolated {batched batchedToo : Bool} (one other : Renderer MemoryStore)
    (stored : one.store = some (MemoryStore.store batched))
    (storedToo : other.store = some (MemoryStore.store batchedToo))
    (valid : one.settings.validate = .ok ()) (validToo : other.settings.validate = .ok ())
    (named : one.settings.cacheNamespace ≠ "") (namedToo : other.settings.cacheNamespace ≠ "")
    (different : one.settings.cacheNamespace ≠ other.settings.cacheNamespace)
    (apart : ∀ more, more ≠ "" → other.settings.cacheNamespace ≠ one.settings.cacheNamespace ++ "/" ++ more)
    (apartToo : ∀ more, more ≠ "" → one.settings.cacheNamespace ≠ other.settings.cacheNamespace ++ "/" ++ more)
    (block later : Block) (memory : MemoryStore) :
    (block.Finite one.resolve → ∃ rendered, one.Yields block memory rendered) ∧
    (later.Finite other.resolve → ∃ rendered, other.Yields later memory rendered) ∧
    ∀ rendered, one.Yields block memory rendered →
      (∀ event ∈ rendered.events, ∀ key ∈ event.keys, InSpace one.settings.cacheNamespace key) ∧
      ∀ bound, (other.renderNode bound later rendered.store).map (fun later => (later.outcome, later.events)) =
        (other.renderNode bound later memory).map fun later => (later.outcome, later.events) := by
  refine ⟨fun finite => exists_yields finite memory, fun finite => exists_yields finite memory, ?_⟩
  intro rendered yields
  have confined := yields_confined stored named yields
  refine ⟨confined.keys, fun bound => renderNode_of_agree storedToo namedToo ?_ bound later⟩
  intro key own
  refine confined.outside key fun foreign => ?_
  rcases exists_append_of_inSpace different foreign own with ⟨more, longer⟩ | ⟨more, longer⟩
  · exact apart more (ne_nil_of_valid validToo longer) longer
  · exact apartToo more (ne_nil_of_valid valid longer) longer

def inNamespace (space : String) : Renderer MemoryStore :=
  ⟨{ cacheNamespace := space }, .identity, noPartials, some (MemoryStore.store true), .plain⟩

def cachedText (text : String) : Block :=
  .cache true (.text "greeting") {} (.act (.set "text" (.ok (.str text))) .done) .done

theorem namespaces_isolated_beginning :
    ∃ rendered, (inNamespace "app").Yields (cachedText "hello") ⟨[("apple/greeting", ⟨"7", some 0⟩)], {}⟩ rendered ∧
      ((inNamespace "apple").renderNode 0 (cachedText "hi") rendered.store).bind Rendered.document? =
        some (.obj [("text", .str "hi")]) := by
  have finite := Block.finite_of_no_partials Block.blocks_noPartials (cachedText "hello")
  obtain ⟨exists_rendered, -, isolated⟩ := namespaces_isolated (inNamespace "app") (inNamespace "apple") rfl rfl
    (by decide +kernel) (by decide +kernel) (by decide) (by decide) (by decide)
    (fun more _ same => by simpa [inNamespace] using congrArg String.toList same)
    (fun more _ same => by simpa [inNamespace] using congrArg String.toList same)
    (cachedText "hello") (cachedText "hi") ⟨[("apple/greeting", ⟨"7", some 0⟩)], {}⟩
  obtain ⟨rendered, yields⟩ := exists_rendered finite
  obtain ⟨-, same⟩ := isolated rendered yields
  refine ⟨rendered, yields, ?_⟩
  have fresh : ((inNamespace "apple").renderNode 0 (cachedText "hi") ⟨[("apple/greeting", ⟨"7", some 0⟩)], {}⟩).bind
      Rendered.document? = some (.obj [("text", .str "hi")]) := by
    decide +kernel
  have documents := congrArg (Option.bind · fun seen => seen.1.toOption) (same 0)
  simp only [Option.bind_map] at documents
  exact documents.trans fresh

end Renderer

end Stencil
