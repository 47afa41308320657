import Stencil.Proofs.Cache.Memory
import Stencil.Proofs.Run.Invariants

/-!
# Faithful stores

A store is faithful if it finds only fragments that it holds and comes to hold only those that are written.
If nodes with some property are read back as such nodes, and the store holds only texts of such nodes to begin
with, cache calls find and write no others (`stored_of_faithful`). The store in memory is faithful.
-/

namespace Stencil

namespace Cache

variable {σ : Type}

/-- What the store finds it holds, and what it holds later it held before, unless it has been written. -/
structure Store.Faithful (store : Store σ) (holds : σ → String → Prop) : Prop where
  finds {key fragment : String} {state : σ} : (store.read key state).1 = .ok (some fragment) → holds state fragment
  reads {key fragment : String} {state : σ} : holds (store.read key state).2 fragment → holds state fragment
  writes {key fragment other : String} {lifetime : Option Nat} {state : σ} :
    holds (store.write key fragment lifetime state).2 other → other = fragment ∨ holds state other
  findsAll {batch : Batch σ} {keys : List String} {found : Entries String} {key fragment : String} {state : σ} :
    store.batch = some batch → (batch.read keys state).1 = .ok found → Entries.get? key found = some fragment →
      holds state fragment
  readsAll {batch : Batch σ} {keys : List String} {fragment : String} {state : σ} : store.batch = some batch →
    holds (batch.read keys state).2 fragment → holds state fragment
  writesAll {batch : Batch σ} {fragments : List (String × String)} {lifetime : Option Nat} {other : String}
    {state : σ} : store.batch = some batch → holds (batch.write fragments lifetime state).2 other →
      (∃ key, (key, other) ∈ fragments) ∨ holds state other

namespace MemoryStore

def Holds (memory : MemoryStore) (fragment : String) : Prop :=
  ∃ key lifetime, Entries.get? key memory.entries = some ⟨fragment, lifetime⟩

theorem holds_of_live? {memory : MemoryStore} {key : String} {entry : Entry} (live : memory.live? key = some entry) :
    memory.Holds entry.fragment :=
  ⟨key, entry.lifetime, (Option.filter_eq_some_iff.1 live).1⟩

theorem holds_of_fragment? {memory : MemoryStore} {key fragment : String}
    (found : memory.fragment? key = some fragment) : memory.Holds fragment := by
  obtain ⟨entry, live, rfl⟩ := Option.map_eq_some_iff.1 found
  exact holds_of_live? live

theorem holds_of_write {memory : MemoryStore} {key fragment other : String} {lifetime : Option Nat}
    (held : (memory.write key fragment lifetime).Holds other) : other = fragment ∨ memory.Holds other := by
  obtain ⟨name, duration, found⟩ := held
  rw [get?_write] at found
  split at found
  · obtain ⟨rfl, -⟩ := Entry.mk.inj (Option.some.inj found)
    exact .inl rfl
  · exact .inr ⟨name, duration, found⟩

theorem holds_of_writeAll {memory : MemoryStore} {fragments : List (String × String)} {lifetime : Option Nat}
    {other : String} (held : (memory.writeAll lifetime fragments).Holds other) :
    (∃ key, (key, other) ∈ fragments) ∨ memory.Holds other := by
  induction fragments generalizing memory with
  | nil => exact .inr held
  | cons fragment rest ih =>
    rcases ih held with ⟨key, member⟩ | before
    · exact .inl ⟨key, List.mem_cons_of_mem _ member⟩
    · rcases holds_of_write before with rfl | before
      · exact .inl ⟨fragment.1, List.mem_cons_self⟩
      · exact .inr before

theorem batch_of_store {batched : Bool} {calls : Batch MemoryStore} (known : (store batched).batch = some calls) :
    batch = calls :=
  Option.some.inj (Option.ite_none_right_eq_some.1 known).2

theorem faithful (batched : Bool) : (store batched).Faithful Holds where
  finds {key fragment memory} found := by
    have same := Except.ok.inj found
    rw [lookup_fragment] at same
    exact holds_of_fragment? same
  reads {key fragment memory} := by
    rintro ⟨name, lifetime, found⟩
    have entry := (get?_lookup key name memory).symm.trans found
    split at entry
    · exact holds_of_live? entry
    · exact ⟨name, lifetime, entry⟩
  writes held := holds_of_write held
  findsAll {_ keys found key fragment memory} known read present := by
    obtain rfl := batch_of_store known
    obtain rfl := Except.ok.inj read
    have entry := (get?_lookupAll keys key _).symm.trans present
    split at entry
    · exact holds_of_fragment? entry
    · contradiction
  readsAll {_ keys fragment memory} known := by
    obtain rfl := batch_of_store known
    rintro ⟨name, lifetime, found⟩
    have entry := (get?_entries_lookupAll keys name _).symm.trans found
    split at entry
    · exact holds_of_live? entry
    · exact ⟨name, lifetime, entry⟩
  writesAll {_ fragments lifetime other memory} known held := by
    obtain rfl := batch_of_store known
    rw [batch_write] at held
    exact holds_of_writeAll held

end MemoryStore

end Cache

/-- The fragments that the event hands to a store. -/
def Event.fragments : Event → List String
  | .write _ fragment _ _ => [fragment]
  | .writeBatch fragments _ _ => fragments.map Prod.snd
  | _ => []

theorem Event.fragments_of_plain {event : Event} (plain : event.ofStore = false) : event.fragments = [] := by
  cases event <;> first | rfl | contradiction

namespace Run

variable {σ : Type}

/-- What the store holds denotes such nodes only, and only texts of such nodes have been written. -/
structure Clean (holds : σ → String → Prop) (N : Json → Prop) (store : σ) (events : List Event) : Prop where
  held : ∀ fragment, holds store fragment → Json.Denotes N fragment
  written : ∀ event ∈ events, ∀ fragment ∈ event.fragments, Json.Tells N fragment

variable {holds : σ → String → Prop} {N : Json → Prop}

theorem clean_noted {before after : σ} {events : List Event} (clean : Clean holds N before events) {event : Event}
    (held : ∀ fragment, holds after fragment → Json.Denotes N fragment)
    (tells : ∀ fragment ∈ event.fragments, Json.Tells N fragment) : Clean holds N after (event :: events) where
  held := held
  written := List.forall_mem_cons.2 ⟨tells, clean.written⟩

theorem clean_emit {store : σ} {events : List Event} {event : Event} (plain : event.ofStore = false)
    (clean : Clean holds N store events) : Clean holds N store (event :: events) :=
  clean_noted clean clean.held (by simp [Event.fragments_of_plain plain])

/-- A faithful store that holds no other nodes goes on to find and to hold no others. -/
theorem stored_of_faithful {store : Cache.Store σ} (faithful : store.Faithful holds)
    (again : ∀ text, Json.Tells N text → Json.Denotes N text) (scope : Scope → Prop) :
    Invariant.Stored ⟨scope, Clean holds N⟩ N store where
  read key := by
    refine Invariant.keeps_recorded fun state events clean => ⟨?_, clean_noted clean ?_ nofun⟩
    · exact fun fragment found => clean.held fragment (faithful.finds found)
    · exact fun fragment held => clean.held fragment (faithful.reads held)
  write key lifetime {fragment} tells := by
    refine Invariant.keeps_recorded fun state events clean => ⟨trivial, clean_noted clean ?_ ?_⟩
    · intro other held
      rcases faithful.writes held with rfl | before
      · exact again other tells
      · exact clean.held other before
    · exact List.forall_mem_singleton.2 tells
  readBatch keys batched := by
    refine Invariant.keeps_recorded fun state events clean => ⟨?_, clean_noted clean ?_ nofun⟩
    · exact fun found read key fragment present => clean.held fragment (faithful.findsAll batched read present)
    · exact fun fragment held => clean.held fragment (faithful.readsAll batched held)
  writeBatch {batch fragments} lifetime batched tells := by
    refine Invariant.keeps_recorded fun state events clean => ⟨trivial, clean_noted clean ?_ ?_⟩
    · intro other held
      rcases faithful.writesAll batched held with ⟨key, member⟩ | before
      · exact again other (tells _ member)
      · exact clean.held other before
    · exact List.forall_mem_map.2 tells

end Run

end Stencil
