import Stencil.Cache.MemoryStore
import Stencil.Json.Payload

/-!
# What the store in memory keeps

The store has a live entry, a fragment and a node for some keys. No look-up changes them (`live?_lookup`,
`live?_lookupAll`), and a write changes them for its own key only (`live?_write`).
-/

namespace Stencil

theorem Entries.get?_erase {α : Type} (key name : String) (entries : Entries α) :
    get? name (erase key entries) = if name = key then none else get? name entries := by
  induction entries with
  | nil => simp [erase, get?]
  | cons entry rest ih =>
    obtain ⟨first, value⟩ := entry
    have tail : erase key ((first, value) :: rest) =
        if first = key then erase key rest else (first, value) :: erase key rest := by
      by_cases same : first = key <;> simp [erase, same]
    rw [tail]
    by_cases same : first = key
    · subst same
      rw [if_pos rfl, ih]
      by_cases found : name = first
      · simp [found]
      · simp [get?, found, Ne.symm found]
    · rw [if_neg same]
      by_cases found : first = name
      · subst found
        simp [get?, same]
      · simp [get?, found, ih]

namespace Cache

def decode? (fragment : String) : Option Json := (Json.ofText fragment).toOption

namespace MemoryStore

/-- The entry of a key, unless it has run out. -/
def live? (key : String) (memory : MemoryStore) : Option Entry :=
  (Entries.get? key memory.entries).filter fun entry => !entry.isExpired

def fragment? (key : String) (memory : MemoryStore) : Option String :=
  (memory.live? key).map Entry.fragment

/-- The node of a live fragment that can be decoded. -/
def node? (key : String) (memory : MemoryStore) : Option Json :=
  (memory.fragment? key).bind decode?

theorem isSome_fragment? {key : String} {memory : MemoryStore} {node : Json}
    (kept : memory.node? key = some node) : (memory.fragment? key).isSome := by
  cases found : memory.fragment? key with
  | none => simp [node?, found] at kept
  | some fragment => rfl

theorem node?_of_live? {before after : MemoryStore} {key : String}
    (same : after.live? key = before.live? key) : after.node? key = before.node? key := by
  rw [node?, fragment?, same]
  rfl

theorem node?_of_get? {before after : MemoryStore} {key : String}
    (same : Entries.get? key after.entries = Entries.get? key before.entries) :
    after.node? key = before.node? key := by
  refine node?_of_live? ?_
  rw [live?, same]
  rfl

theorem live?_of_node? {memory : MemoryStore} {key : String} {node : Json}
    (kept : memory.node? key = some node) : memory.live? key = Entries.get? key memory.entries := by
  have usable := isSome_fragment? kept
  unfold fragment? live? at usable
  unfold live?
  cases found : Entries.get? key memory.entries with
  | none => rfl
  | some entry =>
    cases expired : entry.isExpired with
    | true => simp [found, expired, Option.filter] at usable
    | false => simp [expired, Option.filter]

theorem lookup_fragment (key : String) (memory : MemoryStore) :
    (memory.lookup key).1 = memory.fragment? key := by
  unfold lookup fragment? live?
  cases Entries.get? key memory.entries with
  | none => rfl
  | some entry => cases expired : entry.isExpired <;> simp [expired, Option.filter]

theorem get?_lookup (key name : String) (memory : MemoryStore) :
    Entries.get? name (memory.lookup key).2.entries =
      if name = key then memory.live? key else Entries.get? name memory.entries := by
  unfold lookup live?
  cases found : Entries.get? key memory.entries with
  | none =>
    by_cases same : name = key
    · simp [same, found]
    · simp [same]
  | some entry =>
    cases expired : entry.isExpired with
    | true => simp [expired, Entries.get?_erase, Option.filter]
    | false =>
      by_cases same : name = key
      · simp [same, found, expired, Option.filter]
      · simp [same, expired]

/-- A look-up that finds a node drops nothing. -/
theorem get?_lookup_of_node? {memory : MemoryStore} {key : String} {node : Json}
    (kept : memory.node? key = some node) (name : String) :
    Entries.get? name (memory.lookup key).2.entries = Entries.get? name memory.entries := by
  rw [get?_lookup]
  by_cases same : name = key
  · rw [if_pos same, same, live?_of_node? kept]
  · rw [if_neg same]

theorem live?_lookup (key name : String) (memory : MemoryStore) :
    (memory.lookup key).2.live? name = memory.live? name := by
  unfold live?
  rw [get?_lookup]
  by_cases same : name = key
  · rw [if_pos same, same, live?, Option.filter_filter]
    simp
  · rw [if_neg same]

theorem get?_write (key name fragment : String) (lifetime : Option Nat) (memory : MemoryStore) :
    Entries.get? name (memory.write key fragment lifetime).entries =
      if key = name then some ⟨fragment, lifetime⟩ else Entries.get? name memory.entries :=
  Entries.get?_insert _ _ _ _

theorem live?_write (key name fragment : String) (lifetime : Option Nat) (memory : MemoryStore) :
    (memory.write key fragment lifetime).live? name =
      if key = name then if lifetime = some 0 then none else some ⟨fragment, lifetime⟩
      else memory.live? name := by
  unfold live?
  rw [get?_write]
  by_cases same : key = name
  · by_cases expired : lifetime = some 0 <;> simp [same, expired, Entry.isExpired]
  · simp [same]

theorem lookupAll_cons_found (key : String) (rest : List String) (memory : MemoryStore) :
    (lookupAll (key :: rest) memory).1 =
      match memory.fragment? key with
      | some fragment => Entries.insert key fragment (lookupAll rest (memory.lookup key).2).1
      | none => (lookupAll rest (memory.lookup key).2).1 := by
  rw [← lookup_fragment, lookupAll]
  obtain ⟨fragment | _, after⟩ := memory.lookup key <;> rfl

theorem lookupAll_cons_after (key : String) (rest : List String) (memory : MemoryStore) :
    (lookupAll (key :: rest) memory).2 = (lookupAll rest (memory.lookup key).2).2 := by
  rw [lookupAll]
  obtain ⟨fragment | _, after⟩ := memory.lookup key <;> rfl

theorem live?_lookupAll (keys : List String) (name : String) (memory : MemoryStore) :
    (lookupAll keys memory).2.live? name = memory.live? name := by
  induction keys generalizing memory with
  | nil => rfl
  | cons key rest ih => rw [lookupAll_cons_after, ih, live?_lookup]

theorem get?_lookupAll (keys : List String) (name : String) (memory : MemoryStore) :
    Entries.get? name (lookupAll keys memory).1 =
      if name ∈ keys then memory.fragment? name else none := by
  induction keys generalizing memory with
  | nil => rfl
  | cons key rest ih =>
    have later := ih (memory.lookup key).2
    rw [fragment?, live?_lookup, ← fragment?] at later
    rw [lookupAll_cons_found]
    cases found : memory.fragment? key with
    | some fragment =>
      simp only [Entries.get?_insert, later]
      by_cases same : key = name
      · subst same
        simp [found]
      · simp [same, Ne.symm same]
    | none =>
      simp only [later]
      by_cases same : name = key
      · subst same
        simp [found]
      · simp [same]

theorem get?_entries_lookupAll (keys : List String) (name : String) (memory : MemoryStore) :
    Entries.get? name (lookupAll keys memory).2.entries =
      if name ∈ keys then memory.live? name else Entries.get? name memory.entries := by
  induction keys generalizing memory with
  | nil => rfl
  | cons key rest ih =>
    rw [lookupAll_cons_after, ih, live?_lookup, get?_lookup]
    by_cases same : name = key
    · simp [same]
    · simp [same]

/-- A look-up that finds something does not count as a miss. -/
theorem misses_lookup {key : String} {memory : MemoryStore} (found : (memory.fragment? key).isSome) :
    (memory.lookup key).2.stats.misses = memory.stats.misses := by
  unfold fragment? live? at found
  unfold lookup
  cases bound : Entries.get? key memory.entries with
  | none => simp [bound] at found
  | some entry =>
    cases expired : entry.isExpired with
    | true => simp [bound, expired, Option.filter] at found
    | false => simp [expired]

theorem misses_lookupAll {keys : List String} {memory : MemoryStore}
    (found : ∀ key ∈ keys, (memory.fragment? key).isSome) :
    (lookupAll keys memory).2.stats.misses = memory.stats.misses := by
  induction keys generalizing memory with
  | nil => rfl
  | cons key rest ih =>
    have later : ∀ name ∈ rest, ((memory.lookup key).2.fragment? name).isSome := by
      intro name member
      rw [fragment?, live?_lookup]
      exact found name (List.mem_cons_of_mem _ member)
    rw [lookupAll_cons_after, ih later, misses_lookup (found key List.mem_cons_self)]

theorem node?_readAll {keys : List String} {key : String} (member : key ∈ keys) (memory : MemoryStore) :
    (Entries.get? key (memory.readAll keys).1).bind decode? = memory.node? key := by
  unfold readAll
  rw [get?_lookupAll, if_pos member]
  rfl

theorem live?_readAll (keys : List String) (name : String) (memory : MemoryStore) :
    (memory.readAll keys).2.live? name = memory.live? name :=
  live?_lookupAll keys name _

def writeAll (lifetime : Option Nat) (fragments : List (String × String)) (memory : MemoryStore) :
    MemoryStore :=
  fragments.foldl (fun memory fragment => memory.write fragment.1 fragment.2 lifetime) memory

theorem batch_write (lifetime : Option Nat) (fragments : List (String × String)) (memory : MemoryStore) :
    batch.write fragments lifetime memory = ([], memory.writeAll lifetime fragments) := by
  show writeEach _ lifetime fragments memory = _
  induction fragments generalizing memory with
  | nil => rfl
  | cons fragment rest ih => exact ih (memory.write fragment.1 fragment.2 lifetime)

theorem get?_writeAll_of_absent {fragments : List (String × String)} {key : String}
    (absent : ∀ text, (key, text) ∉ fragments) (lifetime : Option Nat) (memory : MemoryStore) :
    Entries.get? key (memory.writeAll lifetime fragments).entries = Entries.get? key memory.entries := by
  induction fragments generalizing memory with
  | nil => rfl
  | cons fragment rest ih =>
    have later := ih (fun text member => absent text (List.mem_cons_of_mem _ member))
      (memory.write fragment.1 fragment.2 lifetime)
    have other : fragment.1 ≠ key := by
      rintro rfl
      exact absent fragment.2 List.mem_cons_self
    rw [get?_write, if_neg other] at later
    exact later

theorem node?_writeAll_of_absent {fragments : List (String × String)} {key : String}
    (absent : ∀ text, (key, text) ∉ fragments) (lifetime : Option Nat) (memory : MemoryStore) :
    (memory.writeAll lifetime fragments).node? key = memory.node? key :=
  node?_of_get? (get?_writeAll_of_absent absent lifetime memory)

theorem get?_writeAll_of_mem {fragments : List (String × String)} {key text : String}
    (member : (key, text) ∈ fragments) (only : ∀ other, (key, other) ∈ fragments → other = text)
    (lifetime : Option Nat) (memory : MemoryStore) :
    Entries.get? key (memory.writeAll lifetime fragments).entries = some ⟨text, lifetime⟩ := by
  induction fragments generalizing memory with
  | nil => contradiction
  | cons fragment rest ih =>
    have onlyLater := fun other (later : (key, other) ∈ rest) => only other (List.mem_cons_of_mem _ later)
    by_cases later : (key, text) ∈ rest
    · exact ih later onlyLater (memory.write fragment.1 fragment.2 lifetime)
    · have absent : ∀ other, (key, other) ∉ rest := by
        intro other present
        rw [onlyLater other present] at present
        exact later present
      obtain rfl : (key, text) = fragment := (List.mem_cons.1 member).resolve_right later
      have written := get?_writeAll_of_absent absent lifetime (memory.write key text lifetime)
      rw [get?_write, if_pos rfl] at written
      exact written

end MemoryStore

end Cache

end Stencil
