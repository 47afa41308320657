import Stencil.Cache.Store
import Stencil.Number.Binary64

/-!
# The store in memory

Fragments with lifetimes, and counters of the calls. Time stands still while documents are rendered,
so that an entry has run out at once if its lifetime is zero and never otherwise. An entry that has run
out reads as absent and is dropped by the first look-up (`lookup`).

Lifetimes are whole seconds: parts of a second are not modelled. Only those are meant whose end the clock
can represent; adding a longer one to the present time fails, and no such failure is modelled either.
-/

namespace Stencil.Cache

structure Entry where
  fragment : String
  lifetime : Option Nat
  deriving DecidableEq

def Entry.isExpired (entry : Entry) : Bool := entry.lifetime = some 0

structure Stats where
  hits : Nat := 0
  misses : Nat := 0
  writes : Nat := 0
  batchReads : Nat := 0
  deriving DecidableEq

/-- The share of look-ups that found a fragment, in percent. -/
def Stats.hitRate (stats : Stats) : Number.Binary64 :=
  let share := do
    let hits ← Number.Binary64.ofNat? stats.hits
    let total ← Number.Binary64.ofNat? (stats.hits + stats.misses)
    (← hits.div? total).mul? (← Number.Binary64.ofNat? 100)
  if stats.hits + stats.misses = 0 then .zero else share.getD .zero

/-- The fragments by key, and the counters. -/
structure MemoryStore where
  entries : Entries Entry := []
  stats : Stats := {}
  deriving DecidableEq

namespace MemoryStore

def size (memory : MemoryStore) : Nat := memory.entries.length

def isEmpty (memory : MemoryStore) : Bool := memory.entries.isEmpty

/-- Whether a key is kept, run out or not. -/
def contains (key : String) (memory : MemoryStore) : Bool := (Entries.get? key memory.entries).isSome

/-- The live fragment of a key; an entry that has run out is dropped. -/
def lookup (key : String) (memory : MemoryStore) : Option String × MemoryStore :=
  let stats := memory.stats
  match Entries.get? key memory.entries with
  | some entry =>
    if entry.isExpired then
      (none, { entries := memory.entries.erase key
               stats := { stats with misses := stats.misses + 1 } })
    else (some entry.fragment, { memory with stats := { stats with hits := stats.hits + 1 } })
  | none => (none, { memory with stats := { stats with misses := stats.misses + 1 } })

/-- Looks up several keys in turn. -/
def lookupAll : List String → MemoryStore → Entries String × MemoryStore
  | [], memory => ([], memory)
  | key :: rest, memory =>
    match memory.lookup key with
    | (some fragment, memory) =>
      let (found, memory) := lookupAll rest memory
      (found.insert key fragment, memory)
    | (none, memory) => lookupAll rest memory

/-- Keeps a fragment in place of what its key held. -/
def write (key fragment : String) (lifetime : Option Nat) (memory : MemoryStore) : MemoryStore :=
  { entries := memory.entries.insert key ⟨fragment, lifetime⟩
    stats := { memory.stats with writes := memory.stats.writes + 1 } }

def clear (_ : MemoryStore) : MemoryStore := {}

/-- The fragments of several keys at once, which counts as one batched read. -/
def readAll (keys : List String) (memory : MemoryStore) : Entries String × MemoryStore :=
  lookupAll keys { memory with stats.batchReads := memory.stats.batchReads + 1 }

def batch : Batch MemoryStore where
  read keys memory := (.ok (memory.readAll keys).1, (memory.readAll keys).2)
  write fragments lifetime :=
    writeEach (fun key fragment lifetime memory => (.ok (), memory.write key fragment lifetime))
      lifetime fragments

/-- The store, with or without calls for several keys. -/
def store (batched : Bool) : Store MemoryStore where
  read key memory := (.ok (memory.lookup key).1, (memory.lookup key).2)
  write key fragment lifetime memory := (.ok (), memory.write key fragment lifetime)
  batch := if batched then some batch else none

end MemoryStore

end Stencil.Cache
