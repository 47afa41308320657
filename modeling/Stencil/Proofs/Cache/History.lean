import Mathlib.Data.Finset.Card
import Mathlib.Data.List.DropRight
import Mathlib.Data.List.Infix
import Stencil.Proofs.Cache.Memory
import Stencil.Proofs.Entries

/-!
# The store in memory and its history

Whatever calls are made of a new store in memory, its fragments, its entries and its counters are those that the steps
since the last clearing tell of (`history_told`). The latest step comes first in a history.
-/

namespace Stencil.Cache.MemoryStore

/-- A call of the store. -/
inductive Call where
  | read (key : String)
  | write (key fragment : String) (lifetime : Option Nat)
  | readAll (keys : List String)
  | writeAll (fragments : List (String × String)) (lifetime : Option Nat)
  | clear
  deriving DecidableEq

def Call.run : Call → MemoryStore → MemoryStore
  | .read key, memory => ((store true).read key memory).2
  | .write key fragment lifetime, memory => ((store true).write key fragment lifetime memory).2
  | .readAll keys, memory => (batch.read keys memory).2
  | .writeAll fragments lifetime, memory => (batch.write fragments lifetime memory).2
  | .clear, memory => memory.clear

/-- A new store after some calls. -/
def after (calls : List Call) : MemoryStore := calls.foldl (fun memory call => call.run memory) {}

/-! ### Histories -/

/-- What a call does with one key. -/
inductive Step where
  | lookUp (key : String)
  | write (key : String) (entry : Entry)

def Step.isLookUp : Step → Bool
  | .lookUp _ => true
  | .write _ _ => false

def Step.isWrite : Step → Bool
  | .lookUp _ => false
  | .write _ _ => true

def Call.steps : Call → List Step
  | .read key => [.lookUp key]
  | .write key fragment lifetime => [.write key ⟨fragment, lifetime⟩]
  | .readAll keys => keys.map .lookUp
  | .writeAll fragments lifetime => fragments.map fun fragment => .write fragment.1 ⟨fragment.2, lifetime⟩
  | .clear => []

def Call.isReadAll : Call → Bool
  | .readAll _ => true
  | _ => false

/-- The calls since the last clearing. -/
def sinceClear (calls : List Call) : List Call := calls.rtakeWhile fun call => call ≠ .clear

abbrev History := List Step

def history (calls : List Call) : History := ((sinceClear calls).flatMap Call.steps).reverse

namespace History

/-- The entry that was written last. -/
def lastWrite? (key : String) : History → Option Entry
  | [] => none
  | .lookUp _ :: earlier => lastWrite? key earlier
  | .write name entry :: earlier => if name = key then some entry else lastWrite? key earlier

/-- Whether the key was looked up after the last write to it. -/
def lookedUp (key : String) : History → Bool
  | [] => false
  | .lookUp name :: earlier => name = key || lookedUp key earlier
  | .write name _ :: earlier => name ≠ key && lookedUp key earlier

def live? (key : String) (history : History) : Option Entry :=
  (history.lastWrite? key).filter fun entry => !entry.isExpired

/-- The entry that was written last, unless it has run out and was looked up since. -/
def kept? (key : String) (history : History) : Option Entry :=
  (history.lastWrite? key).filter fun entry => !(entry.isExpired && history.lookedUp key)

/-- Whether the latest step is a look-up that found a live entry. -/
def endsInHit : History → Bool
  | .lookUp key :: earlier => (live? key earlier).isSome
  | _ => false

end History

/-! ### One step -/

theorem stats_lookup (key : String) (memory : MemoryStore) :
    (memory.lookup key).2.stats =
      if (memory.live? key).isSome then { memory.stats with hits := memory.stats.hits + 1 }
      else { memory.stats with misses := memory.stats.misses + 1 } := by
  unfold lookup live?
  cases Entries.get? key memory.entries with
  | none => rfl
  | some entry => cases expired : entry.isExpired <;> simp [expired, Option.filter]

theorem distinct_lookup {memory : MemoryStore} (distinct : Entries.Distinct memory.entries) (key : String) :
    Entries.Distinct (memory.lookup key).2.entries := by
  have erased : Entries.Distinct (memory.entries.erase key) :=
    List.Nodup.sublist (List.filter_sublist.map Prod.fst) distinct
  unfold lookup
  split
  · split
    · exact erased
    · exact distinct
  · exact distinct

/-- The store is what the history tells. -/
structure Records (memory : MemoryStore) (history : History) : Prop where
  entries : ∀ key, Entries.get? key memory.entries = history.kept? key
  distinct : Entries.Distinct memory.entries
  hits : memory.stats.hits = history.tails.countP History.endsInHit
  lookUps : memory.stats.hits + memory.stats.misses = history.countP Step.isLookUp
  writes : memory.stats.writes = history.countP Step.isWrite

namespace Records

variable {memory : MemoryStore} {history : History}

theorem live? (records : Records memory history) (key : String) : memory.live? key = history.live? key := by
  rw [MemoryStore.live?, records.entries, History.kept?, History.live?, Option.filter_filter]
  congr 1
  funext entry
  cases entry.isExpired <;> simp

theorem new : Records {} [] where
  entries := fun _ => rfl
  distinct := Entries.distinct_nil
  hits := rfl
  lookUps := rfl
  writes := rfl

theorem lookup (records : Records memory history) (key : String) :
    Records (memory.lookup key).2 (.lookUp key :: history) where
  entries name := by
    rw [get?_lookup, records.live?, records.entries]
    by_cases same : name = key
    · simp [same, History.kept?, History.live?, History.lastWrite?, History.lookedUp]
    · simp [same, Ne.symm same, History.kept?, History.lastWrite?, History.lookedUp]
  distinct := distinct_lookup records.distinct key
  hits := by
    rw [stats_lookup, records.live?, List.tails_cons, List.countP_cons, ← records.hits]
    by_cases found : (history.live? key).isSome <;> simp [History.endsInHit, found]
  lookUps := by
    rw [stats_lookup, List.countP_cons, ← records.lookUps]
    by_cases found : (memory.live? key).isSome <;> simp [Step.isLookUp, found] <;> omega
  writes := by
    rw [stats_lookup, List.countP_cons, ← records.writes]
    by_cases found : (memory.live? key).isSome <;> simp [Step.isWrite, found]

theorem write (records : Records memory history) (key fragment : String) (lifetime : Option Nat) :
    Records (memory.write key fragment lifetime) (.write key ⟨fragment, lifetime⟩ :: history) where
  entries name := by
    rw [get?_write, records.entries]
    by_cases same : key = name <;> simp [same, History.kept?, History.lastWrite?, History.lookedUp, Option.filter]
  distinct := records.distinct.insert key _
  hits := by
    rw [List.tails_cons, List.countP_cons, ← records.hits]
    simp [MemoryStore.write, History.endsInHit]
  lookUps := by
    rw [List.countP_cons, ← records.lookUps]
    simp [MemoryStore.write, Step.isLookUp]
  writes := by
    rw [List.countP_cons, ← records.writes]
    simp [MemoryStore.write, Step.isWrite]

/-! ### One call -/

theorem lookupAll (records : Records memory history) (keys : List String) :
    Records (MemoryStore.lookupAll keys memory).2 ((keys.map .lookUp).reverse ++ history) := by
  induction keys generalizing memory history with
  | nil => exact records
  | cons key rest ih =>
    rw [lookupAll_cons_after, List.map_cons, List.reverse_cons, List.append_assoc]
    exact ih (records.lookup key)

theorem writeAll (records : Records memory history) (fragments : List (String × String)) (lifetime : Option Nat) :
    Records (memory.writeAll lifetime fragments)
      ((fragments.map fun fragment => .write fragment.1 ⟨fragment.2, lifetime⟩).reverse ++ history) := by
  induction fragments generalizing memory history with
  | nil => exact records
  | cons fragment rest ih =>
    rw [List.map_cons, List.reverse_cons, List.append_assoc]
    exact ih (records.write fragment.1 fragment.2 lifetime)

/-- Only clearing makes the store forget its history. -/
theorem run (records : Records memory history) {call : Call} (other : call ≠ .clear) :
    Records (call.run memory) (call.steps.reverse ++ history) := by
  cases call with
  | read key => exact records.lookup key
  | write key fragment lifetime => exact records.write key fragment lifetime
  | readAll keys =>
    have counted : Records { memory with stats.batchReads := memory.stats.batchReads + 1 } history :=
      ⟨records.entries, records.distinct, records.hits, records.lookUps, records.writes⟩
    exact counted.lookupAll keys
  | writeAll fragments lifetime =>
    rw [Call.run, batch_write]
    exact records.writeAll fragments lifetime
  | clear => exact (other rfl).elim

end Records

/-! ### All calls -/

theorem after_concat (calls : List Call) (call : Call) : after (calls ++ [call]) = call.run (after calls) := by
  simp [after, List.foldl_append]

theorem sinceClear_concat (calls : List Call) (call : Call) :
    sinceClear (calls ++ [call]) = if call = .clear then [] else sinceClear calls ++ [call] := by
  rw [sinceClear, List.rtakeWhile_concat]
  by_cases clears : call = .clear <;> simp [clears, sinceClear]

theorem history_concat (calls : List Call) (call : Call) :
    history (calls ++ [call]) = if call = .clear then [] else call.steps.reverse ++ history calls := by
  rw [history, sinceClear_concat]
  by_cases clears : call = .clear <;> simp [clears, history]

theorem records_after (calls : List Call) : Records (after calls) (history calls) := by
  induction calls using List.reverseRecOn with
  | nil => exact .new
  | append_singleton calls call ih =>
    rw [after_concat, history_concat]
    split
    · rename_i clears
      subst clears
      exact .new
    · rename_i other
      exact ih.run other

theorem batchReads_lookupAll (keys : List String) (memory : MemoryStore) :
    (lookupAll keys memory).2.stats.batchReads = memory.stats.batchReads := by
  induction keys generalizing memory with
  | nil => rfl
  | cons key rest ih =>
    rw [lookupAll_cons_after, ih, stats_lookup]
    split <;> rfl

theorem batchReads_writeAll (fragments : List (String × String)) (lifetime : Option Nat) (memory : MemoryStore) :
    (memory.writeAll lifetime fragments).stats.batchReads = memory.stats.batchReads := by
  induction fragments generalizing memory with
  | nil => rfl
  | cons fragment rest ih => exact ih (memory.write fragment.1 fragment.2 lifetime)

theorem batchReads_run {call : Call} (other : call ≠ .clear) (memory : MemoryStore) :
    (call.run memory).stats.batchReads = memory.stats.batchReads + if call.isReadAll then 1 else 0 := by
  cases call with
  | read key =>
    show (memory.lookup key).2.stats.batchReads = _
    rw [stats_lookup]
    split <;> rfl
  | write key fragment lifetime => rfl
  | readAll keys => exact batchReads_lookupAll keys _
  | writeAll fragments lifetime =>
    rw [Call.run, batch_write]
    exact batchReads_writeAll fragments lifetime memory
  | clear => exact (other rfl).elim

theorem batchReads_after (calls : List Call) :
    (after calls).stats.batchReads = (sinceClear calls).countP Call.isReadAll := by
  induction calls using List.reverseRecOn with
  | nil => rfl
  | append_singleton calls call ih =>
    rw [after_concat, sinceClear_concat]
    split
    · rename_i clears
      subst clears
      rfl
    · rename_i other
      rw [batchReads_run other, ih, List.countP_append, List.countP_singleton]

/-! ### Answers -/

theorem distinct_found (keys : List String) (memory : MemoryStore) :
    Entries.Distinct (lookupAll keys memory).1 := by
  induction keys generalizing memory with
  | nil => exact Entries.distinct_nil
  | cons key rest ih =>
    rw [lookupAll_cons_found]
    split
    · exact (ih _).insert _ _
    · exact ih _

namespace Records

variable {memory : MemoryStore} {history : History}

theorem contains_iff (records : Records memory history) (key : String) :
    memory.contains key = true ↔
      ∃ entry, history.lastWrite? key = some entry ∧ (entry.isExpired = false ∨ history.lookedUp key = false) := by
  rw [contains, records.entries, History.kept?]
  cases history.lastWrite? key with
  | none => simp
  | some entry => simp [Option.filter, or_iff_not_imp_left]

theorem get?_read (records : Records memory history) (key name : String) :
    Entries.get? name (memory.lookup key).2.entries =
      if name = key ∧ (history.lastWrite? key).any Entry.isExpired then none else Entries.get? name memory.entries := by
  rw [get?_lookup, records.live?]
  by_cases same : name = key
  · rw [same, records.entries, History.kept?, History.live?]
    cases history.lastWrite? key with
    | none => simp
    | some entry => cases expired : entry.isExpired <;> simp [Option.filter, expired]
  · simp [same]

end Records

/--
After any calls, a key has the fragment that was written to it last, unless that has run out. What has run out is
dropped by the first look-up of its key, and by nothing else. The counters count the look-ups, those of them that found
something, the fragments written and the batched reads.
-/
theorem history_told (calls : List Call) :
    let memory := after calls
    let told := history calls
    (∀ key, ((store true).read key memory).1 = .ok ((told.live? key).map Entry.fragment)) ∧
    (∀ keys, ∃ found, (batch.read keys memory).1 = .ok found ∧ Entries.Distinct found ∧
      ∀ key, Entries.get? key found = if key ∈ keys then (told.live? key).map Entry.fragment else none) ∧
    (∀ key name, Entries.get? name ((store true).read key memory).2.entries =
      if name = key ∧ (told.lastWrite? key).any Entry.isExpired then none else Entries.get? name memory.entries) ∧
    (∀ key, memory.contains key = true ↔
      ∃ entry, told.lastWrite? key = some entry ∧ (entry.isExpired = false ∨ told.lookedUp key = false)) ∧
    (∃ keys : Finset String, (∀ key, key ∈ keys ↔ memory.contains key = true) ∧ memory.size = keys.card) ∧
    memory.stats.hits + memory.stats.misses = told.countP Step.isLookUp ∧
    memory.stats.hits = told.tails.countP History.endsInHit ∧
    memory.stats.writes = told.countP Step.isWrite ∧
    memory.stats.batchReads = (sinceClear calls).countP Call.isReadAll := by
  intro memory told
  have records : Records memory told := records_after calls
  have fragments : ∀ key, memory.fragment? key = (told.live? key).map Entry.fragment := by
    intro key
    rw [fragment?, records.live?]
  refine ⟨fun key => ?_, fun keys => ⟨_, rfl, distinct_found keys _, fun key => ?_⟩, records.get?_read,
    records.contains_iff, ⟨(Entries.keys memory.entries).toFinset, fun key => ?_, ?_⟩, records.lookUps, records.hits,
    records.writes, batchReads_after calls⟩
  · exact congrArg Except.ok ((lookup_fragment key memory).trans (fragments key))
  · rw [readAll, get?_lookupAll, ← fragments]
    rfl
  · rw [List.mem_toFinset, Entries.mem_keys_iff]
    rfl
  · rw [List.toFinset_card_of_nodup records.distinct, Entries.keys, List.length_map]
    rfl

/-- An entry that runs out at once is missed twice and dropped, and a later write brings its key back. -/
example :
    let calls := [.write "a" "1" none, .clear, .write "a" "1" (some 0), .write "b" "2" (some 0), .readAll ["a", "a"],
      .write "a" "3" none, .read "a"]
    (after calls).stats = ⟨1, 2, 3, 1⟩ ∧ (after calls).entries = [("b", ⟨"2", some 0⟩), ("a", ⟨"3", none⟩)] := by
  decide

end Stencil.Cache.MemoryStore
