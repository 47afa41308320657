import Mathlib.Data.List.Forall2
import Stencil.Proofs.Cache.Memory
import Stencil.Proofs.Json.RoundTrip
import Stencil.Proofs.Run.Frame

/-!
# Fragments and nodes

A fragment is usable if it can be decoded, which the text of a portable node always can
(`decode?_compact`). The calls for several keys leave the same kinds of events for every store
(`readFragments_apply`, `writeFragments_apply`), the latest first. A read of the store in memory gives the
node that the store has.
-/

namespace Stencil

theorem Cache.decode?_compact {node : Json} (portable : node.Portable) :
    decode? node.compact = some node := by
  unfold decode? Json.ofText
  rw [Json.parse_compact portable]
  rfl

theorem Cache.MemoryStore.node?_of_kept {memory : MemoryStore} {key : String} {node : Json}
    {lifetime : Option Nat} (lasting : lifetime ≠ some 0) (portable : node.Portable)
    (kept : Entries.get? key memory.entries = some ⟨node.compact, lifetime⟩) :
    memory.node? key = some node := by
  have live : memory.live? key = some ⟨node.compact, lifetime⟩ := by
    simp [live?, kept, Option.filter, Entry.isExpired, lasting]
  rw [node?, fragment?, live]
  exact decode?_compact portable

/-- Writes fragments, if there are any. -/
def Cache.Batch.keep {σ : Type} (batch : Batch σ) (lifetime : Option Nat) (fragments : List (String × String))
    (store : σ) : List (String × StoreError) × σ :=
  if fragments = [] then ([], store) else batch.write fragments lifetime store

/-- What a batched read has found; one that fails has found nothing. -/
def Cache.foundBy : Except StoreError (Entries String) → Entries String
  | .ok found => found
  | .error _ => []

def Event.isWrite : Event → Bool
  | .write .. | .writeBatch .. => true
  | _ => false

theorem Event.isWrite_of_plain {event : Event} (plain : event.ofStore = false) : event.isWrite = false := by
  cases event <;> first | rfl | contradiction

namespace Run

open Cache

variable {σ : Type}

theorem decodeFragment_value {key fragment : String} {world after : World σ} {node : Option Json}
    (ran : decodeFragment key fragment world = some (node, after)) : node = decode? fragment := by
  unfold decodeFragment at ran
  unfold decode?
  cases decoded : Json.ofText fragment with
  | ok value =>
    rw [decoded] at ran
    exact (result_inj ran).1.symm
  | error fault =>
    rw [decoded] at ran
    obtain ⟨_, logged, -, ended⟩ := bind_some ran
    exact (result_inj ended).1.symm

theorem fragmentFrom_none (store : Cache.Store σ) (key : String) (lifetime : Option Nat)
    (body : Run σ (Except RenderError Unit)) (world : World σ) :
    fragmentFrom store key lifetime body none world =
      (nested body >>= keepFragment store key lifetime)
        { world with events := .log (.fragmentMiss key) :: world.events } :=
  rfl

theorem elementFrom_none (body : Nat → Run σ (Except RenderError Unit)) (element : Nat × String)
    (world : World σ) :
    elementFrom body element none world =
      (nested (body element.1) { world with events := .log (.fragmentMiss element.2) :: world.events }).map
        fun result => (withBuilt element.2 result.1, result.2) := by
  show Option.bind _ _ = _
  cases nested (body element.1) { world with events := .log (.fragmentMiss element.2) :: world.events } <;> rfl

/-- An element's fragment is found and taken, or it is built. -/
theorem elementOf_cases {found : Entries String} {body : Nat → Run σ (Except RenderError Unit)}
    {element : Nat × String} {world after : World σ}
    {outcome : Except RenderError (Json × Option (String × String))}
    (ran : elementOf found body element world = some (outcome, after)) :
    (∃ node middle, decodeFound found element.2 world = some (some node, middle) ∧ outcome = .ok (node, none) ∧
      after = { middle with events := .log (.fragmentHit element.2) :: middle.events }) ∨
    ∃ missed built, decodeFound found element.2 world = some (none, missed) ∧
      nested (body element.1) { missed with events := .log (.fragmentMiss element.2) :: missed.events } =
        some (built, after) ∧ outcome = withBuilt element.2 built := by
  rw [elementOf_eq] at ran
  obtain ⟨kept, middle, decoding, rest⟩ := bind_some ran
  cases kept with
  | some node =>
    obtain ⟨rfl, rfl⟩ := result_inj rest
    exact .inl ⟨node, middle, decoding, rfl, rfl⟩
  | none =>
    rw [elementFrom_none, Option.map_eq_some_iff] at rest
    obtain ⟨⟨built, ended⟩, building, same⟩ := rest
    obtain ⟨rfl, rfl⟩ := Prod.mk.inj same
    exact .inr ⟨middle, built, decoding, building, rfl⟩

/-- The node of a key's fragment, if one was found that can be decoded. -/
def nodeIn (found : Entries String) (key : String) : Option Json :=
  (Entries.get? key found).bind decode?

/-- What is left behind for a key's fragment, if one was found that cannot be decoded. -/
def discarded (found : Entries String) (key : String) : List Event :=
  match (Entries.get? key found).map Json.ofText with
  | some (.error fault) => [.log (.undecodable key fault)]
  | _ => []

theorem plain_of_discarded {found : Entries String} {key : String} {event : Event}
    (member : event ∈ discarded found key) : event.ofStore = false := by
  unfold discarded at member
  split at member
  · rw [List.mem_singleton.1 member]
    rfl
  · contradiction

theorem discarded_of_nodeIn {found : Entries String} {key : String} {node : Json}
    (decoded : nodeIn found key = some node) : discarded found key = [] := by
  obtain ⟨fragment, present, same⟩ := Option.bind_eq_some_iff.1 decoded
  unfold decode? at same
  unfold discarded
  rw [present, Option.map_some]
  cases read : Json.ofText fragment with
  | ok value => rfl
  | error fault =>
    rw [read] at same
    contradiction

theorem decodeFound_apply (found : Entries String) (key : String) (world : World σ) :
    decodeFound found key world =
      some (nodeIn found key, { world with events := discarded found key ++ world.events }) := by
  unfold decodeFound nodeIn discarded
  cases Entries.get? key found with
  | none => rfl
  | some fragment =>
    unfold decodeFragment
    dsimp only [Option.map_some, Option.bind_some, decode?]
    cases Json.ofText fragment <;> rfl

theorem decodeFound_plain (found : Entries String) (key : String) (world : World σ) :
    ∃ events, decodeFound found key world =
        some ((Entries.get? key found).bind decode?, { world with events := events ++ world.events }) ∧
      ∀ event ∈ events, event.ofStore = false :=
  ⟨discarded found key, decodeFound_apply found key world, fun _ => plain_of_discarded⟩

theorem exists_zip_of_mem {α β : Type} {R : α → β → Prop} {firsts : List α} {seconds : List β}
    (each : List.Forall₂ R firsts seconds) {first : α} (member : first ∈ firsts) :
    ∃ second, (first, second) ∈ firsts.zip seconds ∧ R first second := by
  have same : (firsts.zip seconds).map Prod.fst = firsts :=
    List.map_fst_zip (Nat.le_of_eq each.length_eq)
  rw [← same] at member
  obtain ⟨⟨first, second⟩, paired, rfl⟩ := List.mem_map.1 member
  exact ⟨second, paired, List.forall₂_zip each paired⟩

theorem grows_elementOf {body : Nat → Run σ (Except RenderError Unit)} (grows : ∀ index, Grows (body index))
    (found : Entries String) (element : Nat × String) : Grows (elementOf found body element) :=
  hereditary_grows.elementOf (fun index (_ : Unit) => grows index) found element ()

theorem grows_elements {body : Nat → Run σ (Except RenderError Unit)}
    (grows : ∀ index, Grows (body index)) (found : Entries String) (elements : List (Nat × String)) :
    Grows (collect (elementOf found body) elements) :=
  grows_collect (grows_elementOf grows found) elements

/-! ### Calls for several keys -/

def readEvents (keys : List String) (answer : Except StoreError (Entries String)) : List Event :=
  .log (.batchRead (foundBy answer).length keys.length) ::
    match answer with
    | .ok _ => [.readBatch keys answer]
    | .error error => [.log (.batchReadFailed keys.length error), .readBatch keys answer]

def writeEvents (fragments : List (String × String)) (lifetime : Option Nat)
    (failed : List (String × StoreError)) : List Event :=
  if fragments = [] then []
  else .log (.batchWrite fragments.length) ::
    ((failed.map fun failure => .log (.writeFailed failure.1 failure.2)).reverse ++
      [.writeBatch fragments lifetime failed])

theorem readFragments_apply (batch : Batch σ) (keys : List String) (world : World σ) :
    readFragments batch keys world = some (foundBy (batch.read keys world.store).1,
      ⟨world.builder, (batch.read keys world.store).2,
        readEvents keys (batch.read keys world.store).1 ++ world.events⟩) := by
  have asked : readBatch batch keys world = some ((batch.read keys world.store).1, ⟨world.builder,
      (batch.read keys world.store).2, .readBatch keys (batch.read keys world.store).1 :: world.events⟩) := rfl
  unfold readFragments
  rw [bind_of_some asked]
  cases (batch.read keys world.store).1 <;> rfl

theorem logAll_apply (failed : List (String × StoreError)) (world : World σ) :
    (failed.forM fun failure => (log (.writeFailed failure.1 failure.2) : Run σ PUnit)) world =
      some (⟨⟩, { world with
        events := (failed.map fun failure => .log (.writeFailed failure.1 failure.2)).reverse ++ world.events }) := by
  induction failed generalizing world with
  | nil => rfl
  | cons failure rest ih =>
    rw [List.map_cons, List.reverse_cons, List.append_assoc]
    exact ih _

theorem writeFragments_apply (batch : Batch σ) (lifetime : Option Nat) (fragments : List (String × String))
    (world : World σ) :
    writeFragments batch lifetime fragments world = some ((), ⟨world.builder,
      (batch.keep lifetime fragments world.store).2,
      writeEvents fragments lifetime (batch.keep lifetime fragments world.store).1 ++ world.events⟩) := by
  unfold writeFragments Batch.keep writeEvents
  by_cases none : fragments = []
  · subst none
    rfl
  · have written : writeBatch batch fragments lifetime world = some ((batch.write fragments lifetime world.store).1,
        ⟨world.builder, (batch.write fragments lifetime world.store).2,
          .writeBatch fragments lifetime (batch.write fragments lifetime world.store).1 :: world.events⟩) := rfl
    rw [if_neg (by simpa using none), if_neg none, if_neg none, bind_of_some written, bind_of_some (logAll_apply _ _)]
    show some _ = some _
    simp

/-! ### Calls of the store in memory -/

variable (batched : Bool) (key : String) (world : World MemoryStore)

theorem readFragment_memory :
    ∃ events, readFragment (MemoryStore.store batched) key world =
        some (world.store.node? key, ⟨world.builder, (world.store.lookup key).2, events ++ world.events⟩) ∧
      ∀ event ∈ events, event.isWrite = false := by
  rcases looked : world.store.lookup key with ⟨found, memory⟩
  have reading : readStore (MemoryStore.store batched) key world =
      some (.ok found, ⟨world.builder, memory, .read key (.ok found) :: world.events⟩) := by
    have called : (MemoryStore.store batched).read key world.store = (.ok found, memory) := by
      show (Except.ok (world.store.lookup key).1, (world.store.lookup key).2) = _
      rw [looked]
    show recorded _ (.read key) world = _
    rw [recorded_apply, called]
  have same : world.store.node? key = found.bind decode? := by
    rw [MemoryStore.node?, ← MemoryStore.lookup_fragment, looked]
  unfold readFragment
  rw [bind_of_some reading, same]
  cases found with
  | none => exact ⟨[.read key (.ok none)], rfl, by simp [Event.isWrite]⟩
  | some fragment =>
    obtain ⟨node, events, decoding, plain⟩ := (Silent.decodeFragment key fragment).plain
      ⟨world.builder, memory, .read key (.ok (some fragment)) :: world.events⟩
    refine ⟨events ++ [.read key (.ok (some fragment))], ?_, ?_⟩
    · rw [Option.bind_some, ← decodeFragment_value decoding, List.append_assoc]
      exact decoding
    · simp only [List.mem_append, List.mem_singleton]
      rintro event (member | rfl)
      · exact Event.isWrite_of_plain (plain event member)
      · rfl

theorem keepFragment_memory (lifetime : Option Nat) (node : Json) :
    keepFragment (MemoryStore.store batched) key lifetime (.ok node) world =
      some (.ok node, ⟨world.builder, world.store.write key node.compact lifetime,
        .write key node.compact lifetime (.ok ()) :: world.events⟩) :=
  rfl

theorem readFragments_memory (keys : List String) :
    readFragments MemoryStore.batch keys world =
      some ((world.store.readAll keys).1, ⟨world.builder, (world.store.readAll keys).2,
        .log (.batchRead (world.store.readAll keys).1.length keys.length)
          :: .readBatch keys (.ok (world.store.readAll keys).1) :: world.events⟩) :=
  rfl

theorem keep_memory (lifetime : Option Nat) (fragments : List (String × String)) (memory : MemoryStore) :
    MemoryStore.batch.keep lifetime fragments memory = ([], memory.writeAll lifetime fragments) := by
  unfold Batch.keep
  split
  · subst fragments
    rfl
  · exact MemoryStore.batch_write lifetime fragments memory

theorem writeFragments_memory (lifetime : Option Nat) (fragments : List (String × String)) :
    ∃ events, writeFragments MemoryStore.batch lifetime fragments world =
        some ((), ⟨world.builder, world.store.writeAll lifetime fragments, events ++ world.events⟩) ∧
      (fragments = [] ∧ events = [] ∨ .writeBatch fragments lifetime [] ∈ events) := by
  refine ⟨writeEvents fragments lifetime [], ?_, ?_⟩
  · rw [writeFragments_apply, keep_memory]
  · unfold writeEvents
    split
    · exact .inl ⟨‹fragments = []›, rfl⟩
    · exact .inr (by simp)

end Run

end Stencil
