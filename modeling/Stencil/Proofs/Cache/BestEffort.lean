import Stencil.Proofs.Cache.Refused
import Stencil.Proofs.Run.Atomic

/-!
# Writing what can be written

Fragments that are written one by one are all attempted: those that the store refuses are reported, and the store is
left as if the others alone had been written, as long as it is not changed by what it refuses. A collection that is
cached in one batch writes last. Refused keys change neither its array nor what the store holds under the other keys,
unless the blocks of its elements keep fragments under them themselves (`written_best_effort`).
-/

namespace Stencil

open Cache

variable {σ : Type}

namespace Cache

/-- A call of a store that writes a fragment, with the answer. -/
structure WriteCall where
  key : String
  fragment : String
  lifetime : Option Nat
  answer : Except StoreError Unit

def WriteCall.refused? (call : WriteCall) : Option (String × StoreError) :=
  match call.answer with
  | .ok () => none
  | .error error => some (call.key, error)

def WriteCall.stored? (call : WriteCall) : Option (String × String) :=
  match call.answer with
  | .ok () => some (call.key, call.fragment)
  | .error _ => none

/-- The write, which also lists its calls, the first one first. -/
def listing (write : String → String → Option Nat → σ → Except StoreError Unit × σ) (key fragment : String)
    (lifetime : Option Nat) (state : σ × List WriteCall) : Except StoreError Unit × σ × List WriteCall :=
  let (answer, after) := write key fragment lifetime state.1
  (answer, after, state.2 ++ [⟨key, fragment, lifetime, answer⟩])

/-- A write that fails leaves the store as it is. -/
def Store.RefusesCleanly (store : Store σ) : Prop :=
  ∀ key fragment lifetime state error, (store.write key fragment lifetime state).1 = .error error →
    (store.write key fragment lifetime state).2 = state

/-- What is held under a key depends on what was held under it and on the writes to it alone. -/
structure Store.KeepsByKey {τ : Type} (store : Store σ) (held : String → σ → τ) : Prop where
  own : ∀ key fragment lifetime one other, held key one = held key other →
    held key (store.write key fragment lifetime one).2 = held key (store.write key fragment lifetime other).2
  apart : ∀ key name fragment lifetime state, name ≠ key →
    held key (store.write name fragment lifetime state).2 = held key state

/-! ### One write after the other -/

section WriteEach

variable (write : String → String → Option Nat → σ → Except StoreError Unit × σ) (lifetime : Option Nat)

theorem writeEach_cons_ok {key fragment : String} {state after : σ}
    (answer : write key fragment lifetime state = (.ok (), after)) (rest : List (String × String)) :
    writeEach write lifetime ((key, fragment) :: rest) state = writeEach write lifetime rest after := by
  rw [writeEach, answer]

theorem writeEach_cons_error {key fragment : String} {state after : σ} {error : StoreError}
    (answer : write key fragment lifetime state = (.error error, after)) (rest : List (String × String)) :
    writeEach write lifetime ((key, fragment) :: rest) state =
      ((key, error) :: (writeEach write lifetime rest after).1, (writeEach write lifetime rest after).2) := by
  rw [writeEach, answer]

theorem state_writeEach_cons (fragment : String × String) (rest : List (String × String)) (state : σ) :
    (writeEach write lifetime (fragment :: rest) state).2 =
      (writeEach write lifetime rest (write fragment.1 fragment.2 lifetime state).2).2 := by
  rcases answer : write fragment.1 fragment.2 lifetime state with ⟨_ | _, after⟩
  · rw [writeEach_cons_error write lifetime answer]
  · rw [writeEach_cons_ok write lifetime answer]

/-- The calls that are made, each in the state that the ones before it have left. -/
def writeCalls : List (String × String) → σ → List WriteCall
  | [], _ => []
  | (key, fragment) :: rest, state =>
    ⟨key, fragment, lifetime, (write key fragment lifetime state).1⟩ ::
      writeCalls rest (write key fragment lifetime state).2

theorem attempted_writeCalls (fragments : List (String × String)) (state : σ) :
    (writeCalls write lifetime fragments state).map (fun call => (call.key, call.fragment, call.lifetime)) =
      fragments.map fun fragment => (fragment.1, fragment.2, lifetime) := by
  induction fragments generalizing state with
  | nil => rfl
  | cons fragment rest ih =>
    obtain ⟨key, text⟩ := fragment
    rw [writeCalls, List.map_cons, ih, List.map_cons]

theorem refused_writeCalls (fragments : List (String × String)) (state : σ) :
    (writeCalls write lifetime fragments state).filterMap WriteCall.refused? =
      (writeEach write lifetime fragments state).1 := by
  induction fragments generalizing state with
  | nil => rfl
  | cons fragment rest ih =>
    obtain ⟨key, text⟩ := fragment
    rcases answer : write key text lifetime state with ⟨error | _, after⟩
    · rw [writeEach_cons_error write lifetime answer, ← ih, writeCalls, answer]
      rfl
    · rw [writeEach_cons_ok write lifetime answer, ← ih, writeCalls, answer]
      rfl

theorem writeEach_listing (fragments : List (String × String)) (state : σ) (earlier : List WriteCall) :
    writeEach (listing write) lifetime fragments (state, earlier) =
      ((writeEach write lifetime fragments state).1, (writeEach write lifetime fragments state).2,
        earlier ++ writeCalls write lifetime fragments state) := by
  induction fragments generalizing state earlier with
  | nil => simp [writeEach, writeCalls]
  | cons fragment rest ih =>
    obtain ⟨key, text⟩ := fragment
    rcases answer : write key text lifetime state with ⟨outcome, after⟩
    have listed : listing write key text lifetime (state, earlier) =
        (outcome, after, earlier ++ [⟨key, text, lifetime, outcome⟩]) := by
      simp only [listing, answer]
    have calls : earlier ++ writeCalls write lifetime ((key, text) :: rest) state =
        earlier ++ [⟨key, text, lifetime, outcome⟩] ++ writeCalls write lifetime rest after := by
      rw [writeCalls, answer, List.append_assoc, List.singleton_append]
    rw [calls]
    cases outcome with
    | ok => rw [writeEach_cons_ok _ _ listed, writeEach_cons_ok _ _ answer, ih]
    | error error => rw [writeEach_cons_error _ _ listed, writeEach_cons_error _ _ answer, ih]

/-- The writes that succeed lead to the same state without those that fail. -/
theorem writeEach_stored
    (cleanly : ∀ key fragment lifetime state error, (write key fragment lifetime state).1 = .error error →
      (write key fragment lifetime state).2 = state) (fragments : List (String × String)) (state : σ) :
    writeEach write lifetime ((writeCalls write lifetime fragments state).filterMap WriteCall.stored?) state =
      ([], (writeEach write lifetime fragments state).2) := by
  induction fragments generalizing state with
  | nil => rfl
  | cons fragment rest ih =>
    obtain ⟨key, text⟩ := fragment
    rcases answer : write key text lifetime state with ⟨error | _, after⟩
    · have kept : after = state := by
        have same := cleanly key text lifetime state error
        rw [answer] at same
        exact same rfl
      subst kept
      rw [writeEach_cons_error write lifetime answer, ← ih, writeCalls, answer]
      rfl
    · rw [writeEach_cons_ok write lifetime answer, ← ih, writeCalls, answer]
      exact writeEach_cons_ok write lifetime answer _

end WriteEach

/-! ### Refused keys -/

variable (store : Store σ) (lifetime : Option Nat)

/-- What a store that refuses some keys keeps is what it keeps of the others. -/
theorem writeEach_failing (rejected : String → Option StoreError) (fragments : List (String × String)) (state : σ) :
    (writeEach (store.failing { write := rejected }).write lifetime fragments state).2 =
      (writeEach store.write lifetime (fragments.filter fun fragment => (rejected fragment.1).isNone) state).2 := by
  induction fragments generalizing state with
  | nil => rfl
  | cons fragment rest ih =>
    rw [state_writeEach_cons, ih]
    cases refused : rejected fragment.1 with
    | some error =>
      rw [List.filter_cons_of_neg (by simp [refused])]
      simp only [Store.failing, refused]
    | none =>
      rw [List.filter_cons_of_pos (by simp [refused]), state_writeEach_cons]
      simp only [Store.failing, refused]

theorem Store.KeepsByKey.writeEach_filter {τ : Type} {store : Store σ} {held : String → σ → τ}
    (keeps : store.KeepsByKey held) (rejected : String → Option StoreError) {key : String}
    (accepted : rejected key = none) (fragments : List (String × String)) {one other : σ}
    (same : held key one = held key other) :
    held key (writeEach store.write lifetime
        (fragments.filter fun fragment => (rejected fragment.1).isNone) one).2 =
      held key (writeEach store.write lifetime fragments other).2 := by
  induction fragments generalizing one other with
  | nil => exact same
  | cons fragment rest ih =>
    obtain ⟨name, text⟩ := fragment
    rw [state_writeEach_cons]
    by_cases own : name = key
    · subst own
      rw [List.filter_cons_of_pos (by simp [accepted]), state_writeEach_cons]
      exact ih (keeps.own name text lifetime one other same)
    · have elsewhere := keeps.apart key name text lifetime other own
      cases refused : rejected name with
      | some error =>
        rw [List.filter_cons_of_neg (by simp [refused])]
        exact ih (same.trans elsewhere.symm)
      | none =>
        rw [List.filter_cons_of_pos (by simp [refused]), state_writeEach_cons]
        exact ih ((keeps.apart key name text lifetime one own).trans (same.trans elsewhere.symm))

/-! ### The store in memory -/

theorem Store.RefusesCleanly.failing {store : Store σ} (cleanly : store.RefusesCleanly) (faults : Faults) :
    (store.failing faults).RefusesCleanly := by
  intro key fragment lifetime state error failed
  cases refused : faults.write key with
  | none =>
    simp only [Store.failing, refused] at failed ⊢
    exact cleanly key fragment lifetime state error failed
  | some fault => simp only [Store.failing, refused]

theorem MemoryStore.refusesCleanly (batched : Bool) : (MemoryStore.store batched).RefusesCleanly := nofun

theorem MemoryStore.keepsByKey (batched : Bool) :
    (MemoryStore.store batched).KeepsByKey fun key memory => Entries.get? key memory.entries where
  own key fragment lifetime one other _ := by
    simp only [MemoryStore.store, get?_write, if_pos]
  apart key name fragment lifetime state other := by
    simp only [MemoryStore.store, get?_write, if_neg other]

end Cache

open Run

namespace Renderer

section Collections

variable {renderer : Renderer σ} {store : Store σ} {batch : Batch σ} {lifetime : Option Nat}
  {items : Option (List Json.Payload)} {options : Options} {key : Option (Nat → KeyExpr)}

variable (renderer store batch items options key) in
/--
Whatever permitted keys are refused, the calls end alike and in the same scopes, and the fragments that they write at
the end are the same: those of the elements that were not found.
-/
def WritesLast (permitted : (String → Option StoreError) → Prop)
    (calls : (String → Option StoreError) → Run σ (Except RenderError Unit)) : Prop :=
  ∀ world, (∀ rejected, permitted rejected → calls rejected world = none) ∨
    ∃ outcome, ∃ reached : World σ, ∃ fragments,
      (∀ payloads, items = some payloads → outcome = .ok () → ∃ values nodes before, payloads = values.map .ok ∧
        reached.builder.current.body = .elements (before ++ nodes) ∧
        let keys := renderer.elementKeys options key values
        fragments = rebuilt (foundBy (batch.read keys world.store).1) keys nodes) ∧
      ∀ rejected, permitted rejected → calls rejected world =
        some (outcome, reached.written store rejected (renderer.lifetime options) fragments)

theorem splice_written (node : Json) (rejected : String → Option StoreError) (fragments : List (String × String))
    (reached : World σ) :
    splice (.ok node) (reached.written store rejected lifetime fragments) =
      some ((reached.builder.edit (Scope.splice node)).1,
        { reached with builder := (reached.builder.edit (Scope.splice node)).2 : World σ }.written store rejected
          lifetime fragments) := rfl

theorem writesLast_cacheEach (caching : renderer.settings.performCaching = true) (batched : store.batch = some batch)
    {permitted : (String → Option StoreError) → Prop}
    {bodies : (String → Option StoreError) → Nat → Run σ (Except RenderError Unit)}
    (body : Nat → Run σ (Except RenderError Unit)) (same : ∀ rejected, permitted rejected → bodies rejected = body) :
    renderer.WritesLast store batch items options key permitted fun rejected =>
      cacheEach (renderer.refusing store rejected) items options key (bodies rejected) := by
  intro world
  obtain ⟨outcome, reached, failed, ran⟩ | ⟨values, reading, rfl, unread, ran⟩ :=
    cacheEach_refusing items options key caching batched world
  · refine .inr ⟨outcome, reached, [], fun payloads given succeeded => absurd succeeded (failed payloads given), ?_⟩
    exact fun rejected _ => ran rejected (bodies rejected)
  · have calls : ∀ rejected, permitted rejected →
        cacheEach (renderer.refusing store rejected) (some (values.map .ok)) options key (bodies rejected) world =
          (cacheBatched (refusingBatch store batch rejected) (renderer.lifetime options) body
            (indexed (renderer.elementKeys options key values)) >>= splice) reading := by
      intro rejected allowed
      rw [ran, same rejected allowed]
    obtain exceeded | ⟨error, reached, made⟩ | ⟨nodes, reached, made⟩ :=
      cacheBatched_refusing store batch (renderer.lifetime options) body (renderer.elementKeys options key values)
        reading
    · refine .inl fun rejected allowed => (calls rejected allowed).trans ?_
      rw [bind_apply, exceeded rejected]
      rfl
    · refine .inr ⟨.error error, reached, [], fun _ _ => nofun, fun rejected allowed => ?_⟩
      exact (calls rejected allowed).trans (bind_of_some (made rejected))
    · have merging (rejected) (allowed : permitted rejected) :=
        (calls rejected allowed).trans ((bind_of_some (made rejected)).trans (splice_written _ rejected _ reached))
      refine .inr ⟨_, _, _, ?_, merging⟩
      intro payloads given merged
      obtain rfl := Option.some.inj given
      cases holds : reached.builder.current.body.elements? with
      | none =>
        simp only [Builder.edit, Scope.splice_array_of_none holds] at merged
        contradiction
      | some before =>
        refine ⟨values, nodes, before, rfl, ?_, by rw [unread]⟩
        simp only [Builder.edit, Scope.splice_array_of_some holds, Builder.current_setCurrent]

theorem writesLast_collection (caching : renderer.settings.performCaching = true) (batched : store.batch = some batch)
    (block : Nat → Block) (bound : Nat) :
    renderer.WritesLast store batch items options key
      (fun rejected => ∀ index, (block index).Every renderer.resolve (Block.Spares renderer rejected))
      fun rejected =>
        (Block.cacheCollection items options key block .done).runWithin (renderer.refusing store rejected) bound := by
  simp only [collection_runWithin]
  refine writesLast_cacheEach caching batched
    (fun index => (block index).runWithin (renderer.refusing store fun _ => none) bound)
    fun rejected spares => funext fun index => ?_
  exact runWithin_refusing caching batched (spares index) bound

end Collections

/--
Writing fragments one by one makes one call for each of them, in order and whatever the calls before it answered. It
gives the keys that were refused with their errors, and leaves a store that refuses cleanly as if the others alone had
been written. A collection that is cached in one batch therefore ends alike whatever is refused, as long as the blocks
of its elements keep nothing under the refused keys themselves, and stores the other elements that had to be built as
if nothing were refused.
-/
theorem written_best_effort (store : Store σ) :
    (∀ lifetime fragments state,
      let listed := writeEach (listing store.write) lifetime fragments (state, [])
      let calls := listed.2.2
      writeEach store.write lifetime fragments state = (listed.1, listed.2.1) ∧
      calls.map (fun call => (call.key, call.fragment, call.lifetime)) =
        fragments.map (fun fragment => (fragment.1, fragment.2, lifetime)) ∧
      listed.1 = calls.filterMap WriteCall.refused? ∧
      (store.RefusesCleanly →
        writeEach store.write lifetime (calls.filterMap WriteCall.stored?) state = ([], listed.2.1))) ∧
    (∀ lifetime fragments rejected (reached : World σ),
      (reached.written store rejected lifetime fragments).builder = reached.builder ∧
      (reached.written store rejected lifetime fragments).store = (writeEach store.write lifetime
        (fragments.filter fun fragment => (rejected fragment.1).isNone) reached.store).2 ∧
      ∀ {τ : Type} (held : String → σ → τ), store.KeepsByKey held → ∀ key, rejected key = none →
        held key (reached.written store rejected lifetime fragments).store =
          held key (reached.written store (fun _ => none) lifetime fragments).store) ∧
    ∀ (renderer : Renderer σ) (batch : Batch σ), renderer.settings.performCaching = true → store.batch = some batch →
      ∀ items options key block bound,
        let permitted (rejected : String → Option StoreError) : Prop :=
          ∀ index, (block index).Every renderer.resolve (Block.Spares renderer rejected)
        permitted (fun _ => none) ∧
          renderer.WritesLast store batch items options key permitted fun rejected =>
            (Block.cacheCollection items options key block .done).runWithin
              (renderer.refusing store rejected) bound := by
  refine ⟨fun lifetime fragments state => ?_, fun lifetime fragments rejected reached => ⟨rfl, ?_, ?_⟩,
    fun renderer batch caching batched items options key block bound => ?_⟩
  · simp only [writeEach_listing, List.nil_append]
    exact ⟨trivial, attempted_writeCalls _ _ _ _, (refused_writeCalls _ _ _ _).symm,
      fun cleanly => writeEach_stored _ _ cleanly _ _⟩
  · exact writeEach_failing store lifetime rejected fragments reached.store
  · intro τ held keeps key accepted
    have same : held key reached.store = held key reached.store := rfl
    have all := keeps.writeEach_filter lifetime (fun _ => none) rfl fragments same
    have others := keeps.writeEach_filter lifetime rejected accepted fragments same
    simp only [World.written, writeEach_failing]
    exact others.trans all.symm
  · exact ⟨fun _ reached _ => reached.spares_none renderer, writesLast_collection caching batched block bound⟩

def rejectFirst (key : String) : Option StoreError :=
  if key = "jstreamer/1" then some (.rejected key "read-only") else none

def numbered : List Json.Payload := [.ok (.num (.int 1)), .ok (.num (.int 2))]

def indexNode (index : Nat) : Json := .obj [("n", .num (.int index))]

/-- An element that keeps its index under one name with the other elements. -/
def sharedIndex (name : String) (index : Nat) : Block :=
  .cache true (.text name) {} (.act (.set "n" (.ok (.num (.int index)))) .done) .done

def withoutFirst : Store MemoryStore := (MemoryStore.store true).failing { write := rejectFirst }

theorem written_best_effort_numbered :
    (∃ after, writeEach withoutFirst.write none [("a", "1"), ("jstreamer/1", "2"), ("a", "3")] {} =
        ([("jstreamer/1", .rejected "jstreamer/1" "read-only")], after) ∧
      writeEach withoutFirst.write none [("a", "1"), ("a", "3")] {} = ([], after)) ∧
    ∃ after, (Block.cacheCollection (some numbered) {} none (sharedIndex "first") .done).runWithin
        (withMemory.refusing (MemoryStore.store true) rejectFirst) 0 untouched = some (.ok (), after) ∧
      after.builder.current.body = .elements [indexNode 0, indexNode 0] ∧
      Entries.get? "jstreamer/2" after.store.entries = some ⟨"\x7b\"n\":0\x7d", none⟩ := by
  constructor
  · obtain ⟨written, -⟩ := written_best_effort withoutFirst
    obtain ⟨same, -, -, stored⟩ := written none [("a", "1"), ("jstreamer/1", "2"), ("a", "3")] {}
    exact ⟨_, same, stored ((MemoryStore.refusesCleanly true).failing _)⟩
  · obtain ⟨-, written, collected⟩ := written_best_effort (MemoryStore.store true)
    obtain ⟨all, blocks⟩ :=
      collected withMemory MemoryStore.batch rfl rfl (some numbered) {} none (sharedIndex "first") 0
    have spares : ∀ index,
        (sharedIndex "first" index).Every withMemory.resolve (Block.Spares withMemory rejectFirst) := by
      intro index
      have accepted : rejectFirst (withMemory.storeKey (.text "first") {}) = none := by decide +kernel
      simp [sharedIndex, Block.every_cache, Block.every_act, Block.every_done, Block.Spares, accepted]
    have plain : ((Block.cacheCollection (some numbered) {} none (sharedIndex "first") .done).runWithin
        (withMemory.refusing (MemoryStore.store true) fun _ => none) 0 untouched).map
          (fun result => (result.1.toOption, result.2.builder.current.body,
            Entries.get? "jstreamer/2" result.2.store.entries)) =
        some (some (), .elements [indexNode 0, indexNode 0], some ⟨"\x7b\"n\":0\x7d", none⟩) := by
      decide +kernel
    obtain absent | ⟨outcome, reached, fragments, -, ran⟩ := blocks untouched
    · simp only [absent _ all, Option.map_none, reduceCtorEq] at plain
    · obtain ⟨-, -, kept⟩ := written _ fragments rejectFirst reached
      have held := kept _ (MemoryStore.keepsByKey true) "jstreamer/2" (by decide)
      simp only [ran _ all, Option.map_some, Option.some_inj, Prod.mk.injEq] at plain
      obtain ⟨succeeded, body, entry⟩ := plain
      cases outcome with
      | error error => exact absurd succeeded (Option.some_ne_none ()).symm
      | ok => exact ⟨_, ran _ spares, body, held.trans entry⟩

/-- A store that loses what it holds when it refuses a write. -/
def losing : Store MemoryStore :=
  { MemoryStore.store true with
    write := fun key fragment lifetime memory =>
      match rejectFirst key with
      | some error => (.error error, memory.clear)
      | none => (.ok (), memory.write key fragment lifetime) }

/--
A store that changes with what it refuses is not left as if the others alone had been written, and a refused key makes
a difference to elements that keep fragments under it themselves.
-/
theorem refused_writes_seen :
    ((writeEach losing.write none [("a", "1"), ("jstreamer/1", "2")] {}).1 =
        [("jstreamer/1", .rejected "jstreamer/1" "read-only")] ∧
      (writeEach losing.write none [("a", "1"), ("jstreamer/1", "2")] {}).2 ≠
        (writeEach losing.write none [("a", "1")] {}).2) ∧
    let array (rejected : String → Option StoreError) :=
      ((Block.cacheCollection (some numbered) {} none (sharedIndex "1") .done).runWithin
        (withMemory.refusing (MemoryStore.store true) rejected) 0 untouched).map
          fun result => (result.1.toOption, result.2.builder.current.body)
    array (fun _ => none) = some (some (), .elements [indexNode 0, indexNode 0]) ∧
      array rejectFirst = some (some (), .elements [indexNode 0, indexNode 1]) := by
  refine ⟨⟨?_, ?_⟩, ?_, ?_⟩ <;> decide +kernel

end Renderer

end Stencil
