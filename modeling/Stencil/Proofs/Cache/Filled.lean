import Stencil.Proofs.Cache.Fragments
import Stencil.Proofs.Run.Outcomes

/-!
# What caching a collection comes to

If elements with the same key are built alike, then both ways to cache a collection give the nodes that
the store had at the start and, where it had none, those that are built (`resolved`). Both leave the
latter in the store and the rest of it as it was (`Filled`).
-/

namespace Stencil

open Cache

namespace Run

section Elements

variable (start : MemoryStore) (attempt : Nat → Outcome Json) (lifetime : Option Nat)

/-- The node that the store had for an element, or what the attempt to build one comes to. -/
def resolved (element : Nat × String) : Outcome Json :=
  match start.node? element.2 with
  | some node => pure node
  | none => attempt element.1

/-- The store has what it had at the start, and the nodes of the elements that had to be built. -/
structure Filled (elements : List (Nat × String)) (memory : MemoryStore) : Prop where
  others : ∀ key, (∀ element ∈ elements, element.2 = key → ∃ node, start.node? key = some node) →
    Entries.get? key memory.entries = Entries.get? key start.entries
  built : ∀ element ∈ elements, start.node? element.2 = none → ∃ node,
    attempt element.1 = pure node ∧
      Entries.get? element.2 memory.entries = some ⟨node.compact, lifetime⟩

variable {start attempt lifetime}

theorem filled_nil : Filled start attempt lifetime [] start :=
  ⟨fun _ _ => rfl, fun _ impossible => by contradiction⟩

theorem Filled.unique {elements : List (Nat × String)} {one other : MemoryStore}
    (first : Filled start attempt lifetime elements one)
    (second : Filled start attempt lifetime elements other) (key : String) :
    Entries.get? key one.entries = Entries.get? key other.entries := by
  by_cases had : ∀ element ∈ elements, element.2 = key → ∃ node, start.node? key = some node
  · rw [first.others key had, second.others key had]
  · push Not at had
    obtain ⟨element, member, rfl, absent⟩ := had
    have missing : start.node? element.2 = none := Option.eq_none_iff_forall_ne_some.2 absent
    obtain ⟨node, attempted, kept⟩ := first.built element member missing
    obtain ⟨again, attemptedAgain, keptAgain⟩ := second.built element member missing
    obtain rfl := pure_inj (attempted.symm.trans attemptedAgain)
    rw [kept, keptAgain]

theorem Filled.node? {elements : List (Nat × String)} {memory : MemoryStore}
    (filled : Filled start attempt lifetime elements memory) {key : String} {node : Json}
    (had : start.node? key = some node) : memory.node? key = some node := by
  exact (MemoryStore.node?_of_get? (filled.others key fun _ _ _ => ⟨node, had⟩)).trans had

/-! ### One batch -/

/-- In these scopes, the body of each index comes to this outcome, and the store stays as it is. -/
def Attempts (body : Nat → Run MemoryStore (Except RenderError Unit)) (builder : Builder)
    (attempt : Nat → Outcome Json) : Prop :=
  ∀ index world, world.builder = builder → ∃ events, nested (body index) world =
    Option.map (fun outcome => (outcome, { world with events := events ++ world.events })) (attempt index)

/-- A node with its fragment if the store had none for the element. -/
def withFragment (start : MemoryStore) (element : Nat × String) (node : Json) :
    Json × Option (String × String) :=
  (node, if (start.node? element.2).isSome then none else some (element.2, node.compact))

variable {body : Nat → Run MemoryStore (Except RenderError Unit)} {builder : Builder}

theorem Attempts.gives (attempts : Attempts body builder attempt) (index : Nat) {world : World MemoryStore}
    (scopes : world.builder = builder) :
    Gives (nested (body index) world) builder (attempt index) fun _ memory => memory = world.store := by
  obtain ⟨events, ran⟩ := attempts index world scopes
  rw [ran]
  cases attempt index with
  | none => exact gives_none builder _
  | some outcome => exact gives_of_some scopes fun _ _ => rfl

theorem elementOf_gives (attempts : Attempts body builder attempt) {keys : List String}
    {element : Nat × String} (asked : element.2 ∈ keys) {world : World MemoryStore}
    (scopes : world.builder = builder) :
    Gives (elementOf (start.readAll keys).1 body element world) builder
      (withFragment start element <$> resolved start attempt element)
      fun _ memory => memory = world.store := by
  obtain ⟨events, decoding, -⟩ := decodeFound_plain (start.readAll keys).1 element.2 world
  rw [MemoryStore.node?_readAll asked] at decoding
  rw [elementOf_eq, bind_of_some decoding]
  unfold resolved withFragment
  cases start.node? element.2 with
  | some node => exact gives_of_some scopes fun _ _ => rfl
  | none =>
    obtain ⟨later, ran⟩ := attempts element.1
      { world with events := .log (.fragmentMiss element.2) :: (events ++ world.events) } scopes
    rw [elementFrom_none]
    dsimp only
    rw [ran]
    cases attempt element.1 with
    | none => exact gives_none builder _
    | some outcome => cases outcome <;> exact gives_of_some scopes fun _ _ => rfl

def Alike (attempt : Nat → Outcome Json) (elements : List (Nat × String)) : Prop :=
  ∀ one ∈ elements, ∀ other ∈ elements, one.2 = other.2 → ∀ node,
    attempt one.1 = pure node → attempt other.1 = pure node

theorem fragment_cases {element : Nat × String} {result : Json × Option (String × String)}
    (same : withFragment start element <$> resolved start attempt element = pure result) :
    ((start.node? element.2).isSome ∧ result.2 = none) ∨
    (start.node? element.2 = none ∧ attempt element.1 = pure result.1 ∧
      result.2 = some (element.2, result.1.compact)) := by
  unfold resolved withFragment at same
  cases had : start.node? element.2 with
  | some node =>
    rw [had] at same
    obtain rfl := pure_inj same
    exact .inl ⟨rfl, rfl⟩
  | none =>
    rw [had] at same
    obtain ⟨node, attempted, rfl⟩ := exists_of_map_eq_pure same
    exact .inr ⟨rfl, attempted, rfl⟩

/-- The fragments to write are those of the elements that had to be built. -/
theorem mem_built_fragments {elements : List (Nat × String)} {results : List (Json × Option (String × String))}
    (each : List.Forall₂ (fun element result =>
      withFragment start element <$> resolved start attempt element = pure result)
      elements results) (key text : String) :
    (key, text) ∈ results.filterMap Prod.snd ↔ ∃ element ∈ elements, start.node? element.2 = none ∧
      ∃ node, attempt element.1 = pure node ∧ (element.2, node.compact) = (key, text) := by
  induction each with
  | nil => simp
  | @cons element result elements results first _ ih =>
    simp only [List.mem_cons, exists_eq_or_imp]
    rw [← ih]
    obtain ⟨had, absent⟩ | ⟨missing, attempted, written⟩ := fragment_cases first
    · have never : ¬ start.node? element.2 = none := Option.isSome_iff_ne_none.1 had
      simp [absent, never]
    · simp only [List.filterMap_cons, written, List.mem_cons, missing, attempted, true_and]
      refine or_congr_left ⟨fun same => ⟨result.1, rfl, same.symm⟩, ?_⟩
      rintro ⟨node, same, pair⟩
      obtain rfl := pure_inj same
      exact pair.symm

theorem filled_writeAll {elements : List (Nat × String)} {results : List (Json × Option (String × String))}
    (each : List.Forall₂ (fun element result =>
      withFragment start element <$> resolved start attempt element = pure result)
      elements results) (alike : Alike attempt elements) :
    Filled start attempt lifetime elements
      ((start.readAll (elements.map Prod.snd)).2.writeAll lifetime (results.filterMap Prod.snd)) := by
  constructor
  · intro key had
    have absent : ∀ text, (key, text) ∉ results.filterMap Prod.snd := by
      intro text member
      obtain ⟨element, among, missing, node, -, pair⟩ := (mem_built_fragments each key text).1 member
      obtain ⟨kept, found⟩ := had element among (Prod.mk.inj pair).1
      rw [(Prod.mk.inj pair).1, found] at missing
      contradiction
    rw [MemoryStore.get?_writeAll_of_absent absent]
    unfold MemoryStore.readAll
    rw [MemoryStore.get?_entries_lookupAll]
    by_cases asked : key ∈ elements.map Prod.snd
    · rw [if_pos asked]
      obtain ⟨element, among, rfl⟩ := List.mem_map.1 asked
      obtain ⟨node, found⟩ := had element among rfl
      exact MemoryStore.live?_of_node? found
    · rw [if_neg asked]
  · intro element among missing
    obtain ⟨result, paired, came⟩ := exists_zip_of_mem each among
    obtain ⟨had, -⟩ | ⟨-, attempted, written⟩ := fragment_cases came
    · rw [missing] at had
      contradiction
    · refine ⟨result.1, attempted, MemoryStore.get?_writeAll_of_mem ?_ ?_ _ _⟩
      · exact List.mem_filterMap.2 ⟨result, (List.of_mem_zip paired).2, written⟩
      · intro text member
        obtain ⟨other, amongOther, -, node, attemptedOther, pair⟩ :=
          (mem_built_fragments each element.2 text).1 member
        have same := alike other amongOther element among (Prod.mk.inj pair).1 node attemptedOther
        obtain rfl := pure_inj (same.symm.trans attempted)
        exact (Prod.mk.inj pair).2.symm

theorem cacheBatched_gives (attempts : Attempts body builder attempt) {elements : List (Nat × String)}
    (alike : Alike attempt elements) {world : World MemoryStore} (scopes : world.builder = builder)
    (store : world.store = start) :
    Gives (cacheBatched MemoryStore.batch lifetime body elements world) builder
      (Json.arr <$> elements.mapM (resolved start attempt)) fun _ => Filled start attempt lifetime elements := by
  subst store
  have nodes : ∀ middle : World MemoryStore, middle.builder = builder →
      middle.store = (world.store.readAll (elements.map Prod.snd)).2 →
      Gives (collect (elementOf (world.store.readAll (elements.map Prod.snd)).1 body) elements middle) builder
        (elements.mapM fun element => withFragment world.store element <$> resolved world.store attempt element)
        fun _ memory => memory = (world.store.readAll (elements.map Prod.snd)).2 :=
    collect_gives (fun _ memory => memory = (world.store.readAll (elements.map Prod.snd)).2)
      (fun done element middle _ member same kept =>
        kept ▸ elementOf_gives attempts (List.mem_map_of_mem member) same) [] elements rfl
  rw [← mapM_map (resolved world.store attempt) (withFragment world.store) Prod.fst (fun _ _ => rfl),
    ← bind_pure_comp, ← bind_pure_comp, bind_assoc]
  rw [cacheBatched_eq, bind_of_some (readFragments_memory world (elements.map Prod.snd))]
  refine Gives.bind (nodes _ ?_ ?_) (fun _ => rfl) fun results middle each middleScopes kept => ?_
  · exact scopes
  · rfl
  obtain ⟨events, written, -⟩ := writeFragments_memory middle lifetime (results.filterMap Prod.snd)
  show Gives ((writeFragments _ _ _ >>= _) middle) _ _ _
  rw [bind_of_some written]
  refine gives_of_some middleScopes fun _ _ => ?_
  rw [kept]
  exact filled_writeAll (forall₂_of_mapM each) alike

/-! ### One by one -/

theorem Filled.same {elements : List (Nat × String)} {memory after : MemoryStore}
    (filled : Filled start attempt lifetime elements memory)
    (same : ∀ key, Entries.get? key after.entries = Entries.get? key memory.entries) :
    Filled start attempt lifetime elements after := by
  refine ⟨fun key had => (same key).trans (filled.others key had), fun element among missing => ?_⟩
  obtain ⟨node, attempted, kept⟩ := filled.built element among missing
  exact ⟨node, attempted, (same element.2).trans kept⟩

theorem Filled.append {done : List (Nat × String)} {element : Nat × String} {memory : MemoryStore}
    (filled : Filled start attempt lifetime done memory)
    (built : start.node? element.2 = none → ∃ node, attempt element.1 = pure node ∧
      Entries.get? element.2 memory.entries = some ⟨node.compact, lifetime⟩) :
    Filled start attempt lifetime (done ++ [element]) memory := by
  constructor
  · intro key had
    exact filled.others key fun other among => had other (List.mem_append_left _ among)
  · intro other among
    rcases List.mem_append.1 among with earlier | last
    · exact filled.built other earlier
    · rw [List.mem_singleton.1 last]
      exact built

variable {done : List (Nat × String)} {element : Nat × String} {memory : MemoryStore}

/-- What the store has for an element is what the store had, or what an element of the same key built. -/
theorem Filled.hit (filled : Filled start attempt lifetime done memory)
    (alike : ∀ other ∈ done, other.2 = element.2 → ∀ node,
      attempt other.1 = pure node → attempt element.1 = pure node)
    (portable : ∀ node, attempt element.1 = pure node → node.Portable) {node : Json}
    (kept : memory.node? element.2 = some node) :
    resolved start attempt element = pure node ∧ Filled start attempt lifetime (done ++ [element]) memory := by
  unfold resolved
  cases had : start.node? element.2 with
  | some old =>
    obtain rfl := Option.some.inj ((filled.node? had).symm.trans kept)
    refine ⟨rfl, filled.append fun missing => ?_⟩
    rw [had] at missing
    contradiction
  | none =>
    by_cases earlier : ∃ other ∈ done, other.2 = element.2
    · obtain ⟨other, among, same⟩ := earlier
      obtain ⟨built, attempted, entry⟩ := filled.built other among (same ▸ had)
      rw [same] at entry
      have again := alike other among same built attempted
      have lives : lifetime ≠ some 0 := by
        rintro rfl
        simp [MemoryStore.node?, MemoryStore.fragment?, MemoryStore.live?, entry, Option.filter,
          Entry.isExpired] at kept
      have found := MemoryStore.node?_of_kept lives (portable built again) entry
      obtain rfl := Option.some.inj (found.symm.trans kept)
      exact ⟨again, filled.append fun _ => ⟨built, again, entry⟩⟩
    · have untouched := filled.others element.2 fun other among same => absurd ⟨other, among, same⟩ earlier
      rw [MemoryStore.node?_of_get? untouched, had] at kept
      contradiction

theorem Filled.write (filled : Filled start attempt lifetime done memory)
    (alike : ∀ other ∈ done, other.2 = element.2 → ∀ node,
      attempt other.1 = pure node → attempt element.1 = pure node)
    (missing : start.node? element.2 = none) {node : Json} (attempted : attempt element.1 = pure node) :
    Filled start attempt lifetime (done ++ [element])
      ((memory.lookup element.2).2.write element.2 node.compact lifetime) := by
  have here : Entries.get? element.2
      ((memory.lookup element.2).2.write element.2 node.compact lifetime).entries =
        some ⟨node.compact, lifetime⟩ := by
    rw [MemoryStore.get?_write, if_pos rfl]
  have elsewhere : ∀ key, key ≠ element.2 → Entries.get? key
      ((memory.lookup element.2).2.write element.2 node.compact lifetime).entries =
        Entries.get? key memory.entries := by
    intro key different
    rw [MemoryStore.get?_write, if_neg (Ne.symm different), MemoryStore.get?_lookup, if_neg different]
  constructor
  · intro key had
    have different : key ≠ element.2 := by
      rintro rfl
      obtain ⟨old, found⟩ := had element (List.mem_append_right _ List.mem_cons_self) rfl
      rw [missing] at found
      contradiction
    rw [elsewhere key different]
    exact filled.others key fun other among => had other (List.mem_append_left _ among)
  · intro other among absent
    rcases List.mem_append.1 among with earlier | last
    · obtain ⟨old, attemptedOld, entry⟩ := filled.built other earlier absent
      by_cases same : other.2 = element.2
      · have again := alike other earlier same old attemptedOld
        obtain rfl := pure_inj (again.symm.trans attempted)
        rw [same]
        exact ⟨old, attemptedOld, here⟩
      · exact ⟨old, attemptedOld, (elsewhere other.2 same).trans entry⟩
    · rw [List.mem_singleton.1 last]
      exact ⟨node, attempted, here⟩

theorem fetchOrBuild_gives (attempts : Attempts body builder attempt) (batched : Bool)
    (alike : ∀ other ∈ done, other.2 = element.2 → ∀ node,
      attempt other.1 = pure node → attempt element.1 = pure node)
    (portable : ∀ node, attempt element.1 = pure node → node.Portable) {world : World MemoryStore}
    (scopes : world.builder = builder) (filled : Filled start attempt lifetime done world.store) :
    Gives (fetchOrBuild (MemoryStore.store batched) element.2 lifetime (body element.1) world) builder
      (resolved start attempt element) fun _ => Filled start attempt lifetime (done ++ [element]) := by
  obtain ⟨events, reading, -⟩ := readFragment_memory batched element.2 world
  rw [fetchOrBuild_eq, bind_of_some reading]
  cases found : world.store.node? element.2 with
  | some node =>
    obtain ⟨same, further⟩ := filled.hit alike portable found
    rw [same]
    exact gives_of_some scopes fun _ _ => further.same (MemoryStore.get?_lookup_of_node? found)
  | none =>
    have missing : start.node? element.2 = none := by
      cases had : start.node? element.2 with
      | none => rfl
      | some node =>
        rw [filled.node? had] at found
        contradiction
    have same : resolved start attempt element = attempt element.1 := by
      unfold resolved
      rw [missing]
    rw [fragmentFrom_none, same, ← bind_pure (attempt element.1)]
    refine (attempts.gives element.1 ?_).bind (fun _ => rfl) fun node middle attempted middleScopes kept => ?_
    · exact scopes
    rw [keepFragment_memory, kept]
    exact gives_of_some middleScopes fun _ _ => filled.write alike missing attempted

theorem cacheSingly_gives (attempts : Attempts body builder attempt) (batched : Bool)
    {elements : List (Nat × String)} (alike : Alike attempt elements)
    (portable : ∀ element ∈ elements, ∀ node, attempt element.1 = pure node → node.Portable)
    {world : World MemoryStore} (scopes : world.builder = builder) (store : world.store = start) :
    Gives (cacheSingly (MemoryStore.store batched) lifetime body elements world) builder
      (Json.arr <$> elements.mapM (resolved start attempt)) fun _ => Filled start attempt lifetime elements := by
  subst store
  have nodes := collect_gives (Filled world.store attempt lifetime)
    (fun done element middle among member same filled => fetchOrBuild_gives attempts batched
      (fun other earlier equal => alike other (among other earlier) element member equal)
      (portable element member) same filled) [] elements rfl
  have logged : (log (.singleCalls elements.length) : Run MemoryStore Unit) world =
      some ((), { world with events := .log (.singleCalls elements.length) :: world.events }) := rfl
  unfold cacheSingly
  rw [bind_of_some logged, ← bind_pure_comp]
  refine (nodes _ ?_ ?_).bind (fun _ => rfl) fun values middle _ middleScopes filled => ?_
  · exact scopes
  · exact filled_nil
  · exact gives_of_some middleScopes fun _ _ => filled

end Elements

end Run

end Stencil
