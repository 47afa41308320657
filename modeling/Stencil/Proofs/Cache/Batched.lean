import Stencil.Proofs.Cache.Filled
import Stencil.Proofs.Run.Bound
import Stencil.Proofs.Run.Quiet

/-!
# Collections in one batch or one by one

If the elements make no cache calls of their own and equal keys stand for equal nodes, then it makes no
difference to the scopes and to what the store keeps whether the store has calls for several keys.
-/

namespace Stencil

open Cache

namespace Renderer

def inMemory (batched : Bool) (renderer : Renderer MemoryStore) : Renderer MemoryStore :=
  { renderer with store := some (MemoryStore.store batched) }

end Renderer

namespace Run

variable {α β : Type}

/-- The same outcome and scopes, and the same entries after a success. -/
def Agree (one other : Except RenderError α × World MemoryStore) : Prop :=
  one.1 = other.1 ∧ one.2.builder = other.2.builder ∧
    ∀ value, one.1 = .ok value →
      ∀ key, Entries.get? key one.2.store.entries = Entries.get? key other.2.store.entries

theorem agree_refl (result : Option (Except RenderError α × World MemoryStore)) :
    Option.Rel Agree result result := by
  cases result with
  | none => exact .none
  | some result => exact .some ⟨rfl, rfl, fun _ _ _ => rfl⟩

theorem agree_of_filled {start : MemoryStore} {attempt : Nat → Outcome Json} {lifetime : Option Nat}
    {elements : List (Nat × String)} {builder : Builder} {expected : Outcome β}
    {one other : Option (Except RenderError β × World MemoryStore)}
    (first : Gives one builder expected fun _ => Filled start attempt lifetime elements)
    (second : Gives other builder expected fun _ => Filled start attempt lifetime elements) :
    Option.Rel Agree one other := by
  obtain ⟨rfl, firstAfter⟩ := first
  obtain ⟨same, secondAfter⟩ := second
  cases one with
  | none =>
    obtain rfl := Option.map_eq_none_iff.1 same
    exact .none
  | some result =>
    obtain ⟨outcome, after⟩ := result
    obtain ⟨⟨answer, final⟩, rfl, rfl⟩ := Option.map_eq_some_iff.1 same
    obtain ⟨scopes, filled⟩ := firstAfter _ _ rfl
    obtain ⟨finalScopes, finalFilled⟩ := secondAfter _ _ rfl
    refine .some ⟨rfl, scopes.trans finalScopes.symm, fun value succeeded => ?_⟩
    exact (filled value succeeded).unique (finalFilled value succeeded)

theorem agree_splice {first second : Run MemoryStore (Except RenderError Json)}
    {world other : World MemoryStore} (agree : Option.Rel Agree (first world) (second other)) :
    Option.Rel Agree ((first >>= splice) world) ((second >>= splice) other) := by
  rw [bind_apply, bind_apply]
  generalize first world = one at agree ⊢
  generalize second other = another at agree ⊢
  cases agree with
  | none => exact .none
  | @some one another same =>
    obtain ⟨outcome, after⟩ := one
    obtain ⟨answer, final⟩ := another
    obtain ⟨equal, scopes, entries⟩ := same
    dsimp only at equal scopes entries
    subst equal
    cases outcome with
    | error error => exact .some ⟨rfl, scopes, fun _ impossible => by contradiction⟩
    | ok node =>
      refine .some ⟨?_, ?_, fun _ _ => entries node rfl⟩
      · show (after.builder.edit (Scope.splice node)).1 = (final.builder.edit (Scope.splice node)).1
        rw [scopes]
      · show (after.builder.edit (Scope.splice node)).2 = (final.builder.edit (Scope.splice node)).2
        rw [scopes]

def elementNames (renderer : Renderer MemoryStore) (items : Option (List Json.Payload))
    (options : Cache.Options) (key : Option (Nat → Cache.KeyExpr)) :
    Except RenderError (List (Nat × String)) :=
  (indexed (items.getD [])).mapM (elementName renderer options key)

theorem cacheEach_agrees (renderer : Renderer MemoryStore) {items : Option (List Json.Payload)}
    {options : Cache.Options} {key : Option (Nat → Cache.KeyExpr)} {world : World MemoryStore}
    (bodies : Bool → Nat → Run MemoryStore (Except RenderError Unit)) (attempt : Nat → Outcome Json)
    (quiet : ∀ index, Quiet fun batched => bodies batched index)
    (attempts : ∀ batched, Attempts (bodies batched) world.builder attempt)
    (alike : ∀ elements, elementNames renderer items options key = .ok elements → Alike attempt elements)
    (portable : ∀ elements, elementNames renderer items options key = .ok elements →
      ∀ element ∈ elements, ∀ node, attempt element.1 = pure node → node.Portable) :
    Option.Rel Agree (cacheEach (renderer.inMemory true) items options key (bodies true) world)
      (cacheEach (renderer.inMemory false) items options key (bodies false) world) := by
  cases items with
  | none => exact agree_refl _
  | some list =>
    cases caching : renderer.settings.performCaching with
    | false =>
      have inactive : ∀ batched, (renderer.inMemory batched).activeStore = none := by
        intro batched
        simp [Renderer.activeStore, Renderer.inMemory, caching]
      have bypassed : Quiet fun batched => (do
          log (.collectionBypassed list.length)
          buildElements (bodies batched) (List.range list.length)) :=
        hereditary_quiet.log _ _ fun _ => hereditary_quiet.buildElements quiet
      have same := bypassed.same true false world
      simp only [cacheEach, inactive]
      rw [same]
      exact agree_refl _
    | true =>
      have active : ∀ batched,
          (renderer.inMemory batched).activeStore = some (MemoryStore.store batched) := by
        intro batched
        simp [Renderer.activeStore, Renderer.inMemory, caching]
      rw [cacheEach_eq (active true), cacheEach_eq (active false)]
      obtain ⟨names, events, naming, -⟩ := (Silent.nameElements (renderer.inMemory true) options key
        (indexed list)).plain world
      obtain ⟨others, later, namingAgain, -⟩ := (Silent.nameElements (renderer.inMemory false) options key
        (indexed list)).plain world
      have same : others = names := (nameElements_value namingAgain).trans (nameElements_value naming).symm
      rw [bind_of_some naming, bind_of_some namingAgain, same]
      have value : elementNames renderer (some list) options key = names := (nameElements_value naming).symm
      cases names with
      | error error => exact .some ⟨rfl, rfl, fun _ impossible => by contradiction⟩
      | ok elements =>
        refine agree_splice (agree_of_filled (cacheBatched_gives (attempts true) (alike elements value) rfl rfl) ?_)
        exact cacheSingly_gives (attempts false) false (alike elements value) (portable elements value) rfl rfl

theorem nested_mono {renderer : Renderer MemoryStore} {bound more : Nat} (enough : bound ≤ more)
    (block : Block) {world : World MemoryStore} {result : Except RenderError Json × World MemoryStore}
    (ran : nested (block.runWithin renderer bound) world = some result) :
    nested (block.runWithin renderer more) world = some result := by
  rw [nested_eq, Option.map_eq_some_iff] at ran ⊢
  obtain ⟨inner, blockRan, same⟩ := ran
  exact ⟨inner, runWithin_mono enough block blockRan, same⟩

end Run

namespace Renderer

/-- The block's partials are nested at some finite depth, and it ends with this result. -/
def Ends (renderer : Renderer MemoryStore) (block : Block) (world : World MemoryStore)
    (result : Except RenderError Unit × World MemoryStore) : Prop :=
  ∃ bound, block.runWithin renderer bound world = some result

/-- The block builds this node in a nested scope. -/
def Builds (renderer : Renderer MemoryStore) (block : Block) (world : World MemoryStore) (node : Json) :
    Prop :=
  ∃ bound after, Run.nested (block.runWithin renderer bound) world = some (.ok node, after)

/-- Elements with the same key build the same nodes, and what they build can be read back. -/
structure Interchangeable (renderer : Renderer MemoryStore) (block : Nat → Block)
    (world : World MemoryStore) (elements : List (Nat × String)) : Prop where
  alike : ∀ one ∈ elements, ∀ other ∈ elements, one.2 = other.2 → ∀ node,
    renderer.Builds (block one.1) world node → renderer.Builds (block other.1) world node
  portable : ∀ element ∈ elements, ∀ node, renderer.Builds (block element.1) world node → node.Portable

theorem exists_of_rel_left {α β : Type} {R : α → β → Prop} {one : α} {result : Option β}
    (related : Option.Rel R (some one) result) : ∃ other, result = some other ∧ R one other := by
  cases related with
  | some same => exact ⟨_, rfl, same⟩

theorem exists_of_rel_right {α β : Type} {R : α → β → Prop} {other : β} {result : Option α}
    (related : Option.Rel R result (some other)) : ∃ one, result = some one ∧ R one other := by
  cases related with
  | some same => exact ⟨_, rfl, same⟩

/-- Some bound is enough for all elements that build a node. -/
theorem exists_enough (renderer : Renderer MemoryStore) (block : Nat → Block) (world : World MemoryStore)
    (elements : List (Nat × String)) (bound : Nat) :
    ∃ more, bound ≤ more ∧ ∀ element ∈ elements, ∀ node, renderer.Builds (block element.1) world node →
      ∃ after, Run.nested ((block element.1).runWithin renderer more) world = some (.ok node, after) := by
  induction elements with
  | nil => exact ⟨bound, Nat.le_refl bound, fun _ impossible => by contradiction⟩
  | cons element rest ih =>
    obtain ⟨more, enough, others⟩ := ih
    by_cases builds : ∃ node, renderer.Builds (block element.1) world node
    · obtain ⟨node, least, after, ran⟩ := builds
      refine ⟨max more least, by omega, fun other member value built => ?_⟩
      rcases List.mem_cons.1 member with rfl | later
      · obtain ⟨again, final, ranAgain⟩ := built
        have one := Run.nested_mono (Nat.le_max_left (max more least) again) _
          (Run.nested_mono (Nat.le_max_right more least) _ ran)
        have same := one.symm.trans (Run.nested_mono (Nat.le_max_right (max more least) again) _ ranAgain)
        obtain ⟨rfl, -⟩ := Run.ok_inj same
        exact ⟨after, Run.nested_mono (Nat.le_max_right more least) _ ran⟩
      · obtain ⟨final, ranOther⟩ := others other later value built
        exact ⟨final, Run.nested_mono (Nat.le_max_left more least) _ ranOther⟩
    · refine ⟨more, enough, fun other member value built => ?_⟩
      rcases List.mem_cons.1 member with rfl | later
      · exact absurd ⟨value, built⟩ builds
      · exact others other later value built

variable {renderer : Renderer MemoryStore} {items : Option (List Json.Payload)} {options : Cache.Options}
  {key : Option (Nat → Cache.KeyExpr)} {block : Nat → Block} {world : World MemoryStore}

/-- Under bounds that are large enough, the runs with both stores agree. -/
theorem runWithin_agrees (free : ∀ index, (block index).Every renderer.resolve Block.CacheFree)
    (interchangeable : ∀ elements, Run.elementNames renderer items options key = .ok elements →
      renderer.Interchangeable block world elements) (bound : Nat) :
    ∃ more, bound ≤ more ∧ Option.Rel Run.Agree
      ((Block.cacheCollection items options key block .done).runWithin (renderer.inMemory true) more world)
      ((Block.cacheCollection items options key block .done).runWithin (renderer.inMemory false) more world) := by
  obtain ⟨more, enough, built⟩ : ∃ more, bound ≤ more ∧ ∀ elements,
      Run.elementNames renderer items options key = .ok elements → ∀ element ∈ elements, ∀ node,
        renderer.Builds (block element.1) world node →
          ∃ after, Run.nested ((block element.1).runWithin renderer more) world = some (.ok node, after) := by
    cases named : Run.elementNames renderer items options key with
    | error error => exact ⟨bound, Nat.le_refl bound, fun _ impossible => by contradiction⟩
    | ok elements =>
      obtain ⟨more, enough, built⟩ := exists_enough renderer block world elements bound
      refine ⟨more, enough, fun others same => ?_⟩
      obtain rfl := Except.ok.inj same
      exact built
  refine ⟨more, enough, ?_⟩
  rw [Run.collection_runWithin, Run.collection_runWithin]
  have quiet : ∀ index, Run.Quiet fun store : Option (Cache.Store MemoryStore) =>
      (block index).runWithin { renderer with store } more :=
    fun index => Run.quiet_runWithin (fun store => { renderer with store }) (fun _ => rfl) (fun _ => rfl) more
      (free index)
  let attempt : Nat → Run.Outcome Json := fun index =>
    (Run.nested ((block index).runWithin renderer more) world).map Prod.fst
  have outcome : ∀ {index node}, attempt index = pure node →
      ∃ after, Run.nested ((block index).runWithin renderer more) world = some (.ok node, after) := by
    intro index node attempted
    obtain ⟨⟨_, after⟩, ran, rfl⟩ := Option.map_eq_some_iff.1 attempted
    exact ⟨after, ran⟩
  refine Run.cacheEach_agrees renderer
    (fun batched index => (block index).runWithin (renderer.inMemory batched) more) attempt ?_ ?_ ?_ ?_
  · exact fun index => (quiet index).comp fun batched => some (MemoryStore.store batched)
  · intro batched index other same
    exact (quiet index).attempt (fun store => Run.isolated_runWithin _ more _) renderer.store
      (some (MemoryStore.store batched)) same
  · intro elements named one first other second same node attempted
    obtain ⟨after, ran⟩ := outcome attempted
    obtain ⟨final, again⟩ := built elements named other second node
      ((interchangeable elements named).alike one first other second same node ⟨more, after, ran⟩)
    exact congrArg (Option.map Prod.fst) again
  · intro elements named element member node attempted
    obtain ⟨after, ran⟩ := outcome attempted
    exact (interchangeable elements named).portable element member node ⟨more, after, ran⟩

/--
A cached collection ends with the same outcome, in the same scopes and with the same entries, whether or
not the store in memory has calls for several keys. Its elements make no cache calls of their own.
-/
theorem batched_collection_agrees (renderer : Renderer MemoryStore) (items : Option (List Json.Payload))
    (options : Cache.Options) (key : Option (Nat → Cache.KeyExpr)) (block : Nat → Block)
    (world : World MemoryStore) (free : ∀ index, (block index).Every renderer.resolve Block.CacheFree)
    (interchangeable : ∀ elements, Run.elementNames renderer items options key = .ok elements →
      renderer.Interchangeable block world elements) :
    ((Block.cacheCollection items options key block .done).Finite renderer.resolve →
      ∃ together, (renderer.inMemory true).Ends (.cacheCollection items options key block .done) world together) ∧
    ((∃ together, (renderer.inMemory true).Ends (.cacheCollection items options key block .done) world together) ↔
      ∃ apart, (renderer.inMemory false).Ends (.cacheCollection items options key block .done) world apart) ∧
    ∀ together apart,
      (renderer.inMemory true).Ends (.cacheCollection items options key block .done) world together →
      (renderer.inMemory false).Ends (.cacheCollection items options key block .done) world apart →
        Run.Agree together apart := by
  refine ⟨fun finite => ?_, ⟨?_, ?_⟩, ?_⟩
  · have settled : Run.Settled fun bound => (Block.cacheCollection items options key block .done).runWithin
        (renderer.inMemory true) bound := Run.settled_runWithin finite
    obtain ⟨bound, together, ran⟩ := settled world
    exact ⟨together, bound, ran bound (Nat.le_refl bound)⟩
  · rintro ⟨together, bound, ran⟩
    obtain ⟨more, enough, agree⟩ := runWithin_agrees free interchangeable bound
    rw [Run.runWithin_mono enough _ ran] at agree
    obtain ⟨apart, apartRan, -⟩ := exists_of_rel_left agree
    exact ⟨apart, more, apartRan⟩
  · rintro ⟨apart, bound, ran⟩
    obtain ⟨more, enough, agree⟩ := runWithin_agrees free interchangeable bound
    rw [Run.runWithin_mono enough _ ran] at agree
    obtain ⟨together, togetherRan, -⟩ := exists_of_rel_right agree
    exact ⟨together, more, togetherRan⟩
  · rintro together apart ⟨bound, ran⟩ ⟨later, ranLater⟩
    obtain ⟨more, enough, agree⟩ := runWithin_agrees free interchangeable (max bound later)
    rw [Run.runWithin_mono (by omega) _ ran, Run.runWithin_mono (by omega) _ ranLater] at agree
    obtain ⟨_, same, agreed⟩ := exists_of_rel_left agree
    rw [Option.some.inj same]
    exact agreed

def plain : Renderer MemoryStore := ⟨{}, .identity, noPartials, none, .plain⟩

def twins : List Json.Payload := [.ok (.bool true), .ok (.bool true), .ok (.bool false)]

def twinNode (index : Nat) : Block := .act (.append (.ok (.bool (index < 2)))) .done

/-- A render that starts with a fragment that cannot be decoded and one that has run out. -/
def worn : World MemoryStore :=
  ⟨.new .identity false, ⟨[("jstreamer/true", ⟨"broken", none⟩), ("jstreamer/false", ⟨"7", some 0⟩)], {}⟩, []⟩

theorem twinNode_builds {index : Nat} {node : Json} (builds : plain.Builds (twinNode index) worn node) :
    node = .arr [.bool (index < 2)] := by
  obtain ⟨bound, after, ran⟩ := builds
  rw [Block.runWithin_eq] at ran
  exact (Run.ok_inj ran).1.symm

theorem twins_interchangeable (elements : List (Nat × String))
    (named : Run.elementNames plain (some twins) {} none = .ok elements) :
    plain.Interchangeable twinNode worn elements := by
  have names : Run.elementNames plain (some twins) {} none =
      .ok [(0, "jstreamer/true"), (1, "jstreamer/true"), (2, "jstreamer/false")] := rfl
  obtain rfl := Except.ok.inj (names.symm.trans named)
  constructor
  · intro one first other second same node builds
    simp only [List.mem_cons, List.not_mem_nil, or_false] at first second
    rcases first with rfl | rfl | rfl <;> rcases second with rfl | rfl | rfl <;>
      first | exact builds | exact absurd same (by decide)
  · intro element member node builds
    rw [twinNode_builds builds]
    exact ⟨by simp [Json.WellFormed, Json.WellFormedItems], by simp [Json.FloatFree, Json.FloatFreeItems],
      by simp [Json.depth, Json.depthOfItems, Json.maxDepth]⟩

theorem batched_collection_agrees_twins : ∃ together apart,
    (plain.inMemory true).Ends (.cacheCollection (some twins) {} none twinNode .done) worn together ∧
    (plain.inMemory false).Ends (.cacheCollection (some twins) {} none twinNode .done) worn apart ∧
    Run.Agree together apart := by
  have free : ∀ index, (twinNode index).Every plain.resolve Block.CacheFree := by
    intro index
    simp [twinNode, Block.every_act, Block.every_done, Block.CacheFree]
  obtain ⟨-, ends, agrees⟩ :=
    batched_collection_agrees plain (some twins) {} none twinNode worn free twins_interchangeable
  have ran : ((Block.cacheCollection (some twins) {} none twinNode .done).runWithin
      (plain.inMemory true) 0 worn).isSome := by
    decide +kernel
  obtain ⟨together, ranTogether⟩ := Option.isSome_iff_exists.1 ran
  obtain ⟨apart, ranApart⟩ := ends.1 ⟨together, 0, ranTogether⟩
  exact ⟨together, apart, ⟨0, ranTogether⟩, ranApart, agrees together apart ⟨0, ranTogether⟩ ranApart⟩

end Renderer

end Stencil
