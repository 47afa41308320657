import Stencil.Proofs.Cache.Completed
import Stencil.Proofs.Json.Depth
import Stencil.Proofs.Run.Operations

/-!
# What a miss keeps for the next call

A cache call that misses keeps the node that it builds. The next call under the key takes it from the store and
runs no block, provided that the node's text can be read back; what is nested deeper than `maxDepth` is kept as
well, but never found again (`next_call_of_miss`).
-/

namespace Stencil

open Cache Run

theorem Cache.decode?_compact_deep {node : Json} (wellFormed : node.WellFormed) (floatFree : node.FloatFree)
    (deep : Json.maxDepth < node.depth) : decode? node.compact = none := by
  unfold decode? Json.ofText
  rw [Json.parse_compact_deep wellFormed floatFree deep]
  rfl

theorem Cache.MemoryStore.node?_of_deep {memory : MemoryStore} {key : String} {node : Json}
    {lifetime : Option Nat} (wellFormed : node.WellFormed) (floatFree : node.FloatFree)
    (deep : Json.maxDepth < node.depth)
    (kept : Entries.get? key memory.entries = some ⟨node.compact, lifetime⟩) :
    memory.node? key = none := by
  unfold node? fragment? live?
  rw [kept]
  by_cases expired : lifetime = some 0
  · simp [Option.filter, Entry.isExpired, expired]
  · simp [Option.filter, Entry.isExpired, expired, decode?_compact_deep wellFormed floatFree deep]

/-! ### Calls by what is found -/

namespace Run

variable {σ : Type} {renderer : Renderer σ}

theorem single_runWithin (renderer : Renderer σ) (bound : Nat) (condition : Bool) (key : KeyExpr)
    (options : Options) (block : Block) :
    (Block.cache condition key options block .done).runWithin renderer bound =
      cacheOne renderer condition key options (block.runWithin renderer bound) := by
  simp only [Block.runWithin_eq, Block.run]
  exact bind_pure _

/-- Once the key has been looked up, what is found decides. -/
theorem cachedNode_of_lookUp {store : Cache.Store σ} (active : renderer.activeStore = some store) {key : KeyExpr}
    {options : Options} {world middle : World σ} {found : Option Json}
    (looked : lookUp renderer store key options world = some (found, middle))
    (body : Run σ (Except RenderError Unit)) :
    cachedNode renderer true key options body world =
      fragmentFrom store (renderer.storeKey key options) (renderer.lifetime options) body found middle := by
  obtain ⟨name, named, naming, reading⟩ := bind_some looked
  obtain rfl := nameFragment_value naming
  unfold cachedNode
  simp only [if_true, active]
  rw [bind_of_some naming, fetchOrBuild_eq, bind_of_some reading]

/-- What is built after a miss is kept. -/
theorem fragmentFrom_built {batched : Bool} {key : String} {lifetime : Option Nat}
    {body : Run MemoryStore (Except RenderError Unit)} {missed built : World MemoryStore} {node : Json}
    (builds : nested body (missed.noted (.log (.fragmentMiss key))) = some (.ok node, built)) :
    fragmentFrom (MemoryStore.store batched) key lifetime body none missed =
      some (.ok node, ⟨built.builder, built.store.write key node.compact lifetime,
        .write key node.compact lifetime (.ok ()) :: built.events⟩) :=
  (bind_of_some builds).trans (keepFragment_memory batched key built lifetime node)

theorem lookUp_memory (renderer : Renderer MemoryStore) (batched : Bool) (key : KeyExpr) (options : Options)
    (world : World MemoryStore) :
    ∃ events, lookUp renderer (MemoryStore.store batched) key options world =
        some (world.store.node? (renderer.storeKey key options),
          ⟨world.builder, (world.store.lookup (renderer.storeKey key options)).2, events ++ world.events⟩) ∧
      ∀ event ∈ events, event.isWrite = false := by
  obtain ⟨name, named, naming, plain⟩ := (Silent.nameFragment renderer key options).plain world
  obtain rfl := nameFragment_value naming
  obtain ⟨events, reading, reads⟩ := readFragment_memory batched (renderer.storeKey key options)
    { world with events := named ++ world.events }
  refine ⟨events ++ named, (bind_of_some naming).trans ?_, fun event member => ?_⟩
  · rw [reading, List.append_assoc]
  · obtain reading | naming := List.mem_append.1 member
    · exact reads event reading
    · exact Event.isWrite_of_plain (plain event naming)

end Run

namespace Renderer

variable (renderer : Renderer MemoryStore) (key : KeyExpr) (options : Options) (world : World MemoryStore)

/-- The call puts this node into the scope; it runs no block, whichever it is given, and writes nothing. -/
def ServesNode (node : Json) : Prop :=
  ∃ after, Served world after ∧ after.builder = (world.builder.edit (Scope.splice node)).2 ∧
    ∀ bound block, (Block.cache true key options block .done).runWithin renderer bound world =
        some ((world.builder.edit (Scope.splice node)).1, after) ∧
      ∀ purpose inner, ¬Moment.Nests renderer ⟨bound, .cache true key options block .done, world⟩ purpose inner

/-- The call runs its block, whichever it is, in a scope that is nested in the innermost one. -/
def RunsBlock : Prop :=
  ∀ bound block, ∃ inner, inner.block = block ∧ inner.world.builder = world.builder ∧
    Moment.Nests renderer ⟨bound, .cache true key options block .done, world⟩ .kept inner

section Memory

variable {renderer key options world} {batched : Bool}
  (active : renderer.activeStore = some (MemoryStore.store batched))

include active

theorem servesNode_of_node? {node : Json} (found : world.store.node? (renderer.storeKey key options) = some node) :
    renderer.ServesNode key options world node := by
  obtain ⟨events, looked, reads⟩ := lookUp_memory renderer batched key options world
  rw [found] at looked
  have served : Served world ⟨(world.builder.edit (Scope.splice node)).2,
      (world.store.lookup (renderer.storeKey key options)).2,
      .log (.fragmentHit (renderer.storeKey key options)) :: (events ++ world.events)⟩ := by
    refine ⟨fun name => MemoryStore.live?_lookup _ name world.store,
      MemoryStore.misses_lookup (MemoryStore.isSome_fragment? found), _ :: events, rfl, ?_⟩
    exact List.forall_mem_cons.2 ⟨rfl, reads⟩
  refine ⟨_, served, rfl, fun bound block => ⟨?_, fun purpose inner nests => ?_⟩⟩
  · rw [single_runWithin, cacheOne_eq, bind_apply, cachedNode_of_lookUp active looked]
    rfl
  · cases nests with
    | uncached plain => simp [active] at plain
    | cached again absent =>
      obtain rfl := Option.some.inj (active.symm.trans again)
      cases (result_inj (looked.symm.trans absent)).1

theorem runsBlock_of_node? (unusable : world.store.node? (renderer.storeKey key options) = none) :
    renderer.RunsBlock key options world := by
  obtain ⟨events, looked, -⟩ := lookUp_memory renderer batched key options world
  rw [unusable] at looked
  exact fun bound block => ⟨_, rfl, rfl, .cached active looked⟩

/-- A call that misses merges what its block builds, and leaves its text under the key. -/
theorem exists_run_of_built {bound : Nat} {block : Block} {inner : Moment MemoryStore} {node : Json}
    {built : World MemoryStore}
    (nests : Moment.Nests renderer ⟨bound, .cache true key options block .done, world⟩ .kept inner)
    (builds : inner.build renderer = some (.ok node, built)) :
    ∃ after, (Block.cache true key options block .done).runWithin renderer bound world =
        some ((world.builder.edit (Scope.splice node)).1, after) ∧
      after.builder = (world.builder.edit (Scope.splice node)).2 ∧
      Entries.get? (renderer.storeKey key options) after.store.entries =
        some ⟨node.compact, renderer.lifetime options⟩ := by
  cases nests with
  | @cached _ _ _ _ _ _ _ missed again absent =>
    obtain rfl := Option.some.inj (active.symm.trans again)
    have kept : built.builder = world.builder := by
      obtain ⟨events, looked, -⟩ := lookUp_memory renderer batched key options world
      obtain ⟨-, rfl⟩ := result_inj (absent.symm.trans looked)
      exact nested_keeps (isolated_runWithin renderer bound block) builds
    have made := (cachedNode_of_lookUp active absent _).trans (fragmentFrom_built builds)
    rw [single_runWithin, cacheOne_eq, bind_of_some made, kept]
    exact ⟨_, rfl, rfl, (MemoryStore.get?_write _ _ _ _ _).trans (if_pos rfl)⟩

end Memory

/--
A call without a usable entry runs its block and merges what it builds. A later call under the key, while the
entry is the same, serves this node if its containers are nested at most `maxDepth` deep; if they are nested
deeper, the entry is not usable and the later call runs its block again.
-/
theorem next_call_of_miss {batched : Bool} (active : renderer.activeStore = some (MemoryStore.store batched))
    (lasting : renderer.lifetime options ≠ some 0)
    (unusable : world.store.node? (renderer.storeKey key options) = none) :
    renderer.RunsBlock key options world ∧
    ∀ bound block inner node built,
      Moment.Nests renderer ⟨bound, .cache true key options block .done, world⟩ .kept inner →
      inner.build renderer = some (.ok node, built) → node.WellFormed → node.FloatFree →
        ∃ after, (Block.cache true key options block .done).runWithin renderer bound world =
            some ((world.builder.edit (Scope.splice node)).1, after) ∧
          after.builder = (world.builder.edit (Scope.splice node)).2 ∧
          ∀ later : World MemoryStore, Entries.get? (renderer.storeKey key options) later.store.entries =
              Entries.get? (renderer.storeKey key options) after.store.entries →
            (node.depth ≤ Json.maxDepth → renderer.ServesNode key options later node) ∧
            (Json.maxDepth < node.depth → later.store.node? (renderer.storeKey key options) = none ∧
              renderer.RunsBlock key options later) := by
  refine ⟨runsBlock_of_node? active unusable, fun bound block inner node built nests builds wellFormed floatFree => ?_⟩
  obtain ⟨after, ran, builder, entry⟩ := exists_run_of_built active nests builds
  refine ⟨after, ran, builder, fun later same => ⟨fun shallow => ?_, fun deep => ?_⟩⟩
  · have portable : node.Portable := ⟨wellFormed, floatFree, shallow⟩
    exact servesNode_of_node? active (MemoryStore.node?_of_kept lasting portable (same.trans entry))
  · have lost := MemoryStore.node?_of_deep wellFormed floatFree deep (same.trans entry)
    exact ⟨lost, runsBlock_of_node? active lost⟩

/-- A list in a list in a list, and so on. -/
def deepList : Nat → Script Unit
  | 0 => Script.append (.num (.int 1))
  | more + 1 => Script.element (deepList more)

def deepNode : Nat → Json
  | 0 => .arr [.num (.int 1)]
  | more + 1 => .arr [deepNode more]

theorem depth_deepNode (more : Nat) : (deepNode more).depth = more + 1 := by
  induction more with
  | zero => rfl
  | succ more ih => simp [deepNode, Json.depth, Json.depthOfItems, ih]

theorem plain_deepNode (more : Nat) : (deepNode more).WellFormed ∧ (deepNode more).FloatFree := by
  induction more with
  | zero =>
    have one : (Number.int 1).InRange := by decide
    exact ⟨⟨one, trivial⟩, trivial, trivial⟩
  | succ more ih => exact ⟨⟨ih.1, trivial⟩, ih.2, trivial⟩

theorem nested_deepList {σ : Type} (renderer : Renderer σ) (bound more : Nat) (world : World σ) :
    nested ((deepList more).toBlock.runWithin renderer bound) world = some (.ok (deepNode more), world) := by
  rw [nested_eq, Block.runWithin_eq]
  induction more generalizing world with
  | zero => rfl
  | succ more ih =>
    have inner := (nested_eq _ _).trans (ih { world with builder := world.builder.push })
    show (Option.bind _ _ : Option _).map _ = _
    rw [inner]
    rfl

theorem next_call_of_miss_deepList :
    (∃ after, (Block.cache true (.text "list") {} (deepList 126).toBlock .done).runWithin withMemory 0
        (withMemory.start {}) = some (.ok (), after) ∧
      withMemory.ServesNode (.text "list") {} after (deepNode 126)) ∧
    ∃ after, (Block.cache true (.text "list") {} (deepList 127).toBlock .done).runWithin withMemory 0
        (withMemory.start {}) = some (.ok (), after) ∧
      withMemory.RunsBlock (.text "list") {} after := by
  obtain ⟨-, kept⟩ := next_call_of_miss withMemory (.text "list") {} (withMemory.start {}) rfl (by decide) rfl
  have first := fun more => kept 0 (deepList more).toBlock _ (deepNode more) _ (.cached rfl rfl)
    (nested_deepList withMemory 0 more _) (plain_deepNode more).1 (plain_deepNode more).2
  constructor
  · obtain ⟨after, ran, -, next⟩ := first 126
    exact ⟨after, ran, (next after rfl).1 (by simp [depth_deepNode, Json.maxDepth])⟩
  · obtain ⟨after, ran, -, next⟩ := first 127
    exact ⟨after, ran, ((next after rfl).2 (by simp [depth_deepNode, Json.maxDepth])).2⟩

end Renderer

end Stencil
