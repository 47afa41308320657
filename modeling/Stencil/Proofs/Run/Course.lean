import Stencil.Proofs.Run.Coupled

/-!
# The course of a run

A run goes from moment to moment, at each of which a block is about to be run in a state. It goes on with the
block that comes after a step, and into the blocks that a step runs in nested scopes (`Moment.Enters`). The
moments that a run `Reaches` are those that statements about every call of a render are about. A run does not
go on for ever, nor does it go deeper for ever: `wellFounded_enters` is the induction over its course.
-/

namespace Stencil

variable {σ α β : Type}

/-- A block about to be run in a state, with partials nested at most `bound` deep. -/
structure Moment (σ : Type) where
  bound : Nat
  block : Block
  world : World σ

namespace Moment

def run (renderer : Renderer σ) (moment : Moment σ) : Option (Except RenderError Unit × World σ) :=
  moment.block.runWithin renderer moment.bound moment.world

/-- Runs the block in a nested scope, and gives the node that it builds. -/
def build (renderer : Renderer σ) (moment : Moment σ) : Option (Except RenderError Json × World σ) :=
  Run.nested (moment.block.runWithin renderer moment.bound) moment.world

/-- The block about to be run in a scope that is nested in the innermost one. -/
def opened (moment : Moment σ) : Moment σ :=
  { moment with world := { moment.world with builder := moment.world.builder.push } }

end Moment

open Run

/-- Performs the first step of a block and gives the block that comes next; there is no step in one that is done. -/
def Block.step (renderer : Renderer σ) (bound : Nat) : Block → Run σ Block
  | .done _ => failure
  | .ask query next => do
    return next (query.answer renderer (← get).builder)
  | .note content next => do
    emit (.note content)
    return next
  | .act action next => do
    return next (← perform action)
  | .capture block next => do
    return next (← nested (block.runWithin renderer bound))
  | .renderPartial call next => do
    return next (← renderCall renderer (callWithin renderer bound) call)
  | .splicePartial call next => do
    return next (← splice (← renderCall renderer (callWithin renderer bound) call))
  | .cache condition key options block next => do
    return next (← cacheOne renderer condition key options (block.runWithin renderer bound))
  | .cacheCollection items options key block next => do
    return next (← cacheEach renderer items options key fun index => (block index).runWithin renderer bound)

theorem Block.runWithin_step (renderer : Renderer σ) (bound : Nat) {block : Block}
    (goesOn : ∀ outcome, block ≠ .done outcome) :
    block.runWithin renderer bound = block.step renderer bound >>= Block.runWithin renderer bound := by
  have same : Block.runWithin renderer bound = Block.run renderer (callWithin renderer bound) :=
    funext fun block => Block.runWithin_eq renderer bound block
  rw [same]
  cases block with
  | done outcome => exact (goesOn outcome rfl).elim
  | ask query next => rfl
  | note content next => rfl
  | act action next => simp only [Block.run, Block.step, bind_assoc, pure_bind]
  | _ => simp only [Block.run, Block.step, bind_assoc, pure_bind, same]

namespace Run

/-- A loop comes to an item in a state, all items before it having succeeded. -/
inductive Visits (step : α → Run σ (Except RenderError β)) : List α → World σ → α → World σ → Prop where
  | here {item : α} {rest : List α} {world : World σ} : Visits step (item :: rest) world item world
  | later {item other : α} {rest : List α} {world middle reached : World σ} {value : β}
      (done : step item world = some (.ok value, middle)) (visits : Visits step rest middle other reached) :
      Visits step (item :: rest) world other reached

theorem Visits.mem {step : α → Run σ (Except RenderError β)} {items : List α} {world reached : World σ} {item : α}
    (visits : Visits step items world item reached) : item ∈ items := by
  induction visits with
  | here => exact List.mem_cons_self
  | later _ _ ih => exact List.mem_cons_of_mem _ ih

/-- Names a fragment and looks for it in the store. -/
def lookUp (renderer : Renderer σ) (store : Cache.Store σ) (key : Cache.KeyExpr) (options : Cache.Options) :
    Run σ (Option Json) := do
  readFragment store (← nameFragment renderer key options)

end Run

/-- The call of a partial comes to run a template's block in a state. -/
inductive PartialCall.Runs (renderer : Renderer σ) (bound : Nat) (world : World σ) :
    PartialCall → Block → World σ → Prop where
  | once {name : String} {binding : Option String} {locals : Locals} {template : Template}
      (found : renderer.resolve name = .ok template) :
      Runs renderer bound world ⟨some name, .once, binding, locals⟩ (template locals)
        (world.noted (.log (.renderingPartial name world.builder.depth)))
  | each {name : String} {items : List Json} {binding : Option String} {locals : Locals} {template : Template}
      {item : Json} {reached : World σ} (found : renderer.resolve name = .ok template)
      (visits : Visits (fun item => renderOnce renderer (callWithin renderer bound) name
        (locals.insert (binding.getD (Partial.defaultBinding name)) item)) items world item reached) :
      Runs renderer bound world ⟨some name, .collection items, binding, locals⟩
        (template (locals.insert (binding.getD (Partial.defaultBinding name)) item))
        (reached.noted (.log (.renderingPartial name reached.builder.depth)))

/-- What becomes of the node that a nested block builds. -/
inductive Purpose where
  /-- It is for the block or the scope only. -/
  | given
  /-- It is the call's fragment, and to be kept. -/
  | kept
  /-- It is the fragment of an element of the call's collection, and to be kept. -/
  | element (index : Nat)

namespace Moment

/-- The first step of the moment's block comes to run a block in a nested scope. -/
inductive Nests (renderer : Renderer σ) : Moment σ → Purpose → Moment σ → Prop where
  | capture {bound : Nat} {block : Block} {next : Except RenderError Json → Block} {world : World σ} :
      Nests renderer ⟨bound, .capture block next, world⟩ .given ⟨bound, block, world⟩
  | renderPartial {bound : Nat} {call : PartialCall} {next : Except RenderError Json → Block} {block : Block}
      {world reached : World σ} (runs : call.Runs renderer (bound + 1) world block reached) :
      Nests renderer ⟨bound + 1, .renderPartial call next, world⟩ .given ⟨bound, block, reached⟩
  | splicePartial {bound : Nat} {call : PartialCall} {next : Except RenderError Unit → Block} {block : Block}
      {world reached : World σ} (runs : call.Runs renderer (bound + 1) world block reached) :
      Nests renderer ⟨bound + 1, .splicePartial call next, world⟩ .given ⟨bound, block, reached⟩
  | uncached {bound : Nat} {condition : Bool} {key : Cache.KeyExpr} {options : Cache.Options} {block : Block}
      {next : Except RenderError Unit → Block} {world : World σ}
      (plain : condition = false ∨ renderer.activeStore = none) :
      Nests renderer ⟨bound, .cache condition key options block next, world⟩ .given
        ⟨bound, block, world.noted (.log (bypassed condition key))⟩
  | cached {bound : Nat} {key : Cache.KeyExpr} {options : Cache.Options} {block : Block}
      {next : Except RenderError Unit → Block} {store : Cache.Store σ} {world missed : World σ}
      (active : renderer.activeStore = some store)
      (absent : lookUp renderer store key options world = some (none, missed)) :
      Nests renderer ⟨bound, .cache true key options block next, world⟩ .kept
        ⟨bound, block, missed.noted (.log (.fragmentMiss (renderer.storeKey key options)))⟩
  | inPlace {bound : Nat} {items : List Json.Payload} {options : Cache.Options}
      {key : Option (Nat → Cache.KeyExpr)} {block : Nat → Block} {next : Except RenderError Unit → Block}
      {index : Nat} {world opened reached : World σ} (inactive : renderer.activeStore = none)
      (opens : edit (Scope.openArray .openArray) (world.noted (.log (.collectionBypassed items.length))) =
        some (.ok (), opened))
      (visits : Visits (pushElement fun index => (block index).runWithin renderer bound)
        (List.range items.length) opened index reached) :
      Nests renderer ⟨bound, .cacheCollection (some items) options key block next, world⟩ .given
        ⟨bound, block index, reached⟩
  | batched {bound : Nat} {items : List Json.Payload} {options : Cache.Options}
      {key : Option (Nat → Cache.KeyExpr)} {block : Nat → Block} {next : Except RenderError Unit → Block}
      {store : Cache.Store σ} {batch : Cache.Batch σ} {elements : List (Nat × String)} {found : Entries String}
      {index : Nat} {name : String} {world named fetched reached missed : World σ}
      (active : renderer.activeStore = some store) (batched : store.batch = some batch)
      (names : collect (nameElement renderer options key) (indexed items) world = some (.ok elements, named))
      (reads : readFragments batch (elements.map Prod.snd) named = some (found, fetched))
      (visits : Visits (elementOf found fun index => (block index).runWithin renderer bound) elements fetched
        (index, name) reached)
      (absent : decodeFound found name reached = some (none, missed)) :
      Nests renderer ⟨bound, .cacheCollection (some items) options key block next, world⟩ (.element index)
        ⟨bound, block index, missed.noted (.log (.fragmentMiss name))⟩
  | singly {bound : Nat} {items : List Json.Payload} {options : Cache.Options}
      {key : Option (Nat → Cache.KeyExpr)} {block : Nat → Block} {next : Except RenderError Unit → Block}
      {store : Cache.Store σ} {elements : List (Nat × String)} {index : Nat} {name : String}
      {world named reached missed : World σ}
      (active : renderer.activeStore = some store) (single : store.batch = none)
      (names : collect (nameElement renderer options key) (indexed items) world = some (.ok elements, named))
      (visits : Visits (fun element => fetchOrBuild store element.2 (renderer.lifetime options)
        ((block element.1).runWithin renderer bound)) elements
        (named.noted (.log (.singleCalls elements.length))) (index, name) reached)
      (absent : readFragment store name reached = some (none, missed)) :
      Nests renderer ⟨bound, .cacheCollection (some items) options key block next, world⟩ (.element index)
        ⟨bound, block index, missed.noted (.log (.fragmentMiss name))⟩

/-- In one batch, the blocks that run are those of the elements without a fragment. -/
theorem Nests.of_batched {renderer : Renderer σ} {bound : Nat} {items : List Json.Payload} {options : Cache.Options}
    {key : Option (Nat → Cache.KeyExpr)} {block : Nat → Block} {next : Except RenderError Unit → Block}
    {store : Cache.Store σ} {batch : Cache.Batch σ} {elements : List (Nat × String)} {found : Entries String}
    {world named fetched : World σ} {purpose : Purpose} {inner : Moment σ}
    (active : renderer.activeStore = some store) (batched : store.batch = some batch)
    (names : collect (nameElement renderer options key) (indexed items) world = some (.ok elements, named))
    (reads : readFragments batch (elements.map Prod.snd) named = some (found, fetched))
    (nests : Nests renderer ⟨bound, .cacheCollection (some items) options key block next, world⟩ purpose inner) :
    ∃ index name reached missed, purpose = .element index ∧
      inner = ⟨bound, block index, missed.noted (.log (.fragmentMiss name))⟩ ∧
      Visits (elementOf found fun index => (block index).runWithin renderer bound) elements fetched (index, name)
        reached ∧ decodeFound found name reached = some (none, missed) := by
  cases nests with
  | inPlace inactive => simp [active] at inactive
  | singly again single =>
    obtain rfl := Option.some.inj (active.symm.trans again)
    simp [batched] at single
  | batched again batchedAgain namesAgain readsAgain visits absent =>
    obtain rfl := Option.some.inj (active.symm.trans again)
    obtain rfl := Option.some.inj (batched.symm.trans batchedAgain)
    obtain ⟨rfl, rfl⟩ := ok_inj (names.symm.trans namesAgain)
    obtain ⟨rfl, rfl⟩ := result_inj (reads.symm.trans readsAgain)
    exact ⟨_, _, _, _, rfl, rfl, visits, absent⟩

/-- A run goes on with the block that comes next, or into one that is nested in the midst of a step. -/
inductive Enters (renderer : Renderer σ) : Moment σ → Moment σ → Prop where
  | next {bound : Nat} {block following : Block} {world after : World σ}
      (steps : block.step renderer bound world = some (following, after)) :
      Enters renderer ⟨bound, block, world⟩ ⟨bound, following, after⟩
  | within {moment inner : Moment σ} {purpose : Purpose} (nests : moment.Nests renderer purpose inner) :
      Enters renderer moment inner.opened

/-- The run of a moment's block comes to another moment in the course of it. -/
def Reaches (renderer : Renderer σ) : Moment σ → Moment σ → Prop :=
  Relation.ReflTransGen (Enters renderer)

variable {renderer : Renderer σ}

/-- The block that comes next after a step is one that the step leads to. -/
theorem acc_of_step {bound : Nat} {block : Block} (goesOn : ∀ (next : Block) (before after : World σ),
      block.step renderer bound before = some (next, after) →
        Acc (fun later earlier => Enters renderer earlier later) ⟨bound, next, after⟩)
    (goesIn : ∀ world purpose inner, Nests renderer ⟨bound, block, world⟩ purpose inner →
      Acc (fun later earlier => Enters renderer earlier later) inner.opened) (world : World σ) :
    Acc (fun later earlier => Enters renderer earlier later) ⟨bound, block, world⟩ := by
  refine .intro _ fun later enters => ?_
  cases enters with
  | next steps => exact goesOn _ _ _ steps
  | within nests => exact goesIn _ _ _ nests

theorem wellFounded_enters (renderer : Renderer σ) :
    WellFounded fun later earlier : Moment σ => Enters renderer earlier later := by
  refine ⟨fun ⟨bound, block, world⟩ => ?_⟩
  -- A partial's blocks are run under a smaller bound, all others are parts of the block.
  induction bound using Nat.strongRecOn generalizing block world with
  | ind bound smaller =>
    induction block generalizing world with
    | done outcome =>
      refine acc_of_step (fun _ _ _ steps => ?_) (fun _ _ _ nests => ?_) world
      · contradiction
      · cases nests
    | ask query next ih =>
      refine acc_of_step (fun _ _ after steps => ?_) (fun _ _ _ nests => ?_) world
      · obtain ⟨rfl, -⟩ := result_inj steps
        exact ih _ _
      · cases nests
    | note content next ih =>
      refine acc_of_step (fun _ _ after steps => ?_) (fun _ _ _ nests => ?_) world
      · obtain ⟨rfl, -⟩ := result_inj steps
        exact ih _
      · cases nests
    | act action next ih =>
      refine acc_of_step (fun _ _ after steps => ?_) (fun _ _ _ nests => ?_) world
      · obtain ⟨outcome, -, rfl⟩ := returned_some steps
        exact ih outcome _
      · cases nests
    | capture block next within ih =>
      refine acc_of_step (fun _ _ after steps => ?_) (fun _ _ _ nests => ?_) world
      · obtain ⟨outcome, -, rfl⟩ := returned_some steps
        exact ih outcome _
      · cases nests
        exact within _
    | renderPartial call next ih =>
      refine acc_of_step (fun _ _ after steps => ?_) (fun _ _ _ nests => ?_) world
      · obtain ⟨outcome, -, rfl⟩ := returned_some steps
        exact ih outcome _
      · cases nests
        exact smaller _ (Nat.lt_succ_self _) _ _
    | splicePartial call next ih =>
      refine acc_of_step (fun _ _ after steps => ?_) (fun _ _ _ nests => ?_) world
      · obtain ⟨_, _, -, spliceRan⟩ := bind_some steps
        obtain ⟨outcome, -, rfl⟩ := returned_some spliceRan
        exact ih outcome _
      · cases nests
        exact smaller _ (Nat.lt_succ_self _) _ _
    | cache condition key options block next within ih =>
      refine acc_of_step (fun _ _ after steps => ?_) (fun _ _ _ nests => ?_) world
      · obtain ⟨outcome, -, rfl⟩ := returned_some steps
        exact ih outcome _
      · cases nests <;> exact within _
    | cacheCollection items options key block next within ih =>
      refine acc_of_step (fun _ _ after steps => ?_) (fun _ _ _ nests => ?_) world
      · obtain ⟨outcome, -, rfl⟩ := returned_some steps
        exact ih outcome _
      · cases nests <;> exact within _ _

end Moment

end Stencil
