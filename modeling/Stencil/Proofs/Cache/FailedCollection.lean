import Stencil.Proofs.Cache.Collected
import Stencil.Proofs.Run.Atomic

/-!
# Cached collections that fail

With a store, the elements of a cached collection are built aside and merged at once, so that a call that fails
leaves all scopes as they are. Without one the array is built in place: a call that fails then leaves the
elements before the failing one in the scope, and changes nothing else (`failed_collection`).
-/

namespace Stencil

open Cache Run

variable {σ : Type}

theorem Scope.openArray_of_some {scope : Scope} {before : List Json} (holds : scope.body.elements? = some before) :
    scope.openArray .openArray = (.ok (), { scope with body := .elements before }) := by
  obtain ⟨body, keyFormat, ignoreNil⟩ := scope
  cases body <;> cases holds <;> rfl

theorem Scope.openArray_of_none {scope : Scope} (other : scope.body.elements? = none) :
    scope.openArray .openArray = (.error (.shapeConflict .openArray scope.shape), scope) := by
  obtain ⟨body, keyFormat, ignoreNil⟩ := scope
  cases body <;> cases other <;> rfl

namespace Run

theorem edit_openArray {world : World σ} {before : List Json}
    (holds : world.builder.current.body.elements? = some before) :
    edit (Scope.openArray .openArray) world = some (.ok (), world.withElements before) := by
  show some _ = some _
  simp only [Builder.edit, Scope.openArray_of_some holds, World.withElements]

theorem edit_openArray_of_none {world : World σ} (other : world.builder.current.body.elements? = none) :
    edit (Scope.openArray .openArray) world =
      some (.error (.shapeConflict .openArray world.builder.current.shape), world) := by
  show some _ = some _
  simp only [Builder.edit, Scope.openArray_of_none other, Builder.setCurrent_current]

theorem splice_error {node : Except RenderError Json} {world after : World σ} {error : RenderError}
    (ran : splice node world = some (.error error, after)) : after.builder = world.builder := by
  cases node with
  | error failure => rw [← (result_inj ran).2]
  | ok node =>
    obtain ⟨refused, rfl⟩ := result_inj ran
    have whole : (Change.splice node).Whole := nofun
    have same : (Scope.splice node world.builder.current).2 = world.builder.current :=
      Change.eq_of_error whole (Prod.ext refused rfl)
    exact (congrArg world.builder.setCurrent same).trans (Builder.setCurrent_current _)

section InPlace

variable {body : Nat → Run σ (Except RenderError Unit)} (isolated : ∀ index, Isolated (body index))

include isolated

/-- An element that is built in place is built as it would be aside, and then put behind the others. -/
theorem pushElement_some {index : Nat} {world after : World σ} {items : List Json}
    {outcome : Except RenderError Unit}
    (ran : pushElement body index (world.withElements items) = some (outcome, after)) :
    (∃ error ended, nested (body index) world = some (.error error, ended) ∧ outcome = .error error ∧
      after = ended.withElements items) ∨
    ∃ node ended, nested (body index) world = some (.ok node, ended) ∧ outcome = .ok () ∧
      after = ended.withElements (items ++ [node]) := by
  obtain ⟨built, middle, buildRan, pushRan⟩ := bind_some ran
  have moved := nested_elsewhere (isolated index) world (world.withElements items).builder
    (by simp [World.withElements, Scope.child]) (by simp [World.withElements])
  obtain ⟨⟨answer, ended⟩, aside, same⟩ := Option.map_eq_some_iff.1 (moved.symm.trans buildRan)
  obtain ⟨rfl, rfl⟩ := Prod.mk.inj same
  have kept : ended.builder = world.builder := nested_keeps (isolated index) aside
  cases answer with
  | error error =>
    obtain ⟨rfl, rfl⟩ := result_inj pushRan
    exact .inl ⟨error, ended, aside, rfl, by simp only [World.withElements, kept]⟩
  | ok node =>
    obtain ⟨rfl, rfl⟩ := result_inj (ran.symm.trans (pushElement_ok isolated aside items))
    exact .inr ⟨node, ended, aside, rfl, rfl⟩

omit isolated in
/-- Built aside, the elements from the first one on are these nodes, and the next one fails. -/
def FailsAfter (body : Nat → Run σ (Except RenderError Unit)) (first : Nat) (nodes : List Json)
    (error : RenderError) (world ended : World σ) : Prop :=
  ∃ reached, collect (fun index => nested (body index)) (List.range' first nodes.length) world =
      some (.ok nodes, reached) ∧
    nested (body (first + nodes.length)) reached = some (.error error, ended)

theorem FailsAfter.keeps {first : Nat} {nodes : List Json} {error : RenderError} {world ended : World σ}
    (fails : FailsAfter body first nodes error world ended) : ended.builder = world.builder := by
  obtain ⟨reached, built, failing⟩ := fails
  exact (nested_keeps (isolated _) failing).trans (collect_nested_keeps isolated built)

omit isolated in
theorem FailsAfter.cons {first : Nat} {node : Json} {nodes : List Json} {error : RenderError}
    {world middle ended : World σ} (built : nested (body first) world = some (.ok node, middle))
    (fails : FailsAfter body (first + 1) nodes error middle ended) :
    FailsAfter body first (node :: nodes) error world ended := by
  obtain ⟨reached, others, failing⟩ := fails
  have next : first + (node :: nodes).length = first + 1 + nodes.length := by
    rw [List.length_cons]
    omega
  refine ⟨reached, ?_, by rwa [next]⟩
  rw [List.length_cons, List.range'_succ]
  refine collect_of_ok ?_ others
  exact built

/-- A loop that fails has put in place what the elements before the failing one are aside. -/
theorem collect_pushElement_error {first count : Nat} {world after : World σ} {items : List Json}
    {error : RenderError}
    (ran : collect (pushElement body) (List.range' first count) (world.withElements items) =
      some (.error error, after)) :
    ∃ nodes ended, nodes.length < count ∧ FailsAfter body first nodes error world ended ∧
      after = ended.withElements (items ++ nodes) := by
  induction count generalizing first world items with
  | zero => cases (result_inj ran).1
  | succ count ih =>
    rw [List.range'_succ] at ran
    obtain ⟨failure, firstRan, same⟩ | ⟨_, middle, others, firstRan, restRan, same⟩ := collect_cons_some ran
    · obtain rfl := Except.error.inj same
      obtain ⟨failure, ended, failing, failed, rfl⟩ | ⟨node, ended, -, impossible, -⟩ :=
        pushElement_some isolated firstRan
      · obtain rfl := Except.error.inj failed
        exact ⟨[], ended, Nat.succ_pos _, ⟨world, rfl, failing⟩, by rw [List.append_nil]⟩
      · contradiction
    · obtain ⟨failure, ended, -, impossible, -⟩ | ⟨node, ended, built, -, rfl⟩ :=
        pushElement_some isolated firstRan
      · contradiction
      · cases others with
        | ok values => contradiction
        | error failure =>
          obtain rfl := Except.error.inj same
          obtain ⟨nodes, last, fewer, fails, rfl⟩ := ih restRan
          refine ⟨node :: nodes, last, Nat.succ_lt_succ fewer, fails.cons built, ?_⟩
          rw [List.append_assoc]
          rfl

/-- A failing array is not opened at all, or holds the elements before the failing one. -/
theorem buildElements_error {count : Nat} {world after : World σ} {error : RenderError}
    (ran : buildElements body (List.range count) world = some (.error error, after)) :
    (world.builder.current.body.elements? = none ∧ after = world ∧
      error = .shapeConflict .openArray world.builder.current.shape) ∨
    ∃ before nodes ended, world.builder.current.body.elements? = some before ∧ nodes.length < count ∧
      FailsAfter body 0 nodes error world ended ∧ after = ended.withElements (before ++ nodes) := by
  rw [buildElements_eq] at ran
  cases holds : world.builder.current.body.elements? with
  | none =>
    rw [bind_of_some (edit_openArray_of_none holds)] at ran
    obtain ⟨same, rfl⟩ := result_inj ran
    exact .inl ⟨rfl, rfl, (Except.error.inj same).symm⟩
  | some before =>
    rw [bind_of_some (edit_openArray holds), List.range_eq_range'] at ran
    obtain ⟨outcome, filled, loop, ended⟩ := bind_some ran
    obtain ⟨same, rfl⟩ := result_inj ended
    cases outcome with
    | ok values => contradiction
    | error failure =>
      obtain rfl := Except.error.inj same
      obtain ⟨nodes, last, fewer, fails, rfl⟩ := collect_pushElement_error isolated loop
      exact .inr ⟨before, nodes, last, rfl, fewer, fails, rfl⟩

end InPlace

end Run

/-- With a store, everything is built aside before the scope is changed once. -/
theorem Run.cacheEach_error {renderer : Renderer σ} (enabled : renderer.cachingEnabled = true)
    {items : Option (List Json.Payload)} {options : Options} {key : Option (Nat → KeyExpr)}
    {body : Nat → Run σ (Except RenderError Unit)} (isolated : ∀ index, Isolated (body index))
    {world after : World σ} {error : RenderError}
    (ran : cacheEach renderer items options key body world = some (.error error, after)) :
    after.builder = world.builder := by
  obtain ⟨store, active⟩ := Option.isSome_iff_exists.1 enabled
  cases items with
  | none =>
    have ran : splice (.ok (.arr [])) world = some (.error error, after) := ran
    exact splice_error ran
  | some items =>
    rw [cacheEach_eq active] at ran
    obtain ⟨names, named, naming, rest⟩ := bind_some ran
    obtain ⟨node, built, building, splicing⟩ := bind_some rest
    rw [splice_error splicing, keepsScopes_cacheNamed store _ isolated names named node built building]
    exact (Silent.nameElements renderer options key _).keepsScopes world names named naming

namespace Renderer

/--
A cached collection that fails leaves all scopes as they are if a store is asked, or if there is no collection.
Else it is an array that is built in place: it cannot be opened, and all scopes are as they were, or the elements
before the failing one stand behind what the array held, and all else is as it was.
-/
theorem failed_collection (renderer : Renderer σ) (items : Option (List Json.Payload)) (options : Options)
    (key : Option (Nat → KeyExpr)) (body : Nat → Script Unit) :
    let call := Operation.cacheCollection items options key body
    (call.script.toBlock.Finite renderer.resolve → ∀ world : World σ, ∃ bound result,
      call.run renderer bound world = some result) ∧
    ∀ bound,
      (∀ next, (call.script next).runWithin renderer bound =
        call.run renderer bound >>= fun outcome => (next outcome).runWithin renderer bound) ∧
      ∀ (world after : World σ) (error : RenderError), call.run renderer bound world = some (.error error, after) →
        (items = none ∨ renderer.cachingEnabled = true → after.builder = world.builder) ∧
        ∀ values, items = some values → renderer.cachingEnabled = false →
          (world.builder.current.body.elements? = none ∧ after.builder = world.builder ∧
            error = .shapeConflict .openArray world.builder.current.shape) ∨
          ∃ before nodes ended, world.builder.current.body.elements? = some before ∧
            nodes.length < values.length ∧
            FailsAfter (fun index => (body index).toBlock.runWithin renderer bound) 0 nodes error
              (world.noted (.log (.collectionBypassed values.length))) ended ∧
            after.builder = world.builder.setCurrent
              { world.builder.current with body := .elements (before ++ nodes) } := by
  intro call
  refine ⟨Operation.exists_run renderer, fun bound => ⟨Operation.runWithin_script renderer bound call, ?_⟩⟩
  intro world after error ran
  have isolated := fun index => isolated_runWithin renderer bound (body index).toBlock
  have ran : cacheEach renderer items options key (fun index => (body index).toBlock.runWithin renderer bound) world =
      some (.error error, after) := by
    rw [← collection_runWithin]
    exact ran
  constructor
  · rintro (rfl | enabled)
    · have ran : splice (.ok (.arr [])) world = some (.error error, after) := ran
      exact splice_error ran
    · exact cacheEach_error enabled isolated ran
  · rintro values rfl disabled
    have inactive : renderer.activeStore = none := by simpa [cachingEnabled] using disabled
    rw [cacheEach_inactive inactive] at ran
    obtain ⟨other, rfl, conflict⟩ | ⟨before, nodes, ended, holds, fewer, fails, rfl⟩ := buildElements_error isolated ran
    · exact .inl ⟨other, rfl, conflict⟩
    · refine .inr ⟨before, nodes, ended, holds, fewer, fails, ?_⟩
      simp only [World.withElements, fails.keeps isolated]

/-- The block of the second post takes an attribute, but then no element. -/
def unfinishedPost : Nat → Script Unit
  | 0 => Script.set "id" (.num (.int 1))
  | _ => do
    Script.set "id" (.num (.int 2))
    Script.append .null

def unfinishedPosts : Operation :=
  .cacheCollection (some [.ok (.num (.int 1)), .ok (.num (.int 2))]) {} none unfinishedPost

theorem exists_unfinishedPosts (enabled : Bool) :
    ∃ error after, unfinishedPosts.run (withMemory.withCaching enabled) 0 untouched = some (.error error, after) ∧
      after.builder.current.body = if enabled then .empty else .elements [.obj [("id", .num (.int 1))]] := by
  have ran : (unfinishedPosts.run (withMemory.withCaching enabled) 0 untouched).map
      (fun result => (result.1.toOption, result.2.builder.current.body)) =
      some (none, if enabled then .empty else .elements [.obj [("id", .num (.int 1))]]) := by
    cases enabled <;> decide +kernel
  obtain ⟨⟨error | _, after⟩, ran, same⟩ := Option.map_eq_some_iff.1 ran
  · exact ⟨error, after, ran, (Prod.mk.inj same).2⟩
  · nomatch same

/-- With caching disabled the first post stays in the scope. -/
theorem unfinishedPosts_without_cache :
    ∃ error after, unfinishedPosts.run (withMemory.withCaching false) 0 untouched = some (.error error, after) ∧
      after.builder ≠ untouched.builder := by
  obtain ⟨error, after, ran, holds⟩ := exists_unfinishedPosts false
  refine ⟨error, after, ran, fun kept => ?_⟩
  rw [kept] at holds
  nomatch holds

theorem failed_collection_unfinishedPosts :
    (∃ bound result, unfinishedPosts.run withMemory bound untouched = some result) ∧
    (∃ error after, unfinishedPosts.run withMemory 0 untouched = some (.error error, after) ∧
      after.builder = untouched.builder) ∧
    ∃ error after nodes, unfinishedPosts.run (withMemory.withCaching false) 0 untouched = some (.error error, after) ∧
      nodes.length < 2 ∧ after.builder = untouched.builder.setCurrent
        { untouched.builder.current with body := .elements nodes } := by
  have posts := fun renderer : Renderer MemoryStore => failed_collection renderer
    (some [.ok (.num (.int 1)), .ok (.num (.int 2))]) {} none unfinishedPost
  obtain ⟨results, stored⟩ := posts withMemory
  obtain ⟨-, built⟩ := posts (withMemory.withCaching false)
  refine ⟨results (Block.finite_of_no_partials Block.blocks_noPartials _) untouched, ?_, ?_⟩
  · obtain ⟨error, after, ran, -⟩ := exists_unfinishedPosts true
    exact ⟨error, after, ran, ((stored 0).2 untouched after error ran).1 (.inr rfl)⟩
  · obtain ⟨error, after, ran, -⟩ := exists_unfinishedPosts false
    obtain ⟨impossible, -⟩ | ⟨before, nodes, ended, holds, fewer, -, kept⟩ :=
      ((built 0).2 untouched after error ran).2 _ rfl rfl
    · nomatch impossible
    · obtain rfl := Option.some.inj holds
      exact ⟨error, after, nodes, ran, fewer, kept⟩

end Renderer

end Stencil
