import Stencil.Proofs.Run.Bound
import Stencil.Proofs.Run.Collections
import Stencil.Script

/-!
# What reaches the open scopes

A block in a nested scope leaves the open scopes as they are, however it ends. A call that runs blocks in
nested scopes therefore changes them by what it attaches to the innermost one, and by nothing else: its
settings stay, and so do all scopes around it (`open_scopes_kept`).
-/

namespace Stencil

namespace Scope

/-- The operation leaves the scope's settings as they are. -/
def KeepsSettings (operation : Scope → Edited) : Prop :=
  ∀ scope, ∃ body, (operation scope).2 = { scope with body }

theorem keepsSettings_editMembers (attempt : Attempt) (edit : Entries Json → Entries Json) :
    KeepsSettings (editMembers attempt edit) := by
  intro scope
  unfold editMembers
  split <;> exact ⟨_, rfl⟩

theorem keepsSettings_editElements (attempt : Attempt) (edit : List Json → List Json) :
    KeepsSettings (editElements attempt edit) := by
  intro scope
  unfold editElements
  split <;> exact ⟨_, rfl⟩

theorem keepsSettings_set (name : String) (value : Json) : KeepsSettings (set name value) := by
  intro scope
  unfold set
  split
  · exact ⟨_, rfl⟩
  · exact keepsSettings_editMembers _ _ scope

theorem keepsSettings_splice (node : Json) : KeepsSettings (splice node) := by
  intro scope
  unfold splice
  split
  · exact ⟨_, rfl⟩
  · exact keepsSettings_editMembers _ _ scope
  · exact keepsSettings_editElements _ _ scope
  · split <;> exact ⟨_, rfl⟩

end Scope

namespace Run

variable {σ α β : Type}

/-- The run leaves all scopes as they are. -/
def KeepsScopes (run : Run σ α) : Prop :=
  ∀ world value after, run world = some (value, after) → after.builder = world.builder

theorem KeepsScopes.pure (value : α) : KeepsScopes (Pure.pure value : Run σ α) := by
  intro world other after ran
  rw [← (result_inj ran).2]

theorem KeepsScopes.bind {first : Run σ α} {next : α → Run σ β} (one : KeepsScopes first)
    (other : ∀ value, KeepsScopes (next value)) : KeepsScopes (first >>= next) := by
  intro world value after ran
  obtain ⟨answer, middle, firstRan, nextRan⟩ := bind_some ran
  exact (other answer middle value after nextRan).trans (one world answer middle firstRan)

theorem Silent.keepsScopes {first : Run σ α} (silent : Silent True first) : KeepsScopes first :=
  fun _ _ _ ran => silent.keeps ran

theorem keepsScopes_depth : KeepsScopes (depth : Run σ Nat) := by
  intro world value after ran
  rw [← (result_inj ran).2]

theorem keepsScopes_nested {body : Run σ (Except RenderError Unit)} (isolated : Isolated body) :
    KeepsScopes (nested body) :=
  fun _ _ _ ran => nested_keeps isolated ran

theorem KeepsScopes.collect {step : α → Run σ (Except RenderError β)}
    (each : ∀ item, KeepsScopes (step item)) (items : List α) : KeepsScopes (Run.collect step items) := by
  induction items with
  | nil => exact .pure _
  | cons item rest ih =>
    refine (each item).bind fun outcome => ?_
    cases outcome with
    | error error => exact .pure _
    | ok value =>
      refine ih.bind fun others => ?_
      cases others <;> exact .pure _

theorem keepsScopes_renderOnce (renderer : Renderer σ) {runBlock : Block → Run σ (Except RenderError Unit)}
    (isolated : ∀ block, Isolated (runBlock block)) (name : String) (locals : Locals) :
    KeepsScopes (renderOnce renderer runBlock name locals) := by
  unfold renderOnce
  split
  · exact .pure _
  · refine keepsScopes_depth.bind fun depth => ?_
    exact (Silent.log _).keepsScopes.bind fun _ => keepsScopes_nested (isolated _)

theorem keepsScopes_renderCall (renderer : Renderer σ) {runBlock : Block → Run σ (Except RenderError Unit)}
    (isolated : ∀ block, Isolated (runBlock block)) (call : PartialCall) :
    KeepsScopes (renderCall renderer runBlock call) := by
  have once := keepsScopes_renderOnce renderer isolated
  unfold renderCall
  split
  · exact .pure _
  · split
    · exact once _ _
    · exact (Silent.log _).keepsScopes.bind fun _ => .pure _
    · exact (KeepsScopes.collect (fun item => once _ _) _).bind fun _ => .pure _

section Cached

variable {body : Run σ (Except RenderError Unit)} {bodies : Nat → Run σ (Except RenderError Unit)}

theorem keepsScopes_fetchOrBuild (store : Cache.Store σ) (key : String) (lifetime : Option Nat)
    (isolated : Isolated body) : KeepsScopes (fetchOrBuild store key lifetime body) := by
  rw [fetchOrBuild_eq]
  refine (Silent.readFragment store key).keepsScopes.bind fun kept => ?_
  cases kept with
  | some node => exact (Silent.log _).keepsScopes.bind fun _ => .pure _
  | none =>
    refine (Silent.log _).keepsScopes.bind fun _ => (keepsScopes_nested isolated).bind fun outcome => ?_
    cases outcome with
    | error error => exact .pure _
    | ok node => exact (Silent.writeFragment store key lifetime node).keepsScopes.bind fun _ => .pure _

theorem keepsScopes_elementOf (found : Entries String) (isolated : ∀ index, Isolated (bodies index))
    (element : Nat × String) : KeepsScopes (elementOf found bodies element) := by
  rw [elementOf_eq]
  refine (Silent.decodeFound found element.2).keepsScopes.bind fun kept => ?_
  cases kept with
  | some node => exact (Silent.log _).keepsScopes.bind fun _ => .pure _
  | none =>
    exact (Silent.log _).keepsScopes.bind fun _ =>
      (keepsScopes_nested (isolated element.1)).bind fun _ => .pure _

theorem keepsScopes_cacheNamed (store : Cache.Store σ) (lifetime : Option Nat)
    (isolated : ∀ index, Isolated (bodies index)) (names : Except RenderError (List (Nat × String))) :
    KeepsScopes (cacheNamed store lifetime bodies names) := by
  cases names with
  | error error => exact .pure _
  | ok elements =>
    unfold cacheNamed
    dsimp only
    split
    · rw [cacheBatched_eq]
      refine (Silent.readFragments _ _).keepsScopes.bind fun found => ?_
      refine (KeepsScopes.collect (keepsScopes_elementOf found isolated) elements).bind fun outcome => ?_
      cases outcome with
      | error error => exact .pure _
      | ok results => exact (Silent.writeFragments _ lifetime _).keepsScopes.bind fun _ => .pure _
    · have each := fun element : Nat × String =>
        keepsScopes_fetchOrBuild store element.2 lifetime (isolated element.1)
      exact (Silent.log _).keepsScopes.bind fun _ =>
        (KeepsScopes.collect each elements).bind fun _ => .pure _

end Cached

/-! ### Attaching -/

/--
The scopes stay as they are and the run fails, or the innermost one is changed by one operation, which
leaves its settings as they are.
-/
def Attaches (operation : β → Scope → Edited) (run : Run σ (Except RenderError Unit)) : Prop :=
  ∀ world outcome after, run world = some (outcome, after) →
    (∃ error, outcome = .error error ∧ after.builder = world.builder) ∨
      ∃ value body, (outcome = .ok () → (world.builder.edit (operation value)).1 = .ok ()) ∧
        after.builder = (world.builder.edit (operation value)).2 ∧
        after.builder = world.builder.setCurrent { world.builder.current with body }

theorem attaches_of_keepsScopes {operation : Json → Scope → Edited} {first : Run σ (Except RenderError Json)}
    {next : Except RenderError Json → Run σ (Except RenderError Unit)} (keeps : KeepsScopes first)
    (settings : ∀ node, Scope.KeepsSettings (operation node))
    (failed : ∀ error, next (.error error) = pure (.error error))
    (attached : ∀ node, next (.ok node) = edit (operation node)) : Attaches operation (first >>= next) := by
  intro world outcome after ran
  obtain ⟨result, middle, firstRan, nextRan⟩ := bind_some ran
  have kept := keeps world result middle firstRan
  cases result with
  | error error =>
    rw [failed] at nextRan
    obtain ⟨rfl, rfl⟩ := result_inj nextRan
    exact .inl ⟨error, rfl, kept⟩
  | ok node =>
    rw [attached] at nextRan
    obtain ⟨rfl, rfl⟩ := result_inj nextRan
    obtain ⟨body, same⟩ := settings node middle.builder.current
    rw [← kept]
    refine .inr ⟨node, body, id, rfl, ?_⟩
    show middle.builder.setCurrent _ = _
    rw [same]

theorem attaches_splice {first : Run σ (Except RenderError Json)} (keeps : KeepsScopes first) :
    Attaches Scope.splice (first >>= splice) :=
  attaches_of_keepsScopes keeps Scope.keepsSettings_splice (fun _ => rfl) fun _ => rfl

theorem Attaches.after {operation : β → Scope → Edited} {first : Run σ α}
    {next : α → Run σ (Except RenderError Unit)} (keeps : KeepsScopes first)
    (each : ∀ value, Attaches operation (next value)) : Attaches operation (first >>= next) := by
  intro world outcome after ran
  obtain ⟨value, middle, firstRan, nextRan⟩ := bind_some ran
  rw [← keeps world value middle firstRan]
  exact each value middle outcome after nextRan

/-! ### Arrays that are built in place -/

/-- On a scope that holds elements the run only appends to them. -/
def Appends (run : Run σ α) : Prop :=
  ∀ world value after items, world.builder.current.body = .elements items →
    run world = some (value, after) → ∃ nodes, after.builder =
      world.builder.setCurrent { world.builder.current with body := .elements (items ++ nodes) }

theorem KeepsScopes.appends {run : Run σ α} (keeps : KeepsScopes run) : Appends run := by
  intro world value after items holds ran
  refine ⟨[], ?_⟩
  rw [keeps world value after ran, List.append_nil, ← holds]
  exact (Builder.setCurrent_current _).symm

theorem Appends.bind {first : Run σ α} {next : α → Run σ β} (one : Appends first)
    (other : ∀ value, Appends (next value)) : Appends (first >>= next) := by
  intro world value after items holds ran
  obtain ⟨answer, middle, firstRan, nextRan⟩ := bind_some ran
  obtain ⟨nodes, first⟩ := one world answer middle items holds firstRan
  have held : middle.builder.current.body = .elements (items ++ nodes) := by rw [first]; simp
  obtain ⟨more, last⟩ := other answer middle value after (items ++ nodes) held nextRan
  refine ⟨nodes ++ more, ?_⟩
  rw [last, first]
  simp

theorem appends_push (node : Json) : Appends (edit (Scope.push node) : Run σ _) := by
  intro world value after items holds ran
  obtain ⟨-, rfl⟩ := result_inj ran
  refine ⟨[node], ?_⟩
  show world.builder.setCurrent (Scope.push node world.builder.current).2 = _
  simp [Scope.push, Scope.editElements, holds]

theorem Appends.collect {step : α → Run σ (Except RenderError β)} (each : ∀ item, Appends (step item))
    (items : List α) : Appends (Run.collect step items) := by
  induction items with
  | nil => exact (KeepsScopes.pure _).appends
  | cons item rest ih =>
    refine (each item).bind fun outcome => ?_
    cases outcome with
    | error error => exact (KeepsScopes.pure _).appends
    | ok value =>
      refine ih.bind fun others => ?_
      cases others <;> exact (KeepsScopes.pure _).appends

theorem appends_pushElement {body : Nat → Run σ (Except RenderError Unit)}
    (isolated : ∀ index, Isolated (body index)) (index : Nat) : Appends (pushElement body index) := by
  refine (keepsScopes_nested (isolated index)).appends.bind fun outcome => ?_
  cases outcome with
  | error error => exact (KeepsScopes.pure _).appends
  | ok node => exact appends_push node

/-- Opening an array and appending to it is splicing an array. -/
theorem attaches_of_appends {next : Except RenderError Unit → Run σ (Except RenderError Unit)}
    (failed : ∀ error, next (.error error) = pure (.error error)) (appends : Appends (next (.ok ()))) :
    Attaches Scope.splice (edit (Scope.openArray .openArray) >>= next) := by
  intro world outcome after ran
  obtain ⟨items, opening, spliced⟩ | ⟨failure, conflict, opening, -⟩ := edit_openArray_cases world
  · rw [bind_of_some opening] at ran
    obtain ⟨nodes, grown⟩ := appends _ outcome after items (by simp [World.withElements]) ran
    simp only [World.withElements, Builder.current_setCurrent, Builder.setCurrent_setCurrent] at grown
    refine .inr ⟨.arr nodes, .elements (items ++ nodes), fun _ => ?_, ?_, grown⟩
    · rw [spliced]
    · rw [spliced, grown]
      rfl
  · rw [bind_of_some opening, failed] at ran
    obtain ⟨rfl, rfl⟩ := result_inj ran
    exact .inl ⟨failure, rfl, rfl⟩

theorem attaches_buildElements {body : Nat → Run σ (Except RenderError Unit)}
    (isolated : ∀ index, Isolated (body index)) (indices : List Nat) :
    Attaches Scope.splice (buildElements body indices) := by
  rw [buildElements_eq]
  refine attaches_of_appends (fun _ => rfl) ?_
  exact (Appends.collect (appends_pushElement isolated) indices).bind fun _ =>
    (KeepsScopes.pure _).appends

/-! ### Calls -/

section Calls

variable (renderer : Renderer σ) (bound : Nat)

theorem run_set (call : Block → Run σ (Except RenderError Unit)) (name : String) (node : Json) :
    (Block.act (.set name (.ok node)) .done).run renderer call = edit (Scope.set name node) :=
  bind_pure _

theorem run_append (call : Block → Run σ (Except RenderError Unit)) (node : Json) :
    (Block.act (.append (.ok node)) .done).run renderer call = edit (Scope.push node) :=
  bind_pure _

theorem keepsScopes_captured (block : Block) : KeepsScopes (nested (block.runWithin renderer bound)) :=
  keepsScopes_nested (isolated_runWithin renderer bound block)

theorem keepsScopes_called (call : PartialCall) :
    KeepsScopes (renderCall renderer (callWithin renderer bound) call) :=
  keepsScopes_renderCall renderer (isolated_callWithin renderer bound) call

theorem attaches_cacheOne (condition : Bool) (key : Cache.KeyExpr) (options : Cache.Options)
    {body : Run σ (Except RenderError Unit)} (isolated : Isolated body) :
    Attaches Scope.splice (cacheOne renderer condition key options body) := by
  have plain := attaches_splice (keepsScopes_nested isolated)
  cases active : renderer.activeStore with
  | none =>
    rw [cacheOne_inactive active]
    exact .after (Silent.log _).keepsScopes fun _ => plain
  | some store =>
    simp only [cacheOne, active]
    split
    · refine .after (Silent.nameFragment renderer key options).keepsScopes fun name => ?_
      exact attaches_splice (keepsScopes_fetchOrBuild store name _ isolated)
    · exact .after (Silent.log _).keepsScopes fun _ => plain

theorem attaches_cacheEach (items : Option (List Json.Payload)) (options : Cache.Options)
    (key : Option (Nat → Cache.KeyExpr)) {body : Nat → Run σ (Except RenderError Unit)}
    (isolated : ∀ index, Isolated (body index)) :
    Attaches Scope.splice (cacheEach renderer items options key body) := by
  cases items with
  | none => exact attaches_splice (.pure (.ok (.arr [])))
  | some items =>
    cases active : renderer.activeStore with
    | none =>
      rw [cacheEach_inactive active]
      exact .after (Silent.log _).keepsScopes fun _ => attaches_buildElements isolated _
    | some store =>
      rw [cacheEach_eq active]
      refine .after (Silent.nameElements renderer options key _).keepsScopes fun names => ?_
      exact attaches_splice (keepsScopes_cacheNamed store _ isolated names)

/-- The step of an array's loop that captures an element and appends it. -/
theorem appends_elements {α : Type} (call : Block → Run σ (Except RenderError Unit))
    (isolated : ∀ block : Block, Isolated (block.run renderer call)) (items : List α)
    (body : α → Script Unit) :
    Appends ((items.forM fun item => Script.element (body item) : Script Unit).toBlock.run renderer call) := by
  induction items with
  | nil => exact (KeepsScopes.pure _).appends
  | cons item rest ih =>
    refine (keepsScopes_nested (isolated (body item).toBlock)).appends.bind fun outcome => ?_
    cases outcome with
    | error error => exact (KeepsScopes.pure _).appends
    | ok node =>
      refine (appends_push node).bind fun pushed => ?_
      cases pushed with
      | error error => exact (KeepsScopes.pure _).appends
      | ok _ => exact ih

end Calls

end Run

open Run in
/--
However a block ends, the scopes that were open at its capture are as before. What a call does to them
is to attach a node to the innermost one.
-/
theorem Renderer.open_scopes_kept {σ : Type} (renderer : Renderer σ) :
    (∀ (block : Block), block.Finite renderer.resolve → ∀ world : World σ,
      ∃ bound result, nested (block.runWithin renderer bound) world = some result) ∧
    ∀ bound,
      (∀ (block : Block) (world after : World σ) (outcome : Except RenderError Json),
        nested (block.runWithin renderer bound) world = some (outcome, after) →
          after.builder = world.builder) ∧
      (∀ (name : String) (body : Script Unit),
        Attaches (Scope.set name) ((Script.child name body).toBlock.runWithin renderer bound)) ∧
      (∀ body : Script Unit, Attaches Scope.push ((Script.element body).toBlock.runWithin renderer bound)) ∧
      (∀ {α : Type} (items : List α) (body : α → Script Unit),
        Attaches Scope.splice ((Script.arrayFrom items body).toBlock.runWithin renderer bound)) ∧
      (∀ call : PartialCall,
        Attaches Scope.splice ((Script.splicePartial call).toBlock.runWithin renderer bound)) ∧
      (∀ (name : String) (call : PartialCall),
        Attaches (Scope.set name) ((Script.setPartial name call).toBlock.runWithin renderer bound)) ∧
      (∀ call : PartialCall,
        Attaches Scope.push ((Script.appendPartial call).toBlock.runWithin renderer bound)) ∧
      (∀ (condition : Bool) (key : Cache.KeyExpr) (options : Cache.Options) (body : Script Unit),
        Attaches Scope.splice ((Script.cacheIf condition key options body).toBlock.runWithin renderer bound)) ∧
      ∀ (items : Option (List Json.Payload)) (options : Cache.Options)
        (key : Option (Nat → Cache.KeyExpr)) (body : Nat → Script Unit),
        Attaches Scope.splice
          ((Script.cacheCollection items options key body).toBlock.runWithin renderer bound) := by
  refine ⟨fun block finite world => ?_, fun bound => ?_⟩
  · obtain ⟨bound, result, ran⟩ := hereditary_settled.nesting (settled_runWithin finite) world
    exact ⟨bound, result, ran bound (Nat.le_refl bound)⟩
  have captured := fun block : Block => keepsScopes_captured renderer bound block
  have isolated := fun block : Block => isolated_runWithin renderer bound block
  simp only [Block.runWithin_eq] at captured isolated ⊢
  have called := keepsScopes_called renderer bound
  refine ⟨fun block world after outcome ran => captured block world outcome after ran,
    fun name body => ?_, fun body => ?_, fun items body => ?_, fun call => ?_, fun name call => ?_,
    fun call => ?_, fun condition key options body => ?_, fun items options key body => ?_⟩
  · exact attaches_of_keepsScopes (captured body.toBlock) (Scope.keepsSettings_set name) (fun _ => rfl)
      (run_set renderer _ name)
  · exact attaches_of_keepsScopes (captured body.toBlock)
      (fun _ => Scope.keepsSettings_editElements _ _) (fun _ => rfl) (run_append renderer _)
  · exact attaches_of_appends (fun _ => rfl) (appends_elements renderer _ isolated items body)
  · have attaches := attaches_splice (called call)
    rw [← bind_pure (_ >>= splice), bind_assoc] at attaches
    exact attaches
  · exact attaches_of_keepsScopes (called call) (Scope.keepsSettings_set name) (fun _ => rfl)
      (run_set renderer _ name)
  · exact attaches_of_keepsScopes (called call)
      (fun _ => Scope.keepsSettings_editElements _ _) (fun _ => rfl) (run_append renderer _)
  · have attaches := attaches_cacheOne renderer condition key options (isolated body.toBlock)
    rw [← bind_pure (cacheOne _ _ _ _ _)] at attaches
    exact attaches
  · have attaches := attaches_cacheEach renderer items options key fun index => isolated (body index).toBlock
    rw [← bind_pure (cacheEach _ _ _ _ _)] at attaches
    exact attaches

namespace Renderer

/-- Settings of its own, a member, and a nested scope that fails. -/
def overreaching : Block :=
  .act (.setKeyFormat ⟨[.upcase]⟩) fun _ => .act (.ignoreNil true) fun _ =>
    .act (.set "inner" (.ok .null)) fun _ =>
      .capture (.act (.ignoreNil true) fun _ => .act (.append (.ok .null)) fun _ => .act .openObject .done) fun
        | .ok _ => .done (.ok ())
        | .error error => .done (.error error)

/-- A root with an attribute, and a scope that is open in it. -/
def halfway : World Unit :=
  ⟨⟨⟨.members [("outer", .bool true)], .identity, false⟩, [⟨.elements [.null], ⟨[.downcase]⟩, false⟩]⟩, (), []⟩

open Run in
theorem open_scopes_kept_overreaching :
    (∃ bound result, nested (overreaching.runWithin default bound) halfway = some result) ∧
      ∃ error after, nested (overreaching.runWithin default 0) halfway = some (.error error, after) ∧
        after.builder = halfway.builder := by
  obtain ⟨results, kept⟩ := open_scopes_kept (default : Renderer Unit)
  refine ⟨results overreaching (Block.finite_of_no_partials Block.blocks_noPartials _) halfway, ?_⟩
  have failed : (nested (overreaching.runWithin default 0) halfway).map (fun result => result.1.toOption) =
      some none := by
    decide +kernel
  obtain ⟨⟨error | node, after⟩, ran, same⟩ := Option.map_eq_some_iff.1 failed
  · exact ⟨error, after, ran, (kept 0).1 overreaching halfway after _ ran⟩
  · contradiction

end Renderer

end Stencil
