import Stencil.Proofs.Run.Attached
import Stencil.Proofs.Scope.Changes

/-!
# Calls on a scope

Every call that a template makes on its scope runs in stages (`Operation.run_eq`). It first makes ready what
it needs, and builds nodes in nested scopes that leave the open ones alone (`keepsScopes_ready`); it then
changes the innermost scope once; and an array that is built in place is then filled, element by element
(`appends_fill`). What follows in the block sees the outcome (`Operation.runWithin_script`).
-/

namespace Stencil

/-- A call on the scope that a template runs in. -/
inductive Operation : Type 1 where
  | act (action : Action)
  | capture (body : Script Unit)
  | child (name : String) (body : Script Unit)
  | element (body : Script Unit)
  | arrayFrom {α : Type} (items : List α) (body : α → Script Unit)
  | renderPartial (call : PartialCall)
  | renderCollection (items : Option (List Json.Payload)) (name binding : String)
  | splicePartial (call : PartialCall)
  | setPartial (name : String) (call : PartialCall)
  | appendPartial (call : PartialCall)
  | arrayOfPartials (items : Option (List Json.Payload)) (name binding : String)
  | setArrayOfPartials (key : String) (items : Option (List Json.Payload)) (name binding : String)
  | cache (condition : Bool) (key : Cache.KeyExpr) (options : Cache.Options) (body : Script Unit)
  | cacheCollection (items : Option (List Json.Payload)) (options : Cache.Options)
      (key : Option (Nat → Cache.KeyExpr)) (body : Nat → Script Unit)

namespace Operation

def script : Operation → Script Unit
  | .act action => Script.act action
  | .capture body => do let _ ← Script.capture body
  | .child name body => Script.child name body
  | .element body => Script.element body
  | .arrayFrom items body => Script.arrayFrom items body
  | .renderPartial call => do let _ ← Script.renderPartial call
  | .renderCollection items name binding => do let _ ← Script.renderCollection items name binding
  | .splicePartial call => Script.splicePartial call
  | .setPartial name call => Script.setPartial name call
  | .appendPartial call => Script.appendPartial call
  | .arrayOfPartials items name binding => Script.arrayOfPartials items name binding
  | .setArrayOfPartials key items name binding => Script.setArrayOfPartials key items name binding
  | .cache condition key options body => Script.cacheIf condition key options body
  | .cacheCollection items options key body => Script.cacheCollection items options key body

def run {σ : Type} (renderer : Renderer σ) (bound : Nat) (operation : Operation) :
    Run σ (Except RenderError Unit) :=
  operation.script.toBlock.runWithin renderer bound

end Operation

namespace Run

variable {σ α β γ : Type}

/-- Goes on after success, and passes errors on. -/
def onSuccess (first : Run σ (Except RenderError α)) (next : α → Run σ (Except RenderError β)) :
    Run σ (Except RenderError β) := do
  match ← first with
  | .ok value => next value
  | .error error => return .error error

theorem onSuccess_some {first : Run σ (Except RenderError α)} {next : α → Run σ (Except RenderError β)}
    {world after : World σ} {outcome : Except RenderError β}
    (ran : onSuccess first next world = some (outcome, after)) :
    (∃ error, first world = some (.error error, after) ∧ outcome = .error error) ∨
      ∃ value middle, first world = some (.ok value, middle) ∧ next value middle = some (outcome, after) := by
  obtain ⟨error | value, middle, firstRan, nextRan⟩ := bind_some ran
  · obtain ⟨rfl, rfl⟩ := result_inj nextRan
    exact .inl ⟨error, firstRan, rfl⟩
  · exact .inr ⟨value, middle, firstRan, nextRan⟩

theorem onSuccess_done (first : Run σ (Except RenderError Unit)) :
    onSuccess first (fun _ => pure (.ok ())) = first := by
  unfold onSuccess
  refine Eq.trans (congrArg (first >>= ·) (funext fun outcome => ?_)) (bind_pure first)
  cases outcome <;> rfl

theorem onSuccess_map (first : Run σ (Except RenderError α)) (f : α → β)
    (next : β → Run σ (Except RenderError γ)) :
    onSuccess (do return (← first).map f) next = onSuccess first fun value => next (f value) := by
  unfold onSuccess
  rw [bind_assoc]
  refine congrArg (first >>= ·) (funext fun outcome => ?_)
  cases outcome <;> rfl

/-- The change that a built node makes. -/
def built (first : Run σ (Except RenderError Json)) (change : Json → Change) : Run σ (Except RenderError Change) := do
  return (← first).map change

theorem edit_nothing : edit Change.nothing.apply = (pure (.ok ()) : Run σ (Except RenderError Unit)) := by
  refine funext fun world => ?_
  show some _ = some _
  simp [Builder.edit, Change.apply]

theorem bind_splice (first : Run σ (Except RenderError Json)) :
    first >>= splice = onSuccess first fun node => edit (Scope.splice node) := by
  refine congrArg (first >>= ·) (funext fun outcome => ?_)
  cases outcome <;> rfl

theorem onSuccess_splice (first : Run σ (Except RenderError α)) (next : α → Run σ (Except RenderError Json)) :
    onSuccess first next >>= splice = onSuccess first fun value => next value >>= splice := by
  unfold onSuccess
  rw [bind_assoc]
  refine congrArg (first >>= ·) (funext fun outcome => ?_)
  cases outcome <;> rfl

/-- Makes a change ready, performs it and goes on after success. -/
def staged (ready : Run σ (Except RenderError Change)) (fill : Run σ (Except RenderError Unit)) :
    Run σ (Except RenderError Unit) :=
  onSuccess (onSuccess ready fun change => edit change.apply) fun _ => fill

theorem staged_bind (first : Run σ α) (ready : α → Run σ (Except RenderError Change))
    (fill : Run σ (Except RenderError Unit)) :
    staged (first >>= ready) fill = first >>= fun value => staged (ready value) fill := by
  simp only [staged, onSuccess, bind_assoc]

theorem staged_ok (change : Change) : (staged (pure (.ok change)) (pure (.ok ())) : Run σ _) = edit change.apply :=
  onSuccess_done _

theorem staged_built (first : Run σ (Except RenderError Json)) (change : Json → Change) :
    staged (built first change) (pure (.ok ())) = onSuccess first fun node => edit (change node).apply :=
  (onSuccess_done _).trans (onSuccess_map first change _)

end Run

/-! ### Scripts as runs -/

section Scripts

variable {σ α β : Type} {renderer : Renderer σ} {call : Block → Run σ (Except RenderError Unit)}

/-- Wherever the script stands in a block, it is run as this computation. -/
def Script.RunsAs (renderer : Renderer σ) (call : Block → Run σ (Except RenderError Unit)) (script : Script α)
    (run : Run σ (Except RenderError α)) : Prop :=
  ∀ next, (script next).run renderer call = run >>= fun outcome => (next outcome).run renderer call

namespace Script.RunsAs

open Run

theorem toBlock {script : Script Unit} {run : Run σ (Except RenderError Unit)}
    (runs : script.RunsAs renderer call run) : script.toBlock.run renderer call = run :=
  (runs .done).trans (bind_pure run)

theorem of_exists {script : Script Unit} (runs : ∃ run, script.RunsAs renderer call run) :
    script.RunsAs renderer call (script.toBlock.run renderer call) := by
  obtain ⟨run, runs⟩ := runs
  rwa [runs.toBlock]

theorem bind {script : Script α} {rest : α → Script β} {first : Run σ (Except RenderError α)}
    {next : α → Run σ (Except RenderError β)} (one : script.RunsAs renderer call first)
    (other : ∀ value, (rest value).RunsAs renderer call (next value)) :
    (script >>= rest).RunsAs renderer call (onSuccess first next) := by
  intro continuation
  refine (one _).trans ?_
  unfold onSuccess
  rw [bind_assoc]
  refine congrArg (first >>= ·) (funext fun outcome => ?_)
  cases outcome with
  | ok value => exact other value continuation
  | error error => rfl

theorem built {script : Script Unit} {first : Run σ (Except RenderError Json)} {change : Json → Change}
    (runs : script.RunsAs renderer call (onSuccess first fun node => edit (change node).apply)) :
    script.RunsAs renderer call (staged (Run.built first change) (pure (.ok ()))) := by
  rwa [staged_built]

theorem spliced {script : Script Unit} {first : Run σ (Except RenderError Json)}
    (runs : script.RunsAs renderer call (first >>= splice)) :
    script.RunsAs renderer call (staged (Run.built first .splice) (pure (.ok ()))) := by
  rw [bind_splice] at runs
  exact .built runs

theorem ofExcept (outcome : Except RenderError α) :
    (Script.ofExcept outcome).RunsAs renderer call (pure outcome) :=
  fun _ => rfl

theorem act (action : Action) : (Script.act action).RunsAs renderer call (perform action) :=
  fun _ => rfl

theorem capture (body : Script Unit) :
    (Script.capture body).RunsAs renderer call (nested (body.toBlock.run renderer call)) :=
  fun _ => rfl

theorem renderPartial (partialCall : PartialCall) :
    (Script.renderPartial partialCall).RunsAs renderer call (renderCall renderer call partialCall) :=
  fun _ => rfl

theorem splicePartial (partialCall : PartialCall) :
    (Script.splicePartial partialCall).RunsAs renderer call (renderCall renderer call partialCall >>= splice) :=
  fun _ => (bind_assoc _ _ _).symm

theorem elements (items : List α) (body : α → Script Unit) :
    (items.forM fun item => Script.element (body item) : Script Unit).RunsAs renderer call
      ((items.forM fun item => Script.element (body item) : Script Unit).toBlock.run renderer call) := by
  induction items with
  | nil => exact .of_exists ⟨_, .ofExcept (.ok ())⟩
  | cons item rest ih =>
    have first : (Script.element (body item)).RunsAs renderer call _ :=
      (capture (body item)).bind fun node => act (.append (.ok node))
    exact .of_exists ⟨_, first.bind fun _ => ih⟩

end Script.RunsAs

end Scripts

/-! ### The stages of a call -/

namespace Run

variable {σ : Type} (renderer : Renderer σ)

/-- What performing an action does besides changing the scope. -/
def announce (action : Action) : Run σ Unit := do
  if let .setKeyFormat format := action then log (.keyFormatSet format (← depth))

theorem perform_eq (action : Action) :
    (perform action : Run σ _) = announce action >>= fun _ => edit action.apply := by
  cases action <;> rfl

/-- The node that a cache call puts into the scope. -/
def cachedNode (condition : Bool) (key : Cache.KeyExpr) (options : Cache.Options)
    (body : Run σ (Except RenderError Unit)) : Run σ (Except RenderError Json) := do
  if condition then
    match renderer.activeStore with
    | none =>
      log (.fragmentBypassed key.expand)
      nested body
    | some store => fetchOrBuild store (← nameFragment renderer key options) (renderer.lifetime options) body
  else
    log (.conditionFalse key.expand)
    nested body

theorem cacheOne_eq (condition : Bool) (key : Cache.KeyExpr) (options : Cache.Options)
    (body : Run σ (Except RenderError Unit)) :
    cacheOne renderer condition key options body = cachedNode renderer condition key options body >>= splice := by
  unfold cacheOne cachedNode
  cases condition with
  | false => rfl
  | true =>
    cases renderer.activeStore with
    | none => rfl
    | some store =>
      simp only [if_true, bind_assoc]

end Run

open Run

/-- Changes by what a call has built, or that open the array which it builds in place. -/
def Change.Attaches : Change → Prop
  | .act (.set _ _) | .act (.append _) | .act .openArray | .splice _ | .nothing => True
  | _ => False

namespace Operation

variable {σ : Type} (renderer : Renderer σ) (bound : Nat)

/-- Makes ready what the call changes the scope by. -/
def ready : Operation → Run σ (Except RenderError Change)
  | .act action => do
    announce action
    return .ok (.act action)
  | .capture body => built (captured body) fun _ => .nothing
  | .child name body => built (captured body) fun node => .act (.set name (.ok node))
  | .element body => built (captured body) fun node => .act (.append (.ok node))
  | .arrayFrom _ _ => return .ok (.act .openArray)
  | .renderPartial call => built (called call) fun _ => .nothing
  | .renderCollection items name binding => built (collected items name binding) fun _ => .nothing
  | .splicePartial call => built (called call) .splice
  | .setPartial name call => built (called call) fun node => .act (.set name (.ok node))
  | .appendPartial call => built (called call) fun node => .act (.append (.ok node))
  | .arrayOfPartials items name binding => built (collected items name binding) .splice
  | .setArrayOfPartials key items name binding =>
    built (collected items name binding) fun node => .act (.set key (.ok node))
  | .cache condition key options body =>
    built (cachedNode renderer condition key options (body.toBlock.runWithin renderer bound)) .splice
  | .cacheCollection none _ _ _ => return .ok (.splice (.arr []))
  | .cacheCollection (some items) options key body =>
    match renderer.activeStore with
    | none => do
      log (.collectionBypassed items.length)
      return .ok (.act .openArray)
    | some store => do
      let names ← collect (nameElement renderer options key) (indexed items)
      built (cacheNamed store (renderer.lifetime options)
        (fun index => (body index).toBlock.runWithin renderer bound) names) .splice
where
  captured (body : Script Unit) : Run σ (Except RenderError Json) :=
    nested (body.toBlock.runWithin renderer bound)
  called (call : PartialCall) : Run σ (Except RenderError Json) :=
    renderCall renderer (callWithin renderer bound) call
  collected (items : Option (List Json.Payload)) (name binding : String) : Run σ (Except RenderError Json) :=
    onSuccess (pure (Script.collectionCall items name binding)) called

/-- Fills the array that the call has opened. -/
def fill : Operation → Run σ (Except RenderError Unit)
  | .arrayFrom items body =>
    (items.forM fun item => Script.element (body item) : Script Unit).toBlock.runWithin renderer bound
  | .cacheCollection (some items) _ _ body =>
    match renderer.activeStore with
    | none => do
      return (← collect (pushElement fun index => (body index).toBlock.runWithin renderer bound)
        (List.range items.length)).map fun _ => ()
    | some _ => return .ok ()
  | _ => return .ok ()

theorem built_some {first : Run σ (Except RenderError Json)} {change : Json → Change} {made : Change}
    {world middle : World σ} (ran : built first change world = some (.ok made, middle)) :
    ∃ node, first world = some (.ok node, middle) ∧ made = change node := by
  obtain ⟨error | node, firstRan, same⟩ := returned_some ran
  · cases same
  · exact ⟨node, firstRan, (Except.ok.inj same).symm⟩

theorem attaches_of_built {first : Run σ (Except RenderError Json)} {change : Json → Change}
    (each : ∀ node, (change node).Attaches) {made : Change} {world middle : World σ}
    (ran : built first change world = some (.ok made, middle)) : made.Attaches := by
  obtain ⟨node, -, rfl⟩ := built_some ran
  exact each node

/-- A call performs the action that it is, or attaches what it has built. -/
theorem change_of_ready {operation : Operation} {change : Change} {world middle : World σ}
    (ran : operation.ready renderer bound world = some (.ok change, middle)) :
    (∃ action, operation = .act action ∧ change = .act action) ∨ change.Attaches := by
  cases operation with
  | act action =>
    obtain ⟨_, _, -, ended⟩ := bind_some ran
    exact .inl ⟨action, rfl, (Except.ok.inj (result_inj ended).1).symm⟩
  | arrayFrom items body =>
    obtain rfl := Except.ok.inj (result_inj ran).1
    exact .inr trivial
  | cacheCollection items options key body =>
    refine .inr ?_
    cases items with
    | none =>
      obtain rfl := Except.ok.inj (result_inj ran).1
      trivial
    | some items =>
      cases active : renderer.activeStore with
      | none =>
        simp only [ready, active] at ran
        obtain ⟨_, _, -, ended⟩ := bind_some ran
        obtain rfl := Except.ok.inj (result_inj ended).1
        trivial
      | some store =>
        simp only [ready, active] at ran
        obtain ⟨_, _, -, builtRan⟩ := bind_some ran
        refine attaches_of_built ?_ builtRan
        exact fun _ => trivial
  | _ =>
    refine .inr (attaches_of_built ?_ ran)
    exact fun _ => trivial

theorem cacheEach_eq_staged (items : Option (List Json.Payload)) (options : Cache.Options)
    (key : Option (Nat → Cache.KeyExpr)) (body : Nat → Script Unit) :
    cacheEach renderer items options key (fun index => (body index).toBlock.runWithin renderer bound) =
      staged (ready renderer bound (.cacheCollection items options key body))
        (fill renderer bound (.cacheCollection items options key body)) := by
  unfold ready fill
  cases items with
  | none => exact (staged_ok (.splice (.arr []))).symm
  | some items =>
    dsimp only
    cases active : renderer.activeStore with
    | none =>
      rw [cacheEach_inactive active, staged_bind]
      refine congrArg (log _ >>= ·) (funext fun _ => ?_)
      rw [buildElements_eq]
      refine congrArg (edit (Scope.openArray .openArray) >>= ·) (funext fun opened => ?_)
      cases opened <;> rfl
    | some store =>
      rw [cacheEach_eq active, staged_bind]
      refine congrArg (collect _ _ >>= ·) (funext fun names => ?_)
      rw [bind_splice]
      exact (staged_built _ .splice).symm

theorem runsAs_script (operation : Operation) : operation.script.RunsAs renderer (callWithin renderer bound)
    (staged (operation.ready renderer bound) (operation.fill renderer bound)) := by
  have captured : ∀ body, (Script.capture body).RunsAs renderer (callWithin renderer bound)
      (ready.captured renderer bound body) := by
    intro body
    unfold ready.captured
    rw [Block.runWithin_eq]
    exact .capture body
  have called : ∀ call, (Script.renderPartial call).RunsAs renderer (callWithin renderer bound)
      (ready.called renderer bound call) := .renderPartial
  have collected : ∀ items name binding, (Script.renderCollection items name binding).RunsAs renderer
      (callWithin renderer bound) (ready.collected renderer bound items name binding) :=
    fun items name binding => .bind (.ofExcept _) called
  have given : ∀ {script : Script Json} {first : Run σ (Except RenderError Json)},
      script.RunsAs renderer (callWithin renderer bound) first →
        (do let _ ← script : Script Unit).RunsAs renderer (callWithin renderer bound)
          (staged (built first fun _ => .nothing) (pure (.ok ()))) := by
    intro script first runs
    refine .built ?_
    simp only [edit_nothing]
    exact runs.bind fun _ => .ofExcept (.ok ())
  cases operation with
  | act action =>
    have same : staged (announce action >>= fun _ => pure (.ok (.act action))) (pure (.ok ())) =
        (perform action : Run σ _) := by
      rw [perform_eq, staged_bind]
      simp only [staged_ok]
      rfl
    exact same ▸ Script.RunsAs.act action
  | capture body => exact given (captured body)
  | child name body => exact .built ((captured body).bind fun node => .act (.set name (.ok node)))
  | element body => exact .built ((captured body).bind fun node => .act (.append (.ok node)))
  | arrayFrom items body =>
    refine (Script.RunsAs.act .openArray).bind fun _ => ?_
    have filled : fill renderer bound (.arrayFrom items body) = _ := Block.runWithin_eq renderer bound _
    rw [filled]
    exact .elements items body
  | renderPartial call => exact given (called call)
  | renderCollection items name binding => exact given (collected items name binding)
  | splicePartial call => exact .spliced (.splicePartial call)
  | setPartial name call => exact .built ((called call).bind fun node => .act (.set name (.ok node)))
  | appendPartial call => exact .built ((called call).bind fun node => .act (.append (.ok node)))
  | arrayOfPartials items name binding =>
    refine .spliced ?_
    unfold ready.collected
    rw [onSuccess_splice]
    exact (Script.RunsAs.ofExcept _).bind .splicePartial
  | setArrayOfPartials key items name binding =>
    exact .built ((collected items name binding).bind fun node => .act (.set key (.ok node)))
  | cache condition key options body =>
    refine .spliced ?_
    rw [← cacheOne_eq, Block.runWithin_eq]
    exact fun _ => rfl
  | cacheCollection items options key body =>
    rw [← cacheEach_eq_staged]
    simp only [Block.runWithin_eq]
    exact fun _ => rfl

theorem run_eq (operation : Operation) :
    operation.run renderer bound = staged (operation.ready renderer bound) (operation.fill renderer bound) := by
  unfold Operation.run
  rw [Block.runWithin_eq]
  exact (operation.runsAs_script renderer bound).toBlock

/-- What follows the call in a block sees its outcome, also if that is an error. -/
theorem runWithin_script (operation : Operation) (next : Except RenderError Unit → Block) :
    (operation.script next).runWithin renderer bound =
      operation.run renderer bound >>= fun outcome => (next outcome).runWithin renderer bound := by
  rw [run_eq]
  simp only [Block.runWithin_eq]
  exact operation.runsAs_script renderer bound next

theorem keepsScopes_built {first : Run σ (Except RenderError Json)} (keeps : KeepsScopes first)
    (change : Json → Change) : KeepsScopes (built first change) :=
  keeps.bind fun _ => .pure _

theorem keepsScopes_cachedNode (condition : Bool) (key : Cache.KeyExpr) (options : Cache.Options)
    {body : Run σ (Except RenderError Unit)} (isolated : Isolated body) :
    KeepsScopes (cachedNode renderer condition key options body) := by
  have plain : ∀ entry, KeepsScopes (log entry >>= fun _ => nested body) :=
    fun entry => (Silent.log entry).keepsScopes.bind fun _ => keepsScopes_nested isolated
  unfold cachedNode
  split
  · split
    · exact plain _
    · exact (Silent.nameFragment renderer key options).keepsScopes.bind fun name =>
        keepsScopes_fetchOrBuild _ name _ isolated
  · exact plain _

theorem keepsScopes_ready (operation : Operation) : KeepsScopes (operation.ready renderer bound) := by
  have isolated := isolated_runWithin renderer bound
  have captured : ∀ body, KeepsScopes (ready.captured renderer bound body) :=
    fun body => keepsScopes_nested (isolated body.toBlock)
  have called : ∀ call, KeepsScopes (ready.called renderer bound call) :=
    keepsScopes_called renderer bound
  have collected : ∀ items name binding, KeepsScopes (ready.collected renderer bound items name binding) := by
    intro items name binding
    unfold ready.collected
    cases Script.collectionCall items name binding with
    | error error => exact .pure _
    | ok call => exact called call
  cases operation with
  | act action =>
    refine KeepsScopes.bind ?_ fun _ => .pure _
    cases action <;> first | exact .pure _ | exact keepsScopes_depth.bind fun _ => (Silent.log _).keepsScopes
  | capture body => exact keepsScopes_built (captured body) _
  | child name body => exact keepsScopes_built (captured body) _
  | element body => exact keepsScopes_built (captured body) _
  | arrayFrom items body => exact .pure _
  | renderPartial call => exact keepsScopes_built (called call) _
  | renderCollection items name binding => exact keepsScopes_built (collected items name binding) _
  | splicePartial call => exact keepsScopes_built (called call) _
  | setPartial name call => exact keepsScopes_built (called call) _
  | appendPartial call => exact keepsScopes_built (called call) _
  | arrayOfPartials items name binding => exact keepsScopes_built (collected items name binding) _
  | setArrayOfPartials key items name binding => exact keepsScopes_built (collected items name binding) _
  | cache condition key options body =>
    exact keepsScopes_built (keepsScopes_cachedNode renderer condition key options (isolated body.toBlock)) _
  | cacheCollection items options key body =>
    cases items with
    | none => exact .pure _
    | some items =>
      unfold ready
      dsimp only
      split
      · exact (Silent.log _).keepsScopes.bind fun _ => .pure _
      · refine (Silent.nameElements renderer options key _).keepsScopes.bind fun names => ?_
        exact keepsScopes_built (keepsScopes_cacheNamed _ _ (fun index => isolated (body index).toBlock) names) _

theorem appends_fill (operation : Operation) : Appends (operation.fill renderer bound) := by
  have isolated := isolated_runWithin renderer bound
  unfold fill
  split
  · simp only [Block.runWithin_eq] at isolated ⊢
    exact appends_elements renderer _ isolated _ _
  · split
    · exact (Appends.collect (appends_pushElement fun index => isolated _) _).bind fun _ =>
        (KeepsScopes.pure _).appends
    · exact (KeepsScopes.pure _).appends
  · exact (KeepsScopes.pure _).appends

theorem exists_run {operation : Operation} (finite : operation.script.toBlock.Finite renderer.resolve)
    (world : World σ) : ∃ bound result, operation.run renderer bound world = some result := by
  obtain ⟨bound, result, ran⟩ := settled_runWithin finite world
  exact ⟨bound, result, ran bound (Nat.le_refl bound)⟩

end Operation

end Stencil
