import Stencil.Proofs.Run.Atomic

/-!
# The shape of a scope under calls

A scope keeps its shape under every call but the one to null, or gets the shape that the call implies if it
had none (`commits_run`); a call that succeeds does the latter. Through a sequence of calls, failed ones
among them, a scope is therefore committed once (`shape_commitment`).
-/

namespace Stencil

open Run

variable {σ α : Type}

/-- The shape of the innermost scope. -/
def World.shape (world : World σ) : Shape := world.builder.current.shape

namespace Operation

variable (renderer : Renderer σ) (bound : Nat)

/-- The shape that a call implies in a state, by the node that it has built if it attaches one. -/
inductive Implies (world : World σ) : Operation → Shape → Prop where
  | act (action : Action) : Implies world (.act action) (action.implied world.builder.current.ignoreNil)
  | capture (body : Script Unit) : Implies world (.capture body) .undetermined
  | child {name : String} {body : Script Unit} {node : Json} {middle : World σ}
      (builds : nested (body.toBlock.runWithin renderer bound) world = some (.ok node, middle)) :
      Implies world (.child name body) (Scope.impliedBySet world.builder.current.ignoreNil [node])
  | element (body : Script Unit) : Implies world (.element body) .array
  | arrayFrom {α : Type} (items : List α) (body : α → Script Unit) : Implies world (.arrayFrom items body) .array
  | renderPartial (call : PartialCall) : Implies world (.renderPartial call) .undetermined
  | renderCollection (items : Option (List Json.Payload)) (name binding : String) :
      Implies world (.renderCollection items name binding) .undetermined
  | splicePartial {call : PartialCall} {node : Json} {middle : World σ}
      (builds : renderCall renderer (callWithin renderer bound) call world = some (.ok node, middle)) :
      Implies world (.splicePartial call) node.shape
  | setPartial {name : String} {call : PartialCall} {node : Json} {middle : World σ}
      (builds : renderCall renderer (callWithin renderer bound) call world = some (.ok node, middle)) :
      Implies world (.setPartial name call) (Scope.impliedBySet world.builder.current.ignoreNil [node])
  | appendPartial (call : PartialCall) : Implies world (.appendPartial call) .array
  | arrayOfPartials (items : Option (List Json.Payload)) (name binding : String) :
      Implies world (.arrayOfPartials items name binding) .array
  | setArrayOfPartials (key : String) (items : Option (List Json.Payload)) (name binding : String) :
      Implies world (.setArrayOfPartials key items name binding) .object
  | cache {condition : Bool} {key : Cache.KeyExpr} {options : Cache.Options} {body : Script Unit} {node : Json}
      {middle : World σ} (builds : cachedNode renderer condition key options
        (body.toBlock.runWithin renderer bound) world = some (.ok node, middle)) :
      Implies world (.cache condition key options body) node.shape
  | cacheCollection (items : Option (List Json.Payload)) (options : Cache.Options)
      (key : Option (Nat → Cache.KeyExpr)) (body : Nat → Script Unit) :
      Implies world (.cacheCollection items options key body) .array

/-- The run gives no other nodes than arrays. -/
def GivesArrays (run : Run σ (Except RenderError Json)) : Prop :=
  ∀ world node after, run world = some (.ok node, after) → ∃ nodes, node = .arr nodes

theorem givesArrays_map (first : Run σ (Except RenderError (List Json))) :
    GivesArrays (do return (← first).map .arr) := by
  intro world node after ran
  obtain ⟨error | nodes, -, same⟩ := returned_some ran
  · cases same
  · exact ⟨nodes, (Except.ok.inj same).symm⟩

theorem givesArrays_bind {first : Run σ α} {next : α → Run σ (Except RenderError Json)}
    (each : ∀ value, GivesArrays (next value)) : GivesArrays (first >>= next) := by
  intro world node after ran
  obtain ⟨value, middle, -, nextRan⟩ := bind_some ran
  exact each value middle node after nextRan

theorem givesArrays_error (error : RenderError) : GivesArrays (pure (.error error) : Run σ _) := by
  intro world node after ran
  cases (result_inj ran).1

theorem givesArrays_collected (items : Option (List Json.Payload)) (name binding : String) :
    GivesArrays (ready.collected renderer bound items name binding) := by
  cases items with
  | none =>
    show GivesArrays (log (.noCollection name) >>= fun _ => pure (.ok (.arr [])))
    exact givesArrays_bind fun _ => givesArrays_map (pure (.ok []))
  | some items =>
    unfold ready.collected Script.collectionCall
    dsimp only
    cases items.mapM id with
    | error fault => exact givesArrays_error (.conversion fault)
    | ok values => exact givesArrays_map _

theorem givesArrays_cacheNamed (store : Cache.Store σ) (lifetime : Option Nat)
    (body : Nat → Run σ (Except RenderError Unit)) (names : Except RenderError (List (Nat × String))) :
    GivesArrays (cacheNamed store lifetime body names) := by
  cases names with
  | error error => exact givesArrays_error error
  | ok elements =>
    unfold cacheNamed
    dsimp only
    split
    · rw [cacheBatched_eq]
      refine givesArrays_bind fun found => givesArrays_bind fun results => ?_
      cases results with
      | error error => exact givesArrays_error error
      | ok results => exact givesArrays_bind fun _ => givesArrays_map (pure (.ok _))
    · exact givesArrays_bind fun _ => givesArrays_map _

theorem implies_of_ready {operation : Operation} {change : Change} {world middle : World σ}
    (ran : operation.ready renderer bound world = some (.ok change, middle)) :
    Implies renderer bound world operation (change.implied world.builder.current.ignoreNil) := by
  cases operation with
  | act action =>
    obtain ⟨_, _, -, ended⟩ := bind_some ran
    obtain rfl := Except.ok.inj (result_inj ended).1
    exact .act action
  | capture body =>
    obtain ⟨node, -, rfl⟩ := built_some ran
    exact .capture body
  | child name body =>
    obtain ⟨node, builds, rfl⟩ := built_some ran
    exact .child builds
  | element body =>
    obtain ⟨node, -, rfl⟩ := built_some ran
    exact .element body
  | arrayFrom items body =>
    obtain rfl := Except.ok.inj (result_inj ran).1
    exact .arrayFrom items body
  | renderPartial call =>
    obtain ⟨node, -, rfl⟩ := built_some ran
    exact .renderPartial call
  | renderCollection items name binding =>
    obtain ⟨node, -, rfl⟩ := built_some ran
    exact .renderCollection items name binding
  | splicePartial call =>
    obtain ⟨node, builds, rfl⟩ := built_some ran
    exact .splicePartial builds
  | setPartial name call =>
    obtain ⟨node, builds, rfl⟩ := built_some ran
    exact .setPartial builds
  | appendPartial call =>
    obtain ⟨node, -, rfl⟩ := built_some ran
    exact .appendPartial call
  | arrayOfPartials items name binding =>
    obtain ⟨node, builds, rfl⟩ := built_some ran
    obtain ⟨nodes, rfl⟩ := givesArrays_collected renderer bound items name binding world node middle builds
    exact .arrayOfPartials items name binding
  | setArrayOfPartials key items name binding =>
    obtain ⟨node, builds, rfl⟩ := built_some ran
    obtain ⟨nodes, rfl⟩ := givesArrays_collected renderer bound items name binding world node middle builds
    exact .setArrayOfPartials key items name binding
  | cache condition key options body =>
    obtain ⟨node, builds, rfl⟩ := built_some ran
    exact .cache builds
  | cacheCollection items options key body =>
    have array : change.implied world.builder.current.ignoreNil = .array := by
      cases items with
      | none => rw [← Except.ok.inj (result_inj ran).1]; rfl
      | some items =>
        cases active : renderer.activeStore with
        | none =>
          simp only [ready, active] at ran
          obtain ⟨_, _, -, ended⟩ := bind_some ran
          rw [← Except.ok.inj (result_inj ended).1]
          rfl
        | some store =>
          simp only [ready, active] at ran
          obtain ⟨names, named, -, builtRan⟩ := bind_some ran
          obtain ⟨node, builds, rfl⟩ := built_some builtRan
          obtain ⟨nodes, rfl⟩ := givesArrays_cacheNamed store _ _ names named node middle builds
          rfl
    rw [array]
    exact .cacheCollection items options key body

theorem shape_edit {edited : Scope → Edited} {world after : World σ} {outcome : Except RenderError Unit}
    (ran : edit edited world = some (outcome, after)) :
    outcome = (edited world.builder.current).1 ∧ after.shape = (edited world.builder.current).2.shape := by
  obtain ⟨rfl, rfl⟩ := result_inj ran
  exact ⟨rfl, congrArg Scope.shape (Builder.current_setCurrent _ _)⟩

/-- Only a call that has opened an array fills it. -/
theorem fill_cases (operation : Operation) :
    operation.fill renderer bound = pure (.ok ()) ∨
      ∀ world change middle, operation.ready renderer bound world = some (.ok change, middle) →
        change = .act .openArray := by
  cases operation with
  | arrayFrom items body =>
    refine .inr fun world change middle ran => ?_
    exact (Except.ok.inj (result_inj ran).1).symm
  | cacheCollection items options key body =>
    cases items with
    | none => exact .inl rfl
    | some items =>
      unfold fill ready
      cases renderer.activeStore with
      | some store => exact .inl rfl
      | none =>
        refine .inr fun world change middle ran => ?_
        obtain ⟨_, _, -, ended⟩ := bind_some ran
        exact (Except.ok.inj (result_inj ended).1).symm
  | _ => exact .inl rfl

theorem shape_of_appends {run : Run σ (Except RenderError Unit)} (appends : Appends run) {world after : World σ}
    {outcome : Except RenderError Unit} (array : world.shape = .array) (ran : run world = some (outcome, after)) :
    after.shape = .array := by
  have holds : ∃ items, world.builder.current.body = .elements items := by
    unfold World.shape Scope.shape at array
    cases body : world.builder.current.body with
    | elements items => exact ⟨items, rfl⟩
    | _ => rw [body] at array; contradiction
  obtain ⟨items, held⟩ := holds
  obtain ⟨nodes, grown⟩ := appends world outcome after items held ran
  unfold World.shape
  rw [grown, Builder.current_setCurrent]
  rfl

/-- Filling leaves everything as it is, or goes on with the array that the call's change has opened. -/
theorem filled_cases {operation : Operation} {world middle opened after : World σ} {change : Change}
    {outcome : Except RenderError Unit} (ready : operation.ready renderer bound world = some (.ok change, middle))
    (changed : edit change.apply middle = some (.ok (), opened))
    (ran : operation.fill renderer bound opened = some (outcome, after)) :
    after = opened ∨ opened.shape = .array ∧ after.shape = .array := by
  obtain done | fills := operation.fill_cases renderer bound
  · rw [done] at ran
    exact .inl (result_inj ran).2.symm
  · obtain rfl := fills world change middle ready
    obtain ⟨succeeded, same⟩ := shape_edit changed
    have takes : Scope.Takes .array middle.builder.current (Action.openArray.apply middle.builder.current) :=
      Scope.takes_editElements .openArray id
    have array : opened.shape = .array := same.trans (takes.shape_of_ok (by decide) succeeded.symm)
    exact .inr ⟨array, shape_of_appends (operation.appends_fill renderer bound) array ran⟩

/-- The shape stays, or becomes the implied one if there was none; after success it has become that. -/
structure Commits (operation : Operation) (world : World σ) (outcome : Except RenderError Unit) (after : World σ) :
    Prop where
  moves : after.shape = world.shape ∨
    world.shape = .undetermined ∧ Implies renderer bound world operation after.shape
  reaches : outcome = .ok () → world.shape = .undetermined → Implies renderer bound world operation after.shape

theorem commits_change {operation : Operation} (resets : operation ≠ .act .setNull)
    {world middle opened : World σ} {change : Change} {outcome : Except RenderError Unit}
    (ready : operation.ready renderer bound world = some (.ok change, middle))
    (changed : edit change.apply middle = some (outcome, opened)) :
    operation.Commits renderer bound world outcome opened := by
  have kept : middle.builder = world.builder := operation.keepsScopes_ready renderer bound world _ middle ready
  obtain ⟨answered, same⟩ := shape_edit changed
  have other : change ≠ .act .setNull := by
    rintro rfl
    obtain ⟨action, rfl, ⟨⟩⟩ | attaches := operation.change_of_ready renderer bound ready
    · exact resets rfl
    · exact attaches
  have commits := change.commits other world.builder.current
  rw [← kept, ← answered, ← same, kept] at commits
  have implies : ∀ {shape}, shape = change.implied world.builder.current.ignoreNil →
      Implies renderer bound world operation shape :=
    fun implied => implied ▸ implies_of_ready renderer bound ready
  exact ⟨commits.moves.imp_right fun moved => ⟨moved.1, implies moved.2⟩,
    fun succeeded undetermined => implies (commits.reaches succeeded undetermined)⟩

theorem commits_run {operation : Operation} (resets : operation ≠ .act .setNull) {world after : World σ}
    {outcome : Except RenderError Unit} (ran : operation.run renderer bound world = some (outcome, after)) :
    operation.Commits renderer bound world outcome after := by
  rw [operation.run_eq, staged] at ran
  obtain ⟨error, stopped, rfl⟩ | ⟨_, opened, succeeded, fillRan⟩ := onSuccess_some ran
  · obtain ⟨failure, readyRan, -⟩ | ⟨change, middle, readyRan, editRan⟩ := onSuccess_some stopped
    · have kept : after.builder = world.builder := operation.keepsScopes_ready renderer bound world _ after readyRan
      refine ⟨.inl (congrArg (fun builder => builder.current.shape) kept), fun succeeded => ?_⟩
      contradiction
    · exact commits_change renderer bound resets readyRan editRan
  · obtain ⟨failure, -, failed⟩ | ⟨change, middle, readyRan, editRan⟩ := onSuccess_some succeeded
    · contradiction
    · obtain ⟨moves, reaches⟩ := commits_change renderer bound resets readyRan editRan
      have kept : opened.shape = after.shape := by
        obtain rfl | ⟨array, still⟩ := filled_cases renderer bound readyRan editRan fillRan
        · rfl
        · rw [array, still]
      rw [kept] at moves reaches
      exact ⟨moves, fun _ => reaches rfl⟩

theorem setNull_run {world after : World σ} {outcome : Except RenderError Unit}
    (ran : (Operation.act .setNull).run renderer bound world = some (outcome, after)) :
    outcome = .ok () ∧ after.shape = .value := by
  unfold Operation.run at ran
  rw [Block.runWithin_eq] at ran
  obtain ⟨rfl, rfl⟩ := result_inj ran
  exact ⟨rfl, congrArg Scope.shape (Builder.current_setCurrent _ _)⟩

/-! ### Calls in turn -/

/-- Makes the calls one after the other, whether they fail or not. -/
def inTurn : List Operation → Script Unit
  | [] => pure ()
  | operation :: rest => do
    let _ ← operation.script.outcome
    inTurn rest

/-- The run of a sequence of calls on one scope. -/
def runInTurn (operations : List Operation) : Run σ (Except RenderError Unit) :=
  (inTurn operations).toBlock.runWithin renderer bound

theorem runInTurn_cons (operation : Operation) (rest : List Operation) :
    runInTurn renderer bound (operation :: rest) =
      operation.run renderer bound >>= fun _ => runInTurn renderer bound rest :=
  operation.runWithin_script renderer bound fun _ => (inTurn rest).toBlock

theorem runInTurn_nil : runInTurn renderer bound [] = (pure (.ok ()) : Run σ _) :=
  Block.runWithin_eq renderer bound _

/-- A committed scope keeps its shape, up to the first call to null. -/
theorem shape_of_committed {operations : List Operation} {world after : World σ} {outcome : Except RenderError Unit}
    (committed : world.shape ≠ .undetermined) (resets : .act .setNull ∈ operations → world.shape = .value)
    (ran : runInTurn renderer bound operations world = some (outcome, after)) : after.shape = world.shape := by
  induction operations generalizing world with
  | nil =>
    rw [runInTurn_nil] at ran
    rw [(result_inj ran).2]
  | cons operation rest ih =>
    rw [runInTurn_cons] at ran
    obtain ⟨one, middle, firstRan, restRan⟩ := bind_some ran
    have same : middle.shape = world.shape := by
      by_cases null : operation = .act .setNull
      · subst null
        rw [(setNull_run renderer bound firstRan).2, resets List.mem_cons_self]
      · obtain kept | ⟨undetermined, -⟩ := (commits_run renderer bound null firstRan).moves
        · exact kept
        · contradiction
    rw [← same] at committed resets ⊢
    exact ih committed (fun member => resets (List.mem_cons_of_mem _ member)) restRan

theorem shape_of_null {operations : List Operation} {world after : World σ} {outcome : Except RenderError Unit}
    (null : .act .setNull ∈ operations)
    (ran : runInTurn renderer bound operations world = some (outcome, after)) : after.shape = .value := by
  induction operations generalizing world with
  | nil => contradiction
  | cons operation rest ih =>
    rw [runInTurn_cons] at ran
    obtain ⟨one, middle, firstRan, restRan⟩ := bind_some ran
    rcases List.mem_cons.1 null with rfl | later
    · have value : middle.shape = .value := (setNull_run renderer bound firstRan).2
      rw [← value]
      exact shape_of_committed renderer bound (by rw [value]; decide) (fun _ => value) restRan
    · exact ih later restRan

/-- A scope that has got a shape has got the one that some call of the sequence implied when there was none. -/
theorem shape_of_undetermined {operations : List Operation} {world after : World σ}
    {outcome : Except RenderError Unit} (fresh : world.shape = .undetermined) (null : .act .setNull ∉ operations)
    (ran : runInTurn renderer bound operations world = some (outcome, after)) :
    after.shape = .undetermined ∨ ∃ earlier operation later middle, operations = earlier ++ operation :: later ∧
      runInTurn renderer bound earlier world = some (.ok (), middle) ∧ middle.shape = .undetermined ∧
      Implies renderer bound middle operation after.shape := by
  induction operations generalizing world with
  | nil =>
    rw [runInTurn_nil] at ran
    rw [← (result_inj ran).2]
    exact .inl fresh
  | cons operation rest ih =>
    rw [runInTurn_cons] at ran
    obtain ⟨one, middle, firstRan, restRan⟩ := bind_some ran
    have other : operation ≠ .act .setNull := fun same => null (same ▸ List.mem_cons_self)
    have others : .act .setNull ∉ rest := fun member => null (List.mem_cons_of_mem _ member)
    by_cases still : middle.shape = .undetermined
    · obtain undetermined | ⟨earlier, next, later, before, rfl, earlierRan, none, implies⟩ := ih still others restRan
      · exact .inl undetermined
      · refine .inr ⟨operation :: earlier, next, later, before, rfl, ?_, none, implies⟩
        rw [runInTurn_cons]
        exact (bind_of_some firstRan).trans earlierRan
    · have kept : after.shape = middle.shape :=
        shape_of_committed renderer bound still (fun member => (others member).elim) restRan
      obtain same | ⟨-, implies⟩ := (commits_run renderer bound other firstRan).moves
      · exact (still (same.trans fresh)).elim
      · refine .inr ⟨[], operation, rest, world, rfl, ?_, fresh, kept ▸ implies⟩
        rw [runInTurn_nil]
        rfl

end Operation

open Operation in
/--
A call other than that to null keeps the shape of its scope, or commits a scope without a shape to the one
that it implies, and does the latter if it succeeds. So the shape that a sequence of calls ends with, failed
calls among them, is that of a value if null is one of them; else the one the scope had; else one that a call
implied.
-/
theorem Renderer.shape_commitment (renderer : Renderer σ) :
    (∀ operations, (inTurn operations).toBlock.Finite renderer.resolve → ∀ world : World σ,
      ∃ bound result, runInTurn renderer bound operations world = some result) ∧
    ∀ (bound : Nat) (world after : World σ) (outcome : Except RenderError Unit),
      (∀ operation : Operation, operation.run renderer bound world = some (outcome, after) →
        (operation = .act .setNull → outcome = .ok () ∧ after.shape = .value) ∧
        (operation ≠ .act .setNull → operation.Commits renderer bound world outcome after)) ∧
      ∀ operations, runInTurn renderer bound operations world = some (outcome, after) →
        (.act .setNull ∈ operations → after.shape = .value) ∧
        (.act .setNull ∉ operations → world.shape ≠ .undetermined → after.shape = world.shape) ∧
        (.act .setNull ∉ operations → world.shape = .undetermined →
          after.shape = .undetermined ∨
            ∃ earlier operation later middle, operations = earlier ++ operation :: later ∧
              runInTurn renderer bound earlier world = some (.ok (), middle) ∧ middle.shape = .undetermined ∧
              Implies renderer bound middle operation after.shape) := by
  refine ⟨fun operations finite world => ?_, fun bound world after outcome => ⟨fun operation ran => ?_, ?_⟩⟩
  · obtain ⟨bound, result, ran⟩ := settled_runWithin finite world
    exact ⟨bound, result, ran bound (Nat.le_refl bound)⟩
  · refine ⟨?_, fun resets => commits_run renderer bound resets ran⟩
    rintro rfl
    exact setNull_run renderer bound ran
  · intro operations ran
    refine ⟨fun null => shape_of_null renderer bound null ran, fun null committed => ?_, fun null fresh => ?_⟩
    · exact shape_of_committed renderer bound committed (fun member => (null member).elim) ran
    · exact shape_of_undetermined renderer bound fresh null ran

namespace Renderer

/-- An attribute that is skipped, an array whose second element fails, and an attribute that comes too late. -/
def mixedCalls : List Operation :=
  [.act (.ignoreNil true), .child "skipped" (pure ()),
    .arrayFrom [true, false] fun first => do
      Script.set "first" (.bool first)
      if first then pure () else Script.append .null,
    .act (.set "late" (.ok (.bool true)))]

open Operation in
theorem shape_commitment_mixedCalls :
    ∃ after last, runInTurn withMemory 0 mixedCalls untouched = some (.ok (), after) ∧ after.shape = .array ∧
      (∃ earlier operation later middle, mixedCalls = earlier ++ operation :: later ∧
        runInTurn withMemory 0 earlier untouched = some (.ok (), middle) ∧ middle.shape = .undetermined ∧
        Implies withMemory 0 middle operation .array) ∧
      runInTurn withMemory 0 [.act .setNull] after = some (.ok (), last) ∧ last.shape = .value := by
  obtain ⟨-, commitment⟩ := shape_commitment withMemory
  have ran : (runInTurn withMemory 0 mixedCalls untouched).map (fun result => (result.1.toOption, result.2.shape)) =
      some (some (), .array) := by
    decide +kernel
  obtain ⟨⟨_ | _, after⟩, mixedRan, same⟩ := Option.map_eq_some_iff.1 ran
  · nomatch same
  obtain ⟨-, array⟩ := Prod.mk.inj same
  have fresh : untouched.shape = .undetermined := rfl
  have noNull : .act .setNull ∉ mixedCalls := by simp [mixedCalls]
  have implied := ((commitment 0 untouched after _).2 mixedCalls mixedRan).2.2 noNull fresh
  rw [array] at implied
  have found := implied.resolve_left nofun
  have nulled : runInTurn withMemory 0 [.act .setNull] after = some (.ok (),
      { after with builder := after.builder.setCurrent after.builder.current.setNull }) := by
    rw [runInTurn_cons, runInTurn_nil]
    rfl
  exact ⟨after, _, mixedRan, array, found, nulled,
    ((commitment 0 after _ _).2 _ nulled).1 List.mem_cons_self⟩

end Renderer

end Stencil
