import Stencil.Proofs.Run.Shapes
import Stencil.Proofs.Scope.Writes

/-!
# Attributes that calls write

A call that succeeds binds the attributes that it `Writes`, in turn and behind those of the scope; what it builds
for one attribute, or to be spliced in, it builds in a scope of its own. Through a sequence of calls, up to the
first that fails, the scope has bound what they write, one after the other (`members_of_upToFailure`).
-/

namespace Stencil

open Run

variable {σ α : Type}

/-- The attributes of the innermost scope. -/
def World.members (world : World σ) : Entries Json := world.builder.current.members

namespace Operation

variable (renderer : Renderer σ) (bound : Nat)

/-- Calls that bind no attribute of the scope that they are made on. -/
def WritesNone : Operation → Prop
  | .capture _ | .element _ | .arrayFrom _ _ | .renderPartial _ | .renderCollection _ _ _ | .appendPartial _
  | .arrayOfPartials _ _ _ | .cacheCollection _ _ _ _ => True
  | _ => False

/-- The attributes that a call binds in turn if it succeeds, by the node that it has built if it attaches one. -/
inductive Writes (world : World σ) : Operation → Entries Json → Prop where
  | act (action : Action) : Writes world (.act action) (action.writes world.builder.current)
  | child {name : String} {body : Script Unit} {node : Json} {middle : World σ}
      (builds : nested (body.toBlock.runWithin renderer bound) world = some (.ok node, middle)) :
      Writes world (.child name body) (world.builder.current.attributes [(name, node)])
  | setPartial {name : String} {call : PartialCall} {node : Json} {middle : World σ}
      (builds : renderCall renderer (callWithin renderer bound) call world = some (.ok node, middle)) :
      Writes world (.setPartial name call) (world.builder.current.attributes [(name, node)])
  | setArrayOfPartials {key : String} {items : Option (List Json.Payload)} {name binding : String} {node : Json}
      {middle : World σ} (builds : ready.collected renderer bound items name binding world = some (.ok node, middle)) :
      Writes world (.setArrayOfPartials key items name binding) (world.builder.current.attributes [(key, node)])
  | splicePartial {call : PartialCall} {node : Json} {middle : World σ}
      (builds : renderCall renderer (callWithin renderer bound) call world = some (.ok node, middle)) :
      Writes world (.splicePartial call) node.spliced
  | cache {condition : Bool} {key : Cache.KeyExpr} {options : Cache.Options} {body : Script Unit} {node : Json}
      {middle : World σ} (builds : cachedNode renderer condition key options
        (body.toBlock.runWithin renderer bound) world = some (.ok node, middle)) :
      Writes world (.cache condition key options body) node.spliced
  | none {operation : Operation} (none : operation.WritesNone) : Writes world operation []

theorem writes_of_ready {operation : Operation} {change : Change} {world middle : World σ}
    (ran : operation.ready renderer bound world = some (.ok change, middle)) :
    Writes renderer bound world operation (change.writes world.builder.current) := by
  have silent : operation.WritesNone → Writes renderer bound world operation (change.writes world.builder.current) := by
    intro none
    have implies := implies_of_ready renderer bound ran
    have other : change.implied world.builder.current.ignoreNil ≠ .object := by
      generalize change.implied world.builder.current.ignoreNil = shape at implies
      cases implies <;> first | contradiction | decide
    rw [Change.writes_of_implied other]
    exact .none none
  cases operation with
  | act action =>
    obtain ⟨_, _, -, ended⟩ := bind_some ran
    obtain rfl := Except.ok.inj (result_inj ended).1
    exact .act action
  | child name body =>
    obtain ⟨node, builds, rfl⟩ := built_some ran
    exact .child builds
  | splicePartial call =>
    obtain ⟨node, builds, rfl⟩ := built_some ran
    exact .splicePartial builds
  | setPartial name call =>
    obtain ⟨node, builds, rfl⟩ := built_some ran
    exact .setPartial builds
  | setArrayOfPartials key items name binding =>
    obtain ⟨node, builds, rfl⟩ := built_some ran
    exact .setArrayOfPartials builds
  | cache condition key options body =>
    obtain ⟨node, builds, rfl⟩ := built_some ran
    exact .cache builds
  | _ => exact silent trivial

theorem apply_of_edit {change : Scope → Edited} {world after : World σ} {outcome : Except RenderError Unit}
    (ran : edit change world = some (outcome, after)) :
    change world.builder.current = (outcome, after.builder.current) := by
  obtain ⟨rfl, rfl⟩ := result_inj ran
  exact Prod.ext rfl (Builder.current_setCurrent _ _).symm

/-- A call that succeeds binds what it writes behind the attributes of the scope. -/
theorem members_run {operation : Operation} (resets : operation ≠ .act .setNull) {world after : World σ}
    (ran : operation.run renderer bound world = some (.ok (), after)) :
    ∃ written, Writes renderer bound world operation written ∧ after.members = world.members.insertAll written := by
  rw [operation.run_eq, staged] at ran
  obtain ⟨error, -, failed⟩ | ⟨_, opened, succeeded, fillRan⟩ := onSuccess_some ran
  · contradiction
  obtain ⟨error, -, failed⟩ | ⟨change, middle, readyRan, editRan⟩ := onSuccess_some succeeded
  · contradiction
  have kept : middle.builder = world.builder := operation.keepsScopes_ready renderer bound world _ middle readyRan
  refine ⟨_, writes_of_ready renderer bound readyRan, ?_⟩
  have other : change ≠ .act .setNull := by
    rintro rfl
    obtain ⟨action, rfl, ⟨⟩⟩ | attaches := operation.change_of_ready renderer bound readyRan
    · exact resets rfl
    · exact attaches
  have changed : opened.members = world.members.insertAll (change.writes world.builder.current) := by
    have done := Change.members_apply other (apply_of_edit editRan)
    rwa [kept] at done
  rw [← changed]
  obtain rfl | ⟨array, still⟩ := filled_cases renderer bound readyRan editRan fillRan
  · rfl
  · have none : ∀ filled : World σ, filled.shape = .array → filled.members = [] := by
      intro filled same
      exact Scope.members_of_shape fun object => by cases object.symm.trans same
    rw [none opened array, none after still]

/-! ### Calls up to a failure -/

/-- Makes the calls one after the other, up to the first that fails. -/
def upToFailure : List Operation → Script Unit
  | [] => pure ()
  | operation :: rest => do
    operation.script
    upToFailure rest

def runUpToFailure (operations : List Operation) : Run σ (Except RenderError Unit) :=
  (upToFailure operations).toBlock.runWithin renderer bound

theorem runsAs_upToFailure (operations : List Operation) :
    (upToFailure operations).RunsAs renderer (callWithin renderer bound) (runUpToFailure renderer bound operations) := by
  unfold runUpToFailure
  rw [Block.runWithin_eq]
  induction operations with
  | nil => exact .of_exists ⟨_, .ofExcept (.ok ())⟩
  | cons operation rest ih =>
    exact .of_exists ⟨_, (operation.runsAs_script renderer bound).bind fun _ => ih⟩

theorem runUpToFailure_nil : runUpToFailure renderer bound [] = (pure (.ok ()) : Run σ _) :=
  Block.runWithin_eq renderer bound _

theorem runUpToFailure_cons (operation : Operation) (rest : List Operation) :
    runUpToFailure renderer bound (operation :: rest) =
      onSuccess (operation.run renderer bound) fun _ => runUpToFailure renderer bound rest := by
  rw [operation.run_eq]
  unfold runUpToFailure
  rw [Block.runWithin_eq]
  have both := (operation.runsAs_script renderer bound).bind fun _ => runsAs_upToFailure renderer bound rest
  exact both.toBlock

/-- Calls that all succeed do what they do when failures are passed over. -/
theorem runInTurn_of_upToFailure {operations : List Operation} {world after : World σ}
    (ran : runUpToFailure renderer bound operations world = some (.ok (), after)) :
    runInTurn renderer bound operations world = some (.ok (), after) := by
  induction operations generalizing world with
  | nil =>
    rw [runUpToFailure_nil] at ran
    rw [runInTurn_nil]
    exact ran
  | cons operation rest ih =>
    rw [runUpToFailure_cons] at ran
    rw [runInTurn_cons]
    obtain ⟨error, -, failed⟩ | ⟨_, middle, first, others⟩ := onSuccess_some ran
    · contradiction
    · exact (bind_of_some first).trans (ih others)

/-- The calls succeed one after the other and write the attributes in turn. -/
inductive WriteInTurn : World σ → List Operation → Entries Json → World σ → Prop where
  | nil {world : World σ} : WriteInTurn world [] [] world
  | cons {world middle after : World σ} {operation : Operation} {rest : List Operation} {first others : Entries Json}
      (ran : operation.run renderer bound world = some (.ok (), middle))
      (writes : Writes renderer bound world operation first) (later : WriteInTurn middle rest others after) :
      WriteInTurn world (operation :: rest) (first ++ others) after

theorem members_of_upToFailure {operations : List Operation} {world after : World σ}
    (resets : .act .setNull ∉ operations)
    (ran : runUpToFailure renderer bound operations world = some (.ok (), after)) :
    ∃ written, WriteInTurn renderer bound world operations written after ∧
      after.members = world.members.insertAll written := by
  induction operations generalizing world with
  | nil =>
    rw [runUpToFailure_nil] at ran
    rw [(result_inj ran).2]
    exact ⟨[], .nil, rfl⟩
  | cons operation rest ih =>
    rw [runUpToFailure_cons] at ran
    obtain ⟨error, -, failed⟩ | ⟨_, middle, first, others⟩ := onSuccess_some ran
    · contradiction
    · have other : operation ≠ .act .setNull := fun same => resets (same ▸ List.mem_cons_self)
      obtain ⟨writes, one, bound⟩ := members_run renderer bound other first
      obtain ⟨more, later, last⟩ := ih (fun member => resets (List.mem_cons_of_mem _ member)) others
      exact ⟨writes ++ more, .cons first one later, by rw [last, bound, Entries.insertAll_append]⟩

/-- The entries of an object stand in the order of their first writes and have the values of their last ones. -/
theorem entries_of_upToFailure {operations : List Operation} {world after : World σ}
    (distinct : world.members.Distinct) (object : after.shape = .object)
    (ran : runUpToFailure renderer bound operations world = some (.ok (), after)) :
    ∃ written, WriteInTurn renderer bound world operations written after ∧
      after.builder.current.toNode = .obj (Entries.lastWrites (world.members ++ written)) := by
  have resets : .act .setNull ∉ operations := by
    intro null
    have value := shape_of_null renderer bound null (runInTurn_of_upToFailure renderer bound ran)
    cases object.symm.trans value
  obtain ⟨written, inTurn, members⟩ := members_of_upToFailure renderer bound resets ran
  refine ⟨written, inTurn, ?_⟩
  rw [Scope.toNode_of_shape object, ← Entries.insertAll_eq_lastWrites written distinct]
  exact congrArg Json.obj members

end Operation

end Stencil
