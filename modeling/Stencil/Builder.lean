import Stencil.Scope

/-!
# The stack of scopes

A document is built through a root scope and the scopes opened within it. Operations reach only the
innermost one: `enclosing_mapCurrent` says that the others stay as they are.
-/

namespace Stencil

/-- The root scope and the open scopes, the innermost one first. -/
structure Builder where
  root : Scope
  stack : List Scope
  deriving DecidableEq

namespace Builder

/-- A document in which nothing has been written. -/
def new (keyFormat : KeyFormat) (ignoreNil : Bool) : Builder := ⟨.fresh keyFormat ignoreNil, []⟩

def current (builder : Builder) : Scope := builder.stack.headD builder.root

def depth (builder : Builder) : Nat := builder.stack.length

/-- The scopes around the innermost one. -/
def enclosing (builder : Builder) : List Scope :=
  match builder.stack with
  | [] => []
  | _ :: outer => outer ++ [builder.root]

def setCurrent (scope : Scope) (builder : Builder) : Builder :=
  match builder.stack with
  | [] => { builder with root := scope }
  | _ :: outer => { builder with stack := scope :: outer }

def edit (operation : Scope → Edited) (builder : Builder) : Except RenderError Unit × Builder :=
  let (outcome, scope) := operation builder.current
  (outcome, builder.setCurrent scope)

def push (builder : Builder) : Builder :=
  { builder with stack := builder.current.child :: builder.stack }

/-- Closes the innermost scope, and gives the node it resolves to. -/
def pop (builder : Builder) : Json × Builder :=
  match builder.stack with
  | [] => (.null, builder)
  | scope :: outer => (scope.toNode, { builder with stack := outer })

/-- The document: the node that the root scope resolves to. -/
def result (builder : Builder) : Json := builder.root.toNode

@[simp] theorem current_setCurrent (scope : Scope) (builder : Builder) :
    (builder.setCurrent scope).current = scope := by
  obtain ⟨root, _ | ⟨top, outer⟩⟩ := builder <;> rfl

@[simp] theorem enclosing_setCurrent (scope : Scope) (builder : Builder) :
    (builder.setCurrent scope).enclosing = builder.enclosing := by
  obtain ⟨root, _ | ⟨top, outer⟩⟩ := builder <;> rfl

@[simp] theorem depth_setCurrent (scope : Scope) (builder : Builder) :
    (builder.setCurrent scope).depth = builder.depth := by
  obtain ⟨root, _ | ⟨top, outer⟩⟩ := builder <;> rfl

@[simp] theorem pop_push (builder : Builder) : builder.push.pop = (.null, builder) := rfl

end Builder

end Stencil
