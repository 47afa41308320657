import Stencil.Error

/-!
# Locals

The named values that a partial is rendered with. A name is bound once; binding it again replaces its
value in place.
-/

namespace Stencil

/-- Named values in the order in which they were first bound. -/
structure Locals where
  bindings : Entries Json := []
  deriving DecidableEq, Inhabited

namespace Locals

def get? (name : String) (locals : Locals) : Option Json := Entries.get? name locals.bindings

def insert (name : String) (value : Json) (locals : Locals) : Locals :=
  ⟨locals.bindings.insert name value⟩

/-- The value of a name that has to be bound. -/
def require (name : String) (locals : Locals) : Except RenderError Json :=
  match locals.get? name with
  | some value => .ok value
  | none => .error (.missingLocal name)

def size (locals : Locals) : Nat := locals.bindings.length

def isEmpty (locals : Locals) : Bool := locals.bindings.isEmpty

def ofPairs (pairs : List (String × Json)) : Locals := ⟨Entries.ofPairs pairs⟩

theorem get?_insert (name other : String) (value : Json) (locals : Locals) :
    (locals.insert name value).get? other = if name = other then some value else locals.get? other :=
  Entries.get?_insert name other value locals.bindings

end Locals

end Stencil
