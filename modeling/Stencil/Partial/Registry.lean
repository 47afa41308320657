import Stencil.Error
import Stencil.Partial.Name
import Stencil.Text.Quoted
import Stencil.Text.Similar

/-!
# Registry of partials

Templates by normalized name; a later registration replaces an earlier one. A name that is not found is
answered with the registered names close to it.
-/

namespace Stencil.Partial

structure Registry (α : Type) where
  templates : Entries α := []

namespace Registry

variable {α : Type}

/-- Makes `template` the template of every name with the same normalized form. -/
def register (name : String) (template : α) (registry : Registry α) : Registry α :=
  ⟨registry.templates.insert (normalize name) template⟩

def ofList (templates : List (String × α)) : Registry α :=
  templates.foldl (fun registry entry => registry.register entry.1 entry.2) {}

def names (registry : Registry α) : List String := registry.templates.keys

def size (registry : Registry α) : Nat := registry.templates.length

def isEmpty (registry : Registry α) : Bool := registry.templates.isEmpty

def contains (name : String) (registry : Registry α) : Bool :=
  (Entries.get? (normalize name) registry.templates).isSome

def resolve (registry : Registry α) (name : String) : Except RenderError α :=
  match Entries.get? (normalize name) registry.templates with
  | some template => .ok template
  | none => .error (.partialNotFound name (Text.similar (normalize name) registry.names))

def sortedNames (registry : Registry α) : List String :=
  registry.names.mergeSort fun a b => decide (a ≤ b)

/-- The registry as it is shown to a developer. -/
def describe (registry : Registry α) : String :=
  "PartialRegistry \x7b partials: [" ++ ", ".intercalate (registry.sortedNames.map Text.quoted)
    ++ "] \x7d"

end Registry

end Stencil.Partial
