import Stencil.Error
import Stencil.Key.Format

/-!
# Scopes

A scope is one node under construction with the settings that scopes opened within it inherit. Its
body is committed to one shape by the first operation that implies one; an operation that implies
another shape fails. Every operation gives its outcome and the scope afterwards, also when it fails.
`toNode_splice_fresh` says that splicing a node into a fresh scope and finishing it gives the node
back.
-/

namespace Stencil

/-- What a scope holds. -/
inductive Body where
  | empty
  | members (entries : Entries Json)
  | elements (items : List Json)
  | whole (value : Json)
  deriving DecidableEq

def Body.shape : Body → Shape
  | .empty => .undetermined
  | .members _ => .object
  | .elements _ => .array
  | .whole _ => .value

/-- The shape that a scope takes when a node is spliced into it. -/
def Json.shape : Json → Shape
  | .null => .undetermined
  | .obj _ => .object
  | .arr _ => .array
  | _ => .value

/-- One node under construction and the settings its descendants inherit. -/
structure Scope where
  body : Body
  keyFormat : KeyFormat
  ignoreNil : Bool
  deriving DecidableEq

/-- The outcome of an operation on a scope, and the scope afterwards. -/
abbrev Edited := Except RenderError Unit × Scope

namespace Scope

/-- A scope in which nothing has been written. -/
def fresh (keyFormat : KeyFormat) (ignoreNil : Bool) : Scope := ⟨.empty, keyFormat, ignoreNil⟩

/-- A fresh scope with the settings of this one. -/
def child (scope : Scope) : Scope := fresh scope.keyFormat scope.ignoreNil

def shape (scope : Scope) : Shape := scope.body.shape

/-- The failure of an operation that implies another shape. -/
def conflict (attempt : Attempt) (scope : Scope) : Edited :=
  (.error (.shapeConflict attempt scope.shape), scope)

/-- Commits the scope to an object and rewrites its members. -/
def editMembers (attempt : Attempt) (edit : Entries Json → Entries Json) (scope : Scope) : Edited :=
  match scope.body with
  | .empty => (.ok (), { scope with body := .members (edit []) })
  | .members entries => (.ok (), { scope with body := .members (edit entries) })
  | _ => conflict attempt scope

/-- Commits the scope to an array and rewrites its elements. -/
def editElements (attempt : Attempt) (edit : List Json → List Json) (scope : Scope) : Edited :=
  match scope.body with
  | .empty => (.ok (), { scope with body := .elements (edit []) })
  | .elements items => (.ok (), { scope with body := .elements (edit items) })
  | _ => conflict attempt scope

def openObject (attempt : Attempt) (scope : Scope) : Edited := editMembers attempt id scope

def openArray (attempt : Attempt) (scope : Scope) : Edited := editElements attempt id scope

/-- Sets an attribute whose key is in its final form. -/
def insert (key : String) (value : Json) (scope : Scope) : Edited :=
  editMembers .setAttribute (Entries.insert key value) scope

/-- Sets an attribute, its key in the scope's format; a null is skipped if the scope ignores nulls. -/
def set (name : String) (value : Json) (scope : Scope) : Edited :=
  if value.isNull && scope.ignoreNil then (.ok (), scope)
  else scope.insert (scope.keyFormat.apply name) value

def push (value : Json) (scope : Scope) : Edited :=
  editElements .appendElement (· ++ [value]) scope

/-- Performs one operation for each item, up to the first failure. -/
def forEach {α : Type} (step : α → Scope → Edited) : List α → Scope → Edited
  | [], scope => (.ok (), scope)
  | item :: rest, scope =>
    match step item scope with
    | (.ok (), scope) => forEach step rest scope
    | failed => failed

/-- Sets the named attributes of a source; one that the source lacks is null. -/
def extract (source : String → Option Json) (names : List String) (scope : Scope) : Edited :=
  forEach (fun name => set name ((source name).getD .null)) names scope

/--
Sets the members of an object, or appends the elements of an array. Null changes nothing, and
another value does not fit into any scope.
-/
def merge (value : Json) (scope : Scope) : Edited :=
  match value with
  | .null => (.ok (), scope)
  | .obj members =>
    match scope.openObject .mergeObject with
    | (.ok (), scope) => forEach (fun member => set member.1 member.2) members scope
    | failed => failed
  | .arr items => scope.editElements .mergeArray (· ++ items)
  | _ => conflict .mergeScalar scope

/--
Puts a finished node into the scope. The keys of an object are final already. Null changes nothing,
and another scalar becomes the whole value of a scope that holds no members and no elements.
-/
def splice (node : Json) (scope : Scope) : Edited :=
  match node with
  | .null => (.ok (), scope)
  | .obj members => scope.editMembers .mergeObject (Entries.insertAll · members)
  | .arr items => scope.editElements .mergeArray (· ++ items)
  | scalar =>
    match scope.body with
    | .empty | .whole _ => (.ok (), { scope with body := .whole scalar })
    | _ => conflict .mergeScalar scope

/-- Appends values that may have no JSON form, up to the first that has none. -/
def appendAll (values : List Json.Payload) (scope : Scope) : Edited :=
  match scope.openArray .openArray with
  | (.ok (), scope) =>
    forEach (fun value scope =>
      match value with
      | .ok value => push value scope
      | .error fault => (.error (.conversion fault), scope)) values scope
  | failed => failed

/-- Resolves the scope to null, whatever it held. -/
def setNull (scope : Scope) : Scope := { scope with body := .whole .null }

/-- The node that a finished scope resolves to. -/
def toNode (scope : Scope) : Json :=
  match scope.body with
  | .empty => .null
  | .members entries => .obj entries
  | .elements items => .arr items
  | .whole value => value

theorem toNode_splice_fresh {node : Json} (wellFormed : node.WellFormed) (keyFormat : KeyFormat)
    (ignoreNil : Bool) : ((fresh keyFormat ignoreNil).splice node).2.toNode = node := by
  cases node with
  | obj members =>
    have same : Entries.insertAll [] members = members := Entries.ofPairs_of_distinct wellFormed.1
    simp [splice, fresh, editMembers, toNode, same]
  | _ => simp [splice, fresh, editElements, toNode]

end Scope

end Stencil
