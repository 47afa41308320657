import Stencil.Cache.Namer
import Stencil.Partial.Locals
import Stencil.Partial.Name
import Stencil.Scope
import Stencil.Settings

/-!
# Template programs

A `Block` is what a template does to the scope it runs in, as data: one step and, for every outcome of
that step, the block that follows. So a block may look at every error and go on, and a block that stops
at the first error is one whose continuations say so. A partial is a block for each choice of locals.
-/

namespace Stencil

/-- What a block may ask. -/
inductive Query where
  | shape
  | depth
  /-- An attribute's key in the scope's format. -/
  | key (name : String)
  | settings

def Query.Answer : Query → Type
  | .shape => Shape
  | .depth => Nat
  | .key _ => String
  | .settings => Settings

/-- A step that concerns the scope alone. -/
inductive Action where
  | openObject
  | openArray
  | set (name : String) (value : Json.Payload)
  | append (value : Json.Payload)
  | appendAll (values : List Json.Payload)
  | merge (value : Json.Payload)
  | extract (source : String → Option Json) (names : List String)
  | setNull
  | ignoreNil (ignore : Bool)
  | setKeyFormat (format : KeyFormat)

/-- Goes on with a value's JSON form if it has one. -/
def Scope.withPayload (operation : Json → Scope → Edited) (value : Json.Payload) (scope : Scope) :
    Edited :=
  match value with
  | .ok value => operation value scope
  | .error fault => (.error (.conversion fault), scope)

def Action.apply : Action → Scope → Edited
  | .openObject, scope => scope.openObject .openObject
  | .openArray, scope => scope.openArray .openArray
  | .set name value, scope => scope.withPayload (Scope.set name) value
  | .append value, scope => scope.withPayload Scope.push value
  | .appendAll values, scope => scope.appendAll values
  | .merge value, scope => scope.withPayload Scope.merge value
  | .extract source names, scope => scope.extract source names
  | .setNull, scope => (.ok (), scope.setNull)
  | .ignoreNil ignore, scope => (.ok (), { scope with ignoreNil := ignore })
  | .setKeyFormat format, scope => (.ok (), { scope with keyFormat := format })

/-- How often a partial is rendered. -/
inductive PartialMode where
  /-- Once, with the locals of the call. -/
  | once
  /-- Not at all, since there is no collection; the result is an empty array. -/
  | absentCollection
  /-- Once for each element, which is bound beside the locals of the call. -/
  | collection (items : List Json)

structure PartialCall where
  name : Option String := none
  mode : PartialMode := .once
  binding : Option String := none
  locals : Locals := {}

instance : Inhabited PartialCall where
  default := {}

/-- A template program. -/
inductive Block where
  | done (outcome : Except RenderError Unit)
  | ask (query : Query) (next : query.Answer → Block)
  /-- Leaves a note of the template's own among the events of the render. -/
  | note (content : Json) (next : Block)
  | act (action : Action) (next : Except RenderError Unit → Block)
  /-- Runs a block in a nested scope and gives the node that it built. -/
  | capture (block : Block) (next : Except RenderError Json → Block)
  /-- Renders a partial and gives the node that it built. -/
  | renderPartial (call : PartialCall) (next : Except RenderError Json → Block)
  | splicePartial (call : PartialCall) (next : Except RenderError Unit → Block)
  /-- Puts a cached fragment into the scope, or what the block builds; uncached without condition. -/
  | cache (condition : Bool) (key : Cache.KeyExpr) (options : Cache.Options) (block : Block)
      (next : Except RenderError Unit → Block)
  /--
  Puts an array into the scope with a cached element for each item, or what the block of the item's
  index builds. An element's key is the item itself, with that of its index behind it if there are keys.
  -/
  | cacheCollection (items : Option (List Json.Payload)) (options : Cache.Options)
      (key : Option (Nat → Cache.KeyExpr)) (block : Nat → Block)
      (next : Except RenderError Unit → Block)

/-- A partial: a program for each choice of locals. -/
abbrev Template := Locals → Block

end Stencil
