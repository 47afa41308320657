import Stencil.Block

/-!
# Writing templates

A `Script` is a template program written step by step: it stops at the first error unless the error is
caught, and `toBlock` makes it a block. Nested scopes take scripts of their own.
-/

namespace Stencil

/-- A program that goes on with a value or an error. -/
def Script (α : Type) : Type := (Except RenderError α → Block) → Block

namespace Script

variable {α β : Type}

/-- Goes on after success with what depends on the value. -/
def andThen (script : Script α) (rest : α → Script β) : Script β := fun next =>
  script fun
    | .ok value => rest value next
    | .error error => next (.error error)

/-- Goes on after an error with what depends on the error. -/
def orElse (script : Script α) (handler : RenderError → Script α) : Script α := fun next =>
  script fun
    | .ok value => next (.ok value)
    | .error error => handler error next

instance : Monad Script where
  pure value := fun next => next (.ok value)
  bind := andThen

instance : MonadExceptOf RenderError Script where
  throw error := fun next => next (.error error)
  tryCatch := orElse

def toBlock (script : Script Unit) : Block := script .done

def ofExcept (outcome : Except RenderError α) : Script α := fun next => next outcome

/-- The script that gives the outcome of another one and succeeds. -/
def outcome (script : Script α) : Script (Except RenderError α) := fun next =>
  script fun result => next (.ok result)

/-! ### Steps -/

def shape : Script Shape := fun next => Block.ask .shape fun shape => next (.ok shape)

def depth : Script Nat := fun next => Block.ask .depth fun depth => next (.ok depth)

def formatKey (name : String) : Script String := fun next =>
  Block.ask (.key name) fun key => next (.ok key)

def note (content : Json) : Script Unit := fun next => Block.note content (next (.ok ()))

def act (action : Action) : Script Unit := fun next => Block.act action next

def set (name : String) (value : Json) : Script Unit := act (.set name (.ok value))

def append (value : Json) : Script Unit := act (.append (.ok value))

def merge (value : Json) : Script Unit := act (.merge (.ok value))

def extract (source : Json) (names : List String) : Script Unit :=
  act (.extract source.get? names)

def setNull : Script Unit := act .setNull

def ignoreNil (ignore : Bool) : Script Unit := act (.ignoreNil ignore)

def setKeyFormat (format : KeyFormat) : Script Unit := act (.setKeyFormat format)

/-- Installs the key format of a strategy. -/
def keyFormat (strategy : String) (arguments : List String) : Script Unit := do
  setKeyFormat (← ofExcept (KeyFormat.parse strategy arguments))

def object (body : Script Unit) : Script Unit := do
  act .openObject
  body

def array (body : Script Unit) : Script Unit := do
  act .openArray
  body

/-! ### Nested scopes -/

/-- The node that a script builds in a nested scope. -/
def capture (body : Script Unit) : Script Json := fun next => Block.capture body.toBlock next

/-- Sets an attribute to what a script builds in a nested scope. -/
def child (name : String) (body : Script Unit) : Script Unit := do
  set name (← capture body)

def element (body : Script Unit) : Script Unit := do
  append (← capture body)

/-- Makes the scope an array with an element for each item, built in a scope of its own. -/
def arrayFrom (items : List α) (body : α → Script Unit) : Script Unit := do
  act .openArray
  items.forM fun item => element (body item)

/-! ### Partials -/

def renderPartial (call : PartialCall) : Script Json := fun next => Block.renderPartial call next

def splicePartial (call : PartialCall) : Script Unit := fun next => Block.splicePartial call next

/-- Sets an attribute to what a partial builds. -/
def setPartial (name : String) (call : PartialCall) : Script Unit := do
  set name (← renderPartial call)

def appendPartial (call : PartialCall) : Script Unit := do
  append (← renderPartial call)

/--
The call of a partial for each item of a collection, or the fault of the first item that has no JSON
form.
-/
def collectionCall (items : Option (List Json.Payload)) (name binding : String) :
    Except RenderError PartialCall :=
  match items with
  | none => .ok { name := some name, mode := .absentCollection, binding := some binding }
  | some items =>
    match items.mapM id with
    | .ok values => .ok { name := some name, mode := .collection values, binding := some binding }
    | .error fault => .error (.conversion fault)

/-- The array of nodes that a partial builds for the items of a collection. -/
def renderCollection (items : Option (List Json.Payload)) (name binding : String) : Script Json := do
  renderPartial (← ofExcept (collectionCall items name binding))

/-- Renders a partial for the items of a collection into the scope. -/
def arrayOfPartials (items : Option (List Json.Payload)) (name binding : String) : Script Unit := do
  splicePartial (← ofExcept (collectionCall items name binding))

/-- Sets an attribute to the array that a partial builds for the items of a collection. -/
def setArrayOfPartials (key : String) (items : Option (List Json.Payload)) (name binding : String) :
    Script Unit := do
  set key (← renderCollection items name binding)

/-! ### Fragments -/

/-- Caches what a script builds. -/
def cache (key : Cache.KeyExpr) (options : Cache.Options) (body : Script Unit) : Script Unit :=
  fun next => Block.cache true key options body.toBlock next

/-- Caches what a script builds, or only builds it. -/
def cacheIf (condition : Bool) (key : Cache.KeyExpr) (options : Cache.Options)
    (body : Script Unit) : Script Unit :=
  fun next => Block.cache condition key options body.toBlock next

/-- Makes the scope an array with a cached element for each item. -/
def cacheCollection (items : Option (List Json.Payload)) (options : Cache.Options)
    (key : Option (Nat → Cache.KeyExpr)) (body : Nat → Script Unit) : Script Unit :=
  fun next => Block.cacheCollection items options key (fun index => (body index).toBlock) next

end Script

end Stencil
