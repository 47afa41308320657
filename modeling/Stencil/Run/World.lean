import Stencil.Builder
import Stencil.Event
import Stencil.Renderer

/-!
# The state of a render

A render changes three things: the scopes of its document, the state of the store and the events it
leaves behind. A computation over them has no result where the nesting of partials exhausts its bound;
no block can notice that. `nested` is how every nested scope is opened and closed.
-/

namespace Stencil

/-- What a render changes; the latest event comes first. -/
structure World (σ : Type) where
  builder : Builder
  store : σ
  events : List Event

/-- A computation of a render; it is absent if partials are nested beyond the bound. -/
abbrev Run (σ : Type) := StateT (World σ) Option

namespace Run

variable {σ α β : Type}

/-- Leaves an event behind. -/
def emit (event : Event) : Run σ Unit :=
  modify fun world => { world with events := event :: world.events }

def log (entry : LogEntry) : Run σ Unit := emit (.log entry)

/-- How deep the innermost scope is nested. -/
def depth : Run σ Nat := do
  return (← get).builder.depth

/-- Performs an operation on the innermost scope. -/
def edit (operation : Scope → Edited) : Run σ (Except RenderError Unit) :=
  modifyGet fun world =>
    let (outcome, builder) := world.builder.edit operation
    (outcome, { world with builder })

/-- Runs a body in a nested scope and gives the node that the scope resolves to. -/
def nested (body : Run σ (Except RenderError Unit)) : Run σ (Except RenderError Json) := do
  modify fun world => { world with builder := world.builder.push }
  let outcome ← body
  let node ← modifyGet fun world =>
    let (node, builder) := world.builder.pop
    (node, { world with builder })
  return outcome.map fun _ => node

/-- Puts a node into the innermost scope, if there is one. -/
def splice (node : Except RenderError Json) : Run σ (Except RenderError Unit) :=
  match node with
  | .ok node => edit (Scope.splice node)
  | .error error => pure (.error error)

/-- Performs one computation for each item and gives the results, up to the first failure. -/
def collect (step : α → Run σ (Except RenderError β)) :
    List α → Run σ (Except RenderError (List β))
  | [] => pure (.ok [])
  | item :: rest => do
    match ← step item with
    | .error error => return .error error
    | .ok value =>
      match ← collect step rest with
      | .error error => return .error error
      | .ok values => return .ok (value :: values)

/-! ### Calls of the store -/

/-- Performs a call of the store. -/
def withStore (call : σ → α × σ) : Run σ α :=
  modifyGet fun world =>
    let (answer, store) := call world.store
    (answer, { world with store })

def readStore (store : Cache.Store σ) (key : String) :
    Run σ (Except Cache.StoreError (Option String)) := do
  let answer ← withStore (store.read key)
  emit (.read key answer)
  return answer

def writeStore (store : Cache.Store σ) (key fragment : String) (lifetime : Option Nat) :
    Run σ (Except Cache.StoreError Unit) := do
  let answer ← withStore (store.write key fragment lifetime)
  emit (.write key fragment lifetime answer)
  return answer

def readBatch (batch : Cache.Batch σ) (keys : List String) :
    Run σ (Except Cache.StoreError (Entries String)) := do
  let answer ← withStore (batch.read keys)
  emit (.readBatch keys answer)
  return answer

def writeBatch (batch : Cache.Batch σ) (fragments : List (String × String))
    (lifetime : Option Nat) : Run σ (List (String × Cache.StoreError)) := do
  let failed ← withStore (batch.write fragments lifetime)
  emit (.writeBatch fragments lifetime failed)
  return failed

/-- The key under which the store keeps a fragment, the namer being asked. -/
def nameFragment (renderer : Renderer σ) (key : Cache.KeyExpr) (options : Cache.Options) :
    Run σ String := do
  let capability := (renderer.namer.name key options).2
  emit (.askedCurrent key options)
  if capability ≠ .current then emit (.askedLegacy key)
  if capability = .legacy then log .legacyNaming
  return renderer.storeKey key options

end Run

end Stencil
