import Stencil.Run.World

/-!
# Cached fragments

A cache call puts a kept fragment into the scope, or what its block builds, which is then kept. A
collection does so for each element: with one batched read and one batched write if the store has them,
else one by one. Failures of the store and fragments that cannot be decoded count as absent. The block
runs in a nested scope in every case, also when nothing is cached.
-/

namespace Stencil.Run

variable {σ α : Type}

/-- The node of a fragment's text, if it can be decoded. -/
def decodeFragment (key fragment : String) : Run σ (Option Json) :=
  match Json.ofText fragment with
  | .ok node => pure (some node)
  | .error fault => do
    log (.undecodable key fault)
    return none

/-- The node that the store keeps under a key. -/
def readFragment (store : Cache.Store σ) (key : String) : Run σ (Option Json) := do
  match ← readStore store key with
  | .ok none => return none
  | .ok (some fragment) => decodeFragment key fragment
  | .error error =>
    log (.readFailed key error)
    return none

/-- Keeps a node under a key. -/
def writeFragment (store : Cache.Store σ) (key : String) (lifetime : Option Nat) (node : Json) :
    Run σ Unit := do
  match ← writeStore store key node.compact lifetime with
  | .ok () => return ()
  | .error error => log (.writeFailed key error)

/-- The kept node of a key, or the one that the body builds, which is then kept. -/
def fetchOrBuild (store : Cache.Store σ) (key : String) (lifetime : Option Nat)
    (body : Run σ (Except RenderError Unit)) : Run σ (Except RenderError Json) := do
  match ← readFragment store key with
  | some node =>
    log (.fragmentHit key)
    return .ok node
  | none =>
    log (.fragmentMiss key)
    match ← nested body with
    | .error error => return .error error
    | .ok node =>
      writeFragment store key lifetime node
      return .ok node

/-- A cache call with its condition. -/
def cacheOne (renderer : Renderer σ) (condition : Bool) (key : Cache.KeyExpr)
    (options : Cache.Options) (body : Run σ (Except RenderError Unit)) :
    Run σ (Except RenderError Unit) := do
  if condition then
    match renderer.activeStore with
    | none =>
      log (.fragmentBypassed key.expand)
      splice (← nested body)
    | some store =>
      let storeKey ← nameFragment renderer key options
      splice (← fetchOrBuild store storeKey (renderer.lifetime options) body)
  else
    log (.conditionFalse key.expand)
    splice (← nested body)

/-! ### Collections -/

def indexed (items : List α) : List (Nat × α) := (List.range items.length).zip items

/-- The key of a collection's element: the item itself, and behind it the key of its index. -/
def elementKey (key : Option (Nat → Cache.KeyExpr)) (index : Nat) (value : Json) : Cache.KeyExpr :=
  match key with
  | some key => .list [.structured value, key index]
  | none => .structured value

def nameElement (renderer : Renderer σ) (options : Cache.Options)
    (key : Option (Nat → Cache.KeyExpr)) (element : Nat × Json.Payload) :
    Run σ (Except RenderError (Nat × String)) := do
  match element.2 with
  | .error fault => return .error (.conversion fault)
  | .ok value =>
    if key.isSome then emit (.keyUsed element.1)
    return .ok (element.1, ← nameFragment renderer (elementKey key element.1 value) options)

/-- Builds the elements of an array in the innermost scope, each in a scope of its own. -/
def buildElements (body : Nat → Run σ (Except RenderError Unit)) (indices : List Nat) :
    Run σ (Except RenderError Unit) := do
  match ← edit (Scope.openArray .openArray) with
  | .error error => return .error error
  | .ok () =>
    let elements ← collect (fun index => do
      match ← nested (body index) with
      | .error error => return .error error
      | .ok node => edit (Scope.push node)) indices
    return elements.map fun _ => ()

/-- The node of an element, with its fragment if it had to be built. -/
def elementOf (found : Entries String) (body : Nat → Run σ (Except RenderError Unit))
    (element : Nat × String) : Run σ (Except RenderError (Json × Option (String × String))) := do
  let (index, key) := element
  let kept ← match Entries.get? key found with
    | some fragment => decodeFragment key fragment
    | none => pure none
  match kept with
  | some node =>
    log (.fragmentHit key)
    return .ok (node, none)
  | none =>
    log (.fragmentMiss key)
    match ← nested (body index) with
    | .error error => return .error error
    | .ok node => return .ok (node, some (key, node.compact))

/-- The fragments of several keys; none if the call fails. -/
def readFragments (batch : Cache.Batch σ) (keys : List String) : Run σ (Entries String) := do
  let found ← match ← readBatch batch keys with
    | .ok found => pure found
    | .error error => do
      log (.batchReadFailed keys.length error)
      pure []
  log (.batchRead found.length keys.length)
  return found

/-- Keeps the fragments of the elements that had to be built. -/
def writeFragments (batch : Cache.Batch σ) (lifetime : Option Nat)
    (fragments : List (String × String)) : Run σ Unit := do
  if fragments.isEmpty then return ()
  let failed ← writeBatch batch fragments lifetime
  failed.forM fun failure => log (.writeFailed failure.1 failure.2)
  log (.batchWrite fragments.length)

/-- The elements of a collection, with one read and one write for all. -/
def cacheBatched (batch : Cache.Batch σ) (lifetime : Option Nat)
    (body : Nat → Run σ (Except RenderError Unit)) (elements : List (Nat × String)) :
    Run σ (Except RenderError Json) := do
  let found ← readFragments batch (elements.map Prod.snd)
  match ← collect (elementOf found body) elements with
  | .error error => return .error error
  | .ok results =>
    writeFragments batch lifetime (results.filterMap Prod.snd)
    return .ok (.arr (results.map Prod.fst))

/-- The elements of a collection, one by one. -/
def cacheSingly (store : Cache.Store σ) (lifetime : Option Nat)
    (body : Nat → Run σ (Except RenderError Unit)) (elements : List (Nat × String)) :
    Run σ (Except RenderError Json) := do
  log (.singleCalls elements.length)
  let nodes ← collect (fun element => fetchOrBuild store element.2 lifetime (body element.1)) elements
  return nodes.map .arr

/-- A cache call for the elements of a collection. -/
def cacheEach (renderer : Renderer σ) (items : Option (List Json.Payload))
    (options : Cache.Options) (key : Option (Nat → Cache.KeyExpr))
    (body : Nat → Run σ (Except RenderError Unit)) : Run σ (Except RenderError Unit) := do
  match items with
  | none => splice (.ok (.arr []))
  | some items =>
    match renderer.activeStore with
    | none =>
      log (.collectionBypassed items.length)
      buildElements body (List.range items.length)
    | some store =>
      match ← collect (nameElement renderer options key) (indexed items) with
      | .error error => return .error error
      | .ok elements =>
        match store.batch with
        | some batch => splice (← cacheBatched batch (renderer.lifetime options) body elements)
        | none => splice (← cacheSingly store (renderer.lifetime options) body elements)

end Stencil.Run
