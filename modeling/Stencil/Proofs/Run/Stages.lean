import Stencil.Run.Fragments

/-!
# The stages of cache calls

A cache call reads, then goes on with what it has found, then keeps what it has built. The latter two are
steps of their own here, and the calls are put together from them (`fetchOrBuild_eq`, `elementOf_eq`,
`cacheBatched_eq`, `cacheEach_eq`).
-/

namespace Stencil.Run

variable {σ : Type}

def keepFragment (store : Cache.Store σ) (key : String) (lifetime : Option Nat) :
    Except RenderError Json → Run σ (Except RenderError Json)
  | .error error => pure (.error error)
  | .ok node => do
    writeFragment store key lifetime node
    return .ok node

/-- The node that has been read, or else the one that is built. -/
def fragmentFrom (store : Cache.Store σ) (key : String) (lifetime : Option Nat)
    (body : Run σ (Except RenderError Unit)) : Option Json → Run σ (Except RenderError Json)
  | some node => do
    log (.fragmentHit key)
    return .ok node
  | none => do
    log (.fragmentMiss key)
    keepFragment store key lifetime (← nested body)

theorem fetchOrBuild_eq (store : Cache.Store σ) (key : String) (lifetime : Option Nat)
    (body : Run σ (Except RenderError Unit)) :
    fetchOrBuild store key lifetime body =
      readFragment store key >>= fragmentFrom store key lifetime body := by
  refine congrArg (readFragment store key >>= ·) (funext fun kept => ?_)
  cases kept with
  | some node => rfl
  | none =>
    refine congrArg (log (.fragmentMiss key) >>= ·) (funext fun _ => ?_)
    refine congrArg (nested body >>= ·) (funext fun outcome => ?_)
    cases outcome <;> rfl

def decodeFound (found : Entries String) (key : String) : Run σ (Option Json) :=
  match Entries.get? key found with
  | some fragment => decodeFragment key fragment
  | none => pure none

def withBuilt (key : String) (outcome : Except RenderError Json) :
    Except RenderError (Json × Option (String × String)) :=
  outcome.map fun node => (node, some (key, node.compact))

/-- The node of an element that was found, or else the one that is built. -/
def elementFrom (body : Nat → Run σ (Except RenderError Unit)) (element : Nat × String) :
    Option Json → Run σ (Except RenderError (Json × Option (String × String)))
  | some node => do
    log (.fragmentHit element.2)
    return .ok (node, none)
  | none => do
    log (.fragmentMiss element.2)
    return withBuilt element.2 (← nested (body element.1))

theorem elementOf_eq (found : Entries String) (body : Nat → Run σ (Except RenderError Unit))
    (element : Nat × String) :
    elementOf found body element = decodeFound found element.2 >>= elementFrom body element := by
  obtain ⟨index, key⟩ := element
  unfold elementOf decodeFound
  dsimp only
  cases Entries.get? key found <;> refine congrArg (_ >>= ·) (funext fun kept => ?_)
  all_goals
    cases kept with
    | some node => rfl
    | none =>
      refine congrArg (log (.fragmentMiss key) >>= ·) (funext fun _ => ?_)
      refine congrArg (nested (body index) >>= ·) (funext fun outcome => ?_)
      cases outcome <;> rfl

/-- Keeps the nodes of the elements that had to be built, and gives the array of all. -/
def keepElements (batch : Cache.Batch σ) (lifetime : Option Nat) :
    Except RenderError (List (Json × Option (String × String))) → Run σ (Except RenderError Json)
  | .error error => pure (.error error)
  | .ok results => do
    writeFragments batch lifetime (results.filterMap Prod.snd)
    return .ok (.arr (results.map Prod.fst))

theorem cacheBatched_eq (batch : Cache.Batch σ) (lifetime : Option Nat)
    (body : Nat → Run σ (Except RenderError Unit)) (elements : List (Nat × String)) :
    cacheBatched batch lifetime body elements =
      readFragments batch (elements.map Prod.snd) >>= fun found =>
        collect (elementOf found body) elements >>= keepElements batch lifetime := by
  refine congrArg (readFragments batch (elements.map Prod.snd) >>= ·) (funext fun found => ?_)
  refine congrArg (collect (elementOf found body) elements >>= ·) (funext fun outcome => ?_)
  cases outcome <;> rfl

def cacheNamed (store : Cache.Store σ) (lifetime : Option Nat)
    (body : Nat → Run σ (Except RenderError Unit)) :
    Except RenderError (List (Nat × String)) → Run σ (Except RenderError Json)
  | .error error => pure (.error error)
  | .ok elements =>
    match store.batch with
    | some batch => cacheBatched batch lifetime body elements
    | none => cacheSingly store lifetime body elements

theorem cacheEach_eq {renderer : Renderer σ} {store : Cache.Store σ} (active : renderer.activeStore = some store)
    (items : List Json.Payload) (options : Cache.Options) (key : Option (Nat → Cache.KeyExpr))
    (body : Nat → Run σ (Except RenderError Unit)) :
    cacheEach renderer (some items) options key body =
      collect (nameElement renderer options key) (indexed items) >>= fun names =>
        cacheNamed store (renderer.lifetime options) body names >>= splice := by
  simp only [cacheEach, active]
  refine congrArg (collect (nameElement renderer options key) (indexed items) >>= ·)
    (funext fun outcome => ?_)
  cases outcome with
  | error error => rfl
  | ok elements =>
    unfold cacheNamed
    cases store.batch <;> rfl

/-! ### Calls that cache nothing -/

def bypassed (condition : Bool) (key : Cache.KeyExpr) : LogEntry :=
  if condition then .fragmentBypassed key.expand else .conditionFalse key.expand

theorem cacheOne_inactive {renderer : Renderer σ} (inactive : renderer.activeStore = none) (condition : Bool)
    (key : Cache.KeyExpr) (options : Cache.Options) (body : Run σ (Except RenderError Unit)) :
    cacheOne renderer condition key options body =
      log (bypassed condition key) >>= fun _ => nested body >>= splice := by
  cases condition with
  | true => simp only [cacheOne, inactive, bypassed, if_true]
  | false => rfl

theorem cacheEach_inactive {renderer : Renderer σ} (inactive : renderer.activeStore = none)
    (items : List Json.Payload) (options : Cache.Options) (key : Option (Nat → Cache.KeyExpr))
    (body : Nat → Run σ (Except RenderError Unit)) :
    cacheEach renderer (some items) options key body =
      log (.collectionBypassed items.length) >>= fun _ => buildElements body (List.range items.length) := by
  simp only [cacheEach, inactive]

end Stencil.Run
