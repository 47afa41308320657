import Stencil.Proofs.Run.Silent

/-!
# Hereditary properties of partials and cache calls

Rendering partials keeps a hereditary property. Cache calls keep it if it also holds through every call
of the store.
-/

namespace Stencil.Run

variable {ι σ α β : Type}

namespace Hereditary

variable {stopping : Prop} {P : Property ι σ} (kept : Hereditary stopping P)

include kept

theorem depth : Precedes P Run.depth :=
  kept.observing fun _ _ _ same => same

/-! ### Partials -/

section Partials

variable {resolve : String → Except RenderError Template} {renderers : ι → Renderer σ}
  {runBlock : ι → Block → Run σ (Except RenderError Unit)}

theorem renderOnce (shared : ∀ i, (renderers i).resolve = resolve) {name : String} {locals : Locals}
    (each : ∀ template, resolve name = .ok template →
      P Unit fun i => runBlock i (template locals)) :
    P Json fun i => Run.renderOnce (renderers i) (runBlock i) name locals := by
  unfold Run.renderOnce
  simp only [shared]
  cases found : resolve name with
  | error error => exact kept.done (.error error)
  | ok template =>
    refine kept.depth _ fun depth => ?_
    exact kept.log _ _ fun _ => kept.nesting (each template found)

theorem renderEach (shared : ∀ i, (renderers i).resolve = resolve) {name binding : String}
    {locals : Locals} {items : List Json}
    (each : ∀ template, resolve name = .ok template → ∀ item ∈ items,
      P Unit fun i => runBlock i (template (locals.insert binding item))) :
    P Json fun i => Run.renderEach (renderers i) (runBlock i) name binding locals items := by
  refine kept.mapped Json.arr (kept.collect fun item member => ?_)
  exact kept.renderOnce shared fun template found => each template found item member

theorem renderCall (shared : ∀ i, (renderers i).resolve = resolve) {call : PartialCall}
    (each : ∀ block ∈ call.blocks resolve, P Unit fun i => runBlock i block) :
    P Json fun i => Run.renderCall (renderers i) (runBlock i) call := by
  obtain ⟨_ | name, mode, binding, locals⟩ := call
  · exact kept.done _
  · cases mode with
    | once =>
      refine kept.renderOnce shared fun template found => each _ ?_
      simp [PartialCall.blocks, found]
    | absentCollection => exact kept.log _ _ fun _ => kept.done _
    | collection items =>
      refine kept.renderEach shared fun template found item member => each _ ?_
      simp only [PartialCall.blocks, found]
      exact List.mem_map_of_mem member

end Partials

theorem buildElements {body : ι → Nat → Run σ (Except RenderError Unit)} {indices : List Nat}
    (each : ∀ index, P Unit fun i => body i index) :
    P Unit fun i => Run.buildElements (body i) indices := by
  refine kept.succeeding (kept.editing _) (fun _ _ => rfl) fun _ => ?_
  refine kept.mapped (fun _ => ()) (kept.collect fun index _ => ?_)
  refine kept.succeeding (kept.nesting (each index)) (fun _ _ => rfl) fun node => ?_
  exact kept.editing (Scope.push node)

theorem elementOf {body : ι → Nat → Run σ (Except RenderError Unit)}
    (each : ∀ index, P Unit fun i => body i index) (found : Entries String) (element : Nat × String) :
    P (Json × Option (String × String)) fun i => Run.elementOf found (body i) element := by
  simp only [elementOf_eq]
  refine (Silent.decodeFound found element.2).precedes kept False.elim _ ?_
  rintro (_ | node)
  · exact kept.log _ _ fun _ => kept.mapped _ (kept.nesting (each element.1))
  · exact kept.log _ _ fun _ => kept.done _

/-! ### Calls of the store -/

section Stores

variable (storing : Storing P)

include storing

theorem fetchOrBuild (store : Cache.Store σ) (key : String) (lifetime : Option Nat)
    {body : ι → Run σ (Except RenderError Unit)} (each : P Unit body) :
    P Json fun i => Run.fetchOrBuild store key lifetime (body i) := by
  refine (Silent.readFragment store key).precedes kept (fun _ => storing) _ ?_
  rintro (_ | node)
  · refine kept.log _ _ fun _ => ?_
    refine kept.succeeding (kept.nesting each) (fun _ _ => rfl) fun node => ?_
    exact (Silent.writeFragment store key lifetime node).precedes kept (fun _ => storing) _ fun _ => kept.done _
  · exact kept.log _ _ fun _ => kept.done _

theorem cacheBatched (batch : Cache.Batch σ) (lifetime : Option Nat)
    {body : ι → Nat → Run σ (Except RenderError Unit)}
    (each : ∀ index, P Unit fun i => body i index) (elements : List (Nat × String)) :
    P Json fun i => Run.cacheBatched batch lifetime (body i) elements := by
  refine (Silent.readFragments batch _).precedes kept (fun _ => storing) _ fun found => ?_
  refine kept.succeeding (kept.collect fun element _ => kept.elementOf each found element)
    (fun _ _ => rfl) fun results => ?_
  exact (Silent.writeFragments batch lifetime _).precedes kept (fun _ => storing) _ fun _ => kept.done _

theorem cacheSingly (store : Cache.Store σ) (lifetime : Option Nat)
    {body : ι → Nat → Run σ (Except RenderError Unit)}
    (each : ∀ index, P Unit fun i => body i index) (elements : List (Nat × String)) :
    P Json fun i => Run.cacheSingly store lifetime (body i) elements := by
  refine kept.log _ _ fun _ => kept.mapped Json.arr (kept.collect fun element _ => ?_)
  exact kept.fetchOrBuild storing store element.2 lifetime (each element.1)

theorem cacheOne (renderer : Renderer σ) (condition : Bool) (key : Cache.KeyExpr)
    (options : Cache.Options) {body : ι → Run σ (Except RenderError Unit)} (each : P Unit body) :
    P Unit fun i => Run.cacheOne renderer condition key options (body i) := by
  unfold Run.cacheOne
  split
  · split
    · exact kept.log _ _ fun _ => kept.spliced (kept.nesting each)
    · refine (Silent.nameFragment renderer key options).precedes kept False.elim _ fun name => ?_
      exact kept.spliced (kept.fetchOrBuild storing _ name _ each)
  · exact kept.log _ _ fun _ => kept.spliced (kept.nesting each)

theorem cacheEach (renderer : Renderer σ) (items : Option (List Json.Payload))
    (options : Cache.Options) (key : Option (Nat → Cache.KeyExpr))
    {body : ι → Nat → Run σ (Except RenderError Unit)}
    (each : ∀ index, P Unit fun i => body i index) :
    P Unit fun i => Run.cacheEach renderer items options key (body i) := by
  unfold Run.cacheEach
  split
  · exact kept.splice _
  · split
    · exact kept.log _ _ fun _ => kept.buildElements each
    · refine (Silent.nameElements renderer options key _).precedes kept False.elim _ ?_
      rintro (error | elements)
      · exact kept.done _
      · dsimp only
        split
        · exact kept.spliced (kept.cacheBatched storing _ _ each elements)
        · exact kept.spliced (kept.cacheSingly storing _ _ each elements)

end Stores

end Hereditary

end Stencil.Run
