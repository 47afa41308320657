import Stencil.Run.Block

/-!
# Rendering documents

A render runs a block on a fresh root scope. If the block succeeds, the document is the node that the
scope resolves to; an untouched document is null. `render` and `renderPretty` write it as text.
-/

namespace Stencil

variable {σ : Type}

/-- What a render gives: its outcome, the state of the store afterwards and its events in order. -/
structure Rendered (σ α : Type) where
  outcome : Except RenderError α
  store : σ
  events : List Event

def Rendered.map {α β : Type} (f : α → β) (rendered : Rendered σ α) : Rendered σ β :=
  { rendered with outcome := rendered.outcome.map f }

namespace Renderer

/-- The state in which a render starts. -/
def start (renderer : Renderer σ) (store : σ) : World σ :=
  ⟨.new renderer.keyFormat renderer.settings.ignoreNil, store, []⟩

/-- The block's outcome with the document as it stands after it, whether it failed or not. -/
def build (renderer : Renderer σ) (bound : Nat) (block : Block) (store : σ) :
    Option (Rendered σ Unit × Json) :=
  (block.runWithin renderer bound (renderer.start store)).map fun (outcome, world) =>
    (⟨outcome, world.store, world.events.reverse⟩, world.builder.result)

/-- The document that a block builds. -/
def renderNode (renderer : Renderer σ) (bound : Nat) (block : Block) (store : σ) :
    Option (Rendered σ Json) :=
  (renderer.build bound block store).map fun (rendered, document) => rendered.map fun _ => document

def render (renderer : Renderer σ) (bound : Nat) (block : Block) (store : σ) :
    Option (Rendered σ String) :=
  (renderer.renderNode bound block store).map (Rendered.map Json.compact)

def renderPretty (renderer : Renderer σ) (bound : Nat) (block : Block) (store : σ) :
    Option (Rendered σ String) :=
  (renderer.renderNode bound block store).map (Rendered.map Json.pretty)

/-- A partial as a document of its own. -/
def renderTemplate (renderer : Renderer σ) (bound : Nat) (name : String) (locals : Locals)
    (store : σ) : Option (Rendered σ String) :=
  match renderer.resolve name with
  | .error error => some ⟨.error error, store, []⟩
  | .ok template =>
    (renderer.render bound (template locals) store).map fun rendered =>
      { rendered with events := .log (.renderingTemplate name) :: rendered.events }

end Renderer

end Stencil
