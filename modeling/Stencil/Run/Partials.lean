import Stencil.Run.World

/-!
# Rendering partials

A partial runs in a nested scope and gives the node that it built, once or for each element of a
collection. The computation of a template's block is a parameter.
-/

namespace Stencil.Run

variable {σ : Type}

def renderOnce (renderer : Renderer σ) (runBlock : Block → Run σ (Except RenderError Unit))
    (name : String) (locals : Locals) : Run σ (Except RenderError Json) := do
  match renderer.resolve name with
  | .error error => return .error error
  | .ok template =>
    log (.renderingPartial name (← depth))
    nested (runBlock (template locals))

/-- Renders a partial for each element, which is bound beside the other locals. -/
def renderEach (renderer : Renderer σ) (runBlock : Block → Run σ (Except RenderError Unit))
    (name binding : String) (locals : Locals) (items : List Json) :
    Run σ (Except RenderError Json) := do
  let nodes ← collect (fun item => renderOnce renderer runBlock name (locals.insert binding item))
    items
  return nodes.map .arr

def renderCall (renderer : Renderer σ) (runBlock : Block → Run σ (Except RenderError Unit))
    (call : PartialCall) : Run σ (Except RenderError Json) :=
  match call.name with
  | none => pure (.error .missingPartialName)
  | some name =>
    match call.mode with
    | .once => renderOnce renderer runBlock name call.locals
    | .absentCollection => do
      log (.noCollection name)
      return .ok (.arr [])
    | .collection items =>
      renderEach renderer runBlock name (call.binding.getD (Partial.defaultBinding name))
        call.locals items

end Stencil.Run
