import Stencil.Run.Fragments
import Stencil.Run.Partials

/-!
# Running blocks

`Block.run` performs the steps of a block in order. It is recursive in the block; the blocks of partials
are run by a parameter, and `runWithin` bounds how deep partials call one another. A run that stays
within the bound has the same result under every greater one.
-/

namespace Stencil

variable {σ : Type}

def Query.answer (renderer : Renderer σ) (builder : Builder) : (query : Query) → query.Answer
  | .shape => builder.current.shape
  | .depth => builder.depth
  | .key name => builder.current.keyFormat.apply name
  | .settings => renderer.settings

namespace Run

/-- Performs an action on the innermost scope. -/
def perform (action : Action) : Run σ (Except RenderError Unit) := do
  if let .setKeyFormat format := action then log (.keyFormatSet format (← depth))
  edit action.apply

end Run

open Run

/-- Runs a block, `call` running the blocks of partials. -/
def Block.run (renderer : Renderer σ) (call : Block → Run σ (Except RenderError Unit)) :
    Block → Run σ (Except RenderError Unit)
  | .done outcome => pure outcome
  | .ask query next => do
    (next (query.answer renderer (← get).builder)).run renderer call
  | .note content next => do
    emit (.note content)
    next.run renderer call
  | .act action next => do
    (next (← perform action)).run renderer call
  | .capture block next => do
    (next (← nested (block.run renderer call))).run renderer call
  | .renderPartial partialCall next => do
    (next (← renderCall renderer call partialCall)).run renderer call
  | .splicePartial partialCall next => do
    (next (← splice (← renderCall renderer call partialCall))).run renderer call
  | .cache condition key options block next => do
    (next (← cacheOne renderer condition key options (block.run renderer call))).run renderer call
  | .cacheCollection items options key block next => do
    (next (← cacheEach renderer items options key fun index =>
      (block index).run renderer call)).run renderer call

/-- Runs a block in which partials are nested at most `bound` deep. -/
def Block.runWithin (renderer : Renderer σ) : Nat → Block → Run σ (Except RenderError Unit)
  | 0 => Block.run renderer fun _ => failure
  | bound + 1 => Block.run renderer (Block.runWithin renderer bound)

end Stencil
