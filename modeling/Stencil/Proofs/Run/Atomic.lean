import Stencil.Proofs.Cache.Warm
import Stencil.Proofs.Run.Operations

/-!
# Calls that fail

A call that changes its scope by one edit fails as a whole: whatever it has built before, and however deep
inside of it the error has come from, the root and all open scopes are as they were before the call
(`failed_call_keeps_scopes`). Only arrays that are built in place, one element at a time, may stay half done.
-/

namespace Stencil

open Run

namespace Operation

/-- The call builds no array in place. -/
def Atomic : Operation → Prop
  | .act (.appendAll _) | .arrayFrom _ _ | .cacheCollection _ _ _ _ => False
  | _ => True

variable {σ : Type} (renderer : Renderer σ) (bound : Nat)

theorem fill_of_atomic {operation : Operation} (atomic : operation.Atomic) :
    operation.fill renderer bound = pure (.ok ()) := by
  cases operation with
  | arrayFrom items body => exact atomic.elim
  | cacheCollection items options key body => exact atomic.elim
  | _ => rfl

theorem whole_of_ready {operation : Operation} (atomic : operation.Atomic) {change : Change}
    {world middle : World σ} (ran : operation.ready renderer bound world = some (.ok change, middle)) :
    change.Whole := by
  rintro values rfl
  obtain ⟨action, rfl, ⟨⟩⟩ | attaches := operation.change_of_ready renderer bound ran
  · exact atomic
  · exact attaches

end Operation

/--
A call that fails leaves the root and all open scopes as they are, whatever it has built and whether it
uses a store or not; what follows in the block goes on from there.
-/
theorem Renderer.failed_call_keeps_scopes {σ : Type} (renderer : Renderer σ) {operation : Operation}
    (atomic : operation.Atomic) :
    (operation.script.toBlock.Finite renderer.resolve → ∀ world : World σ,
      ∃ bound result, operation.run renderer bound world = some result) ∧
    ∀ bound,
      (∀ next, (operation.script next).runWithin renderer bound =
        operation.run renderer bound >>= fun outcome => (next outcome).runWithin renderer bound) ∧
      ∀ (world after : World σ) (error : RenderError),
        operation.run renderer bound world = some (.error error, after) → after.builder = world.builder := by
  refine ⟨operation.exists_run renderer, fun bound => ⟨operation.runWithin_script renderer bound, ?_⟩⟩
  intro world after error ran
  rw [operation.run_eq, operation.fill_of_atomic renderer bound atomic, staged, onSuccess_done] at ran
  obtain ⟨failure, readyRan, -⟩ | ⟨change, middle, readyRan, editRan⟩ := onSuccess_some ran
  · exact operation.keepsScopes_ready renderer bound world _ after readyRan
  · have kept : middle.builder = world.builder :=
      operation.keepsScopes_ready renderer bound world _ middle readyRan
    have whole : change.Whole := operation.whole_of_ready renderer bound atomic readyRan
    obtain ⟨failed, rfl⟩ := result_inj editRan
    have same : (change.apply middle.builder.current).2 = middle.builder.current :=
      change.eq_of_error whole (Prod.ext failed rfl)
    rw [← kept]
    exact (congrArg (fun scope => middle.builder.setCurrent scope) same).trans (Builder.setCurrent_current _)

namespace Renderer

/-- A cached fragment with a list in it, whose second element takes attributes but then no element. -/
def brokenFragment : Operation :=
  .cache true (.text "posts") { lifetime := some 60 } do
    Script.ignoreNil true
    Script.child "posts" do
      Script.element (Script.set "id" (.num (.int 1)))
      Script.element do
        Script.merge (.obj [("id", .num (.int 2)), ("title", .null)])
        Script.append (.bool true)

/-- A member of the root, and an open scope in which nothing has been written. -/
def untouched : World Cache.MemoryStore :=
  ⟨⟨⟨.members [("outer", .bool true)], .identity, true⟩, [⟨.empty, ⟨[.downcase]⟩, false⟩]⟩, {}, []⟩

theorem failed_call_keeps_scopes_brokenFragment :
    (∃ bound result, brokenFragment.run withMemory bound untouched = some result) ∧
      ∃ error after, brokenFragment.run withMemory 0 untouched = some (.error error, after) ∧
        after.builder = untouched.builder := by
  have atomic : brokenFragment.Atomic := trivial
  obtain ⟨results, kept⟩ := failed_call_keeps_scopes withMemory atomic
  refine ⟨results (Block.finite_of_no_partials Block.blocks_noPartials _) untouched, ?_⟩
  have failed : (brokenFragment.run withMemory 0 untouched).map (fun result => result.1.toOption) = some none := by
    decide +kernel
  obtain ⟨⟨error | _, after⟩, ran, same⟩ := Option.map_eq_some_iff.1 failed
  · exact ⟨error, after, ran, (kept 0).2 untouched after error ran⟩
  · nomatch same

end Renderer

end Stencil
