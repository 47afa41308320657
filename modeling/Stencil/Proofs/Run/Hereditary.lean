import Stencil.Proofs.Block.Reach
import Stencil.Render

/-!
# Properties of runs that combine

A property of runs is `Hereditary` if it is kept when runs are put together: in sequence, behind steps
that only look at the scope or leave events behind, and in a nested scope. Such a property holds of the
run of a block as soon as cache calls keep it (`runWithin_of_hereditary`). A property may relate several
runs, one for each index; it is then about a family of runs that differ in their renderer or their bound.
If it is `stopping`, only continuations that pass errors on need to keep it.
-/

namespace Stencil

def Event.ofStore : Event → Bool
  | .read .. | .write .. | .readBatch .. | .writeBatch .. => true
  | _ => false

namespace Run

variable {ι σ α β : Type}

/-- A property of a family of runs, for every type of result. -/
abbrev Property (ι σ : Type) := (α : Type) → (ι → Run σ (Except RenderError α)) → Prop

/-- A continuation that passes errors on without doing anything. -/
def PassesErrors (next : Except RenderError α → Run σ (Except RenderError β)) : Prop :=
  ∀ error, ∃ failure, next (.error error) = pure (.error failure)

/-- A computation that may come before the runs of every family with the property. -/
def Precedes (P : Property ι σ) (first : Run σ β) : Prop :=
  ∀ {α : Type} (next : ι → β → Run σ (Except RenderError α)),
    (∀ value, P α fun i => next i value) → P α fun i => first >>= next i

def observe (view : Builder → β) : Run σ β := do
  return view (← get).builder

/-- A view of the innermost scope and of how deep it is nested. -/
def IsLocal (view : Builder → β) : Prop :=
  ∀ one other : Builder, one.current = other.current → one.depth = other.depth → view one = view other

structure Hereditary (stopping : Prop) (P : Property ι σ) : Prop where
  done {α : Type} (outcome : Except RenderError α) : P α fun _ => pure outcome
  sequence {α β : Type} {first : ι → Run σ (Except RenderError α)}
    {next : ι → Except RenderError α → Run σ (Except RenderError β)} :
    P α first → (∀ outcome, P β fun i => next i outcome) →
      (stopping → ∀ i, PassesErrors (next i)) → P β fun i => first i >>= next i
  emitting {event : Event} : event.ofStore = false → Precedes P (emit event)
  observing {β : Type} {view : Builder → β} : IsLocal view → Precedes P (observe view)
  editing (operation : Scope → Edited) : P Unit fun _ => edit operation
  nesting {body : ι → Run σ (Except RenderError Unit)} : P Unit body → P Json fun i => nested (body i)

namespace Precedes

variable {P : Property ι σ}

theorem pure (value : β) : Precedes P (Pure.pure value : Run σ β) := by
  intro α next each
  simpa using each value

theorem bind {γ : Type} {first : Run σ β} {second : β → Run σ γ} (one : Precedes P first)
    (other : ∀ value, Precedes P (second value)) : Precedes P (first >>= second) := by
  intro α next each
  simp only [bind_assoc]
  exact one _ fun value => other value next each

end Precedes

namespace Hereditary

variable {stopping : Prop} {P : Property ι σ} (kept : Hereditary stopping P)

include kept

theorem log (entry : LogEntry) : Precedes P (Run.log entry) := kept.emitting rfl

theorem splice (node : Except RenderError Json) : P Unit fun _ => Run.splice node := by
  cases node with
  | ok node => exact kept.editing (Scope.splice node)
  | error error => exact kept.done (.error error)

theorem succeeding {first : ι → Run σ (Except RenderError α)}
    {next : ι → Except RenderError α → Run σ (Except RenderError β)} (one : P α first)
    (failed : ∀ i error, next i (.error error) = pure (.error error))
    (other : ∀ value, P β fun i => next i (.ok value)) : P β fun i => first i >>= next i := by
  refine kept.sequence one ?_ fun _ i error => ⟨error, failed i error⟩
  rintro (error | value)
  · simpa only [failed] using kept.done (.error error)
  · exact other value

theorem mapped {first : ι → Run σ (Except RenderError α)} (f : α → β) (one : P α first) :
    P β fun i => (do return (← first i).map f) :=
  kept.succeeding one (fun _ _ => rfl) fun value => kept.done (.ok (f value))

theorem spliced {run : ι → Run σ (Except RenderError Json)} (each : P Json run) :
    P Unit fun i => run i >>= Run.splice :=
  kept.succeeding each (fun _ _ => rfl) fun node => kept.splice (.ok node)

theorem collect {step : ι → α → Run σ (Except RenderError β)} {items : List α}
    (each : ∀ item ∈ items, P β fun i => step i item) :
    P (List β) fun i => Run.collect (step i) items := by
  induction items with
  | nil => exact kept.done (.ok [])
  | cons item rest ih =>
    have others := ih fun other member => each other (List.mem_cons_of_mem _ member)
    refine kept.succeeding (each item List.mem_cons_self) (fun _ _ => rfl) fun value => ?_
    exact kept.succeeding others (fun _ _ => rfl) fun values => kept.done (.ok (value :: values))

end Hereditary

end Run

end Stencil
