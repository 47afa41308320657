import Stencil.Block

/-!
# Invariants of a scope

Loops of a scope keep what each of their steps keeps, whether or not they get to their end. So an invariant of
all actions is one of the few operations that actions are made of.
-/

namespace Stencil.Scope

/-- A scope that has the property has it after the operation as well, also if that fails. -/
def Preserves (P : Scope → Prop) (operation : Scope → Edited) : Prop :=
  ∀ scope, P scope → P (operation scope).2

namespace Preserves

variable {α : Type} {P : Scope → Prop}

theorem refused (error : RenderError) : Preserves P fun scope => (.error error, scope) :=
  fun _ kept => kept

theorem forEach {step : α → Scope → Edited} {items : List α} (each : ∀ item ∈ items, Preserves P (step item)) :
    Preserves P (Scope.forEach step items) := by
  induction items with
  | nil => exact fun _ kept => kept
  | cons item rest ih =>
    intro scope kept
    have first := each item List.mem_cons_self scope kept
    have others := ih fun item member => each item (List.mem_cons_of_mem _ member)
    unfold Scope.forEach
    split
    · rename_i after same
      rw [same] at first
      exact others after first
    · exact first

/-- The second operation comes only after the first one has succeeded. -/
theorem followed {first : Scope → Edited} {next : Scope → Edited} (one : Preserves P first)
    (other : Preserves P next) : Preserves P fun scope =>
      match first scope with
      | (.ok (), scope) => next scope
      | failed => failed := by
  intro scope kept
  have opened := one scope kept
  dsimp only
  split
  · rename_i after same
    rw [same] at opened
    exact other after opened
  · exact opened

theorem merge {value : Json} (opens : Preserves P (openObject .mergeObject))
    (sets : ∀ members, value = .obj members → ∀ member ∈ members, Preserves P (set member.1 member.2))
    (appends : ∀ items, value = .arr items → Preserves P (editElements .mergeArray (· ++ items))) :
    Preserves P (Scope.merge value) := by
  cases value with
  | null => exact fun _ kept => kept
  | obj members => exact opens.followed (forEach (sets members rfl))
  | arr items => exact appends items rfl
  | _ => exact fun _ kept => kept

theorem appendAll {values : List Json.Payload} (opens : Preserves P (openArray .openArray))
    (pushes : ∀ value, .ok value ∈ values → Preserves P (push value)) : Preserves P (Scope.appendAll values) := by
  refine opens.followed (forEach fun value member => ?_)
  cases value with
  | ok value => exact pushes value member
  | error fault => exact refused _

theorem withPayload {operation : Json → Scope → Edited} {value : Json.Payload}
    (each : ∀ node, value = .ok node → Preserves P (operation node)) :
    Preserves P (Scope.withPayload operation value) := by
  cases value with
  | ok value => exact each value rfl
  | error fault => exact refused _

end Preserves

end Stencil.Scope
