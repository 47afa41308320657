import Mathlib.Tactic.Choose
import Stencil.Proofs.Run.Collections

/-!
# Runs that ask no store

What a program without cache calls does depends on the scopes alone (`quiet_runWithin`). It is the same
with every store and in every state of it, and leaves that state as it is.
-/

namespace Stencil.Run

variable {ι σ α β : Type}

/-- The runs do the same, which depends on the scopes alone, and leave the store as it is. -/
def Quiet (runs : ι → Run σ α) : Prop :=
  ∃ effect : Builder → Option (α × Builder × List Event), ∀ i world,
    runs i world = (effect world.builder).map fun done =>
      (done.1, ⟨done.2.1, world.store, done.2.2 ++ world.events⟩)

theorem Quiet.same {runs : ι → Run σ α} (quiet : Quiet runs) (i j : ι) (world : World σ) :
    runs i world = runs j world := by
  obtain ⟨effect, ran⟩ := quiet
  rw [ran i, ran j]

theorem Quiet.comp {κ : Type} {runs : ι → Run σ α} (quiet : Quiet runs) (f : κ → ι) :
    Quiet fun k => runs (f k) := by
  obtain ⟨effect, ran⟩ := quiet
  exact ⟨effect, fun k world => ran (f k) world⟩

theorem quiet_pure (value : α) : Quiet fun _ : ι => (pure value : Run σ α) :=
  ⟨fun builder => some (value, builder, []), fun _ _ => rfl⟩

theorem Quiet.bind {first : ι → Run σ α} {next : ι → α → Run σ β} (one : Quiet first)
    (other : ∀ value, Quiet fun i => next i value) : Quiet fun i => first i >>= next i := by
  obtain ⟨effect, sameFirst⟩ := one
  choose later sameNext using other
  refine ⟨fun builder => (effect builder).bind fun done =>
    (later done.1 done.2.1).map fun last => (last.1, last.2.1, last.2.2 ++ done.2.2), fun i world => ?_⟩
  show (first i >>= next i) world = _
  rw [bind_apply, sameFirst i world]
  dsimp only
  cases effect world.builder with
  | none => rfl
  | some done =>
    obtain ⟨value, builder, events⟩ := done
    have ran := sameNext value i ⟨builder, world.store, events ++ world.events⟩
    simp only at ran
    simp only [Option.map_some, Option.bind_some, ran, Option.map_map]
    simp [Function.comp_def]

theorem quiet_emit (event : Event) : Quiet fun _ : ι => (emit event : Run σ Unit) :=
  ⟨fun builder => some ((), builder, [event]), fun _ _ => rfl⟩

theorem quiet_observe (view : Builder → β) : Quiet fun _ : ι => (observe view : Run σ β) :=
  ⟨fun builder => some (view builder, builder, []), fun _ _ => rfl⟩

theorem quiet_edit (operation : Scope → Edited) : Quiet fun _ : ι => (edit operation : Run σ _) :=
  ⟨fun builder => some ((builder.edit operation).1, (builder.edit operation).2, []), fun _ _ => rfl⟩

theorem Quiet.nested {bodies : ι → Run σ (Except RenderError Unit)} (quiet : Quiet bodies) :
    Quiet fun i => Run.nested (bodies i) := by
  obtain ⟨effect, same⟩ := quiet
  refine ⟨fun builder => (effect builder.push).map fun done =>
    (done.1.map fun _ => done.2.1.pop.1, done.2.1.pop.2, done.2.2), fun i world => ?_⟩
  show Run.nested (bodies i) world = _
  rw [nested_eq, same, Option.map_map, Option.map_map]
  rfl

theorem hereditary_quiet : Hereditary False (fun _ runs => Quiet runs : Property ι σ) where
  done outcome := quiet_pure outcome
  sequence first next _ := first.bind next
  emitting _ := fun _ each => (quiet_emit _).bind each
  observing _ := fun _ each => (quiet_observe _).bind each
  editing operation := quiet_edit operation
  nesting body := body.nested

theorem quiet_runWithin (renderers : ι → Renderer σ) {resolve : String → Except RenderError Template}
    {settings : Settings} (shared : ∀ i, (renderers i).resolve = resolve)
    (same : ∀ i, (renderers i).settings = settings) (bound : Nat) {block : Block}
    (free : block.Every resolve Block.CacheFree) : Quiet fun i => block.runWithin (renderers i) bound := by
  have lifts : Lifts False (fun _ runs => Quiet runs) renderers resolve Block.CacheFree :=
    { kept := hereditary_quiet
      caches := ⟨False.elim, False.elim⟩
      shared := shared
      settings := fun _ => ⟨settings, same⟩
      stops := False.elim }
  have exceeded : Quiet fun _ : ι => (failure : Run σ (Except RenderError Unit)) :=
    ⟨fun _ => none, fun _ _ => rfl⟩
  exact block.runWithin_of_hereditary lifts exceeded bound free

/-- The outcome of a quiet body is the same wherever it is nested in the same scopes. -/
theorem Quiet.attempt {bodies : ι → Run σ (Except RenderError Unit)} (quiet : Quiet bodies)
    (isolated : ∀ i, Isolated (bodies i)) (i j : ι) {world other : World σ}
    (same : other.builder = world.builder) :
    ∃ events, Run.nested (bodies j) other =
      ((Run.nested (bodies i) world).map Prod.fst).map fun outcome =>
        (outcome, { other with events := events ++ other.events }) := by
  obtain ⟨effect, ran⟩ := quiet.nested
  simp only at ran
  rw [ran i world, ran j other, same]
  cases did : effect world.builder with
  | none => exact ⟨[], rfl⟩
  | some done =>
    have result := ran j other
    rw [same, did] at result
    have kept : done.2.1 = world.builder := (nested_keeps (isolated j) result).trans same
    refine ⟨done.2.2, ?_⟩
    simp only [Option.map_some, kept]

end Stencil.Run
