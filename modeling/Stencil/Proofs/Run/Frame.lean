import Stencil.Proofs.Run.Blocks

/-!
# What a run leaves as it is

The run of a block depends on the innermost scope and its depth, and changes no other scope
(`isolated_runWithin`). A nested body therefore leaves the scopes as they are, and does the same within
any two scopes with the same settings (`nested_apply`, `nested_elsewhere`). Events stay once they have
been left behind (`grows_runWithin`).
-/

namespace Stencil

namespace Builder

@[simp] theorem setCurrent_current (builder : Builder) : builder.setCurrent builder.current = builder := by
  obtain ⟨root, _ | ⟨top, outer⟩⟩ := builder <;> rfl

@[simp] theorem setCurrent_setCurrent (one other : Scope) (builder : Builder) :
    (builder.setCurrent one).setCurrent other = builder.setCurrent other := by
  obtain ⟨root, _ | ⟨top, outer⟩⟩ := builder <;> rfl

@[simp] theorem current_push (builder : Builder) : builder.push.current = builder.current.child := rfl

@[simp] theorem depth_push (builder : Builder) : builder.push.depth = builder.depth + 1 := rfl

@[simp] theorem pop_setCurrent_push (scope : Scope) (builder : Builder) :
    (builder.push.setCurrent scope).pop = (scope.toNode, builder) := rfl

end Builder

namespace Run

variable {ι σ α β : Type}

theorem bind_apply (first : Run σ α) (next : α → Run σ β) (world : World σ) :
    (first >>= next) world = (first world).bind fun result => next result.1 result.2 := rfl

theorem bind_some {first : Run σ α} {next : α → Run σ β} {world : World σ} {result : β × World σ}
    (ran : (first >>= next) world = some result) :
    ∃ one middle, first world = some (one, middle) ∧ next one middle = some result := by
  rw [bind_apply, Option.bind_eq_some_iff] at ran
  obtain ⟨⟨one, middle⟩, firstRan, nextRan⟩ := ran
  exact ⟨one, middle, firstRan, nextRan⟩

theorem bind_of_some {first : Run σ α} {next : α → Run σ β} {world middle : World σ} {one : α}
    (ran : first world = some (one, middle)) : (first >>= next) world = next one middle := by
  rw [bind_apply, ran]
  rfl

theorem result_inj {value other : α} {world after : World σ}
    (same : some (value, world) = some (other, after)) : value = other ∧ world = after :=
  Prod.mk.inj (Option.some.inj same)

/-- A run that only makes something of another's result leaves the world as the other does. -/
theorem returned_some {first : Run σ α} {next : α → β} {world after : World σ} {value : β}
    (ran : (do return next (← first)) world = some (value, after)) :
    ∃ one, first world = some (one, after) ∧ next one = value := by
  obtain ⟨one, middle, firstRan, ended⟩ := bind_some ran
  obtain ⟨same, rfl⟩ := result_inj ended
  exact ⟨one, firstRan, same⟩

theorem ok_inj {value other : α} {world after : World σ}
    (same : some ((.ok value : Except RenderError α), world) = some (.ok other, after)) :
    value = other ∧ world = after := by
  obtain ⟨outcomes, worlds⟩ := result_inj same
  exact ⟨Except.ok.inj outcomes, worlds⟩

/-- The run depends on the innermost scope and its depth, and changes no other scope. -/
def Isolated (run : Run σ α) : Prop :=
  ∀ (world : World σ) (builder : Builder), builder.current = world.builder.current →
    builder.depth = world.builder.depth →
    run { world with builder } = (run world).map fun result =>
      (result.1, { result.2 with builder := builder.setCurrent result.2.builder.current })

theorem Isolated.frame {run : Run σ α} (isolated : Isolated run) {world after : World σ} {value : α}
    (ran : run world = some (value, after)) :
    after.builder = world.builder.setCurrent after.builder.current := by
  have same := isolated world world.builder rfl rfl
  rw [ran] at same
  have result := (result_inj same).2
  exact congrArg World.builder result

theorem Isolated.pure (value : α) : Isolated (Pure.pure value : Run σ α) := by
  intro world builder current depth
  have same : builder.setCurrent world.builder.current = builder := by simp [← current]
  show some (value, _) = some (value, _)
  rw [same]

theorem Isolated.bind {first : Run σ α} {next : α → Run σ β} (one : Isolated first)
    (other : ∀ value, Isolated (next value)) : Isolated (first >>= next) := by
  intro world builder current depth
  rw [bind_apply, bind_apply, one world builder current depth]
  cases ran : first world with
  | none => rfl
  | some result =>
    obtain ⟨value, middle⟩ := result
    have framed := one.frame ran
    have sameDepth : (builder.setCurrent middle.builder.current).depth = middle.builder.depth := by
      rw [framed, Builder.depth_setCurrent, Builder.depth_setCurrent, depth]
    have moved := other value middle (builder.setCurrent middle.builder.current) (by simp) sameDepth
    simp only [Option.map_some, Option.bind_some]
    rw [moved]
    simp

theorem isolated_emit (event : Event) : Isolated (emit event : Run σ Unit) := by
  intro world builder current depth
  have same : builder.setCurrent world.builder.current = builder := by simp [← current]
  show some ((), _) = some ((), _)
  rw [same]

theorem isolated_observe {view : Builder → β} (islocal : IsLocal view) :
    Isolated (observe view : Run σ β) := by
  intro world builder current depth
  have same : builder.setCurrent world.builder.current = builder := by simp [← current]
  show some (view builder, _) = some (view world.builder, _)
  rw [islocal builder world.builder current depth, same]

theorem isolated_edit (operation : Scope → Edited) : Isolated (edit operation : Run σ _) := by
  intro world builder current depth
  show some _ = some _
  simp only [Builder.edit, current, Builder.current_setCurrent]

theorem isolated_withStore (call : σ → α × σ) : Isolated (withStore call) := by
  intro world builder current depth
  have same : builder.setCurrent world.builder.current = builder := by simp [← current]
  show some _ = some _
  simp only [same]

theorem nested_eq (body : Run σ (Except RenderError Unit)) (world : World σ) :
    nested body world = (body { world with builder := world.builder.push }).map fun result =>
      (result.1.map fun _ => result.2.builder.pop.1,
        { result.2 with builder := result.2.builder.pop.2 }) := by
  show (body { world with builder := world.builder.push }).bind _ = _
  cases body { world with builder := world.builder.push } <;> rfl

theorem nested_apply {body : Run σ (Except RenderError Unit)} (isolated : Isolated body)
    (world : World σ) :
    nested body world = (body { world with builder := world.builder.push }).map fun result =>
      (result.1.map fun _ => result.2.builder.current.toNode,
        { result.2 with builder := world.builder }) := by
  rw [nested_eq]
  cases ran : body { world with builder := world.builder.push } with
  | none => rfl
  | some result =>
    have popped : result.2.builder.pop = (result.2.builder.current.toNode, world.builder) := by
      rw [isolated.frame ran]
      simp
    simp only [Option.map_some, popped]

theorem nested_elsewhere {body : Run σ (Except RenderError Unit)} (isolated : Isolated body)
    (world : World σ) (builder : Builder) (child : builder.current.child = world.builder.current.child)
    (depth : builder.depth = world.builder.depth) :
    nested body { world with builder } = (nested body world).map fun result =>
      (result.1, { result.2 with builder }) := by
  have moved := isolated { world with builder := world.builder.push } builder.push
    (by simpa using child) (by simp [depth])
  rw [nested_apply isolated, nested_apply isolated]
  simp only at moved
  rw [moved, Option.map_map, Option.map_map]
  simp [Function.comp_def]

theorem isolated_nested {body : Run σ (Except RenderError Unit)} (isolated : Isolated body) :
    Isolated (nested body) := by
  intro world builder current depth
  have same : builder.setCurrent world.builder.current = builder := by simp [← current]
  rw [nested_elsewhere isolated world builder (by rw [current]) depth]
  rw [nested_apply isolated, Option.map_map, Option.map_map]
  simp [Function.comp_def, same]

theorem hereditary_isolated :
    Hereditary False (fun _ run => ∀ i : ι, Isolated (run i) : Property ι σ) where
  done outcome _ := .pure outcome
  sequence first next _ i := (first i).bind fun outcome => next outcome i
  emitting {event} _ := fun _ each i => (isolated_emit event).bind fun value => each value i
  observing islocal := fun _ each i => (isolated_observe islocal).bind fun value => each value i
  editing operation _ := isolated_edit operation
  nesting body i := isolated_nested (body i)

theorem isolated_recorded (call : σ → β × σ) (record : β → Event) :
    Isolated (recorded call record) :=
  (isolated_withStore call).bind fun answer => (isolated_emit (record answer)).bind fun _ => .pure answer

theorem isolated_storing : Storing (fun _ run => ∀ i : ι, Isolated (run i) : Property ι σ) :=
  fun call record _ _ each i => (isolated_recorded call record).bind fun value => each value i

theorem isolated_runWithin (renderer : Renderer σ) (bound : Nat) (block : Block) :
    Isolated (block.runWithin renderer bound) := by
  have lifts : Lifts False (fun _ run => ∀ i : Unit, Isolated (run i)) (fun _ => renderer)
      renderer.resolve fun _ => True :=
    { kept := hereditary_isolated
      caches := hereditary_isolated.caches isolated_storing renderer _
      shared := fun _ => rfl
      settings := fun _ => ⟨renderer.settings, fun _ => rfl⟩
      stops := False.elim }
  exact block.runWithin_of_hereditary lifts (fun _ _ _ _ _ => rfl) bound (fun _ _ => trivial) ()

theorem isolated_callWithin (renderer : Renderer σ) (bound : Nat) (block : Block) :
    Isolated (callWithin renderer bound block) := by
  cases bound with
  | zero => exact fun _ _ _ _ => rfl
  | succ bound => exact isolated_runWithin renderer bound block

/-! ### Events -/

/-- The run only adds events. -/
def Grows (run : Run σ α) : Prop :=
  ∀ world result, run world = some result → world.events <:+ result.2.events

theorem Grows.bind {first : Run σ α} {next : α → Run σ β} (one : Grows first)
    (other : ∀ value, Grows (next value)) : Grows (first >>= next) := by
  intro world result ran
  obtain ⟨value, middle, firstRan, nextRan⟩ := bind_some ran
  exact (one world _ firstRan).trans (other value middle result nextRan)

theorem Silent.grows {first : Run σ α} (silent : Silent True first) : Grows first := by
  intro world result ran
  obtain ⟨value, store, events, same⟩ := silent.result world
  rw [Option.some.inj (ran.symm.trans same)]
  exact List.suffix_append events world.events

theorem Silent.keeps {first : Run σ α} (silent : Silent True first) {world after : World σ} {value : α}
    (ran : first world = some (value, after)) : after.builder = world.builder := by
  obtain ⟨answer, store, events, result⟩ := silent.result world
  obtain ⟨-, rfl⟩ := result_inj (ran.symm.trans result)
  rfl

theorem grows_nested {body : Run σ (Except RenderError Unit)} (grows : Grows body) :
    Grows (nested body) := by
  intro world result ran
  rw [nested_eq, Option.map_eq_some_iff] at ran
  obtain ⟨inner, bodyRan, rfl⟩ := ran
  exact grows { world with builder := world.builder.push } inner bodyRan

theorem grows_edit (operation : Scope → Edited) : Grows (edit operation : Run σ _) := by
  intro world result ran
  obtain rfl := Option.some.inj ran
  exact List.suffix_rfl

theorem grows_observe (view : Builder → β) : Grows (observe view : Run σ β) := by
  intro world result ran
  obtain rfl := Option.some.inj ran
  exact List.suffix_rfl

theorem hereditary_grows :
    Hereditary False (fun _ run => ∀ i : ι, Grows (run i) : Property ι σ) where
  done outcome _ := (Silent.pure outcome).grows
  sequence first next _ i := (first i).bind fun outcome => next outcome i
  emitting other := fun _ each i => (Silent.emit other).grows.bind fun value => each value i
  observing _ := fun _ each i => (grows_observe _).bind fun value => each value i
  editing operation _ := grows_edit operation
  nesting body i := grows_nested (body i)

theorem grows_storing : Storing (fun _ run => ∀ i : ι, Grows (run i) : Property ι σ) :=
  fun call record _ _ each i => (Silent.store trivial call record).grows.bind fun value => each value i

theorem grows_collect {step : α → Run σ (Except RenderError β)} (grows : ∀ item, Grows (step item))
    (items : List α) : Grows (collect step items) :=
  hereditary_grows.collect (fun item _ (_ : Unit) => grows item) ()

theorem grows_runWithin (renderer : Renderer σ) (bound : Nat) (block : Block) :
    Grows (block.runWithin renderer bound) := by
  have lifts : Lifts False (fun _ run => ∀ i : Unit, Grows (run i)) (fun _ => renderer)
      renderer.resolve fun _ => True :=
    { kept := hereditary_grows
      caches := hereditary_grows.caches grows_storing renderer _
      shared := fun _ => rfl
      settings := fun _ => ⟨renderer.settings, fun _ => rfl⟩
      stops := False.elim }
  exact block.runWithin_of_hereditary lifts (fun _ _ _ impossible => by contradiction) bound
    (fun _ _ => trivial) ()

end Run

end Stencil
