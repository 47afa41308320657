import Stencil.Proofs.Run.Frame

/-!
# Results and bounds

A run that stays within its bound has the same result under every greater bound (`runWithin_mono`), so
that a render `Yields` at most one result. The run of a finite program stays within some bound, in every
state (`settled_runWithin`), so that a render of it yields a result (`exists_yields`).
-/

namespace Stencil

variable {σ α β : Type}

namespace Run

/-- The second run has the results of the first one. -/
def Extended (runs : Bool → Run σ α) : Prop :=
  ∀ world result, runs false world = some result → runs true world = some result

theorem Extended.bind {first : Bool → Run σ α} {next : Bool → α → Run σ β} (one : Extended first)
    (other : ∀ value, Extended fun i => next i value) : Extended fun i => first i >>= next i := by
  intro world result ran
  obtain ⟨value, middle, firstRan, nextRan⟩ := bind_some ran
  exact (bind_of_some (one world _ firstRan)).trans (other value middle result nextRan)

theorem hereditary_extended :
    Hereditary False (fun _ runs => Extended runs : Property Bool σ) where
  done _ := fun _ _ ran => ran
  sequence first next _ := first.bind next
  emitting _ := fun _ each => Extended.bind (fun _ _ ran => ran) each
  observing _ := fun _ each => Extended.bind (fun _ _ ran => ran) each
  editing _ := fun _ _ ran => ran
  nesting body := by
    intro world result ran
    simp only [nested_eq, Option.map_eq_some_iff] at ran ⊢
    obtain ⟨inner, bodyRan, same⟩ := ran
    exact ⟨inner, body _ inner bodyRan, same⟩

theorem runWithin_mono {renderer : Renderer σ} {bound more : Nat} (enough : bound ≤ more)
    (block : Block) {world : World σ} {result : Except RenderError Unit × World σ}
    (ran : block.runWithin renderer bound world = some result) :
    block.runWithin renderer more world = some result := by
  have lifts : Lifts False (fun _ runs => Extended runs) (fun _ : Bool => renderer) renderer.resolve
      fun _ => True :=
    { kept := hereditary_extended
      caches := hereditary_extended.caches
        (fun _ _ _ _ each => Extended.bind (fun _ _ ran => ran) each) renderer _
      shared := fun _ => rfl
      settings := fun _ => ⟨renderer.settings, fun _ => rfl⟩
      stops := False.elim }
  have extended : ∀ block : Block,
      Extended fun i => block.runWithin renderer (if i then more else bound) := by
    clear ran
    induction bound generalizing more with
    | zero =>
      intro block
      simp only [Block.runWithin_eq]
      refine block.run_of_hereditary lifts (fun _ _ => trivial) fun reached _ world result ran => ?_
      contradiction
    | succ bound ih =>
      intro block
      obtain ⟨less, rfl⟩ : ∃ less, more = less + 1 := ⟨more - 1, by omega⟩
      simp only [Block.runWithin_eq]
      refine block.run_of_hereditary lifts (fun _ _ => trivial) fun reached _ => ?_
      exact ih (by omega) reached
  exact extended block world result ran

/-- Under all bounds from some bound on, the run has the same result. -/
def Settled (run : Nat → Run σ α) : Prop :=
  ∀ world, ∃ bound result, ∀ more, bound ≤ more → run more world = some result

theorem Settled.pure (value : α) : Settled (σ := σ) fun _ => Pure.pure value :=
  fun world => ⟨0, (value, world), fun _ _ => rfl⟩

theorem Settled.bind {first : Nat → Run σ α} {next : Nat → α → Run σ β} (one : Settled first)
    (other : ∀ value, Settled fun bound => next bound value) :
    Settled fun bound => first bound >>= next bound := by
  intro world
  obtain ⟨bound, ⟨value, middle⟩, firstRan⟩ := one world
  obtain ⟨later, result, nextRan⟩ := other value middle
  refine ⟨max bound later, result, fun more enough => ?_⟩
  show (first more world).bind _ = some result
  rw [firstRan more (by omega)]
  exact nextRan more (by omega)

theorem settled_of_total {first : Run σ α} (total : ∀ world, ∃ result, first world = some result) :
    Settled fun _ => first := by
  intro world
  obtain ⟨result, ran⟩ := total world
  exact ⟨0, result, fun _ _ => ran⟩

theorem hereditary_settled : Hereditary False (fun _ run => Settled run : Property Nat σ) where
  done outcome := .pure outcome
  sequence first next _ := first.bind next
  emitting _ := fun _ each => (settled_of_total fun _ => ⟨_, rfl⟩).bind each
  observing _ := fun _ each => (settled_of_total fun _ => ⟨_, rfl⟩).bind each
  editing _ := settled_of_total fun _ => ⟨_, rfl⟩
  nesting body :=
    (settled_of_total fun _ => ⟨_, rfl⟩).bind fun _ => body.bind fun _ =>
      (settled_of_total fun _ => ⟨_, rfl⟩).bind fun _ => .pure _

theorem settled_runWithin {renderer : Renderer σ} {block : Block}
    (finite : block.Finite renderer.resolve) :
    Settled fun bound => block.runWithin renderer bound := by
  have lifts : Lifts False (fun _ run => Settled run) (fun _ : Nat => renderer) renderer.resolve
      fun _ => True :=
    { kept := hereditary_settled
      caches := hereditary_settled.caches
        (fun _ _ _ _ each => (settled_of_total fun _ => ⟨_, rfl⟩).bind each) renderer _
      shared := fun _ => rfl
      settings := fun _ => ⟨renderer.settings, fun _ => rfl⟩
      stops := False.elim }
  -- The partials of a block run under the preceding bound.
  have chains := finite.transGen
  clear finite
  induction chains with
  | intro block _ ih =>
    simp only [Block.runWithin_eq]
    refine block.run_of_hereditary lifts (fun _ _ => trivial) fun reached chain => ?_
    intro world
    obtain ⟨bound, result, ran⟩ := ih reached (Relation.transGen_swap.2 chain) world
    refine ⟨bound + 1, result, fun more enough => ?_⟩
    obtain ⟨less, rfl⟩ : ∃ less, more = less + 1 := ⟨more - 1, by omega⟩
    exact ran less (by omega)

end Run

def Rendered.document? {α : Type} (rendered : Rendered σ α) : Option α := rendered.outcome.toOption

theorem Rendered.document?_eq_some {rendered : Rendered σ α} {document : α} :
    rendered.document? = some document ↔ rendered.outcome = .ok document := by
  unfold Rendered.document?
  cases rendered.outcome <;> simp [Except.toOption]

namespace Renderer

def ended (result : Except RenderError Unit × World σ) : Rendered σ Json :=
  ⟨result.1.map fun _ => result.2.builder.result, result.2.store, result.2.events.reverse⟩

theorem renderNode_eq (renderer : Renderer σ) (bound : Nat) (block : Block) (store : σ) :
    renderer.renderNode bound block store =
      (block.runWithin renderer bound (renderer.start store)).map ended := by
  simp only [renderNode, build, Option.map_map]
  rfl

/-- A run on a fresh document builds it in its root scope. -/
theorem result_of_start {renderer : Renderer σ} {run : Run σ α} (isolated : Run.Isolated run) {store : σ}
    {value : α} {after : World σ} (ran : run (renderer.start store) = some (value, after)) :
    after.builder.result = after.builder.current.toNode :=
  congrArg Builder.result (isolated.frame ran)

/-- The block's partials are nested at some finite depth, and rendering it gives this result. -/
def Yields (renderer : Renderer σ) (block : Block) (store : σ) (rendered : Rendered σ Json) : Prop :=
  ∃ bound, renderer.renderNode bound block store = some rendered

theorem renderNode_mono {renderer : Renderer σ} {bound more : Nat} (enough : bound ≤ more)
    {block : Block} {store : σ} {rendered : Rendered σ Json}
    (ran : renderer.renderNode bound block store = some rendered) :
    renderer.renderNode more block store = some rendered := by
  rw [renderNode_eq, Option.map_eq_some_iff] at ran ⊢
  obtain ⟨result, blockRan, same⟩ := ran
  exact ⟨result, Run.runWithin_mono enough block blockRan, same⟩

theorem Yields.unique {renderer : Renderer σ} {block : Block} {store : σ} {one other : Rendered σ Json}
    (first : renderer.Yields block store one) (second : renderer.Yields block store other) :
    one = other := by
  obtain ⟨bound, ran⟩ := first
  obtain ⟨later, again⟩ := second
  have oneRan := renderNode_mono (Nat.le_max_left bound later) ran
  have otherRan := renderNode_mono (Nat.le_max_right bound later) again
  exact Option.some.inj (oneRan.symm.trans otherRan)

theorem exists_yields {renderer : Renderer σ} {block : Block} (finite : block.Finite renderer.resolve)
    (store : σ) : ∃ rendered, renderer.Yields block store rendered := by
  obtain ⟨bound, result, ran⟩ := Run.settled_runWithin finite (renderer.start store)
  refine ⟨ended result, bound, ?_⟩
  rw [renderNode_eq]
  exact congrArg (Option.map ended) (ran bound (Nat.le_refl bound))

end Renderer

end Stencil
