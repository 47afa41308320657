import Stencil.Proofs.Run.Calls

/-!
# Hereditary properties of blocks

`run_of_hereditary` and `runWithin_of_hereditary` lift a hereditary property from single steps to whole
programs. They are the induction over blocks, and the latter also the induction over the bound.
-/

namespace Stencil

variable {ι σ : Type}

namespace Run

/-- The runs of the renderers keep a property at the cache calls with the condition `H`. -/
structure KeptByCaches (P : Property ι σ) (renderers : ι → Renderer σ) (H : Block → Prop) : Prop where
  one {condition : Bool} {key : Cache.KeyExpr} {options : Cache.Options} {block : Block}
    {next : Except RenderError Unit → Block} : H (.cache condition key options block next) →
      ∀ {body : ι → Run σ (Except RenderError Unit)}, P Unit body →
        P Unit fun i => cacheOne (renderers i) condition key options (body i)
  each {items : Option (List Json.Payload)} {options : Cache.Options}
    {key : Option (Nat → Cache.KeyExpr)} {block : Nat → Block}
    {next : Except RenderError Unit → Block} : H (.cacheCollection items options key block next) →
      ∀ {body : ι → Nat → Run σ (Except RenderError Unit)}, (∀ index, P Unit fun i => body i index) →
        P Unit fun i => cacheEach (renderers i) items options key (body i)

theorem isLocal_shape : IsLocal fun builder => builder.current.shape :=
  fun _ _ same _ => congrArg Scope.shape same

theorem isLocal_key (name : String) : IsLocal fun builder => builder.current.keyFormat.apply name :=
  fun _ _ same _ => congrArg (fun scope => scope.keyFormat.apply name) same

theorem Hereditary.perform {stopping : Prop} {P : Property ι σ} (kept : Hereditary stopping P)
    (action : Action) : P Unit fun _ => Run.perform action := by
  unfold Run.perform
  split
  · refine kept.depth _ fun depth => ?_
    exact kept.log _ _ fun _ => kept.editing _
  · exact kept.editing _

theorem Hereditary.caches {stopping : Prop} {P : Property ι σ} (kept : Hereditary stopping P)
    (storing : Storing P) (renderer : Renderer σ)
    (H : Block → Prop) : KeptByCaches P (fun _ => renderer) H where
  one _ _ one := kept.cacheOne storing renderer _ _ _ one
  each _ _ each := kept.cacheEach storing renderer _ _ _ each

/-- What a property that is kept by single calls needs of the renderers to be kept by blocks. -/
structure Lifts (stopping : Prop) (P : Property ι σ) (renderers : ι → Renderer σ)
    (resolve : String → Except RenderError Template) (H : Block → Prop) : Prop where
  kept : Hereditary stopping P
  caches : KeptByCaches P renderers H
  shared : ∀ i, (renderers i).resolve = resolve
  settings {next : Settings → Block} : H (.ask .settings next) →
    ∃ settings, ∀ i, (renderers i).settings = settings
  stops {block : Block} : stopping → H block → block.StopsAtErrors

end Run

open Run

variable {stopping : Prop} {P : Property ι σ} {renderers : ι → Renderer σ}
  {resolve : String → Except RenderError Template} {H : Block → Prop}

theorem Block.passesErrors_of_stopsWith {α : Type} {next : Except RenderError α → Block}
    (stops : Block.StopsWith next) (renderer : Renderer σ)
    (call : Block → Run σ (Except RenderError Unit)) :
    PassesErrors fun outcome => (next outcome).run renderer call := by
  intro error
  obtain ⟨failure, same⟩ := stops error
  exact ⟨failure, by simp only [same, Block.run]⟩

/-- The induction over blocks; the runs of the partials that are called have the property. -/
theorem Block.run_of_hereditary (lifts : Lifts stopping P renderers resolve H)
    {call : ι → Block → Run σ (Except RenderError Unit)} (block : Block)
    (every : block.Every resolve H)
    (called : ∀ reached, Relation.TransGen (Block.Leads resolve) block reached →
      P Unit fun i => call i reached) :
    P Unit fun i => block.run (renderers i) (call i) := by
  have kept := lifts.kept
  have along : ∀ {earlier later : Block}, Block.Leads resolve earlier later →
      (∀ reached, Relation.TransGen (Block.Leads resolve) earlier reached →
        P Unit fun i => call i reached) →
      ∀ reached, Relation.TransGen (Block.Leads resolve) later reached →
        P Unit fun i => call i reached :=
    fun leads called reached chain => called reached (.head leads chain)
  induction block with
  | done outcome => exact kept.done outcome
  | ask query next ih =>
    have step := fun answer => ih answer (every.next (.ask answer)) (along (.ask answer) called)
    cases query with
    | shape => exact kept.observing isLocal_shape _ step
    | depth => exact kept.depth _ step
    | key name => exact kept.observing (isLocal_key name) _ step
    | settings =>
      obtain ⟨settings, same⟩ := lifts.settings every.head
      have answered : P Unit fun i => (do
          (next (← observe fun _ => settings)).run (renderers i) (call i)) :=
        kept.observing (fun _ _ _ _ => rfl) _ step
      simpa only [Block.run, Query.answer, observe, same, bind_assoc, pure_bind] using answered
  | note content next ih =>
    exact kept.emitting rfl _ fun _ => ih (every.next .note) (along .note called)
  | act action next ih =>
    refine kept.sequence (kept.perform action) ?_ ?_
    · exact fun outcome => ih outcome (every.next (.act outcome)) (along (.act outcome) called)
    · exact fun stopping i => Block.passesErrors_of_stopsWith (lifts.stops stopping every.head) _ _
  | capture block next within after =>
    refine kept.sequence (kept.nesting (within (every.next .captured) (along .captured called))) ?_ ?_
    · exact fun outcome => after outcome (every.next (.capture outcome)) (along (.capture outcome) called)
    · exact fun stopping i => Block.passesErrors_of_stopsWith (lifts.stops stopping every.head) _ _
  | renderPartial partialCall next after =>
    refine kept.sequence (kept.renderCall lifts.shared fun block member => ?_) ?_ ?_
    · exact called block (.single (.rendered member))
    · exact fun outcome =>
        after outcome (every.next (.renderPartial outcome)) (along (.renderPartial outcome) called)
    · exact fun stopping i => Block.passesErrors_of_stopsWith (lifts.stops stopping every.head) _ _
  | splicePartial partialCall next after =>
    have spliced := kept.spliced (kept.renderCall lifts.shared fun block member =>
      called block (.single (.spliced member)))
    have whole := kept.sequence spliced
      (fun outcome =>
        after outcome (every.next (.splicePartial outcome)) (along (.splicePartial outcome) called))
      (fun stopping i => Block.passesErrors_of_stopsWith (lifts.stops stopping every.head) _ _)
    simpa only [Block.run, bind_assoc] using whole
  | cache condition key options block next within after =>
    refine kept.sequence
      (lifts.caches.one every.head (within (every.next .cached) (along .cached called))) ?_ ?_
    · exact fun outcome => after outcome (every.next (.cache outcome)) (along (.cache outcome) called)
    · exact fun stopping i => Block.passesErrors_of_stopsWith (lifts.stops stopping every.head) _ _
  | cacheCollection items options key block next within after =>
    refine kept.sequence (lifts.caches.each every.head fun index =>
      within index (every.next (.element index)) (along (.element index) called)) ?_ ?_
    · exact fun outcome =>
        after outcome (every.next (.cacheCollection outcome)) (along (.cacheCollection outcome) called)
    · exact fun stopping i => Block.passesErrors_of_stopsWith (lifts.stops stopping every.head) _ _

def Run.callWithin (renderer : Renderer σ) : Nat → Block → Run σ (Except RenderError Unit)
  | 0, _ => failure
  | bound + 1, block => block.runWithin renderer bound

theorem Block.runWithin_eq (renderer : Renderer σ) (bound : Nat) (block : Block) :
    block.runWithin renderer bound = block.run renderer (callWithin renderer bound) := by
  cases bound <;> rfl

theorem Run.collection_runWithin (renderer : Renderer σ) (bound : Nat) (items : Option (List Json.Payload))
    (options : Cache.Options) (key : Option (Nat → Cache.KeyExpr)) (block : Nat → Block) :
    (Block.cacheCollection items options key block .done).runWithin renderer bound =
      cacheEach renderer items options key fun index => (block index).runWithin renderer bound := by
  simp only [Block.runWithin_eq, Block.run]
  exact bind_pure _

/-- The induction over the bound; the property has to hold of the run that exceeds it. -/
theorem Block.runWithin_of_hereditary (lifts : Lifts stopping P renderers resolve H)
    (exceeded : P Unit fun _ => failure) (bound : Nat) (block : Block)
    (every : block.Every resolve H) : P Unit fun i => block.runWithin (renderers i) bound := by
  induction bound generalizing block with
  | zero => exact block.run_of_hereditary lifts every fun _ _ => exceeded
  | succ bound ih =>
    exact block.run_of_hereditary lifts every fun reached chain => ih reached (every.later chain)

end Stencil
