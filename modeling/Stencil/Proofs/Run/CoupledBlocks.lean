import Stencil.Proofs.Run.CoupledCalls

/-!
# Programs side by side

Two programs go in step if they take the same steps, or steps that count as accord, and go on with programs
that go in step again (`Block.Follows`). The runs of such programs are coupled as soon as single steps
are: `coupled_runWithin` is the induction over programs and over the bound.
-/

namespace Stencil

/-- The partial is rendered equally often. -/
inductive PartialMode.Paired : PartialMode → PartialMode → Prop where
  | once : Paired .once .once
  | absentCollection : Paired .absentCollection .absentCollection
  | collection {items others : List Json} (equal : items.length = others.length) :
      Paired (.collection items) (.collection others)

/-- The calls are of one partial, and the blocks that they run are related. -/
structure PartialCall.Paired (resolve : String → Except RenderError Template) (R : Block → Block → Prop)
    (call other : PartialCall) : Prop where
  name : call.name = other.name
  mode : call.mode.Paired other.mode
  blocks : List.Forall₂ R (call.blocks resolve) (other.blocks resolve)

/-- The first steps of the programs are alike, and related programs come next. -/
inductive Block.Follows (pairing : Pairing) (resolve : String → Except RenderError Template)
    (R : Block → Block → Prop) : Block → Block → Prop where
  | done (outcome : Except RenderError Unit) : Follows pairing resolve R (.done outcome) (.done outcome)
  | ask {query : Query} {next follows : query.Answer → Block} (asked : pairing.asks query)
      (after : ∀ answer, R (next answer) (follows answer)) :
      Follows pairing resolve R (.ask query next) (.ask query follows)
  | note {content other : Json} {next follows : Block} (noted : pairing.notes content other)
      (after : R next follows) : Follows pairing resolve R (.note content next) (.note other follows)
  | act {action other : Action} {next follows : Except RenderError Unit → Block}
      (acted : pairing.acts action other) (after : ∀ outcome, R (next outcome) (follows outcome)) :
      Follows pairing resolve R (.act action next) (.act other follows)
  | capture {block other : Block} {next follows : Except RenderError Json → Block} (within : R block other)
      (after : ∀ node answer, Run.Accord pairing.nodes node answer → R (next node) (follows answer)) :
      Follows pairing resolve R (.capture block next) (.capture other follows)
  | renderPartial {call other : PartialCall} {next follows : Except RenderError Json → Block}
      (called : call.Paired resolve R other)
      (after : ∀ node answer, Run.Accord pairing.nodes node answer → R (next node) (follows answer)) :
      Follows pairing resolve R (.renderPartial call next) (.renderPartial other follows)
  | splicePartial {call other : PartialCall} {next follows : Except RenderError Unit → Block}
      (called : call.Paired resolve R other) (after : ∀ outcome, R (next outcome) (follows outcome)) :
      Follows pairing resolve R (.splicePartial call next) (.splicePartial other follows)
  | cache {condition conditionToo : Bool} {key keyToo : Cache.KeyExpr} {options optionsToo : Cache.Options}
      {block other : Block} {next follows : Except RenderError Unit → Block}
      (called : pairing.caches ⟨condition, key, options⟩ ⟨conditionToo, keyToo, optionsToo⟩)
      (within : R block other) (after : ∀ outcome, R (next outcome) (follows outcome)) :
      Follows pairing resolve R (.cache condition key options block next)
        (.cache conditionToo keyToo optionsToo other follows)
  | cacheCollection {items itemsToo : Option (List Json.Payload)} {options optionsToo : Cache.Options}
      {key keyToo : Option (Nat → Cache.KeyExpr)} {block other : Nat → Block}
      {next follows : Except RenderError Unit → Block}
      (called : pairing.collections ⟨items, options, key⟩ ⟨itemsToo, optionsToo, keyToo⟩)
      (within : ∀ index, R (block index) (other index))
      (after : ∀ outcome, R (next outcome) (follows outcome)) :
      Follows pairing resolve R (.cacheCollection items options key block next)
        (.cacheCollection itemsToo optionsToo keyToo other follows)

section Bisimilar

variable {pairing : Pairing} {resolve : String → Except RenderError Template} {R S : Block → Block → Prop}

theorem PartialCall.Paired.imp {call other : PartialCall} (paired : call.Paired resolve R other)
    (weaker : ∀ one two, R one two → S one two) : call.Paired resolve S other :=
  ⟨paired.name, paired.mode, paired.blocks.imp weaker⟩

namespace Block

theorem Follows.imp {block other : Block} (follows : block.Follows pairing resolve R other)
    (weaker : ∀ one two, R one two → S one two) : block.Follows pairing resolve S other := by
  cases follows with
  | done outcome => exact .done outcome
  | ask asked after => exact .ask asked fun answer => weaker _ _ (after answer)
  | note noted after => exact .note noted (weaker _ _ after)
  | act acted after => exact .act acted fun outcome => weaker _ _ (after outcome)
  | capture within after =>
    exact .capture (weaker _ _ within) fun node answer accord => weaker _ _ (after node answer accord)
  | renderPartial called after =>
    exact .renderPartial (called.imp weaker) fun node answer accord => weaker _ _ (after node answer accord)
  | splicePartial called after =>
    exact .splicePartial (called.imp weaker) fun outcome => weaker _ _ (after outcome)
  | cache called within after =>
    exact .cache called (weaker _ _ within) fun outcome => weaker _ _ (after outcome)
  | cacheCollection called within after =>
    exact .cacheCollection called (fun index => weaker _ _ (within index)) fun outcome =>
      weaker _ _ (after outcome)

/-- However often they are followed, the programs take alike steps. -/
def Bisimilar (pairing : Pairing) (resolve : String → Except RenderError Template) (block other : Block) :
    Prop :=
  ∃ R : Block → Block → Prop, (∀ one two, R one two → one.Follows pairing resolve R two) ∧ R block other

theorem Bisimilar.follows {block other : Block} (bisimilar : block.Bisimilar pairing resolve other) :
    block.Follows pairing resolve (Bisimilar pairing resolve) other := by
  obtain ⟨R, closed, related⟩ := bisimilar
  exact (closed block other related).imp fun _ _ later => ⟨R, closed, later⟩

theorem bisimilar_of_follows {block other : Block}
    (follows : block.Follows pairing resolve (Bisimilar pairing resolve) other) :
    block.Bisimilar pairing resolve other := by
  refine ⟨fun one two => one.Follows pairing resolve (Bisimilar pairing resolve) two, ?_, follows⟩
  exact fun _ _ step => step.imp fun _ _ later => later.follows

end Block

end Bisimilar

/-- One program that asks these questions only. -/
def Block.Twins (resolve : String → Except RenderError Template) (asks : Query → Prop)
    (block other : Block) : Prop :=
  block = other ∧ block.Every resolve (Block.AsksOnly asks)

namespace Run

variable {σ : Type} {W : World σ → World σ → Prop} {N : Json → Json → Prop}
  {resolve : String → Except RenderError Template} {one other : Renderer σ} {R : Block → Block → Prop}
  {pairing : Pairing}

section Partials

variable {runBlock runBlockToo : Block → Run σ (Except RenderError Unit)}
  (isolated : ∀ block, Isolated (runBlock block)) (isolatedToo : ∀ block, Isolated (runBlockToo block))

include isolated isolatedToo

theorem Coupling.renderOnce (coupling : Coupling W N) (resolves : one.resolve = resolve)
    (resolvesToo : other.resolve = resolve) {name : String} {locals localsToo : Locals}
    (each : ∀ template, resolve name = .ok template →
      Coupled W Eq (runBlock (template locals)) (runBlockToo (template localsToo))) :
    Coupled W (Accord N) (Run.renderOnce one runBlock name locals)
      (Run.renderOnce other runBlockToo name localsToo) := by
  unfold Run.renderOnce
  rw [resolves, resolvesToo]
  cases found : resolve name with
  | error error => exact .pure (.error error)
  | ok template =>
    exact coupling.logDepth _ (coupling.nested (each template found) (isolated _) (isolatedToo _))

theorem Coupling.renderCall (coupling : Coupling W N) (resolves : one.resolve = resolve)
    (resolvesToo : other.resolve = resolve)
    (called : ∀ block other, R block other → Coupled W Eq (runBlock block) (runBlockToo other))
    {call callToo : PartialCall} (paired : call.Paired resolve R callToo) :
    Coupled W (Accord N) (Run.renderCall one runBlock call) (Run.renderCall other runBlockToo callToo) := by
  obtain ⟨name, mode, binding, locals⟩ := call
  obtain ⟨nameToo, modeToo, bindingToo, localsToo⟩ := callToo
  obtain ⟨same, modes, blocks⟩ := paired
  dsimp only at same modes
  subst same
  unfold Run.renderCall
  cases name with
  | none => exact .pure (.error _)
  | some name =>
    cases modes with
    | once =>
      refine coupling.renderOnce isolated isolatedToo resolves resolvesToo fun template found => ?_
      simp only [PartialCall.blocks, found, List.forall₂_cons] at blocks
      exact called _ _ blocks.1
    | absentCollection => exact (coupling.log _).bind fun _ _ _ => .pure (.ok (coupling.arrays .nil))
    | @collection items others equal =>
      refine Coupled.mapped (Coupled.collect ?_) fun _ _ nodes => coupling.arrays nodes
      -- The blocks of the calls are paired one by one, if there is a template.
      refine List.forall₂_iff_get.2 ⟨equal, fun index below belowToo => ?_⟩
      refine coupling.renderOnce isolated isolatedToo resolves resolvesToo fun template found => ?_
      simp only [PartialCall.blocks, found, List.forall₂_map_left_iff, List.forall₂_map_right_iff] at blocks
      exact called _ _ ((List.forall₂_iff_get.1 blocks).2 index below belowToo)

end Partials

/-- What single steps and cache calls have to keep for two renderers to keep it in whole programs. -/
structure InStep (W : World σ → World σ → Prop) (pairing : Pairing)
    (resolve : String → Except RenderError Template) (one other : Renderer σ) : Prop where
  steps : Coupling W pairing.nodes
  asks {query : Query} {world elsewhere : World σ} : pairing.asks query → W world elsewhere →
    query.answer one world.builder = query.answer other elsewhere.builder
  notes {content another : Json} : pairing.notes content another →
    Coupled W Eq (emit (.note content)) (emit (.note another))
  acts {action another : Action} : pairing.acts action another →
    Coupled W Eq (perform action) (perform another)
  caches : CachesCoupled W pairing one other
  resolves : one.resolve = resolve
  resolvesToo : other.resolve = resolve

variable (inStep : InStep W pairing resolve one other)
  (follows : ∀ block other, R block other → block.Follows pairing resolve R other)

include inStep follows

/-- The induction over blocks; related blocks of partials go in step. -/
theorem coupled_run (bound : Nat) (called : ∀ block another, R block another →
      Coupled W Eq (callWithin one bound block) (callWithin other bound another))
    {block another : Block} (related : R block another) :
    Coupled W Eq (block.runWithin one bound) (another.runWithin other bound) := by
  have isolated := fun block : Block => isolated_runWithin one bound block
  have isolatedToo := fun block : Block => isolated_runWithin other bound block
  have rendered {call callToo : PartialCall} (paired : call.Paired resolve R callToo) :=
    inStep.steps.renderCall (isolated_callWithin one bound) (isolated_callWithin other bound)
      inStep.resolves inStep.resolvesToo called paired
  simp only [Block.runWithin_eq] at isolated isolatedToo ⊢
  induction block generalizing another with
  | done outcome =>
    cases follows _ _ related
    exact .pure rfl
  | ask query next ih =>
    cases follows _ _ related with
    | ask asked after =>
      intro world elsewhere same
      show Option.Rel _ ((next (query.answer one world.builder)).run one _ world) _
      rw [inStep.asks asked same]
      exact ih _ (after _) world elsewhere same
  | note content next ih =>
    cases follows _ _ related with
    | note noted after => exact (inStep.notes noted).bind fun _ _ _ => ih after
  | act action next ih =>
    cases follows _ _ related with
    | act acted after =>
      refine (inStep.acts acted).bind ?_
      rintro outcome _ rfl
      exact ih outcome (after outcome)
  | capture block next within ih =>
    cases follows _ _ related with
    | capture inner after =>
      refine (inStep.steps.nested (within inner) (isolated _) (isolatedToo _)).bind ?_
      exact fun node answer accord => ih node (after node answer accord)
  | renderPartial call next ih =>
    cases follows _ _ related with
    | renderPartial paired after =>
      exact (rendered paired).bind fun node answer accord => ih node (after node answer accord)
  | splicePartial call next ih =>
    cases follows _ _ related with
    | splicePartial paired after =>
      refine (rendered paired).bind fun node answer accord => ?_
      refine (inStep.steps.splice accord).bind ?_
      rintro outcome _ rfl
      exact ih outcome (after outcome)
  | cache condition key options block next within ih =>
    cases follows _ _ related with
    | cache called inner after =>
      refine (inStep.caches.single called (within inner) (isolated _) (isolatedToo _)).bind ?_
      rintro outcome _ rfl
      exact ih outcome (after outcome)
  | cacheCollection items options key block next within ih =>
    cases follows _ _ related with
    | cacheCollection called inner after =>
      refine (inStep.caches.each called (fun index => within index (inner index))
        (fun _ => isolated _) fun _ => isolatedToo _).bind ?_
      rintro outcome _ rfl
      exact ih outcome (after outcome)

/-- The induction over the bound. -/
theorem coupled_runWithin (bound : Nat) {block another : Block} (related : R block another) :
    Coupled W Eq (block.runWithin one bound) (another.runWithin other bound) := by
  induction bound generalizing block another with
  | zero => exact coupled_run inStep follows 0 (fun _ _ _ => .failure) related
  | succ bound ih => exact coupled_run inStep follows (bound + 1) (fun _ _ inner => ih inner) related

omit inStep follows

/-! ### One program twice -/

variable {asks : Query → Prop}

theorem paired_self {call : PartialCall} (each : ∀ block ∈ call.blocks resolve, R block block) :
    call.Paired resolve R call where
  name := rfl
  mode := by
    cases call.mode with
    | once => exact .once
    | absentCollection => exact .absentCollection
    | collection items => exact .collection rfl
  blocks := List.forall₂_same.2 each

theorem follows_self {block : Block} (every : block.Every resolve (Block.AsksOnly asks)) :
    block.Follows (.same asks) resolve (Block.Twins resolve asks) block := by
  have same {node answer : Except RenderError Json} (accord : Accord Eq node answer) : node = answer :=
    accord_eq_iff.1 accord
  cases block with
  | done outcome => exact .done outcome
  | ask query next => exact .ask every.head fun answer => ⟨rfl, every.next (.ask answer)⟩
  | note content next => exact .note rfl ⟨rfl, every.next .note⟩
  | act action next => exact .act rfl fun outcome => ⟨rfl, every.next (.act outcome)⟩
  | capture block next =>
    exact .capture ⟨rfl, every.next .captured⟩ fun node answer accord =>
      ⟨congrArg next (same accord), every.next (.capture node)⟩
  | renderPartial call next =>
    refine .renderPartial (paired_self fun block member => ⟨rfl, every.next (.rendered member)⟩) ?_
    exact fun node answer accord => ⟨congrArg next (same accord), every.next (.renderPartial node)⟩
  | splicePartial call next =>
    refine .splicePartial (paired_self fun block member => ⟨rfl, every.next (.spliced member)⟩) ?_
    exact fun outcome => ⟨rfl, every.next (.splicePartial outcome)⟩
  | cache condition key options block next =>
    exact .cache rfl ⟨rfl, every.next .cached⟩ fun outcome => ⟨rfl, every.next (.cache outcome)⟩
  | cacheCollection items options key block next =>
    exact .cacheCollection rfl (fun index => ⟨rfl, every.next (.element index)⟩) fun outcome =>
      ⟨rfl, every.next (.cacheCollection outcome)⟩

/-- A program goes in step with itself if it asks nothing that the two renders answer differently. -/
theorem coupled_same (inStep : InStep W (.same asks) resolve one other) (bound : Nat) {block : Block}
    (every : block.Every resolve (Block.AsksOnly asks)) :
    Coupled W Eq (block.runWithin one bound) (block.runWithin other bound) := by
  have twins : Block.Twins resolve asks block block := ⟨rfl, every⟩
  refine coupled_runWithin inStep (fun block another related => ?_) bound twins
  obtain ⟨rfl, within⟩ := related
  exact follows_self within

/-! ### Stores side by side -/

/-- The states have the same scopes and the same events, and their stores are related. -/
structure Abreast (S : σ → σ → List Event → Prop) (world elsewhere : World σ) : Prop where
  builder : world.builder = elsewhere.builder
  events : world.events = elsewhere.events
  stores : S world.store elsewhere.store world.events

variable {S : σ → σ → List Event → Prop}

theorem abreast_edit (operation : Scope → Edited) :
    Coupled (Abreast S) Eq (edit operation) (edit operation) := by
  rintro ⟨builder, store, events⟩ ⟨_, other, _⟩ ⟨rfl, rfl, stores⟩
  exact .some ⟨rfl, rfl, rfl, stores⟩

theorem coupling_abreast (plainly : ∀ event store other events, event.ofStore = false →
    S store other events → S store other (event :: events)) : Coupling (Abreast S) Eq where
  emits := by
    rintro event ⟨builder, store, events⟩ ⟨_, other, _⟩ plain ⟨rfl, rfl, stores⟩
    exact ⟨rfl, rfl, plainly event store other events plain stores⟩
  logs := by
    rintro entry ⟨builder, store, events⟩ ⟨_, other, _⟩ ⟨rfl, rfl, stores⟩
    exact ⟨rfl, rfl, plainly _ store other events rfl stores⟩
  enters same := ⟨congrArg Builder.push same.builder, same.events, same.stores⟩
  leaves outside inside := by
    refine ⟨?_, outside.builder, inside.events, inside.stores⟩
    rw [inside.builder]
  splices := by
    rintro node _ rfl
    exact abreast_edit (Scope.splice node)
  pushes := by
    rintro node _ rfl
    exact abreast_edit (Scope.push node)
  opens := abreast_edit _
  arrays := arr_of_forall₂

theorem every_asksOnly_true (block : Block) : block.Every resolve (Block.AsksOnly fun _ => True) := by
  intro reached _
  cases reached <;> trivial

/-- A program on two related stores gives the same outcome and leaves related stores. -/
theorem abreast_runWithin {renderer : Renderer σ} {K : String → Prop}
    (plainly : ∀ event store other events, event.ofStore = false →
      S store other events → S store other (event :: events))
    (calls : ∀ store, renderer.activeStore = some store → CallsCoupled (Abreast S) store K)
    (keys : ∀ key options, K (renderer.storeKey key options)) (bound : Nat) (block : Block) :
    Coupled (Abreast S) Eq (block.runWithin renderer bound) (block.runWithin renderer bound) := by
  have coupling := coupling_abreast plainly
  have inStep : InStep (Abreast S) (.same fun _ => True) renderer.resolve renderer renderer :=
    { steps := coupling
      asks := fun _ same => by rw [same.builder]
      notes := by
        rintro content _ rfl
        exact coupling.emit rfl
      acts := by
        rintro action _ rfl
        exact coupling.perform (abreast_edit action.apply)
      caches := coupling.caches calls keys _
      resolves := rfl
      resolvesToo := rfl }
  exact coupled_same inStep bound (every_asksOnly_true block)

end Run

end Stencil
