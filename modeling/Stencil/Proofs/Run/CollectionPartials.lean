import Stencil.Proofs.Cache.Inactive
import Stencil.Proofs.Run.Aliases
import Stencil.Proofs.Run.Context
import Stencil.Proofs.Run.Operations
import Stencil.Proofs.Run.Outcomes

/-!
# Partials of collections

Without caching, what a call of a partial comes to depends on the scopes alone. So a call for a collection builds
the nodes that calls for its elements build on their own, and an array that takes these nodes at once is the one
that takes them one by one, each out of a scope of its own, if the partial does not see how deep it is nested
(`calls_of_collection`).
-/

namespace Stencil

variable {σ α β : Type}

namespace Run

/-- What the run comes to, whatever it leaves behind. -/
def outcome (run : Run σ (Except RenderError α)) (world : World σ) : Outcome α := (run world).map Prod.fst

/-- The run succeeds and leaves these scopes. -/
def EndsIn (run : Run σ (Except RenderError Unit)) (world : World σ) (builder : Builder) : Prop :=
  ∃ after, run world = some (.ok (), after) ∧ after.builder = builder

theorem endsIn_iff_success {run : Run σ (Except RenderError Unit)} {world : World σ} {builder : Builder} :
    EndsIn run world builder ↔ (run world).bind success = some ((), builder) := by
  unfold EndsIn
  cases run world with
  | none => simp
  | some result => obtain ⟨error | _, after⟩ := result <;> simp [success]

theorem outcome_eq_pure_iff {run : Run σ (Except RenderError α)} {world : World σ} {value : α} :
    outcome run world = pure value ↔ ∃ after, run world = some (.ok value, after) := by
  constructor
  · intro same
    obtain ⟨⟨_, after⟩, ran, rfl⟩ := Option.map_eq_some_iff.1 same
    exact ⟨after, ran⟩
  · rintro ⟨after, ran⟩
    unfold outcome
    rw [ran]
    rfl

theorem outcome_mapped (first : Run σ (Except RenderError α)) (f : α → β) (world : World σ) :
    outcome (do return (← first).map f) world = f <$> outcome first world := by
  show Option.map Prod.fst ((first world).bind _) = _
  unfold outcome
  cases ran : first world with
  | none => rfl
  | some result =>
    obtain ⟨error | value, after⟩ := result <;> rfl

theorem mapM_eq_pure_iff {expected : α → Outcome β} {items : List α} {values : List β} :
    items.mapM expected = pure values ↔
      List.Forall₂ (fun item value => expected item = pure value) items values := by
  constructor
  · exact forall₂_of_mapM
  · intro each
    induction each with
    | nil => rfl
    | cons first _ ih =>
      rw [List.mapM_cons, first, ih]
      rfl

theorem Quiet.outcome {run : Run σ (Except RenderError α)} (quiet : Quiet fun _ : Unit => run)
    {world elsewhere : World σ} (same : world.builder = elsewhere.builder) :
    Run.outcome run world = Run.outcome run elsewhere := by
  obtain ⟨effect, ran⟩ := quiet
  have here := ran () world
  have there := ran () elsewhere
  simp only at here there
  unfold Run.outcome
  rw [here, there, same, Option.map_map, Option.map_map]
  rfl

/-- The steps of a loop do not see the ones before. -/
theorem outcome_collect {step : α → Run σ (Except RenderError β)}
    (quiet : ∀ item, Quiet fun _ : Unit => step item) (keeps : ∀ item, KeepsScopes (step item)) (items : List α)
    (world : World σ) :
    outcome (collect step items) world = items.mapM fun item => outcome (step item) world := by
  have each : ∀ (done : List α) item elsewhere, (∀ other ∈ done, other ∈ items) → item ∈ items →
      elsewhere.builder = world.builder → True →
      Gives (step item elsewhere) world.builder (outcome (step item) world) fun _ _ => True := by
    intro done item elsewhere _ _ scopes _
    refine ⟨(quiet item).outcome scopes, fun result after ran => ⟨?_, fun _ _ => trivial⟩⟩
    exact (keeps item elsewhere result after ran).trans scopes
  have gives := collect_gives (fun _ _ => True) each [] items rfl world rfl trivial
  exact gives.1

theorem endsIn_onSuccess {first : Run σ (Except RenderError α)} {next : α → Run σ (Except RenderError Unit)}
    {world middle : World σ} {value : α} (ran : first world = some (.ok value, middle)) (builder : Builder) :
    EndsIn (onSuccess first next) world builder ↔ EndsIn (next value) middle builder := by
  unfold EndsIn onSuccess
  rw [bind_of_some ran]

/-! ### Elements one by one -/

/-- Appends what is built for each item, up to the first failure. -/
def pushEach (element : α → Run σ (Except RenderError Json)) : List α → Run σ (Except RenderError Unit)
  | [] => pure (.ok ())
  | item :: rest =>
    onSuccess (onSuccess (element item) fun node => edit (Scope.push node)) fun _ => pushEach element rest

theorem runsAs_pushEach (renderer : Renderer σ) (call : Block → Run σ (Except RenderError Unit))
    (body : α → Script Unit) (items : List α) :
    (items.forM fun item => Script.element (body item) : Script Unit).RunsAs renderer call
      (pushEach (fun item => nested ((body item).toBlock.run renderer call)) items) := by
  induction items with
  | nil => exact .ofExcept (.ok ())
  | cons item rest ih =>
    have first : (Script.element (body item)).RunsAs renderer call
        (onSuccess (nested ((body item).toBlock.run renderer call)) fun node => edit (Scope.push node)) :=
      (Script.RunsAs.capture (body item)).bind fun node => .act (.append (.ok node))
    exact first.bind fun _ => ih

theorem edit_of_eq {operation : Scope → Edited} {world : World σ} {outcome : Except RenderError Unit}
    {builder : Builder} (same : world.builder.edit operation = (outcome, builder)) :
    edit operation world = some (outcome, { world with builder }) := by
  have ran : edit operation world = some ((world.builder.edit operation).1,
      { world with builder := (world.builder.edit operation).2 }) := rfl
  rwa [same] at ran

theorem edit_push_withElements {world elsewhere : World σ} {held : List Json} (node : Json)
    (here : elsewhere.builder = (world.withElements held).builder) :
    ∃ after, edit (Scope.push node) elsewhere = some (.ok (), after) ∧
      after.builder = (world.withElements (held ++ [node])).builder := by
  have pushed : elsewhere.builder.edit (Scope.push node) =
      (.ok (), (world.withElements (held ++ [node])).builder) := by
    rw [here]
    simp [World.withElements, Builder.edit, Scope.push, Scope.editElements]
  exact ⟨_, edit_of_eq pushed, rfl⟩

/-- A loop that appends its elements to an array ends with those that are built in scopes with its settings. -/
theorem endsIn_pushEach {element : α → Run σ (Except RenderError Json)}
    (keeps : ∀ item, KeepsScopes (element item)) {own : α → Outcome Json} {world : World σ} {items : List α}
    (each : ∀ item ∈ items, ∀ held elsewhere, elsewhere.builder = (world.withElements held).builder →
      outcome (element item) elsewhere = own item)
    {held : List Json} {elsewhere : World σ} (here : elsewhere.builder = (world.withElements held).builder)
    (builder : Builder) :
    EndsIn (pushEach element items) elsewhere builder ↔
      ∃ nodes, List.Forall₂ (fun item node => own item = pure node) items nodes ∧
        builder = (world.withElements (held ++ nodes)).builder := by
  -- What the array holds grows from element to element; its settings, which is all that elements see, stay.
  induction items generalizing held elsewhere builder with
  | nil =>
    constructor
    · rintro ⟨after, ran, rfl⟩
      obtain ⟨-, rfl⟩ := result_inj ran
      exact ⟨[], .nil, by rw [here, List.append_nil]⟩
    · rintro ⟨nodes, none, rfl⟩
      cases none
      exact ⟨elsewhere, rfl, by rw [here, List.append_nil]⟩
  | cons item rest ih =>
    have first := each item List.mem_cons_self held elsewhere here
    have later := fun other member => each other (List.mem_cons_of_mem item member)
    constructor
    · rintro ⟨after, ran, rfl⟩
      obtain ⟨error, -, impossible⟩ | ⟨_, pushed, pushing, others⟩ := onSuccess_some ran
      · contradiction
      obtain ⟨error, -, impossible⟩ | ⟨node, middle, building, push⟩ := onSuccess_some pushing
      · contradiction
      have kept := (keeps item elsewhere _ middle building).trans here
      obtain ⟨grown, same, holds⟩ := edit_push_withElements node kept
      obtain ⟨-, rfl⟩ := result_inj (push.symm.trans same)
      obtain ⟨nodes, built, ended⟩ := (ih later holds _).1 ⟨after, others, rfl⟩
      refine ⟨node :: nodes, .cons ?_ built, ?_⟩
      · rw [← first, outcome_eq_pure_iff]
        exact ⟨middle, building⟩
      · rw [ended, List.append_assoc, List.singleton_append]
    · rintro ⟨_, built, rfl⟩
      obtain ⟨node, nodes, firstBuilt, restBuilt, rfl⟩ := List.forall₂_cons_left_iff.1 built
      obtain ⟨middle, building⟩ := outcome_eq_pure_iff.1 (first.trans firstBuilt)
      have kept := (keeps item elsewhere _ middle building).trans here
      obtain ⟨pushed, pushing, holds⟩ := edit_push_withElements node kept
      have one : onSuccess (element item) (fun node => edit (Scope.push node)) elsewhere = some (.ok (), pushed) :=
        (bind_of_some building).trans pushing
      apply (endsIn_onSuccess one _).2
      apply (ih later holds _).2
      refine ⟨nodes, restBuilt, ?_⟩
      rw [List.append_assoc, List.singleton_append]

theorem edit_splice_push {scope : Scope} (regular : scope.Regular) (builder : Builder) :
    ∃ filled, builder.push.edit (Scope.splice scope.toNode) = (.ok (), builder.push.setCurrent filled) ∧
      filled.toNode = scope.toNode := by
  obtain ⟨filled, spliced, same⟩ := regular.splice_fresh builder.current.keyFormat builder.current.ignoreNil
  refine ⟨filled, ?_, same⟩
  have entered : builder.push.current = Scope.fresh builder.current.keyFormat builder.current.ignoreNil := rfl
  simp only [Builder.edit, entered, spliced]

/-- A node that a regular scope may have built is the one of a scope into which it is spliced. -/
theorem outcome_nested_splice {first : Run σ (Except RenderError Json)} (keeps : KeepsScopes first)
    (regular : ∀ world node after, first world = some (.ok node, after) →
      ∃ scope : Scope, scope.Regular ∧ scope.toNode = node) (world : World σ) :
    outcome (nested (first >>= splice)) world = outcome first { world with builder := world.builder.push } := by
  unfold outcome
  rw [nested_eq, bind_apply]
  cases ran : first { world with builder := world.builder.push } with
  | none => rfl
  | some result =>
    obtain ⟨error | node, after⟩ := result
    · rfl
    · have kept : after.builder = world.builder.push := keeps _ _ after ran
      obtain ⟨scope, whole, rfl⟩ := regular _ node after ran
      obtain ⟨filled, edited, same⟩ := edit_splice_push whole world.builder
      rw [← kept] at edited
      have spliced : splice (.ok scope.toNode) after = some (.ok (), { after with builder := _ }) := edit_of_eq edited
      simp only [Option.bind_some, spliced, Option.map_some, kept, Builder.pop_setCurrent_push, same]
      rfl

/-! ### Calls -/

section Calls

variable (renderer : Renderer σ) (bound : Nat)

theorem quiet_callWithin (inactive : renderer.activeStore = none) (block : Block) :
    Quiet fun _ : Unit => callWithin renderer bound block := by
  cases bound with
  | zero => exact ⟨fun _ => none, fun _ _ => rfl⟩
  | succ bound => exact quiet_of_inactive (fun _ => inactive) (fun _ => rfl) (fun _ => rfl) bound block

theorem quiet_callPartial (inactive : renderer.activeStore = none) (call : PartialCall) :
    Quiet fun _ : Unit => renderer.callPartial bound call :=
  hereditary_quiet.renderCall (fun _ => rfl) fun block _ => quiet_callWithin renderer bound inactive block

theorem sameScope_callWithin {block : Block} (ignores : block.Every renderer.resolve (Block.AsksOnly (· ≠ .depth))) :
    Coupled SameScope Eq (callWithin renderer bound block) (callWithin renderer bound block) := by
  cases bound with
  | zero => exact .failure
  | succ bound => exact coupled_same (inStep_sameScope renderer) bound ignores

theorem SameScope.entered (world : World σ) :
    SameScope { world with builder := world.builder.push } { world with builder := world.builder.push } :=
  ⟨rfl, Scope.regular_fresh _ _, rfl, rfl⟩

theorem callPartial_of_found {name : String} {locals : Locals} {template : Template}
    (found : renderer.resolve name = .ok template) (world : World σ) :
    renderer.callPartial bound { name := some name, locals } world =
      nested (callWithin renderer bound (template locals))
        (world.noted (.log (.renderingPartial name world.builder.depth))) := by
  simp only [Renderer.callPartial, renderCall, renderOnce, found]
  rfl

theorem callPartial_of_unknown {name : String} {locals : Locals} {error : RenderError}
    (unknown : renderer.resolve name = .error error) :
    renderer.callPartial bound { name := some name, locals } = pure (.error error) := by
  simp only [Renderer.callPartial, renderCall, renderOnce, unknown]

variable {name : String} {locals : Locals}
  (ignores : ∀ template, renderer.resolve name = .ok template →
    (template locals).Every renderer.resolve (Block.AsksOnly (· ≠ .depth)))

include ignores

/-- In scopes with the same settings a call comes to the same. -/
theorem outcome_callPartial_elsewhere (inactive : renderer.activeStore = none) {world elsewhere : World σ}
    (keyFormat : elsewhere.builder.current.keyFormat = world.builder.current.keyFormat)
    (ignoreNil : elsewhere.builder.current.ignoreNil = world.builder.current.ignoreNil) :
    outcome (renderer.callPartial bound { name := some name, locals }) elsewhere =
      outcome (renderer.callPartial bound { name := some name, locals }) world := by
  cases found : renderer.resolve name with
  | error error =>
    rw [callPartial_of_unknown renderer bound found]
    rfl
  | ok template =>
    have quiet := (quiet_callWithin renderer bound inactive (template locals)).nested
    have isolated := isolated_callWithin renderer bound (template locals)
    have coupled := sameScope_callWithin renderer bound (ignores template found)
    have called : ∀ place : World σ, outcome (renderer.callPartial bound { name := some name, locals }) place =
        outcome (nested (callWithin renderer bound (template locals)))
          (place.noted (.log (.renderingPartial name place.builder.depth))) :=
      fun place => congrArg (Option.map Prod.fst) (callPartial_of_found renderer bound found place)
    have moved := seen_nested coupled isolated (world.noted (.log (.renderingPartial name world.builder.depth)))
      elsewhere.builder keyFormat ignoreNil
    have same := congrArg (Option.map Prod.fst) moved
    rw [Option.map_map, Option.map_map] at same
    rw [called, called]
    refine Eq.trans ?_ same
    exact quiet.outcome rfl

/-- What a call gives is the node of a regular scope. -/
theorem regular_of_callPartial (world : World σ) (node : Json) (after : World σ)
    (ran : renderer.callPartial bound { name := some name, locals } world = some (.ok node, after)) :
    ∃ scope : Scope, scope.Regular ∧ scope.toNode = node := by
  cases found : renderer.resolve name with
  | error error =>
    rw [callPartial_of_unknown renderer bound found] at ran
    cases (result_inj ran).1
  | ok template =>
    have isolated := isolated_callWithin renderer bound (template locals)
    rw [callPartial_of_found renderer bound found, nested_apply isolated, Option.map_eq_some_iff] at ran
    obtain ⟨⟨error | _, inner⟩, within, same⟩ := ran
    · cases (Prod.mk.inj same).1
    · have coupled := sameScope_callWithin renderer bound (ignores template found)
      have related := coupled _ _ (SameScope.entered (world.noted (.log (.renderingPartial name world.builder.depth))))
      rw [within] at related
      cases related with
      | some kept =>
        obtain ⟨-, scopes⟩ := kept
        obtain ⟨outcomes, -⟩ := Prod.mk.inj same
        exact ⟨inner.builder.current, scopes.regular, Except.ok.inj outcomes⟩

end Calls

end Run

/-- The call of a partial for a collection. -/
def PartialCall.ofItems (name : String) (binding : Option String) (locals : Locals) (items : List Json) :
    PartialCall :=
  { name := some name, mode := .collection items, binding, locals }

/-- The call of a partial for one element, as a local beside the others. -/
def PartialCall.ofItem (name : String) (binding : Option String) (locals : Locals) (item : Json) : PartialCall :=
  { name := some name, locals := locals.insert (binding.getD (Partial.defaultBinding name)) item }

open Run

section Runs

variable (renderer : Renderer σ) (bound : Nat)

theorem Run.runWithin_splice (call : PartialCall) :
    (Script.splicePartial call).toBlock.runWithin renderer bound = renderer.callPartial bound call >>= splice := by
  rw [Block.runWithin_eq]
  exact (Script.RunsAs.splicePartial call).toBlock

theorem Run.run_arrayFrom (body : α → Script Unit) (items : List α) :
    (Operation.arrayFrom items body).run renderer bound = onSuccess (edit (Scope.openArray .openArray)) fun _ =>
      pushEach (fun item => nested ((body item).toBlock.runWithin renderer bound)) items := by
  unfold Operation.run
  simp only [Block.runWithin_eq]
  have loop := runsAs_pushEach renderer (callWithin renderer bound) body items
  exact ((Script.RunsAs.act .openArray).bind fun _ => loop).toBlock

end Runs

section Collections

variable {renderer : Renderer σ} (inactive : renderer.activeStore = none) (bound : Nat) (name : String)
  (binding : Option String) (locals : Locals) (items : List Json) (world : World σ)

include inactive

theorem Run.outcome_ofItems : outcome (renderer.callPartial bound (.ofItems name binding locals items)) world =
    Json.arr <$> items.mapM fun item =>
      outcome (renderer.callPartial bound (.ofItem name binding locals item)) world := by
  have isolated := isolated_callWithin renderer bound
  have called : renderer.callPartial bound (.ofItems name binding locals items) = do
      return (← collect (fun item => renderer.callPartial bound (.ofItem name binding locals item)) items).map .arr :=
    rfl
  rw [called, outcome_mapped, outcome_collect]
  · exact fun item => quiet_callPartial renderer bound inactive _
  · exact fun item => keepsScopes_renderCall renderer isolated _

/-- The array of a collection's call holds what the calls for the elements build on their own. -/
theorem Run.ofItems_ok_iff (node : Json) :
    (∃ after, renderer.callPartial bound (.ofItems name binding locals items) world = some (.ok node, after)) ↔
      ∃ nodes, node = .arr nodes ∧ List.Forall₂ (fun item element =>
        ∃ after, renderer.callPartial bound (.ofItem name binding locals item) world = some (.ok element, after))
          items nodes := by
  simp only [← outcome_eq_pure_iff, ← mapM_eq_pure_iff]
  rw [outcome_ofItems inactive]
  constructor
  · intro same
    obtain ⟨nodes, built, rfl⟩ := exists_of_map_eq_pure same
    exact ⟨nodes, rfl, built⟩
  · rintro ⟨nodes, rfl, built⟩
    rw [built]
    rfl

theorem Run.endsIn_splice_ofItems (builder : Builder) :
    EndsIn ((Operation.splicePartial (.ofItems name binding locals items)).run renderer bound) world builder ↔
      ∃ nodes, List.Forall₂ (fun item element =>
        outcome (renderer.callPartial bound (.ofItem name binding locals item)) world = pure element) items nodes ∧
          world.builder.edit (Scope.splice (.arr nodes)) = (.ok (), builder) := by
  have runs : (Operation.splicePartial (.ofItems name binding locals items)).run renderer bound =
      renderer.callPartial bound (.ofItems name binding locals items) >>= splice := runWithin_splice renderer bound _
  have keeps := keepsScopes_renderCall renderer (isolated_callWithin renderer bound)
    (.ofItems name binding locals items)
  have given := ofItems_ok_iff inactive bound name binding locals items world
  simp only [outcome_eq_pure_iff]
  rw [runs]
  constructor
  · rintro ⟨after, ran, rfl⟩
    obtain ⟨error | node, middle, called, spliced⟩ := bind_some ran
    · cases (result_inj spliced).1
    · obtain ⟨nodes, rfl, each⟩ := (given node).1 ⟨middle, called⟩
      obtain ⟨done, rfl⟩ := result_inj spliced
      have kept : middle.builder = world.builder := keeps world _ middle called
      refine ⟨nodes, each, ?_⟩
      rw [← kept]
      exact Prod.ext done rfl
  · rintro ⟨nodes, each, spliced⟩
    obtain ⟨middle, called⟩ := (given (.arr nodes)).2 ⟨nodes, rfl, each⟩
    have kept : middle.builder = world.builder := keeps world _ middle called
    rw [← kept] at spliced
    exact ⟨_, (bind_of_some called).trans (edit_of_eq spliced), rfl⟩

/-- An array that is built in place takes what the calls build on their own, if these do not see the depth. -/
theorem Run.endsIn_arrayFrom_ofItem
    (ignores : ∀ block ∈ (PartialCall.ofItems name binding locals items).blocks renderer.resolve,
      block.Every renderer.resolve (Block.AsksOnly (· ≠ .depth))) (builder : Builder) :
    EndsIn ((Operation.arrayFrom items fun item => Script.splicePartial (.ofItem name binding locals item)).run
        renderer bound) world builder ↔
      ∃ nodes, List.Forall₂ (fun item element =>
        outcome (renderer.callPartial bound (.ofItem name binding locals item)) world = pure element) items nodes ∧
          world.builder.edit (Scope.splice (.arr nodes)) = (.ok (), builder) := by
  have keeps := fun item => keepsScopes_captured renderer bound
    (Script.splicePartial (.ofItem name binding locals item)).toBlock
  have each : ∀ item ∈ items, ∀ held elsewhere, elsewhere.builder = (world.withElements held).builder →
      outcome (nested ((Script.splicePartial (.ofItem name binding locals item)).toBlock.runWithin renderer bound))
          elsewhere =
        outcome (renderer.callPartial bound (.ofItem name binding locals item)) world := by
    intro item member held elsewhere here
    have blind : ∀ template, renderer.resolve name = .ok template →
        (template (PartialCall.ofItem name binding locals item).locals).Every renderer.resolve
          (Block.AsksOnly (· ≠ .depth)) := by
      intro template found
      apply ignores
      simp only [PartialCall.blocks, PartialCall.ofItems, found]
      exact List.mem_map_of_mem member
    have called := keepsScopes_renderCall renderer (isolated_callWithin renderer bound)
      (.ofItem name binding locals item)
    have spliced := outcome_nested_splice called (regular_of_callPartial renderer bound blind) elsewhere
    rw [runWithin_splice]
    refine spliced.trans (outcome_callPartial_elsewhere renderer bound blind inactive ?_ ?_)
    · show elsewhere.builder.current.keyFormat = _
      simp [here, World.withElements]
    · show elsewhere.builder.current.ignoreNil = _
      simp [here, World.withElements]
  rw [run_arrayFrom]
  obtain ⟨held, opened, takes⟩ | ⟨failure, conflict, closed, refuses⟩ := edit_openArray_cases world
  · have entered : (world.withElements held).builder = (world.withElements held).builder := rfl
    have filling := endsIn_pushEach keeps each entered builder
    simp only [takes, Prod.mk.injEq, true_and, eq_comm (b := builder)]
    exact (endsIn_onSuccess opened builder).trans filling
  · constructor
    · rintro ⟨after, ran, -⟩
      have failed := ran.symm.trans (bind_of_some closed)
      cases (result_inj failed).1
    · rintro ⟨nodes, -, done⟩
      cases (Prod.mk.inj ((refuses nodes).symm.trans done)).1

end Collections

namespace Renderer

/--
A collection's call builds the nodes that calls for its elements build in the same scopes, whatever the other
elements are. Splicing the array and building it in place out of these calls end alike if they do not see the depth.
-/
theorem calls_of_collection (renderer : Renderer σ) (off : renderer.cachingEnabled = false) (name : String)
    (binding : Option String) (locals : Locals) (items : List Json) :
    let whole := PartialCall.ofItems name binding locals items
    let single := PartialCall.ofItem name binding locals
    (∀ item known, (single item).locals.get? known =
      if binding.getD (Partial.defaultBinding name) = known then some item else locals.get? known) ∧
    ((∀ block ∈ whole.blocks renderer.resolve, block.Finite renderer.resolve) →
      ∀ world, ∃ bound result, renderer.callPartial bound whole world = some result) ∧
    (∀ bound world node, (∃ after, renderer.callPartial bound whole world = some (.ok node, after)) ↔
      ∃ nodes, node = .arr nodes ∧ List.Forall₂ (fun item element =>
        ∃ after, renderer.callPartial bound (single item) world = some (.ok element, after)) items nodes) ∧
    ((∀ block ∈ whole.blocks renderer.resolve, block.Every renderer.resolve (Block.AsksOnly (· ≠ .depth))) →
      ∀ bound world builder, EndsIn ((Operation.splicePartial whole).run renderer bound) world builder ↔
        EndsIn ((Operation.arrayFrom items fun item => Script.splicePartial (single item)).run renderer bound)
          world builder) ∧
    ∀ known, binding = some known → locals = {} →
      Script.renderCollection (some (items.map .ok)) name known = Script.renderPartial whole ∧
        Script.arrayOfPartials (some (items.map .ok)) name known = Script.splicePartial whole := by
  intro whole single
  have inactive : renderer.activeStore = none := by simpa [cachingEnabled] using off
  refine ⟨fun item known => Locals.get?_insert _ known item locals, fun finite world => ?_,
    fun bound world node => ofItems_ok_iff inactive bound name binding locals items world node,
    fun ignores bound world builder => ?_, ?_⟩
  · obtain ⟨bound, result, ran⟩ := settled_renderCall renderer finite world
    exact ⟨bound, result, ran bound (Nat.le_refl bound)⟩
  · have spliced := endsIn_splice_ofItems inactive bound name binding locals items world builder
    have inPlace := endsIn_arrayFrom_ofItem inactive bound name binding locals items world ignores builder
    exact spliced.trans inPlace.symm
  · rintro known rfl rfl
    have values : (items.map (Except.ok : Json → Json.Payload)).mapM id = .ok items := by
      induction items with
      | nil => rfl
      | cons item rest ih =>
        rw [List.map_cons, List.mapM_cons, ih]
        rfl
    have called : Script.collectionCall (some (items.map .ok)) name known = .ok whole := by
      simp only [Script.collectionCall, values]
      rfl
    unfold Script.renderCollection Script.arrayOfPartials
    rw [called]
    exact ⟨rfl, rfl⟩

/-- An array of how deep the scope is nested. -/
def level (_ : Locals) : Block :=
  .ask .depth fun (depth : Nat) => .act (.append (.ok (.num (.int depth)))) .done

def withLevel : Renderer Unit :=
  { (default : Renderer Unit) with
    resolve := fun name =>
      if name = "summary" then .ok summary else if name = "level" then .ok level else noPartials name }

theorem calls_of_collection_twoSummaries :
    EndsIn ((Operation.arrayFrom [.str "New", .null] fun item =>
        Script.splicePartial (.ofItem "summary" none {} item)).run withLevel 1) (withLevel.start ())
      ⟨⟨.elements [.obj [("title", .str "New")], .obj [("title", .null)]], .identity, false⟩, []⟩ := by
  obtain ⟨-, -, -, alike, -⟩ := calls_of_collection withLevel rfl "summary" none {} [.str "New", .null]
  have ignores : ∀ block ∈ (PartialCall.ofItems "summary" none {} [.str "New", .null]).blocks withLevel.resolve,
      block.Every withLevel.resolve (Block.AsksOnly (· ≠ .depth)) := by
    simp [PartialCall.blocks, PartialCall.ofItems, withLevel, summary, Block.every_act, Block.every_done,
      Block.AsksOnly]
  apply (alike ignores 1 _ _).1
  rw [endsIn_iff_success]
  decide +kernel

/-- If the array is built in place, a partial that sees the depth is nested once more. -/
theorem calls_of_collection_seeing_depth :
    let levels (depth : Int) : Builder := ⟨⟨.elements [.arr [.num (.int depth)]], .identity, false⟩, []⟩
    let atOnce := (Operation.splicePartial (.ofItems "level" none {} [.null])).run withLevel 1
    let inPlace := (Operation.arrayFrom [.null] fun item => Script.splicePartial (.ofItem "level" none {} item)).run
      withLevel 1
    withLevel.cachingEnabled = false ∧ EndsIn atOnce (withLevel.start ()) (levels 1) ∧
      EndsIn inPlace (withLevel.start ()) (levels 2) ∧ ¬ EndsIn inPlace (withLevel.start ()) (levels 1) := by
  intro levels atOnce inPlace
  simp only [endsIn_iff_success]
  decide +kernel

end Renderer

end Stencil
