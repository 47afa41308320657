import Stencil.Proofs.Run.Attached
import Stencil.Proofs.Run.Course
import Stencil.Proofs.Run.Rules

/-!
# Invariants in the course of a run

What a program within the rules keeps, it keeps at every moment of its run and in all open scopes, not only in
the innermost one and at the end (`holds_of_reaches`). Whatever a block in the course of it builds is then a node
that the rules allow for (`delivers_of_nests`).
-/

namespace Stencil

/-- The open scopes, the innermost one first and the root last. -/
def Builder.scopes (builder : Builder) : List Scope := builder.stack ++ [builder.root]

theorem Builder.scopes_eq (builder : Builder) : builder.scopes = builder.current :: builder.enclosing := by
  obtain ⟨root, _ | ⟨top, outer⟩⟩ := builder <;> rfl

theorem Builder.scopes_push (builder : Builder) : builder.push.scopes = builder.current.child :: builder.scopes := rfl

namespace Run

variable {σ α β : Type}

/-- The run leaves all scopes but the innermost one as they are. -/
def KeepsEnclosing (run : Run σ α) : Prop :=
  ∀ world value after, run world = some (value, after) → after.builder.enclosing = world.builder.enclosing

theorem Isolated.keepsEnclosing {run : Run σ α} (isolated : Isolated run) : KeepsEnclosing run := by
  intro world value after ran
  rw [isolated.frame ran, Builder.enclosing_setCurrent]

theorem KeepsScopes.keepsEnclosing {run : Run σ α} (keeps : KeepsScopes run) : KeepsEnclosing run :=
  fun world value after ran => congrArg Builder.enclosing (keeps world value after ran)

theorem isolated_pushElement {body : Nat → Run σ (Except RenderError Unit)} {index : Nat}
    (isolated : Isolated (body index)) : Isolated (pushElement body index) := by
  refine (isolated_nested isolated).bind fun built => ?_
  cases built with
  | error error => exact .pure _
  | ok node => exact isolated_edit _

/-- The invariant of the innermost scope holds of all open ones. -/
def Invariant.Throughout (invariant : Invariant σ) (world : World σ) : Prop :=
  (∀ scope ∈ world.builder.scopes, invariant.scope scope) ∧ invariant.record world.store world.events

variable {invariant : Invariant σ} {P : α → Prop}

theorem Invariant.Throughout.at_innermost {world : World σ} (throughout : invariant.Throughout world) :
    invariant.At world := by
  obtain ⟨scopes, record⟩ := throughout
  rw [Builder.scopes_eq] at scopes
  exact ⟨scopes _ List.mem_cons_self, record⟩

theorem Keeps.throughout {run : Run σ α} (keeps : Keeps invariant.At P run) (frame : KeepsEnclosing run) :
    Keeps invariant.Throughout P run := by
  intro world throughout value after ran
  obtain ⟨holds, inScope, record⟩ := keeps world throughout.at_innermost value after ran
  refine ⟨holds, ?_, record⟩
  obtain ⟨scopes, -⟩ := throughout
  rw [Builder.scopes_eq] at scopes ⊢
  rw [frame world value after ran]
  exact List.forall_mem_cons.2 ⟨inScope, (List.forall_mem_cons.1 scopes).2⟩

/-- What the steps of a loop keep still holds when the loop comes to an item. -/
theorem Visits.upheld {I : World σ → Prop} {step : α → Run σ (Except RenderError β)} {items : List α} {item : α}
    {world reached : World σ} (visits : Visits step items world item reached)
    (each : ∀ item ∈ items, Upholds I (step item)) (start : I world) : I reached := by
  induction visits with
  | here => exact start
  | later done _ ih =>
    obtain ⟨first, others⟩ := List.forall_mem_cons.1 each
    exact ih others (first _ start _ _ done).2

namespace Invariant.Guarded

variable {renderer : Renderer σ} {rules : Rules} (guarded : invariant.Guarded rules renderer)

include guarded

theorem noted {world : World σ} (throughout : invariant.Throughout world) (entry : LogEntry) :
    invariant.Throughout (world.noted (.log entry)) :=
  ⟨throughout.1, guarded.stable.emits rfl throughout.2⟩

theorem upholds_callWithin (bound : Nat) {block : Block} (abides : block.Abides rules renderer.resolve) :
    Upholds invariant.At (callWithin renderer bound block) := by
  cases bound with
  | zero => exact Keeps.failure
  | succ bound => exact upholds_runWithin guarded bound abides

theorem throughout_of_names {options : Cache.Options} {key : Option (Nat → Cache.KeyExpr)} {items : List Json.Payload}
    {world named : World σ} {names : Except RenderError (List (Nat × String))}
    (throughout : invariant.Throughout world)
    (ran : collect (nameElement renderer options key) (indexed items) world = some (names, named)) :
    invariant.Throughout named := by
  have naming := (guarded.stable.silent (.nameElements renderer options key (indexed items))).throughout
    (Silent.nameElements renderer options key (indexed items)).keepsScopes.keepsEnclosing
  exact (naming world throughout names named ran).2

/-! ### Into nested blocks -/

theorem throughout_of_runs {bound : Nat} {call : PartialCall} {block : Block} {world reached : World σ}
    (runs : call.Runs renderer bound world block reached)
    (called : ∀ block ∈ call.blocks renderer.resolve, block.Abides rules renderer.resolve)
    (throughout : invariant.Throughout world) :
    block.Abides rules renderer.resolve ∧ invariant.Throughout reached := by
  cases runs with
  | once found =>
    refine ⟨called _ ?_, guarded.noted throughout _⟩
    simp only [PartialCall.blocks, found, List.mem_singleton]
  | @each name items binding locals template item reached found visits =>
    have blocks : ∀ item ∈ items,
        (template (locals.insert (binding.getD (Partial.defaultBinding name)) item)).Abides rules renderer.resolve := by
      intro item member
      refine called _ ?_
      simp only [PartialCall.blocks, found]
      exact List.mem_map_of_mem member
    refine ⟨blocks item visits.mem, guarded.noted (visits.upheld (fun item member => ?_) throughout) _⟩
    have isolated := isolated_callWithin renderer bound
    have once : Upholds invariant.At (renderOnce renderer (callWithin renderer bound) name
        (locals.insert (binding.getD (Partial.defaultBinding name)) item)) := by
      refine (guarded.stable.renderOnce isolated fun other same => ?_).upholds
      obtain rfl := Except.ok.inj (found.symm.trans same)
      exact guarded.upholds_callWithin bound (blocks item member)
    exact once.throughout (keepsScopes_renderOnce renderer isolated _ _).keepsEnclosing

theorem throughout_of_nests {moment inner : Moment σ} {purpose : Purpose}
    (abides : moment.block.Abides rules renderer.resolve) (throughout : invariant.Throughout moment.world)
    (nests : moment.Nests renderer purpose inner) :
    inner.block.Abides rules renderer.resolve ∧ invariant.Throughout inner.world := by
  have stable := guarded.stable
  have isolated := isolated_runWithin renderer
  cases nests with
  | capture =>
    cases abides.obeys with
    | capture within after => exact ⟨within, throughout⟩
  | renderPartial runs =>
    cases abides.obeys with
    | renderPartial called after => exact guarded.throughout_of_runs runs called throughout
  | splicePartial runs =>
    cases abides.obeys with
    | splicePartial called after => exact guarded.throughout_of_runs runs called throughout
  | uncached plain =>
    cases abides.obeys with
    | cache within after => exact ⟨within, guarded.noted throughout _⟩
  | @cached bound key options block next store world missed active absent =>
    cases abides.obeys with
    | cache within after =>
      have looked : Upholds invariant.Throughout (lookUp renderer store key options) := by
        have named := stable.silent (.nameFragment renderer key options)
        have read := fun name (_ : True) => (stable.readFragment (guarded.stored active) name).upholds
        have silent := (Silent.nameFragment renderer key options).keepsScopes.bind fun name =>
          (Silent.readFragment store name).keepsScopes
        exact (named.bind read).throughout silent.keepsEnclosing
      exact ⟨within, guarded.noted (looked _ throughout _ _ absent).2 _⟩
  | @inPlace bound items options key block next index world opened reached inactive opens visits =>
    cases abides.obeys with
    | cacheCollection within after =>
      have opening : Upholds invariant.Throughout (edit (Scope.openArray .openArray)) :=
        (Invariant.upholds_edit stable.opens).throughout (isolated_edit _).keepsEnclosing
      have begun := (opening _ (guarded.noted throughout _) _ _ opens).2
      refine ⟨within index, visits.upheld (fun index _ => ?_) begun⟩
      have pushed : Upholds invariant.At (pushElement (fun index => (block index).runWithin renderer bound) index) :=
        stable.pushElement index (upholds_runWithin guarded bound (within index)) (isolated bound _)
      exact pushed.throughout (isolated_pushElement (isolated bound _)).keepsEnclosing
  | @batched bound items options key block next store batch elements found index name world named fetched reached
      missed active batched names reads visits absent =>
    cases abides.obeys with
    | cacheCollection within after =>
      have reading := (stable.readFragments (guarded.stored active) batched (elements.map Prod.snd)).throughout
        (Silent.readFragments batch _).keepsScopes.keepsEnclosing
      obtain ⟨denotes, begun⟩ := reading _ (guarded.throughout_of_names throughout names) _ _ reads
      have visited := visits.upheld (I := invariant.Throughout) (fun element _ => ?_) begun
      · have decoding := (stable.decodeFound denotes name).throughout
          (Silent.decodeFound found name).keepsScopes.keepsEnclosing
        exact ⟨within index, guarded.noted (decoding _ visited _ _ absent).2 _⟩
      · have built : Upholds invariant.At
            (elementOf found (fun index => (block index).runWithin renderer bound) element) :=
          (stable.elementOf denotes element (upholds_runWithin guarded bound (within element.1)) (isolated bound _)).upholds
        exact built.throughout (keepsScopes_elementOf found (fun _ => isolated bound _) element).keepsEnclosing
  | @singly bound items options key block next store elements index name world named reached missed active single
      names visits absent =>
    cases abides.obeys with
    | cacheCollection within after =>
      have begun := guarded.noted (guarded.throughout_of_names throughout names) (.singleCalls elements.length)
      have visited := visits.upheld (I := invariant.Throughout) (fun element _ => ?_) begun
      · have reading := (stable.readFragment (guarded.stored active) name).throughout
          (Silent.readFragment store name).keepsScopes.keepsEnclosing
        exact ⟨within index, guarded.noted (reading _ visited _ _ absent).2 _⟩
      · have built := stable.fetchOrBuild (guarded.stored active) element.2 (renderer.lifetime options)
          (upholds_runWithin guarded bound (within element.1)) (isolated bound _)
        exact (built.throughout (keepsScopes_fetchOrBuild store _ _ (isolated bound _)).keepsEnclosing).upholds

/-! ### From step to step -/

theorem keeps_step (bound : Nat) {block : Block} (abides : block.Abides rules renderer.resolve) :
    Keeps invariant.At (fun following : Block => following.Abides rules renderer.resolve)
      (block.step renderer bound) := by
  have stable := guarded.stable
  have isolated := isolated_runWithin renderer bound
  have body := fun (block : Block) (inner : block.Abides rules renderer.resolve) =>
    upholds_runWithin guarded bound inner
  have rendered {call : PartialCall}
      (blocks : ∀ block ∈ call.blocks renderer.resolve, block.Abides rules renderer.resolve) :=
    stable.renderCall (isolated_callWithin renderer bound) fun block member =>
      guarded.upholds_callWithin bound (blocks block member)
  cases block with
  | done outcome => exact Keeps.failure
  | ask query next =>
    cases abides.obeys with
    | ask after =>
      rintro world kept _ _ ran
      obtain ⟨rfl, rfl⟩ := result_inj ran
      exact ⟨after _ (guarded.answers query kept.1), kept⟩
  | note content next =>
    cases abides.obeys with
    | note after => exact (stable.emit rfl).bind fun _ _ => Keeps.pure after
  | act action next =>
    cases abides.obeys with
    | act permitted after =>
      exact (stable.perform (guarded.acts permitted)).bind fun outcome _ => Keeps.pure (after outcome)
  | capture block next =>
    cases abides.obeys with
    | capture inner after =>
      exact (stable.nested (body block inner) (isolated _)).bind fun outcome given => Keeps.pure (after outcome given)
  | renderPartial call next =>
    cases abides.obeys with
    | renderPartial blocks after =>
      exact (rendered blocks).bind fun outcome given => Keeps.pure (after outcome given)
  | splicePartial call next =>
    cases abides.obeys with
    | splicePartial blocks after =>
      refine (rendered blocks).bind fun node given => ?_
      exact (stable.splice given).bind fun outcome _ => Keeps.pure (after outcome)
  | cache condition key options block next =>
    cases abides.obeys with
    | cache inner after =>
      have cached := stable.cacheOne (fun _ => guarded.stored) condition key options (body block inner) (isolated _)
      exact cached.bind fun outcome _ => Keeps.pure (after outcome)
  | cacheCollection items options key block next =>
    cases abides.obeys with
    | cacheCollection inner after =>
      have cached := stable.cacheEach (fun _ => guarded.stored) items options key
        (fun index => body (block index) (inner index)) fun _ => isolated _
      exact cached.bind fun outcome _ => Keeps.pure (after outcome)

end Invariant.Guarded

theorem KeepsEnclosing.answered {first : Run σ α} (frame : KeepsEnclosing first) (next : α → β) :
    KeepsEnclosing (do return next (← first)) := by
  intro world value after ran
  obtain ⟨answer, firstRan, -⟩ := returned_some ran
  exact frame world answer after firstRan

theorem keepsEnclosing_step (renderer : Renderer σ) (bound : Nat) (block : Block) :
    KeepsEnclosing (block.step renderer bound) := by
  -- A call alone is the run of a block that is done after it.
  have alone : ∀ call : (Except RenderError Unit → Block) → Block, ∀ run : Run σ (Except RenderError Unit),
      (call .done).runWithin renderer bound = run >>= pure → KeepsEnclosing run := by
    intro call run same
    have isolated := isolated_runWithin renderer bound (call .done)
    rw [same, bind_pure] at isolated
    exact isolated.keepsEnclosing
  cases block with
  | done outcome => exact nofun
  | ask query next =>
    intro world value after ran
    rw [← (result_inj ran).2]
  | note content next => exact (isolated_emit (.note content)).keepsEnclosing.answered fun _ => next
  | act action next =>
    exact (alone (.act action) _ (Block.runWithin_eq renderer bound _)).answered next
  | capture block next => exact (keepsScopes_captured renderer bound block).keepsEnclosing.answered next
  | renderPartial call next => exact (keepsScopes_called renderer bound call).keepsEnclosing.answered next
  | splicePartial call next =>
    have spliced : KeepsEnclosing (renderCall renderer (callWithin renderer bound) call >>= splice) := by
      refine alone (.splicePartial call) _ ?_
      rw [bind_assoc]
      exact Block.runWithin_eq renderer bound _
    have frame := spliced.answered next
    rw [bind_assoc] at frame
    exact frame
  | cache condition key options block next =>
    refine KeepsEnclosing.answered (alone (.cache condition key options block) _ ?_) next
    simp only [Block.runWithin_eq]
    rfl
  | cacheCollection items options key block next =>
    refine KeepsEnclosing.answered (alone (.cacheCollection items options key block) _ ?_) next
    simp only [Block.runWithin_eq]
    rfl

namespace Invariant.Guarded

variable {renderer : Renderer σ} {rules : Rules} (guarded : invariant.Guarded rules renderer)

include guarded

/-- What holds at one moment of a run, holds at every later one. -/
theorem holds_of_reaches {moment reached : Moment σ} (abides : moment.block.Abides rules renderer.resolve)
    (throughout : invariant.Throughout moment.world) (reaches : moment.Reaches renderer reached) :
    reached.block.Abides rules renderer.resolve ∧ invariant.Throughout reached.world := by
  induction reaches with
  | refl => exact ⟨abides, throughout⟩
  | tail _ enters ih =>
    obtain ⟨abides, throughout⟩ := ih
    cases enters with
    | @next bound block following world after steps =>
      exact (guarded.keeps_step bound abides).throughout (keepsEnclosing_step renderer bound block)
        world throughout following after steps
    | @within moment inner purpose nests =>
      obtain ⟨inside, scopes, record⟩ := guarded.throughout_of_nests abides throughout nests
      have pushed : inner.opened.world.builder.scopes = _ := Builder.scopes_push inner.world.builder
      refine ⟨inside, ?_, record⟩
      intro scope among
      rw [pushed] at among
      obtain rfl | outer := List.mem_cons.1 among
      · exact guarded.stable.child (Throughout.at_innermost ⟨scopes, record⟩).1
      · exact scopes scope outer

theorem delivers_of_nests {moment inner : Moment σ} {purpose : Purpose}
    (abides : moment.block.Abides rules renderer.resolve) (throughout : invariant.Throughout moment.world)
    (nests : moment.Nests renderer purpose inner) {outcome : Except RenderError Json} {ended : World σ}
    (builds : inner.build renderer = some (outcome, ended)) : Delivers rules.nodes outcome := by
  obtain ⟨inside, within⟩ := guarded.throughout_of_nests abides throughout nests
  have built := guarded.stable.nested (upholds_runWithin guarded inner.bound inside)
    (isolated_runWithin renderer inner.bound inner.block)
  exact (built inner.world within.at_innermost outcome ended builds).1

end Invariant.Guarded

end Run

end Stencil
