import Mathlib.Data.List.Forall2
import Stencil.Proofs.Run.Frame

/-!
# Collections

Building the elements of an array within an open scope does to the scopes what splicing the finished
array into the scope does (`buildElements_of_buildNodes`). The elements do not see the difference, since
a scope that is committed to an array has the same settings. The names of a collection's elements depend
on the items and the renderer alone (`nameElements_value`).
-/

namespace Stencil

/-- The scope becomes an array and takes more elements, or it takes none. -/
theorem Scope.openArray_cases (scope : Scope) :
    (∃ items, scope.openArray .openArray = (.ok (), { scope with body := .elements items }) ∧
      ∀ nodes, scope.splice (.arr nodes) = (.ok (), { scope with body := .elements (items ++ nodes) })) ∨
    ∃ failure conflict, scope.openArray .openArray = (.error failure, scope) ∧
      ∀ nodes, scope.splice (.arr nodes) = (.error conflict, scope) := by
  obtain ⟨body, keyFormat, ignoreNil⟩ := scope
  cases body with
  | empty => exact .inl ⟨[], rfl, fun nodes => rfl⟩
  | elements items => exact .inl ⟨items, rfl, fun nodes => rfl⟩
  | members entries => exact .inr ⟨_, _, rfl, fun nodes => rfl⟩
  | whole value => exact .inr ⟨_, _, rfl, fun nodes => rfl⟩

variable {σ α β γ : Type}

def World.withElements (world : World σ) (items : List Json) : World σ :=
  { world with builder := world.builder.setCurrent { world.builder.current with body := .elements items } }

namespace Run

/-- The value of a run that succeeds, and the scopes after it. -/
def success (result : Except RenderError α × World σ) : Option (α × Builder) :=
  match result.1 with
  | .ok value => some (value, result.2.builder)
  | .error _ => none

def buildNodes (body : Nat → Run σ (Except RenderError Unit)) (indices : List Nat) :
    Run σ (Except RenderError Json) := do
  return (← collect (fun index => nested (body index)) indices).map .arr

theorem collect_map (step : α → Run σ (Except RenderError β)) (f : γ → α) (items : List γ) :
    collect step (items.map f) = collect (fun item => step (f item)) items := by
  induction items with
  | nil => rfl
  | cons item rest ih => simp only [List.map_cons, collect, ih]

theorem collect_cons_some {step : α → Run σ (Except RenderError β)} {item : α} {rest : List α}
    {world : World σ} {result : Except RenderError (List β) × World σ}
    (ran : collect step (item :: rest) world = some result) :
    (∃ error, step item world = some (.error error, result.2) ∧ result.1 = .error error) ∨
    ∃ value middle outcome, step item world = some (.ok value, middle) ∧
      collect step rest middle = some (outcome, result.2) ∧ result.1 = outcome.map (value :: ·) := by
  obtain ⟨first, middle, firstRan, restRan⟩ := bind_some ran
  cases first with
  | error error =>
    rw [← Option.some.inj restRan]
    exact .inl ⟨error, firstRan, rfl⟩
  | ok value =>
    obtain ⟨outcome, after, others, ended⟩ := bind_some restRan
    cases outcome <;> rw [← Option.some.inj ended] <;> exact .inr ⟨value, middle, _, firstRan, others, rfl⟩

theorem collect_of_error {step : α → Run σ (Except RenderError β)} {item : α} (rest : List α)
    {world after : World σ} {error : RenderError} (ran : step item world = some (.error error, after)) :
    collect step (item :: rest) world = some (.error error, after) := by
  unfold collect
  rw [bind_of_some ran]
  rfl

theorem collect_of_ok {step : α → Run σ (Except RenderError β)} {item : α} {rest : List α}
    {world middle after : World σ} {value : β} {outcome : Except RenderError (List β)}
    (ran : step item world = some (.ok value, middle))
    (others : collect step rest middle = some (outcome, after)) :
    collect step (item :: rest) world = some (outcome.map (value :: ·), after) := by
  unfold collect
  rw [bind_of_some ran]
  show (collect step rest >>= _) middle = _
  rw [bind_of_some others]
  cases outcome <;> rfl

theorem nested_keeps {body : Run σ (Except RenderError Unit)} (isolated : Isolated body)
    {world : World σ} {result : Except RenderError Json × World σ}
    (ran : nested body world = some result) : result.2.builder = world.builder := by
  rw [nested_apply isolated, Option.map_eq_some_iff] at ran
  obtain ⟨inner, -, rfl⟩ := ran
  rfl

def pushElement (body : Nat → Run σ (Except RenderError Unit)) (index : Nat) :
    Run σ (Except RenderError Unit) := do
  match ← nested (body index) with
  | .error error => return .error error
  | .ok node => edit (Scope.push node)

/-- The innermost scope is opened as an array and takes elements as nodes, or it takes neither. -/
theorem edit_openArray_cases (world : World σ) :
    (∃ items, edit (Scope.openArray .openArray) world = some (.ok (), world.withElements items) ∧
      ∀ nodes, world.builder.edit (Scope.splice (.arr nodes)) =
        (.ok (), (world.withElements (items ++ nodes)).builder)) ∨
    ∃ failure conflict, edit (Scope.openArray .openArray) world = some (.error failure, world) ∧
      ∀ nodes, world.builder.edit (Scope.splice (.arr nodes)) = (.error conflict, world.builder) := by
  obtain ⟨items, opened, spliced⟩ | ⟨failure, conflict, closed, refused⟩ :=
    world.builder.current.openArray_cases
  · refine .inl ⟨items, ?_, fun nodes => ?_⟩
    · show some _ = some _
      simp only [Builder.edit, opened, World.withElements]
    · simp only [Builder.edit, spliced, World.withElements]
  · refine .inr ⟨failure, conflict, ?_, fun nodes => ?_⟩
    · show some _ = some _
      simp only [Builder.edit, closed, Builder.setCurrent_current]
    · simp only [Builder.edit, refused, Builder.setCurrent_current]

theorem buildElements_eq (body : Nat → Run σ (Except RenderError Unit)) (indices : List Nat) :
    buildElements body indices = do
      match ← edit (Scope.openArray .openArray) with
      | .error error => return .error error
      | .ok () => return (← collect (pushElement body) indices).map fun _ => () := by
  rfl

variable {body : Nat → Run σ (Except RenderError Unit)} (isolated : ∀ index, Isolated (body index))

include isolated

theorem pushElement_error {index : Nat} {world after : World σ} {error : RenderError}
    (ran : nested (body index) world = some (.error error, after)) (items : List Json) :
    ∃ failed, pushElement body index (world.withElements items) = some (.error error, failed) := by
  have moved := nested_elsewhere (isolated index) world (world.withElements items).builder
    (by simp [World.withElements, Scope.child]) (by simp [World.withElements])
  rw [ran] at moved
  exact ⟨_, bind_of_some moved⟩

theorem pushElement_ok {index : Nat} {world after : World σ} {node : Json}
    (ran : nested (body index) world = some (.ok node, after)) (items : List Json) :
    pushElement body index (world.withElements items) =
      some (.ok (), after.withElements (items ++ [node])) := by
  have kept : after.builder = world.builder := nested_keeps (isolated index) ran
  have moved := nested_elsewhere (isolated index) world (world.withElements items).builder
    (by simp [World.withElements, Scope.child]) (by simp [World.withElements])
  rw [ran] at moved
  refine (bind_of_some moved).trans ?_
  show some _ = some _
  simp [World.withElements, Builder.edit, Scope.push, Scope.editElements, kept]

theorem collect_pushElement {indices : List Nat} {world after : World σ}
    {outcome : Except RenderError (List Json)}
    (ran : collect (fun index => nested (body index)) indices world = some (outcome, after))
    (items : List Json) :
    (∃ error failed, outcome = .error error ∧
      collect (pushElement body) indices (world.withElements items) = some (.error error, failed)) ∨
    ∃ nodes units, outcome = .ok nodes ∧
      collect (pushElement body) indices (world.withElements items) =
        some (.ok units, after.withElements (items ++ nodes)) := by
  induction indices generalizing world outcome items with
  | nil =>
    obtain ⟨rfl, rfl⟩ := result_inj ran
    exact .inr ⟨[], [], rfl, by rw [List.append_nil]; rfl⟩
  | cons index rest ih =>
    obtain ⟨error, firstRan, rfl⟩ | ⟨node, middle, others, firstRan, restRan, rfl⟩ := collect_cons_some ran
    · obtain ⟨failed, pushed⟩ := pushElement_error isolated firstRan items
      exact .inl ⟨error, failed, rfl, collect_of_error rest pushed⟩
    · have pushed := pushElement_ok isolated firstRan items
      obtain ⟨error, failed, rfl, later⟩ | ⟨nodes, units, rfl, later⟩ := ih restRan (items ++ [node])
      · exact .inl ⟨error, failed, rfl, collect_of_ok pushed later⟩
      · refine .inr ⟨node :: nodes, () :: units, rfl, ?_⟩
        rw [collect_of_ok pushed later, List.append_assoc]
        rfl

theorem collect_nested_keeps {indices : List Nat} {world : World σ}
    {result : Except RenderError (List Json) × World σ}
    (ran : collect (fun index => nested (body index)) indices world = some result) :
    result.2.builder = world.builder := by
  induction indices generalizing world result with
  | nil => rw [← Option.some.inj ran]
  | cons index rest ih =>
    obtain ⟨error, firstRan, -⟩ | ⟨node, middle, others, firstRan, restRan, -⟩ := collect_cons_some ran
    · exact nested_keeps (isolated index) firstRan
    · exact (ih restRan).trans (nested_keeps (isolated index) firstRan)

theorem buildElements_of_buildNodes {indices : List Nat} {world : World σ}
    {result : Except RenderError Unit × World σ}
    (ran : (buildNodes body indices >>= splice) world = some result) :
    ∃ answer, buildElements body indices world = some answer ∧ success answer = success result := by
  obtain ⟨array, _, arrayRan, spliceRan⟩ := bind_some ran
  obtain ⟨outcome, middle, nodesRan, mapped⟩ := bind_some arrayRan
  obtain ⟨rfl, rfl⟩ := result_inj mapped
  have kept : middle.builder = world.builder := collect_nested_keeps isolated nodesRan
  rw [buildElements_eq]
  obtain ⟨items, opening, spliced⟩ | ⟨failure, conflict, opening, refused⟩ := edit_openArray_cases world
  · rw [bind_of_some opening]
    obtain ⟨error, failed, rfl, pushed⟩ | ⟨nodes, units, rfl, pushed⟩ :=
      collect_pushElement isolated nodesRan items
    · refine ⟨_, bind_of_some pushed, ?_⟩
      rw [← Option.some.inj spliceRan]
      rfl
    · refine ⟨_, bind_of_some pushed, ?_⟩
      rw [← Option.some.inj spliceRan]
      simp only [success, Except.map, kept, spliced, World.withElements]
  · refine ⟨_, bind_of_some opening, ?_⟩
    cases outcome with
    | error error =>
      rw [← Option.some.inj spliceRan]
      rfl
    | ok nodes =>
      rw [← Option.some.inj spliceRan]
      simp only [success, kept, refused]

omit isolated

/-! ### Names of elements -/

/-- The store key of an element, beside the element's index. -/
def elementName (renderer : Renderer σ) (options : Cache.Options) (key : Option (Nat → Cache.KeyExpr))
    (element : Nat × Json.Payload) : Except RenderError (Nat × String) :=
  match element.2 with
  | .error fault => .error (.conversion fault)
  | .ok value => .ok (element.1, renderer.storeKey (elementKey key element.1 value) options)

theorem nameFragment_value {renderer : Renderer σ} {key : Cache.KeyExpr} {options : Cache.Options}
    {world after : World σ} {name : String}
    (ran : nameFragment renderer key options world = some (name, after)) :
    name = renderer.storeKey key options := by
  unfold nameFragment at ran
  obtain ⟨_, asked, -, rest⟩ := bind_some ran
  dsimp only at rest
  split at rest
  · obtain ⟨_, again, -, last⟩ := bind_some rest
    split at last
    · obtain ⟨_, logged, -, ended⟩ := bind_some last
      exact (result_inj ended).1.symm
    · exact (result_inj last).1.symm
  · split at rest
    · obtain ⟨_, logged, -, ended⟩ := bind_some rest
      exact (result_inj ended).1.symm
    · exact (result_inj rest).1.symm

theorem nameElement_value {renderer : Renderer σ} {options : Cache.Options}
    {key : Option (Nat → Cache.KeyExpr)} {element : Nat × Json.Payload} {world after : World σ}
    {outcome : Except RenderError (Nat × String)}
    (ran : nameElement renderer options key element world = some (outcome, after)) :
    outcome = elementName renderer options key element := by
  obtain ⟨index, fault | value⟩ := element
  · exact (result_inj ran).1.symm
  · simp only [nameElement] at ran
    split at ran
    · obtain ⟨_, used, -, rest⟩ := bind_some ran
      obtain ⟨name, naming, same⟩ := returned_some rest
      rw [← same, nameFragment_value naming]
      rfl
    · obtain ⟨name, naming, same⟩ := returned_some ran
      rw [← same, nameFragment_value naming]
      rfl

theorem nameElements_value {renderer : Renderer σ} {options : Cache.Options}
    {key : Option (Nat → Cache.KeyExpr)} {items : List (Nat × Json.Payload)} {world after : World σ}
    {outcome : Except RenderError (List (Nat × String))}
    (ran : collect (nameElement renderer options key) items world = some (outcome, after)) :
    outcome = items.mapM (elementName renderer options key) := by
  induction items generalizing world outcome with
  | nil => exact (result_inj ran).1.symm
  | cons item rest ih =>
    rw [List.mapM_cons]
    obtain ⟨error, naming, same⟩ | ⟨name, middle, others, naming, restRan, same⟩ := collect_cons_some ran
    · rw [← nameElement_value naming]
      exact same
    · rw [← nameElement_value naming, ← ih restRan]
      cases others <;> exact same

theorem names_of_values (renderer : Renderer σ) (options : Cache.Options)
    (key : Option (Nat → Cache.KeyExpr)) {items : List (Nat × Json.Payload)}
    (converted : ∀ item ∈ items, ∃ value, item.2 = .ok value) :
    ∃ elements, items.mapM (elementName renderer options key) = .ok elements ∧
      elements.map Prod.fst = items.map Prod.fst := by
  induction items with
  | nil => exact ⟨[], rfl, rfl⟩
  | cons item rest ih =>
    obtain ⟨value, same⟩ := converted item List.mem_cons_self
    obtain ⟨elements, named, indices⟩ := ih fun other member => converted other (List.mem_cons_of_mem _ member)
    have first : elementName renderer options key item =
        .ok (item.1, renderer.storeKey (elementKey key item.1 value) options) := by
      simp only [elementName, same]
    refine ⟨_, by rw [List.mapM_cons, first, named]; rfl, ?_⟩
    rw [List.map_cons, List.map_cons, indices]

theorem forall₂_of_mapM_ok {ε : Type} {f : α → Except ε β} {items : List α} {values : List β}
    (same : items.mapM f = .ok values) : List.Forall₂ (fun item value => f item = .ok value) items values := by
  induction items generalizing values with
  | nil =>
    obtain rfl := Except.ok.inj same
    exact .nil
  | cons item rest ih =>
    rw [List.mapM_cons] at same
    cases first : f item with
    | error error =>
      rw [first] at same
      contradiction
    | ok value =>
      cases others : rest.mapM f with
      | error error =>
        rw [first, others] at same
        contradiction
      | ok more =>
        rw [first, others] at same
        obtain rfl := Except.ok.inj same
        exact .cons first (ih others)

theorem elementName_ok {renderer : Renderer σ} {options : Cache.Options} {key : Option (Nat → Cache.KeyExpr)}
    {item : Nat × Json.Payload} {element : Nat × String}
    (named : elementName renderer options key item = .ok element) :
    ∃ value, item = (element.1, .ok value) ∧
      element.2 = renderer.storeKey (elementKey key element.1 value) options := by
  obtain ⟨index, fault | value⟩ := item
  · contradiction
  · obtain rfl := Except.ok.inj named
    exact ⟨value, rfl, rfl⟩

theorem elementName_of_mem {renderer : Renderer σ} {options : Cache.Options}
    {key : Option (Nat → Cache.KeyExpr)} {items : List (Nat × Json.Payload)} {elements : List (Nat × String)}
    (named : items.mapM (elementName renderer options key) = .ok elements) {element : Nat × String}
    (member : element ∈ elements) : ∃ value, (element.1, .ok value) ∈ items ∧
      element.2 = renderer.storeKey (elementKey key element.1 value) options := by
  obtain ⟨position, bounded, rfl⟩ := List.getElem_of_mem member
  have each := forall₂_of_mapM_ok named
  obtain ⟨value, same, name⟩ := elementName_ok (each.get (by simpa [each.length_eq] using bounded) bounded)
  exact ⟨value, same ▸ List.get_mem _ _, name⟩

theorem storeKeys_of_names {renderer : Renderer σ} {options : Cache.Options}
    {key : Option (Nat → Cache.KeyExpr)} {items : List (Nat × Json.Payload)} {elements : List (Nat × String)}
    (named : items.mapM (elementName renderer options key) = .ok elements) :
    ∀ element ∈ elements, ∃ expr, element.2 = renderer.storeKey expr options := by
  intro element member
  obtain ⟨_, -, name⟩ := elementName_of_mem named member
  exact ⟨_, name⟩

theorem mem_indexed {items : List α} {item : Nat × α} : item ∈ indexed items ↔ items[item.1]? = some item.2 := by
  constructor
  · intro member
    obtain ⟨position, bounded, rfl⟩ := List.getElem_of_mem member
    simp only [indexed, List.getElem_zip, List.getElem_range]
    exact List.getElem?_eq_getElem _
  · intro found
    obtain ⟨bounded, same⟩ := List.getElem?_eq_some_iff.1 found
    refine List.mem_iff_getElem.2 ⟨item.1, by simpa [indexed] using bounded, ?_⟩
    simp only [indexed, List.getElem_zip, List.getElem_range, same]

theorem map_fst_indexed (items : List α) : (indexed items).map Prod.fst = List.range items.length :=
  List.map_fst_zip (by simp)

theorem map_snd_indexed (items : List α) : (indexed items).map Prod.snd = items :=
  List.map_snd_zip (by simp)

theorem indexed_map (f : α → β) (items : List α) :
    indexed (items.map f) = (indexed items).map fun item => (item.1, f item.2) := by
  unfold indexed
  rw [List.length_map, List.zip_map_right]
  rfl

/-- Numbering what depends on the number and the item changes nothing of the numbers. -/
theorem indexed_map_indexed (f : Nat × α → β) (items : List α) :
    indexed ((indexed items).map f) = (indexed items).map fun item => (item.1, f item) := by
  have count : (indexed items).length = items.length := by simp [indexed]
  rw [indexed, List.length_map, count, ← map_fst_indexed, List.zip_map']

theorem snd_mem_of_indexed {items : List α} {item : Nat × α} (member : item ∈ indexed items) :
    item.2 ∈ items :=
  (List.of_mem_zip member).2

end Run

end Stencil
