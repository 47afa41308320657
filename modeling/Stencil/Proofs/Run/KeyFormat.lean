import Stencil.Proofs.Key.Renaming
import Stencil.Proofs.Run.Bound
import Stencil.Proofs.Run.CoupledBlocks

/-!
# Documents with a key format

A render with a key format gives the document of the render without one, all keys renamed, if the block
leaves formats alone and hands on the nodes that it has built as wholes (`keys_formatted_once`). A block
that looks into such a node sees the keys that the format has made (`extract_of_built_node`).
-/

namespace Stencil

/--
The steps of a block under a key format and without one: they differ in the nodes that they are given,
and ask neither for a key in its format nor, unless they are the same, for the settings.
-/
def Pairing.renaming (format : KeyFormat) (names : Set String) (sameSettings : Prop) : Pairing where
  asks
    | .key _ => False
    | .settings => sameSettings
    | _ => True
  notes _ _ := True
  acts := Action.Renamed format.apply names
  nodes := Json.Renamed format.apply names
  caches _ _ := True
  collections call other := call.items.map List.length = other.items.map List.length

namespace Run

variable {σ : Type} {format : KeyFormat} {names : Set String}

/-- The innermost scopes correspond, and are equally deep; stores and events do not matter. -/
structure Renamed (format : KeyFormat) (names : Set String) (world elsewhere : World σ) : Prop where
  current : world.builder.current.Renamed format names elsewhere.builder.current
  depth : world.builder.depth = elsewhere.builder.depth

theorem renamed_edit {operation another : Scope → Edited}
    (corresponds : Scope.Corresponds format names operation another) :
    Coupled (σ := σ) (Renamed format names) Eq (edit operation) (edit another) := by
  intro world elsewhere renamed
  obtain ⟨outcomes, after⟩ := corresponds _ _ renamed.current
  refine .some ⟨outcomes, ?_, ?_⟩
  · show (world.builder.setCurrent _).current.Renamed format names (elsewhere.builder.setCurrent _).current
    rw [Builder.current_setCurrent, Builder.current_setCurrent]
    exact after
  · show (world.builder.setCurrent _).depth = (elsewhere.builder.setCurrent _).depth
    rw [Builder.depth_setCurrent, Builder.depth_setCurrent, renamed.depth]

theorem renamed_emit (event another : Event) :
    Coupled (σ := σ) (Renamed format names) Eq (emit event) (emit another) :=
  fun _ _ renamed => .some ⟨rfl, renamed.current, renamed.depth⟩

theorem renamed_arr {nodes others : List Json}
    (renamed : List.Forall₂ (Json.Renamed format.apply names) nodes others) :
    (Json.arr nodes).Renamed format.apply names (.arr others) := by
  constructor
  · rw [Json.mapKeys_arr, Json.arr.injEq]
    induction renamed with
    | nil => rfl
    | cons first _ ih => rw [List.map_cons, first.1, ih]
  · rintro members ⟨⟩

theorem coupling_renamed (injective : Set.InjOn format.apply names) :
    Coupling (σ := σ) (Renamed format names) (Json.Renamed format.apply names) where
  emits _ renamed := ⟨renamed.current, renamed.depth⟩
  logs _ _ _ renamed := ⟨renamed.current, renamed.depth⟩
  enters renamed :=
    { current :=
        { plain := renamed.current.plain
          formatted := renamed.current.formatted
          ignoreNil := renamed.current.ignoreNil
          body := .empty }
      depth := congrArg (· + 1) renamed.depth }
  leaves outside inside := ⟨inside.current.toNode, outside.current, outside.depth⟩
  splices renamed := renamed_edit (Scope.corresponds_splice injective renamed)
  pushes := by
    rintro node _ ⟨rfl, -⟩
    exact renamed_edit (Scope.corresponds_push node)
  opens := renamed_edit (Scope.corresponds_openArray .openArray)
  arrays := renamed_arr

theorem perform_of_renamed {action other : Action} (renamed : action.Renamed format.apply names other) :
    (perform action : Run σ _) = edit action.apply ∧ (perform other : Run σ _) = edit other.apply := by
  cases renamed <;> exact ⟨rfl, rfl⟩

/-- Two renderers without caching, of which only the second one formats keys. -/
structure Formats (format : KeyFormat) (plain formatted : Renderer σ) : Prop where
  identity : plain.keyFormat = .identity
  format : formatted.keyFormat = format
  resolve : formatted.resolve = plain.resolve
  ignoreNil : formatted.settings.ignoreNil = plain.settings.ignoreNil
  uncached : plain.cachingEnabled = false
  uncachedToo : formatted.cachingEnabled = false

theorem inStep_renamed (injective : Set.InjOn format.apply names) {plain formatted : Renderer σ}
    (formats : Formats format plain formatted) :
    InStep (Renamed format names) (.renaming format names (plain.settings = formatted.settings)) plain.resolve
      plain formatted where
  steps := coupling_renamed injective
  asks := by
    intro query world elsewhere asked renamed
    cases query with
    | shape => exact renamed.current.shape
    | depth => exact renamed.depth
    | key name => exact asked.elim
    | settings => exact asked
  notes _ := renamed_emit _ _
  acts := by
    intro action another renamed
    rw [(perform_of_renamed renamed).1, (perform_of_renamed renamed).2]
    exact renamed_edit (Scope.corresponds_apply injective renamed)
  caches := by
    have inactive {renderer : Renderer σ} (uncached : renderer.cachingEnabled = false) :
        renderer.activeStore = none := by
      simpa [Renderer.cachingEnabled] using uncached
    refine (coupling_renamed injective).caches_of_inactive (inactive formats.uncached)
      (inactive formats.uncachedToo) ?_ fun _ _ called => called
    exact fun _ _ _ => renamed_emit _ _
  resolves := rfl
  resolvesToo := formats.resolve

end Run

open Run

namespace Renderer

variable {σ : Type}

/--
The document under a format is the one without it with all keys renamed, and the errors are the same,
for a block that does the same with a node and with the renamed node.
-/
theorem keys_formatted_once {format : KeyFormat} {names : Set String}
    (injective : Set.InjOn format.apply names) {plain formatted : Renderer σ}
    (formats : Formats format plain formatted) (block : Block)
    (bisimilar : block.Bisimilar (.renaming format names (plain.settings = formatted.settings)) plain.resolve
      block) :
    (block.Finite plain.resolve → ∀ store, ∃ rendered, plain.Yields block store rendered) ∧
    ∀ (bound : Nat) (store : σ),
      (formatted.renderNode bound block store).map Rendered.outcome =
        (plain.renderNode bound block store).map fun rendered =>
          rendered.outcome.map (Json.mapKeys format.apply) := by
  refine ⟨fun finite store => exists_yields finite store, fun bound store => ?_⟩
  have coupled := coupled_runWithin (inStep_renamed injective formats)
    (fun _ _ related => related.follows) bound bisimilar
  have entered : Run.Renamed format names (plain.start store) (formatted.start store) :=
    { current :=
        { plain := formats.identity
          formatted := formats.format
          ignoreNil := formats.ignoreNil
          body := .empty }
      depth := rfl }
  rw [renderNode_eq, renderNode_eq, Option.map_map, Option.map_map]
  refine (map_eq_of_rel (coupled _ _ entered) fun here there ran ranToo related => ?_).symm
  obtain ⟨outcome, after⟩ := related
  obtain ⟨document, -⟩ := after.current.toNode
  rw [← result_of_start (isolated_runWithin plain bound block) ran,
    ← result_of_start (isolated_runWithin formatted bound block) ranToo] at document
  simp only [Function.comp_apply, ended, ← outcome, document]
  cases here.1 <;> rfl

def inFormat (format : KeyFormat) : Renderer Unit := { default with keyFormat := format }

theorem formats_inFormat (format : KeyFormat) : Formats format (default : Renderer Unit) (inFormat format) :=
  ⟨rfl, rfl, rfl, rfl, rfl, rfl⟩

def camelCase : KeyFormat := ⟨[.camelize .lower]⟩

/-- An object that is merged, and a node that is set as an attribute. -/
def byline : Block :=
  .act (.merge (.ok (.obj [("post_id", .num (.int 1))]))) fun _ =>
    .capture (.act (.set "first_name" (.ok (.str "Ada"))) .done) fun
      | .ok node => .act (.set "written_by" (.ok node)) .done
      | .error error => .done (.error error)

def bylineNames : Set String := {"post_id", "first_name", "written_by"}

theorem bisimilar_byline (resolve : String → Except RenderError Template) (sameSettings : Prop) :
    byline.Bisimilar (.renaming camelCase bylineNames sameSettings) resolve byline := by
  have ended (outcome : Except RenderError Unit) :
      (Block.done outcome).Bisimilar (.renaming camelCase bylineNames sameSettings) resolve (.done outcome) :=
    Block.bisimilar_of_follows (.done outcome)
  refine Block.bisimilar_of_follows (.act (.merge ?_) fun _ => Block.bisimilar_of_follows (.capture ?_ ?_))
  · rintro node ⟨⟩
    exact .inr ⟨_, rfl, by simp [bylineNames, Json.ObjectFree]⟩
  · exact Block.bisimilar_of_follows (.act (.set (by simp [bylineNames]) (.ok (.str "Ada"))) ended)
  · rintro _ _ (error | ⟨rfl, -⟩)
    · exact ended (.error error)
    · exact Block.bisimilar_of_follows (.act (.set (by simp [bylineNames]) (.ok _)) ended)

theorem injOn_camelCase : Set.InjOn camelCase.apply bylineNames := by
  rintro name (rfl | rfl | rfl) other (rfl | rfl | rfl) same
  all_goals first
    | rfl
    | exact absurd same (by decide +kernel)

theorem keys_formatted_once_byline :
    ((inFormat camelCase).renderNode 0 byline ()).bind Rendered.document? =
      some (.obj [("postId", .num (.int 1)), ("writtenBy", .obj [("firstName", .str "Ada")])]) := by
  obtain ⟨-, renamed⟩ := keys_formatted_once injOn_camelCase (formats_inFormat camelCase) byline
    (bisimilar_byline _ _)
  have plain : ((default : Renderer Unit).renderNode 0 byline ()).bind (fun rendered =>
      (rendered.outcome.map (Json.mapKeys camelCase.apply)).toOption) =
        some (.obj [("postId", .num (.int 1)), ("writtenBy", .obj [("firstName", .str "Ada")])]) := by
    decide +kernel
  have documents := congrArg (Option.bind · Except.toOption) (renamed 0 ())
  simp only [Option.bind_map] at documents
  exact documents.trans plain

def upperCase : KeyFormat := ⟨[.upcase]⟩

/-- A node that is built, and an attribute that is read off it again. -/
def rereading : Block :=
  .capture (.act (.set "a" (.ok (.num (.int 1)))) .done) fun
    | .ok node => .act (.extract node.get? ["a"]) .done
    | .error error => .done (.error error)

/-- A built node has its keys in the format, so that an attribute is not found under its name. -/
theorem extract_of_built_node :
    ((default : Renderer Unit).renderNode 0 rereading ()).bind Rendered.document? =
        some (.obj [("a", .num (.int 1))]) ∧
      ((inFormat upperCase).renderNode 0 rereading ()).bind Rendered.document? = some (.obj [("A", .null)]) ∧
      ((inFormat upperCase).renderNode 0 rereading ()).bind Rendered.document? ≠
        (((default : Renderer Unit).renderNode 0 rereading ()).bind Rendered.document?).map
          (Json.mapKeys upperCase.apply) := by
  decide +kernel

end Renderer

end Stencil
