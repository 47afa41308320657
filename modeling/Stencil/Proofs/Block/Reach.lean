import Mathlib.Logic.Relation
import Stencil.Renderer

/-!
# The blocks within a program

A block leads to the blocks that it goes on with, to those that it nests and to those of the partials
that it calls. A program has a property in `Every` block if all blocks that it leads to, in any number of
steps, have it. It is `Finite` if no chain of such steps goes on for ever.
-/

namespace Stencil

def PartialCall.blocks (resolve : String → Except RenderError Template) (call : PartialCall) :
    List Block :=
  match call.name with
  | none => []
  | some name =>
    match resolve name, call.mode with
    | .error _, _ | .ok _, .absentCollection => []
    | .ok template, .once => [template call.locals]
    | .ok template, .collection items =>
      items.map fun item =>
        template (call.locals.insert (call.binding.getD (Partial.defaultBinding name)) item)

namespace Block

variable {resolve : String → Except RenderError Template} {P Q : Block → Prop}

/-- One block leads to another: as what follows a step, as a nested block, or through a partial. -/
inductive Leads (resolve : String → Except RenderError Template) : Block → Block → Prop where
  | ask {query : Query} {next : query.Answer → Block} (answer : query.Answer) :
      Leads resolve (.ask query next) (next answer)
  | note {content : Json} {next : Block} : Leads resolve (.note content next) next
  | act {action : Action} {next : Except RenderError Unit → Block} (outcome : Except RenderError Unit) :
      Leads resolve (.act action next) (next outcome)
  | captured {block : Block} {next : Except RenderError Json → Block} :
      Leads resolve (.capture block next) block
  | capture {block : Block} {next : Except RenderError Json → Block}
      (outcome : Except RenderError Json) : Leads resolve (.capture block next) (next outcome)
  | rendered {call : PartialCall} {next : Except RenderError Json → Block} {block : Block}
      (member : block ∈ call.blocks resolve) : Leads resolve (.renderPartial call next) block
  | renderPartial {call : PartialCall} {next : Except RenderError Json → Block}
      (outcome : Except RenderError Json) : Leads resolve (.renderPartial call next) (next outcome)
  | spliced {call : PartialCall} {next : Except RenderError Unit → Block} {block : Block}
      (member : block ∈ call.blocks resolve) : Leads resolve (.splicePartial call next) block
  | splicePartial {call : PartialCall} {next : Except RenderError Unit → Block}
      (outcome : Except RenderError Unit) : Leads resolve (.splicePartial call next) (next outcome)
  | cached {condition : Bool} {key : Cache.KeyExpr} {options : Cache.Options} {block : Block}
      {next : Except RenderError Unit → Block} :
      Leads resolve (.cache condition key options block next) block
  | cache {condition : Bool} {key : Cache.KeyExpr} {options : Cache.Options} {block : Block}
      {next : Except RenderError Unit → Block} (outcome : Except RenderError Unit) :
      Leads resolve (.cache condition key options block next) (next outcome)
  | element {items : Option (List Json.Payload)} {options : Cache.Options}
      {key : Option (Nat → Cache.KeyExpr)} {block : Nat → Block}
      {next : Except RenderError Unit → Block} (index : Nat) :
      Leads resolve (.cacheCollection items options key block next) (block index)
  | cacheCollection {items : Option (List Json.Payload)} {options : Cache.Options}
      {key : Option (Nat → Cache.KeyExpr)} {block : Nat → Block}
      {next : Except RenderError Unit → Block} (outcome : Except RenderError Unit) :
      Leads resolve (.cacheCollection items options key block next) (next outcome)

/-- All blocks of the program have the property. -/
def Every (resolve : String → Except RenderError Template) (P : Block → Prop) (block : Block) :
    Prop :=
  ∀ reached, Relation.ReflTransGen (Leads resolve) block reached → P reached

theorem Every.head {block : Block} (every : block.Every resolve P) : P block :=
  every block .refl

theorem Every.next {block reached : Block} (every : block.Every resolve P)
    (leads : Leads resolve block reached) : reached.Every resolve P :=
  fun last chain => every last (.head leads chain)

theorem Every.later {block reached : Block} (every : block.Every resolve P)
    (chain : Relation.TransGen (Leads resolve) block reached) : reached.Every resolve P :=
  fun last rest => every last (chain.to_reflTransGen.trans rest)

theorem Every.imp {block : Block} (every : block.Every resolve P) (weaker : ∀ b, P b → Q b) :
    block.Every resolve Q :=
  fun reached chain => weaker reached (every reached chain)

theorem Every.and {block : Block} (left : block.Every resolve P) (right : block.Every resolve Q) :
    block.Every resolve fun b => P b ∧ Q b :=
  fun reached chain => ⟨left reached chain, right reached chain⟩

theorem every_iff {block : Block} :
    block.Every resolve P ↔ P block ∧ ∀ reached, Leads resolve block reached → reached.Every resolve P := by
  constructor
  · intro every
    exact ⟨every.head, fun reached leads => every.next leads⟩
  · rintro ⟨here, later⟩ reached chain
    rcases chain.cases_head with same | ⟨second, leads, rest⟩
    · exact same ▸ here
    · exact later second leads reached rest

theorem every_done (outcome : Except RenderError Unit) :
    (Block.done outcome).Every resolve P ↔ P (.done outcome) := by
  rw [every_iff, and_iff_left]
  intro reached leads
  cases leads

theorem every_act (action : Action) (next : Except RenderError Unit → Block) :
    (Block.act action next).Every resolve P ↔
      P (.act action next) ∧ ∀ outcome, (next outcome).Every resolve P := by
  rw [every_iff]
  refine and_congr_right fun _ => ⟨fun every outcome => every _ (.act outcome), fun every reached leads => ?_⟩
  cases leads with
  | act outcome => exact every outcome

theorem every_cache (condition : Bool) (key : Cache.KeyExpr) (options : Cache.Options) (block : Block)
    (next : Except RenderError Unit → Block) :
    (Block.cache condition key options block next).Every resolve P ↔
      P (.cache condition key options block next) ∧ block.Every resolve P ∧
        ∀ outcome, (next outcome).Every resolve P := by
  rw [every_iff]
  refine and_congr_right fun _ =>
    ⟨fun every => ⟨every _ .cached, fun outcome => every _ (.cache outcome)⟩, fun every reached leads => ?_⟩
  cases leads with
  | cached => exact every.1
  | cache outcome => exact every.2 outcome

theorem every_cacheCollection (items : Option (List Json.Payload)) (options : Cache.Options)
    (key : Option (Nat → Cache.KeyExpr)) (block : Nat → Block)
    (next : Except RenderError Unit → Block) :
    (Block.cacheCollection items options key block next).Every resolve P ↔
      P (.cacheCollection items options key block next) ∧ (∀ index, (block index).Every resolve P) ∧
        ∀ outcome, (next outcome).Every resolve P := by
  rw [every_iff]
  refine and_congr_right fun _ => ⟨fun every => ⟨fun index => every _ (.element index), fun outcome =>
    every _ (.cacheCollection outcome)⟩, fun every reached leads => ?_⟩
  cases leads with
  | element index => exact every.1 index
  | cacheCollection outcome => exact every.2 outcome

/-- No chain of steps of the program goes on for ever. -/
def Finite (resolve : String → Except RenderError Template) (block : Block) : Prop :=
  Acc (fun later earlier => Leads resolve earlier later) block

theorem finite_of_no_partials (absent : ∀ call : PartialCall, call.blocks resolve = []) (block : Block) :
    block.Finite resolve := by
  induction block with
  | done outcome => exact .intro _ fun _ leads => by cases leads
  | ask query next ih =>
    refine .intro _ fun _ leads => ?_
    cases leads with
    | ask answer => exact ih answer
  | note content next ih =>
    refine .intro _ fun _ leads => ?_
    cases leads
    exact ih
  | act action next ih =>
    refine .intro _ fun _ leads => ?_
    cases leads with
    | act outcome => exact ih outcome
  | capture block next within ih =>
    refine .intro _ fun _ leads => ?_
    cases leads with
    | captured => exact within
    | capture outcome => exact ih outcome
  | renderPartial call next ih =>
    refine .intro _ fun _ leads => ?_
    cases leads with
    | rendered member => simp [absent] at member
    | renderPartial outcome => exact ih outcome
  | splicePartial call next ih =>
    refine .intro _ fun _ leads => ?_
    cases leads with
    | spliced member => simp [absent] at member
    | splicePartial outcome => exact ih outcome
  | cache condition key options block next within ih =>
    refine .intro _ fun _ leads => ?_
    cases leads with
    | cached => exact within
    | cache outcome => exact ih outcome
  | cacheCollection items options key block next within ih =>
    refine .intro _ fun _ leads => ?_
    cases leads with
    | element index => exact within index
    | cacheCollection outcome => exact ih outcome

theorem blocks_noPartials (call : PartialCall) : call.blocks Renderer.noPartials = [] := by
  unfold PartialCall.blocks Renderer.noPartials
  split <;> rfl

/-! ### Conditions on single steps -/

def StopsWith {α : Type} (next : Except RenderError α → Block) : Prop :=
  ∀ error, ∃ failure, next (.error error) = .done (.error failure)

/-- A failure of the block's first step ends the block. -/
def StopsAtErrors : Block → Prop
  | .done _ | .ask _ _ | .note _ _ => True
  | .act _ next | .splicePartial _ next | .cache _ _ _ _ next | .cacheCollection _ _ _ _ next =>
    StopsWith next
  | .capture _ next | .renderPartial _ next => StopsWith next

/-- The block's first step does not ask for the renderer's settings. -/
def IgnoresSettings : Block → Prop
  | .ask .settings _ => False
  | _ => True

/-- The block's first step asks nothing else. -/
def AsksOnly (asks : Query → Prop) : Block → Prop
  | .ask query _ => asks query
  | _ => True

/-- All items of the collection that the block's first step caches have a JSON form. -/
def ConvertsItems : Block → Prop
  | .cacheCollection (some items) _ _ _ _ => ∀ item ∈ items, ∃ value, item = .ok value
  | _ => True

/-- The block's first step is no call of the cache. -/
def CacheFree : Block → Prop
  | .cache _ _ _ _ _ | .cacheCollection _ _ _ _ _ => False
  | _ => True

end Block

end Stencil
