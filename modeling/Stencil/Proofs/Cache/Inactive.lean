import Stencil.Proofs.Cache.Warm
import Stencil.Proofs.Run.Added
import Stencil.Proofs.Run.Quiet

/-!
# Rendering without caching

With caching switched off a render does the same for every store and every namer, and makes use of neither
(`caching_off`). A cached fragment whose condition is false makes no use of them itself, whatever its block does.
-/

namespace Stencil

variable {ι σ : Type}

/-- The event is a question to the namer. -/
def Event.asksNamer : Event → Bool
  | .askedCurrent .. | .askedLegacy .. => true
  | _ => false

namespace Run

theorem Hereditary.caches_of_inactive {stopping : Prop} {P : Property ι σ} (kept : Hereditary stopping P)
    {renderers : ι → Renderer σ} (inactive : ∀ i, (renderers i).activeStore = none) (H : Block → Prop) :
    KeptByCaches P renderers H where
  one _ _ one := by
    simp only [cacheOne_inactive (inactive _)]
    exact kept.log _ _ fun _ => kept.spliced (kept.nesting one)
  each {items options key block next} _ body each := by
    cases items with
    | none => exact kept.splice (.ok (.arr []))
    | some items =>
      simp only [cacheEach_inactive (inactive _)]
      exact kept.log _ _ fun _ => kept.buildElements each

theorem quiet_of_inactive {renderers : ι → Renderer σ} (inactive : ∀ i, (renderers i).activeStore = none)
    {resolve : String → Except RenderError Template} {settings : Settings}
    (shared : ∀ i, (renderers i).resolve = resolve) (same : ∀ i, (renderers i).settings = settings) (bound : Nat)
    (block : Block) : Quiet fun i => block.runWithin (renderers i) bound := by
  have lifts : Lifts False (fun _ runs => Quiet runs) renderers resolve fun _ => True :=
    { kept := hereditary_quiet
      caches := hereditary_quiet.caches_of_inactive inactive _
      shared := shared
      settings := fun _ => ⟨settings, same⟩
      stops := False.elim }
  exact block.runWithin_of_hereditary lifts ⟨fun _ => none, fun _ _ => rfl⟩ bound fun _ _ => trivial

end Run

open Run

namespace Moment

variable {renderer : Renderer σ} {moment : Moment σ}

theorem admits_unasked (moment : Moment σ) : moment.Admits renderer fun event earlier =>
    moment.Covers renderer event earlier ∨ event.ofStore = false ∧ event.asksNamer = false where
  covers := .inl
  logs _ _ := .inr ⟨rfl, rfl⟩
  notes _ _ := .inr ⟨rfl, rfl⟩

theorem Issues.unasked_of_inactive (inactive : renderer.activeStore = none) {event : Event} {earlier : List Event}
    (issues : moment.Issues renderer event earlier) : event.ofStore = false ∧ event.asksNamer = false := by
  refine issues.holds ((admits_unasked moment).step ?_ ?_)
  · intro _ _ _ _ _ _ active
    simp [inactive] at active
  · intro _ _ _ _ _ _ _ active
    simp [inactive] at active

section FalseCondition

variable {bound : Nat} {key : Cache.KeyExpr} {options : Cache.Options} {block : Block}
  {next : Except RenderError Unit → Block} {world : World σ}

theorem Issues.unasked_of_false {event : Event} {earlier : List Event}
    (issues : Issues renderer ⟨bound, .cache false key options block next, world⟩ event earlier) :
    event.ofStore = false ∧ event.asksNamer = false := by
  refine issues.holds ((admits_unasked _).step ?_ ?_)
  · intro _ _ _ _ _ conditioned
    cases conditioned
  · intro _ _ _ _ _ _ collection
    cases collection

/-- Without its condition a cache call leaves the store as its block does. -/
theorem store_of_false {following : Block} {after : World σ}
    (steps : Block.step renderer bound (.cache false key options block next) world = some (following, after)) :
    ∃ inner outcome ended, Nests renderer ⟨bound, .cache false key options block next, world⟩ .given inner ∧
      inner.build renderer = some (outcome, ended) ∧ inner.world.store = world.store ∧ after.store = ended.store := by
  obtain ⟨answer, cached, -⟩ := returned_some steps
  obtain ⟨_, _, logged, rest⟩ := bind_some cached
  obtain ⟨-, rfl⟩ := result_inj logged
  obtain ⟨node, ended, building, splicing⟩ := bind_some rest
  refine ⟨_, node, ended, .uncached (.inl rfl), building, rfl, ?_⟩
  cases node with
  | error error => rw [← (result_inj splicing).2]
  | ok node => rw [← (result_inj splicing).2]

end FalseCondition

end Moment

namespace Renderer

/-- The renderer with another store, or without one, and with another namer. -/
def withCache (stored : Option (Cache.Store σ)) (namer : Cache.Namer) (renderer : Renderer σ) : Renderer σ :=
  { renderer with store := stored, namer }

/--
With caching off a render is the one without a store, whatever the namer, and it leaves the store as it is. The
same holds of a cache call without its condition, but for what its block does.
-/
theorem caching_off (renderer : Renderer σ) (block : Block) (store : σ) :
    (renderer.settings.performCaching = false →
      (block.Finite renderer.resolve → ∃ rendered, renderer.Yields block store rendered) ∧
      (∀ namer bound, renderer.renderNode bound block store =
        (renderer.withCache none namer).renderNode bound block store) ∧
      ∀ rendered, renderer.Yields block store rendered → rendered.store = store ∧
        ∀ event ∈ rendered.events, event.ofStore = false ∧ event.asksNamer = false) ∧
    ∀ bound key options within next world,
      let call : Moment σ := ⟨bound, .cache false key options within next, world⟩
      (∀ event earlier, call.Issues renderer event earlier → event.ofStore = false ∧ event.asksNamer = false) ∧
      (∀ following after, call.block.step renderer bound world = some (following, after) →
        ∃ inner outcome ended, call.Nests renderer .given inner ∧ inner.build renderer = some (outcome, ended) ∧
          inner.world.store = world.store ∧ after.store = ended.store) ∧
      ∀ (other : Renderer σ) body,
        cacheOne renderer false key options body = cacheOne other false key options body := by
  refine ⟨fun off => ?_, fun bound key options within next world => ⟨?_, ?_, fun _ _ => rfl⟩⟩
  · have inactive : ∀ cache : Option (Cache.Store σ) × Cache.Namer,
        (renderer.withCache cache.1 cache.2).activeStore = none := by
      simp [withCache, activeStore, off]
    have quiet := fun bound => quiet_of_inactive inactive (fun _ => rfl) (fun _ => rfl) bound block
    refine ⟨fun finite => exists_yields finite store, fun namer bound => ?_, fun rendered yields => ⟨?_, ?_⟩⟩
    · have same := (quiet bound).same (renderer.store, renderer.namer) (none, namer) (renderer.start store)
      rw [renderNode_eq, renderNode_eq]
      exact congrArg (Option.map ended) same
    · obtain ⟨bound, ran⟩ := yields
      obtain ⟨effect, did⟩ := quiet bound
      rw [renderNode_eq, Option.map_eq_some_iff] at ran
      obtain ⟨result, blockRan, rfl⟩ := ran
      have done := (did (renderer.store, renderer.namer) (renderer.start store)).symm.trans blockRan
      obtain ⟨answer, -, rfl⟩ := Option.map_eq_some_iff.1 done
      rfl
    · intro event member
      obtain ⟨bound, ran⟩ := yields
      obtain ⟨before, after, split⟩ := List.append_of_mem member
      obtain ⟨call, -, issues⟩ := issuer_of_renderNode ran split
      exact issues.unasked_of_inactive (inactive (renderer.store, renderer.namer))
  · exact fun event earlier issues => issues.unasked_of_false
  · exact fun following after steps => Moment.store_of_false steps

def greetingUnless (skipped : Bool) : Block :=
  .cache (!skipped) (.text "greeting") {} (.act (.set "text" (.ok (.str "hello"))) .done) .done

/-- A cached list of cached fragments, the first of which is left out. -/
def leavingOut : Block :=
  .cacheCollection (some [.ok (.bool true), .ok (.bool false)]) {} none (fun index => greetingUnless (index == 0)) .done

theorem caching_off_leavingOut :
    (∃ rendered, (withMemory.withCaching false).Yields leavingOut ⟨[("jstreamer/greeting", ⟨"7", some 0⟩)], {}⟩ rendered ∧
      rendered.document? = some (.arr [.obj [("text", .str "hello")], .obj [("text", .str "hello")]]) ∧
      rendered.store = ⟨[("jstreamer/greeting", ⟨"7", some 0⟩)], {}⟩ ∧
      ∀ event ∈ rendered.events, event.ofStore = false ∧ event.asksNamer = false) ∧
    ∃ following after, (greetingUnless true).step withMemory 0 (withMemory.start {}) = some (following, after) ∧
      ∃ inner outcome ended, Moment.Nests withMemory ⟨0, greetingUnless true, withMemory.start {}⟩ .given inner ∧
        inner.build withMemory = some (outcome, ended) ∧ after.store = ended.store := by
  obtain ⟨off, -⟩ := caching_off (withMemory.withCaching false) leavingOut ⟨[("jstreamer/greeting", ⟨"7", some 0⟩)], {}⟩
  obtain ⟨-, -, unseen⟩ := off rfl
  obtain ⟨-, skipped⟩ := caching_off withMemory leavingOut {}
  have ran : ((withMemory.withCaching false).renderNode 0 leavingOut
      ⟨[("jstreamer/greeting", ⟨"7", some 0⟩)], {}⟩).bind Rendered.document? =
        some (.arr [.obj [("text", .str "hello")], .obj [("text", .str "hello")]]) := by
    decide +kernel
  obtain ⟨rendered, rendering, document⟩ := Option.bind_eq_some_iff.1 ran
  obtain ⟨kept, unasked⟩ := unseen rendered ⟨0, rendering⟩
  refine ⟨⟨rendered, ⟨0, rendering⟩, document, kept, unasked⟩, _, _, rfl, ?_⟩
  obtain ⟨-, leaves, -⟩ := skipped 0 (.text "greeting") {} (.act (.set "text" (.ok (.str "hello"))) .done) .done
    (withMemory.start {})
  obtain ⟨inner, outcome, ended, nests, building, -, left⟩ := leaves _ _ rfl
  exact ⟨inner, outcome, ended, nests, building, left⟩

end Renderer

end Stencil
