import Stencil.Proofs.Run.Bound
import Stencil.Proofs.Run.Course

/-!
# The events that a run adds

Where an event stands is told by the events before it: `event :: earlier` is a suffix of the events of every
later state. A run `Adds` events with a property if it keeps the ones there are and each new one has the
property where it stands. What a loop adds is what its steps add when the loop comes to them (`adds_collect`).
A moment `Issues` what its first step adds besides the blocks that it runs in nested scopes, and all that a run
adds is issued by the moments in the course of it (`issuer_of_run`).
-/

namespace Stencil

variable {σ α β : Type}

namespace Run

theorem not_cons_suffix {event : Event} {earlier : List Event} : ¬ event :: earlier <:+ earlier :=
  fun below => Nat.not_succ_le_self _ below.length_le

/-- An event stands before a state or after it. -/
theorem before_or_after {event : Event} {earlier middle final : List Event}
    (stands : event :: earlier <:+ final) (kept : middle <:+ final) :
    event :: earlier <:+ middle ∨ middle <:+ earlier := by
  rcases List.suffix_or_suffix_of_suffix stands kept with before | after
  · exact .inl before
  · rcases List.suffix_cons_iff.1 after with rfl | later
    · exact .inl List.suffix_rfl
    · exact .inr later

/-- The run keeps the events there are, and all that it adds have the property where they stand. -/
def Adds (Q : Event → List Event → Prop) (run : Run σ α) (world : World σ) : Prop :=
  ∀ value after, run world = some (value, after) → world.events <:+ after.events ∧
    ∀ event earlier, world.events <:+ earlier → event :: earlier <:+ after.events → Q event earlier

variable {Q : Event → List Event → Prop} {world : World σ}

theorem adds_of_same {run : Run σ α}
    (same : ∀ value after, run world = some (value, after) → after.events = world.events) :
    Adds Q run world := by
  intro value after ran
  have kept := same value after ran
  refine ⟨kept ▸ List.suffix_rfl, fun event earlier begun stands => ?_⟩
  rw [kept] at stands
  exact (not_cons_suffix (stands.trans begun)).elim

theorem adds_pure (value : α) : Adds Q (pure value) world :=
  adds_of_same fun _ _ ran => by rw [(result_inj ran).2]

theorem adds_edit (operation : Scope → Edited) : Adds Q (edit operation) world :=
  adds_of_same fun _ _ ran => by rw [← (result_inj ran).2]

theorem adds_splice (node : Except RenderError Json) : Adds Q (splice node) world := by
  cases node with
  | ok node => exact adds_edit (Scope.splice node)
  | error error => exact adds_pure _

theorem Adds.bind {first : Run σ α} {next : α → Run σ β} (one : Adds Q first world)
    (other : ∀ value middle, first world = some (value, middle) → Adds Q (next value) middle) :
    Adds Q (first >>= next) world := by
  intro last after ran
  obtain ⟨value, middle, firstRan, nextRan⟩ := bind_some ran
  obtain ⟨keptFirst, eachFirst⟩ := one value middle firstRan
  obtain ⟨keptNext, eachNext⟩ := other value middle firstRan last after nextRan
  refine ⟨keptFirst.trans keptNext, fun event earlier begun stands => ?_⟩
  rcases before_or_after stands keptNext with before | later
  · exact eachFirst event earlier begun before
  · exact eachNext event earlier later stands

theorem adds_event {run : Run σ α} {value : α} {event : Event} {after : World σ}
    (ran : run world = some (value, after)) (events : after.events = event :: world.events)
    (holds : Q event world.events) : Adds Q run world := by
  intro again last ranAgain
  obtain ⟨rfl, rfl⟩ := result_inj (ran.symm.trans ranAgain)
  rw [events]
  refine ⟨List.suffix_cons _ _, fun other earlier begun stands => ?_⟩
  rcases List.suffix_cons_iff.1 stands with same | before
  · obtain ⟨rfl, rfl⟩ := List.cons.inj same
    exact holds
  · exact (not_cons_suffix (before.trans begun)).elim

theorem adds_recorded {call : σ → β × σ} {record : β → Event}
    (holds : ∀ answer, Q (record answer) world.events) : Adds Q (recorded call record) world :=
  adds_event (recorded_apply call record world) rfl (holds _)

theorem Adds.of_mem {run : Run σ α} (adds : Adds Q run world) {value : α} {after : World σ}
    (ran : run world = some (value, after)) {events : List Event} (split : after.events = events ++ world.events)
    {event : Event} (member : event ∈ events) : ∃ earlier, Q event earlier := by
  obtain ⟨later, between, rfl⟩ := List.append_of_mem member
  refine ⟨between ++ world.events, (adds value after ran).2 event _ (List.suffix_append _ _) ⟨later, ?_⟩⟩
  rw [split, List.append_assoc]
  rfl

theorem adds_plain {first : Run σ β} (silent : Silent False first)
    (plain : ∀ event earlier, event.ofStore = false → Q event earlier) : Adds Q first world := by
  intro value after ran
  obtain ⟨answer, events, result, others⟩ := silent.plain world
  obtain ⟨rfl, rfl⟩ := result_inj (result.symm.trans ran)
  refine ⟨List.suffix_append _ _, fun event earlier begun stands => plain event earlier (others event ?_)⟩
  obtain ⟨later, split⟩ := stands
  obtain ⟨between, rfl⟩ := begun
  have same : (later ++ event :: between) ++ world.events = events ++ world.events := by
    simpa using split
  exact List.append_cancel_right same ▸ List.mem_append_right _ List.mem_cons_self

theorem adds_emit {event : Event} (holds : ∀ earlier, Q event earlier) : Adds Q (emit event) world :=
  adds_event rfl rfl (holds _)

theorem adds_log {entry : LogEntry} (holds : ∀ earlier, Q (.log entry) earlier) : Adds Q (log entry) world :=
  adds_emit holds

theorem adds_collect {step : α → Run σ (Except RenderError β)} {items : List α}
    (each : ∀ item reached, Visits step items world item reached → Adds Q (step item) reached) :
    Adds Q (collect step items) world := by
  induction items generalizing world with
  | nil => exact adds_pure _
  | cons item rest ih =>
    refine (each item world .here).bind fun outcome middle ran => ?_
    cases outcome with
    | error error => exact adds_pure _
    | ok value =>
      have others := ih fun other reached visits => each other reached (.later ran visits)
      refine others.bind fun values last _ => ?_
      cases values <;> exact adds_pure _

theorem hereditary_adds {ι : Type} (plain : ∀ event earlier, event.ofStore = false → Q event earlier) :
    Hereditary False (fun _ run => ∀ i world, Adds Q (run i) world : Property ι σ) where
  done outcome _ _ := adds_pure outcome
  sequence first next _ i world := (first i world).bind fun outcome middle _ => next outcome i middle
  emitting other := fun _ each i _ => (adds_emit fun earlier => plain _ earlier other).bind fun value middle _ =>
    each value i middle
  observing _ := fun _ each i world =>
    (adds_of_same fun _ _ ran => by rw [← (result_inj ran).2]).bind fun value middle _ => each value i middle
  editing operation _ _ := adds_edit operation
  nesting body i world := by
    intro outcome ended ran
    dsimp only at ran
    rw [nested_eq, Option.map_eq_some_iff] at ran
    obtain ⟨⟨answer, after⟩, inner, same⟩ := ran
    obtain ⟨-, rfl⟩ := Prod.mk.inj same
    exact body i { world with builder := world.builder.push } answer after inner

/-! ### Visits -/

namespace Visits

variable {step : α → Run σ (Except RenderError β)} {items : List α} {item : α} {reached : World σ}

/-- A loop that comes to an item has run its step, and fails if the step does. -/
theorem ran (visits : Visits step items world item reached) {outcome : Except RenderError (List β)}
    {after : World σ} (loop : collect step items world = some (outcome, after)) :
    ∃ one middle, step item reached = some (one, middle) ∧ ∀ error, one = .error error → outcome = .error error := by
  induction visits generalizing outcome with
  | here =>
    obtain ⟨error, first, failed⟩ | ⟨value, middle, others, first, rest, -⟩ := collect_cons_some loop
    · refine ⟨_, _, first, fun again same => ?_⟩
      rw [← Except.error.inj same]
      exact failed
    · exact ⟨_, _, first, fun _ impossible => by contradiction⟩
  | later done _ ih =>
    obtain ⟨error, first, -⟩ | ⟨value, middle, others, first, rest, same⟩ := collect_cons_some loop
    · cases (result_inj (done.symm.trans first)).1
    · obtain ⟨-, rfl⟩ := ok_inj (done.symm.trans first)
      obtain ⟨one, last, stepped, fails⟩ := ih rest
      refine ⟨one, last, stepped, fun error failed => ?_⟩
      obtain rfl := fails error failed
      exact same

/-- A loop that has succeeded has come to all of its items. -/
theorem exists_of_mem {values : List β} {after : World σ} (loop : collect step items world = some (.ok values, after))
    (member : item ∈ items) : ∃ reached, Visits step items world item reached := by
  induction items generalizing world values with
  | nil => contradiction
  | cons first rest ih =>
    obtain ⟨error, -, impossible⟩ | ⟨value, middle, outcome, stepped, others, same⟩ := collect_cons_some loop
    · contradiction
    · rcases List.mem_cons.1 member with rfl | later
      · exact ⟨world, .here⟩
      · cases outcome with
        | error error => contradiction
        | ok more =>
          obtain ⟨reached, visits⟩ := ih others later
          exact ⟨reached, .later stepped visits⟩

theorem of_mem (grows : ∀ item, Grows (step item)) {values : List β} {after : World σ} {value : β}
    (loop : collect step items world = some (.ok values, after)) (member : value ∈ values) :
    ∃ item reached middle, Visits step items world item reached ∧
      step item reached = some (.ok value, middle) ∧ middle.events <:+ after.events := by
  induction items generalizing world values with
  | nil =>
    obtain ⟨rfl, -⟩ := ok_inj loop
    contradiction
  | cons item rest ih =>
    obtain ⟨error, -, impossible⟩ | ⟨first, middle, outcome, stepped, others, same⟩ := collect_cons_some loop
    · contradiction
    · cases outcome with
      | error error => contradiction
      | ok more =>
        obtain rfl := Except.ok.inj same
        rcases List.mem_cons.1 member with rfl | later
        · exact ⟨item, world, middle, .here, stepped, grows_collect grows rest _ _ others⟩
        · obtain ⟨other, reached, last, visits, ran, kept⟩ := ih others later
          exact ⟨other, reached, last, .later stepped visits, ran, kept⟩

end Visits

end Run

/-! ### Events of a moment -/

open Run

namespace Moment

/-- The event is added by a block that the moment's first step runs in a nested scope. -/
def Covers (renderer : Renderer σ) (moment : Moment σ) (event : Event) (earlier : List Event) : Prop :=
  ∃ purpose inner outcome ended, moment.Nests renderer purpose inner ∧
    inner.build renderer = some (outcome, ended) ∧ inner.world.events <:+ earlier ∧
      event :: earlier <:+ ended.events

/-- The event is added by the moment's first step itself. -/
def Issues (renderer : Renderer σ) (moment : Moment σ) (event : Event) (earlier : List Event) : Prop :=
  ∃ following after, moment.block.step renderer moment.bound moment.world = some (following, after) ∧
    moment.world.events <:+ earlier ∧ event :: earlier <:+ after.events ∧ ¬ moment.Covers renderer event earlier

variable {renderer : Renderer σ}

/-- What a step adds may be what its nested blocks add, and what it logs and notes. -/
structure Admits (renderer : Renderer σ) (moment : Moment σ) (Q : Event → List Event → Prop) : Prop where
  covers {event : Event} {earlier : List Event} : moment.Covers renderer event earlier → Q event earlier
  logs (entry : LogEntry) (earlier : List Event) : Q (.log entry) earlier
  notes (content : Json) (earlier : List Event) : Q (.note content) earlier

variable {moment : Moment σ} {Q : Event → List Event → Prop}

theorem Admits.nested (admits : moment.Admits renderer Q) {purpose : Purpose} {inner : Moment σ}
    (nests : moment.Nests renderer purpose inner) :
    Adds Q (Run.nested (inner.block.runWithin renderer inner.bound)) inner.world := by
  intro outcome ended ran
  refine ⟨grows_nested (grows_runWithin renderer inner.bound inner.block) _ _ ran, ?_⟩
  intro event earlier begun stands
  exact admits.covers ⟨purpose, inner, outcome, ended, nests, ran, begun, stands⟩

theorem adds_renderOnce (logs : ∀ entry earlier, Q (.log entry) earlier)
    {call : Block → Run σ (Except RenderError Unit)} {name : String} {locals : Locals} {world : World σ}
    (each : ∀ template, renderer.resolve name = .ok template →
      Adds Q (Run.nested (call (template locals))) (world.noted (.log (.renderingPartial name world.builder.depth)))) :
    Adds Q (renderOnce renderer call name locals) world := by
  unfold renderOnce
  cases found : renderer.resolve name with
  | error error => exact adds_pure _
  | ok template =>
    have asks : Adds Q (depth : Run σ Nat) world := by
      refine adds_of_same fun _ _ ran => ?_
      rw [← (result_inj ran).2]
    refine asks.bind fun count middle asked => ?_
    obtain ⟨rfl, rfl⟩ := result_inj asked
    refine (adds_log (logs _)).bind fun _ after logged => ?_
    obtain ⟨-, rfl⟩ := result_inj logged
    exact each template found

theorem adds_renderCall (logs : ∀ entry earlier, Q (.log entry) earlier) {bound : Nat} {call : PartialCall}
    {world : World σ} (each : ∀ block reached, call.Runs renderer bound world block reached →
      Adds Q (Run.nested (callWithin renderer bound block)) reached) :
    Adds Q (renderCall renderer (callWithin renderer bound) call) world := by
  obtain ⟨_ | name, mode, binding, locals⟩ := call
  · exact adds_pure _
  · cases mode with
    | once => exact adds_renderOnce logs fun template found => each _ _ (.once found)
    | absentCollection => exact (adds_log (logs _)).bind fun _ _ _ => adds_pure _
    | collection items =>
      refine Adds.bind (adds_collect fun item reached visits => ?_) fun _ _ _ => adds_pure _
      exact adds_renderOnce logs fun template found => each _ _ (.each found visits)

theorem Admits.called (admits : moment.Admits renderer Q) {bound : Nat} {call : PartialCall} {world : World σ}
    (nests : ∀ less block reached, bound = less + 1 → call.Runs renderer bound world block reached →
      moment.Nests renderer .given ⟨less, block, reached⟩) :
    Adds Q (renderCall renderer (callWithin renderer bound) call) world := by
  refine adds_renderCall admits.logs fun block reached runs => ?_
  cases bound with
  | zero =>
    intro _ _ ran
    rw [nested_eq] at ran
    contradiction
  | succ less => exact admits.nested (nests less block reached rfl runs)

theorem Admits.uncached {bound : Nat} {condition : Bool} {key : Cache.KeyExpr} {options : Cache.Options}
    {block : Block} {next : Except RenderError Unit → Block} {world : World σ}
    (admits : Admits renderer ⟨bound, .cache condition key options block next, world⟩ Q)
    (plain : condition = false ∨ renderer.activeStore = none) :
    Adds Q (cacheOne renderer condition key options (block.runWithin renderer bound)) world := by
  have same : cacheOne renderer condition key options (block.runWithin renderer bound) =
      log (bypassed condition key) >>= fun _ => Run.nested (block.runWithin renderer bound) >>= splice := by
    rcases plain with rfl | inactive
    · rfl
    · exact cacheOne_inactive inactive condition key options _
  rw [same]
  refine (adds_log (admits.logs _)).bind fun _ after logged => ?_
  obtain ⟨-, rfl⟩ := result_inj logged
  exact (admits.nested (.uncached plain)).bind fun node _ _ => adds_splice node

theorem Admits.inPlace {bound : Nat} {items : List Json.Payload} {options : Cache.Options}
    {key : Option (Nat → Cache.KeyExpr)} {block : Nat → Block} {next : Except RenderError Unit → Block}
    {world : World σ} (admits : Admits renderer ⟨bound, .cacheCollection (some items) options key block next, world⟩ Q)
    (inactive : renderer.activeStore = none) :
    Adds Q (cacheEach renderer (some items) options key fun index => (block index).runWithin renderer bound) world := by
  rw [cacheEach_inactive inactive, buildElements_eq]
  refine (adds_log (admits.logs _)).bind fun _ after logged => ?_
  obtain ⟨-, rfl⟩ := result_inj logged
  refine (adds_edit _).bind fun outcome opened opens => ?_
  cases outcome with
  | error error => exact adds_pure _
  | ok =>
    refine (adds_collect fun index reached visits => ?_).bind fun _ _ _ => adds_pure _
    refine (admits.nested (.inPlace inactive opens visits)).bind fun built ended _ => ?_
    cases built with
    | error error => exact adds_pure _
    | ok node => exact adds_edit _

/-- Only calls that ask a store add more than a step has to add. -/
theorem Admits.step (admits : moment.Admits renderer Q)
    (one : ∀ key options block next store, moment.block = .cache true key options block next →
      renderer.activeStore = some store →
        Adds Q (cacheOne renderer true key options (block.runWithin renderer moment.bound)) moment.world)
    (each : ∀ items options key block next store,
      moment.block = .cacheCollection (some items) options key block next → renderer.activeStore = some store →
        Adds Q (cacheEach renderer (some items) options key fun index =>
          (block index).runWithin renderer moment.bound) moment.world) :
    Adds Q (moment.block.step renderer moment.bound) moment.world := by
  obtain ⟨bound, block, world⟩ := moment
  cases block with
  | done outcome => exact fun _ _ ran => by contradiction
  | ask query next =>
    refine adds_of_same fun _ _ ran => ?_
    rw [← (result_inj ran).2]
  | note content next => exact (adds_emit (admits.notes content)).bind fun _ _ _ => adds_pure _
  | act action next =>
    refine Adds.bind ?_ fun _ _ _ => adds_pure _
    unfold perform
    split
    · refine (adds_of_same fun _ _ ran => ?_).bind fun _ _ _ => ?_
      · rw [← (result_inj ran).2]
      · exact (adds_log (admits.logs _)).bind fun _ _ _ => adds_edit _
    · exact adds_edit _
  | capture block next => exact (admits.nested .capture).bind fun _ _ _ => adds_pure _
  | renderPartial call next =>
    refine (admits.called fun less block reached same runs => ?_).bind fun _ _ _ => adds_pure _
    subst same
    exact .renderPartial runs
  | splicePartial call next =>
    refine (admits.called fun less block reached same runs => ?_).bind fun node _ _ => ?_
    · subst same
      exact .splicePartial runs
    · exact (adds_splice node).bind fun _ _ _ => adds_pure _
  | cache condition key options block next =>
    refine Adds.bind ?_ fun _ _ _ => adds_pure _
    cases active : renderer.activeStore with
    | none => exact admits.uncached (.inr active)
    | some store =>
      cases condition with
      | false => exact admits.uncached (.inl rfl)
      | true => exact one key options block next store rfl active
  | cacheCollection items options key block next =>
    refine Adds.bind ?_ fun _ _ _ => adds_pure _
    cases items with
    | none => exact adds_splice (.ok (.arr []))
    | some items =>
      cases active : renderer.activeStore with
      | none => exact admits.inPlace active
      | some store => exact each items options key block next store rfl active

theorem opened_run_of_build {inner : Moment σ} {outcome : Except RenderError Json} {ended : World σ}
    (building : inner.build renderer = some (outcome, ended)) :
    ∃ answer after, inner.opened.run renderer = some (answer, after) ∧ after.events = ended.events := by
  unfold build at building
  rw [nested_eq, Option.map_eq_some_iff] at building
  obtain ⟨⟨answer, after⟩, ran, same⟩ := building
  refine ⟨answer, after, ran, ?_⟩
  rw [← (Prod.mk.inj same).2]

/-- Every event that a run adds is issued by a moment in the course of it. -/
theorem issuer_of_run (moment : Moment σ) {outcome : Except RenderError Unit} {after : World σ}
    (ran : moment.run renderer = some (outcome, after)) {event : Event} {earlier : List Event}
    (begun : moment.world.events <:+ earlier) (stands : event :: earlier <:+ after.events) :
    ∃ issuer, moment.Reaches renderer issuer ∧ issuer.Issues renderer event earlier := by
  induction moment using (wellFounded_enters renderer).induction generalizing outcome after with
  | _ moment ih =>
    obtain ⟨bound, block, world⟩ := moment
    by_cases finished : ∃ outcome, block = .done outcome
    · obtain ⟨answer, rfl⟩ := finished
      unfold run at ran
      rw [Block.runWithin_eq] at ran
      obtain ⟨-, rfl⟩ := result_inj ran
      exact (not_cons_suffix (stands.trans begun)).elim
    · have split := Block.runWithin_step renderer bound fun outcome same => finished ⟨outcome, same⟩
      unfold run at ran
      dsimp only at ran
      rw [split] at ran
      obtain ⟨following, middle, steps, rest⟩ := bind_some ran
      rcases before_or_after stands (grows_runWithin renderer bound following _ _ rest) with before | later
      · by_cases covers : Covers renderer ⟨bound, block, world⟩ event earlier
        · obtain ⟨purpose, inner, answer, ended, nests, building, begins, within⟩ := covers
          obtain ⟨answer, last, innerRan, same⟩ := opened_run_of_build building
          obtain ⟨issuer, reaches, issues⟩ := ih inner.opened (.within nests) innerRan begins (same ▸ within)
          exact ⟨issuer, .head (.within nests) reaches, issues⟩
        · exact ⟨⟨bound, block, world⟩, .refl, following, middle, steps, begun, before, covers⟩
      · obtain ⟨issuer, reaches, issues⟩ := ih ⟨bound, following, middle⟩ (.next steps) rest later stands
        exact ⟨issuer, .head (.next steps) reaches, issues⟩

/-- What a step has to add beside what its nested blocks add is what it issues. -/
theorem Issues.holds {event : Event} {earlier : List Event} (issues : moment.Issues renderer event earlier)
    (adds : Adds (fun event earlier => moment.Covers renderer event earlier ∨ Q event earlier)
      (moment.block.step renderer moment.bound) moment.world) : Q event earlier := by
  obtain ⟨following, after, steps, begun, stands, uncovered⟩ := issues
  exact ((adds following after steps).2 event earlier begun stands).resolve_left uncovered

end Moment

/-- Every event of a render is issued by a moment in the course of it. -/
theorem Renderer.issuer_of_renderNode {renderer : Renderer σ} {bound : Nat} {block : Block} {store : σ}
    {rendered : Rendered σ Json} (ran : renderer.renderNode bound block store = some rendered)
    {before after : List Event} {event : Event} (split : rendered.events = before ++ event :: after) :
    ∃ issuer, Moment.Reaches renderer ⟨bound, block, renderer.start store⟩ issuer ∧
      issuer.Issues renderer event before.reverse := by
  rw [renderNode_eq, Option.map_eq_some_iff] at ran
  obtain ⟨⟨outcome, last⟩, blockRan, rfl⟩ := ran
  have events : last.events = after.reverse ++ event :: before.reverse := by
    have reversed := congrArg List.reverse split
    simpa [ended] using reversed
  have stands : event :: before.reverse <:+ last.events := events ▸ List.suffix_append _ _
  exact Moment.issuer_of_run ⟨bound, block, renderer.start store⟩ blockRan List.nil_suffix stands

end Stencil
