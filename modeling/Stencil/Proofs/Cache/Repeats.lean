import Stencil.Proofs.Cache.Fragments
import Stencil.Proofs.Json.Injective

/-!
# Runs that can be repeated

A run `Repeats` if every later world whose store has the nodes that it left behind gives the same again,
with nothing written and nothing missed (`Served`). Calls within a cache call may change what they have
kept until the outer one is kept; a run as a whole only extends the store.
-/

namespace Stencil

open Cache

/--
A call of the store whose fragments do not run out and can be read back, or that asks for no key twice.
-/
def Event.Lasting : Event → Prop
  | .write _ fragment lifetime _ =>
    lifetime ≠ some 0 ∧ ∃ node : Json, node.Portable ∧ node.compact = fragment
  | .writeBatch fragments lifetime _ =>
    lifetime ≠ some 0 ∧ ∀ entry ∈ fragments, ∃ node : Json, node.Portable ∧ node.compact = entry.2
  | .readBatch keys _ => keys.Nodup
  | _ => True

theorem exists_portable_iff (fragment : String) :
    (∃ node ∈ decode? fragment, node.Portable ∧ node.compact = fragment) ↔
      ∃ node : Json, node.Portable ∧ node.compact = fragment := by
  constructor
  · rintro ⟨node, -, portable⟩
    exact ⟨node, portable⟩
  · rintro ⟨node, portable, rfl⟩
    exact ⟨node, decode?_compact portable, portable, rfl⟩

instance (fragment : String) : Decidable (∃ node : Json, node.Portable ∧ node.compact = fragment) :=
  decidable_of_iff _ (exists_portable_iff fragment)

instance : DecidablePred Event.Lasting
  | .write _ fragment lifetime _ =>
    inferInstanceAs (Decidable (lifetime ≠ some 0 ∧ ∃ node : Json, node.Portable ∧ node.compact = fragment))
  | .writeBatch fragments lifetime _ =>
    inferInstanceAs (Decidable (lifetime ≠ some 0 ∧
      ∀ entry ∈ fragments, ∃ node : Json, node.Portable ∧ node.compact = entry.2))
  | .readBatch keys _ => inferInstanceAs (Decidable keys.Nodup)
  | .read .. | .log _ | .askedCurrent .. | .askedLegacy _ | .keyUsed _ | .note _ => isTrue trivial

namespace Cache.MemoryStore

/-- The second store has the nodes of the first one. -/
def Extends (before after : MemoryStore) : Prop :=
  ∀ key node, before.node? key = some node → after.node? key = some node

theorem Extends.refl (memory : MemoryStore) : Extends memory memory := fun _ _ found => found

theorem Extends.trans {first second third : MemoryStore} (one : Extends first second)
    (other : Extends second third) : Extends first third :=
  fun key node found => other key node (one key node found)

theorem extends_of_live? {before after : MemoryStore}
    (same : ∀ key, after.live? key = before.live? key) : Extends before after :=
  fun key _ found => (node?_of_live? (same key)).trans found

theorem node?_of_portable {memory : MemoryStore} {key : String} {node other : Json}
    {lifetime : Option Nat} (lasting : lifetime ≠ some 0) (portable : other.Portable)
    (same : other.compact = node.compact)
    (kept : Entries.get? key memory.entries = some ⟨node.compact, lifetime⟩) :
    memory.node? key = some node := by
  obtain rfl := Json.eq_of_compact_eq portable.floatFree same.symm
  exact node?_of_kept lasting portable kept

end Cache.MemoryStore

open MemoryStore (Extends)

namespace Run

variable {ι α β γ : Type}

def Lasting (world : World MemoryStore) : Prop := ∀ event ∈ world.events, event.Lasting

theorem Lasting.before {world after : World MemoryStore} (lasting : Lasting after)
    (grown : world.events <:+ after.events) : Lasting world :=
  fun event member => lasting event (grown.subset member)

/-- Whatever was asked of the store, it had; nothing was written. -/
structure Served (world after : World MemoryStore) : Prop where
  live : ∀ key, after.store.live? key = world.store.live? key
  misses : after.store.stats.misses = world.store.stats.misses
  events : ∃ added, after.events = added ++ world.events ∧ ∀ event ∈ added, event.isWrite = false

theorem Served.refl (world : World MemoryStore) : Served world world :=
  ⟨fun _ => rfl, rfl, [], rfl, by simp⟩

theorem Served.trans {first second third : World MemoryStore} (one : Served first second)
    (other : Served second third) : Served first third := by
  obtain ⟨early, earlyEvents, earlyReads⟩ := one.events
  obtain ⟨late, lateEvents, lateReads⟩ := other.events
  refine ⟨fun key => (other.live key).trans (one.live key), other.misses.trans one.misses, late ++ early, ?_, ?_⟩
  · rw [lateEvents, earlyEvents, List.append_assoc]
  · intro event member
    exact (List.mem_append.1 member).elim (lateReads event) (earlyReads event)

theorem Served.extends {before : MemoryStore} {world after : World MemoryStore}
    (served : Served world after) (extends_ : Extends before world.store) : Extends before after.store :=
  extends_.trans (MemoryStore.extends_of_live? served.live)

/--
A run with this value extends the store, and gives it again in every later world whose store has what
it left behind.
-/
def Repeats (run : Run MemoryStore β) (value : β) : Prop :=
  ∀ world after, run world = some (value, after) → Lasting after →
    Extends world.store after.store ∧
      ∀ later : World MemoryStore, later.builder = world.builder → Extends after.store later.store →
        ∃ final, run later = some (value, final) ∧ final.builder = after.builder ∧ Served later final

theorem Repeats.bind {first : Run MemoryStore β} {next : β → Run MemoryStore γ} {value : γ}
    (grows : ∀ answer, Grows (next answer))
    (each : ∀ answer, (∀ world after, next answer world ≠ some (value, after)) ∨
      Repeats first answer ∧ Repeats (next answer) value) : Repeats (first >>= next) value := by
  intro world after ran lasting
  obtain ⟨answer, middle, firstRan, nextRan⟩ := bind_some ran
  obtain impossible | ⟨one, other⟩ := each answer
  · exact absurd nextRan (impossible middle after)
  have lastingMiddle := lasting.before (grows answer middle _ nextRan)
  obtain ⟨oneExtends, oneAgain⟩ := one world middle firstRan lastingMiddle
  obtain ⟨otherExtends, otherAgain⟩ := other middle after nextRan lasting
  refine ⟨oneExtends.trans otherExtends, fun later builder kept => ?_⟩
  obtain ⟨passed, firstAgain, passedBuilder, servedFirst⟩ := oneAgain later builder (otherExtends.trans kept)
  obtain ⟨final, nextAgain, finalBuilder, servedNext⟩ :=
    otherAgain passed passedBuilder (servedFirst.extends kept)
  exact ⟨final, (bind_of_some firstAgain).trans nextAgain, finalBuilder, servedFirst.trans servedNext⟩

theorem repeats_pure (value : β) : Repeats (pure value) value := by
  intro world after ran lasting
  obtain rfl := (result_inj ran).2
  exact ⟨.refl _, fun later builder _ => ⟨later, rfl, builder, .refl later⟩⟩

theorem repeats_emit {event : Event} (plain : event.ofStore = false) : Repeats (emit event) () := by
  intro world after ran lasting
  obtain rfl := (result_inj ran).2
  refine ⟨.refl _, fun later builder _ => ⟨_, rfl, builder, ⟨fun _ => rfl, rfl, [event], rfl, ?_⟩⟩⟩
  intro other member
  rw [List.mem_singleton.1 member]
  exact Event.isWrite_of_plain plain

theorem repeats_observe (view : Builder → β) (value : β) : Repeats (observe view) value := by
  intro world after ran lasting
  obtain ⟨rfl, rfl⟩ := result_inj ran
  refine ⟨.refl _, fun later builder _ => ⟨later, ?_, builder, .refl later⟩⟩
  show some (view later.builder, later) = _
  rw [builder]

theorem repeats_edit (operation : Scope → Edited) (outcome : Except RenderError Unit) :
    Repeats (edit operation) outcome := by
  intro world after ran lasting
  obtain ⟨rfl, rfl⟩ := result_inj ran
  refine ⟨.refl _, fun later builder _ => ?_⟩
  refine ⟨{ later with builder := (later.builder.edit operation).2 }, ?_, ?_, ?_⟩
  · show some ((later.builder.edit operation).1, _) = _
    rw [builder]
    rfl
  · rw [builder]
    rfl
  · exact ⟨fun _ => rfl, rfl, [], rfl, by simp⟩

theorem repeats_nested {body : Run MemoryStore (Except RenderError Unit)}
    (repeats : Repeats body (.ok ())) (node : Json) : Repeats (nested body) (.ok node) := by
  intro world after ran lasting
  rw [nested_eq, Option.map_eq_some_iff] at ran
  obtain ⟨⟨outcome, inner⟩, bodyRan, same⟩ := ran
  cases outcome with
  | error error => exact absurd (Prod.mk.inj same).1 (by simp [Except.map])
  | ok value =>
    obtain ⟨popped, rfl⟩ := Prod.mk.inj same
    obtain ⟨extends_, again⟩ := repeats _ inner bodyRan lasting
    refine ⟨extends_, fun later builder kept => ?_⟩
    obtain ⟨final, finalRan, finalBuilder, served⟩ :=
      again { later with builder := later.builder.push } (congrArg Builder.push builder) kept
    refine ⟨{ final with builder := final.builder.pop.2 }, ?_, congrArg (fun b => b.pop.2) finalBuilder, ?_⟩
    · rw [nested_eq, finalRan, ← popped]
      show some (Except.ok final.builder.pop.1, _) = some (Except.ok inner.builder.pop.1, _)
      rw [finalBuilder]
    · exact ⟨served.live, served.misses, served.events⟩

/-- A run whose successes are repeated. -/
structure Steady (run : Run MemoryStore (Except RenderError α)) : Prop where
  isolated : Isolated run
  grows : Grows run
  repeats : ∀ value, Repeats run (.ok value)

theorem steady_done (outcome : Except RenderError α) :
    Steady (pure outcome : Run MemoryStore (Except RenderError α)) := by
  refine ⟨.pure outcome, (Silent.pure outcome).grows, fun value world after ran lasting => ?_⟩
  obtain ⟨rfl, -⟩ := result_inj ran
  exact repeats_pure _ world after ran lasting

theorem Steady.sequence {first : Run MemoryStore (Except RenderError α)}
    {next : Except RenderError α → Run MemoryStore (Except RenderError β)} (one : Steady first)
    (other : ∀ outcome, Steady (next outcome)) (passes : PassesErrors next) :
    Steady (first >>= next) := by
  refine ⟨one.isolated.bind fun outcome => (other outcome).isolated,
    one.grows.bind fun outcome => (other outcome).grows, fun value => ?_⟩
  refine Repeats.bind (fun outcome => (other outcome).grows) ?_
  rintro (error | answer)
  · obtain ⟨failure, ends⟩ := passes error
    refine .inl fun world after ran => ?_
    rw [ends] at ran
    exact absurd (result_inj ran).1 (by simp)
  · exact .inr ⟨one.repeats answer, (other (.ok answer)).repeats value⟩

theorem hereditary_steady :
    Hereditary True (fun _ run => ∀ i : ι, Steady (run i) : Property ι MemoryStore) where
  done outcome _ := steady_done outcome
  sequence first next passes i := (first i).sequence (fun outcome => next outcome i) (passes trivial i)
  emitting plain := fun _ each i =>
    ⟨(isolated_emit _).bind fun value => (each value i).isolated,
      (Silent.emit plain).grows.bind fun value => (each value i).grows,
      fun value => Repeats.bind (fun answer => (each answer i).grows) fun answer =>
        .inr ⟨repeats_emit plain, (each answer i).repeats value⟩⟩
  observing islocal := fun _ each i =>
    ⟨(isolated_observe islocal).bind fun value => (each value i).isolated,
      (grows_observe _).bind fun value => (each value i).grows,
      fun value => Repeats.bind (fun answer => (each answer i).grows) fun answer =>
        .inr ⟨repeats_observe _ answer, (each answer i).repeats value⟩⟩
  editing operation _ :=
    ⟨isolated_edit operation, grows_edit operation, fun value => repeats_edit operation (.ok value)⟩
  nesting body i :=
    ⟨isolated_nested (body i).isolated, grows_nested (body i).grows, repeats_nested ((body i).repeats ())⟩

end Run

end Stencil
