import Stencil.Proofs.Run.Hereditary
import Stencil.Proofs.Run.Stages

/-!
# Steps that leave the scopes alone

What a cache call does besides running its block is `Silent`: it leaves events and, where it `stores`,
calls the store, but it does not touch the scopes. A property that holds through every event and every
call of the store holds through all of it (`Silent.precedes`).
-/

namespace Stencil.Run

variable {ι σ α β γ : Type}

/-- A call of the store that leaves an event behind. -/
def recorded (call : σ → β × σ) (record : β → Event) : Run σ β := do
  let answer ← withStore call
  emit (record answer)
  return answer

theorem recorded_apply (call : σ → β × σ) (record : β → Event) (world : World σ) :
    recorded call record world = some ((call world.store).1,
      ⟨world.builder, (call world.store).2, record (call world.store).1 :: world.events⟩) :=
  rfl

/-- The property holds through every call of the store. -/
def Storing (P : Property ι σ) : Prop :=
  ∀ {β : Type} (call : σ → β × σ) (record : β → Event), Precedes P (recorded call record)

inductive Silent (stores : Prop) : {β : Type} → Run σ β → Prop where
  | pure {β : Type} (value : β) : Silent stores (Pure.pure value)
  | emit {event : Event} (other : event.ofStore = false) : Silent stores (Run.emit event)
  | store {β : Type} (allowed : stores) (call : σ → β × σ) (record : β → Event) :
      Silent stores (recorded call record)
  | bind {β γ : Type} {first : Run σ β} {next : β → Run σ γ} (one : Silent stores first)
      (other : ∀ value, Silent stores (next value)) : Silent stores (first >>= next)

namespace Silent

variable {stores : Prop}

theorem log (entry : LogEntry) : Silent stores (Run.log entry : Run σ Unit) := .emit rfl

theorem precedes {first : Run σ β} (silent : Silent stores first) {stopping : Prop} {P : Property ι σ}
    (kept : Hereditary stopping P) (storing : stores → Storing P) : Precedes P first := by
  induction silent with
  | pure value => exact Precedes.pure value
  | emit other => exact kept.emitting other
  | store allowed call record => exact storing allowed call record
  | bind _ _ one other => exact Precedes.bind one other

/-- A silent step has a result, keeps the scopes and only adds events. -/
theorem result {first : Run σ β} (silent : Silent stores first) (world : World σ) :
    ∃ value store events, first world = some (value, ⟨world.builder, store, events ++ world.events⟩) := by
  induction silent generalizing world with
  | pure value => exact ⟨value, world.store, [], rfl⟩
  | @emit event _ => exact ⟨(), world.store, [event], rfl⟩
  | store _ call record =>
    exact ⟨(call world.store).1, (call world.store).2, [record (call world.store).1], rfl⟩
  | bind _ _ one other =>
    obtain ⟨value, store, events, ran⟩ := one world
    obtain ⟨last, after, more, ranNext⟩ := other value ⟨world.builder, store, events ++ world.events⟩
    refine ⟨last, after, more ++ events, ?_⟩
    show (_ : Option _).bind _ = _
    rw [ran, List.append_assoc]
    exact ranNext

/-- A silent step that calls no store leaves the store as it is. -/
theorem plain {first : Run σ β} (silent : Silent False first) (world : World σ) :
    ∃ value events, first world = some (value, { world with events := events ++ world.events }) ∧
      ∀ event ∈ events, event.ofStore = false := by
  induction silent generalizing world with
  | pure value => exact ⟨value, [], rfl, by simp⟩
  | @emit event other => exact ⟨(), [event], rfl, by simpa using other⟩
  | store allowed => contradiction
  | bind _ _ one next =>
    obtain ⟨value, events, ran, others⟩ := one world
    obtain ⟨last, more, ranNext, moreOthers⟩ := next value { world with events := events ++ world.events }
    refine ⟨last, more ++ events, ?_, fun event member => ?_⟩
    · show (_ : Option _).bind _ = _
      rw [ran, List.append_assoc]
      exact ranNext
    · exact (List.mem_append.1 member).elim (moreOthers event) (others event)

theorem collect {step : α → Run σ (Except RenderError β)} (each : ∀ item, Silent stores (step item))
    (items : List α) : Silent stores (Run.collect step items) := by
  induction items with
  | nil => exact .pure _
  | cons item rest ih =>
    refine .bind (each item) fun outcome => ?_
    cases outcome with
    | error error => exact .pure _
    | ok value =>
      refine .bind ih fun others => ?_
      cases others <;> exact .pure _

/-! ### Names and fragments -/

theorem nameFragment (renderer : Renderer σ) (key : Cache.KeyExpr) (options : Cache.Options) :
    Silent stores (Run.nameFragment renderer key options) := by
  unfold Run.nameFragment
  refine .bind (.emit rfl) fun _ => ?_
  dsimp only
  split
  · refine .bind (.emit rfl) fun _ => ?_
    split
    · exact .bind (.log _) fun _ => .pure _
    · exact .pure _
  · split
    · exact .bind (.log _) fun _ => .pure _
    · exact .pure _

theorem nameElement (renderer : Renderer σ) (options : Cache.Options)
    (key : Option (Nat → Cache.KeyExpr)) (element : Nat × Json.Payload) :
    Silent stores (Run.nameElement renderer options key element) := by
  unfold Run.nameElement
  split
  · exact .pure _
  · dsimp only
    split
    · exact .bind (.emit rfl) fun _ => .bind (.nameFragment renderer _ options) fun _ => .pure _
    · exact .bind (.nameFragment renderer _ options) fun _ => .pure _

theorem nameElements (renderer : Renderer σ) (options : Cache.Options)
    (key : Option (Nat → Cache.KeyExpr)) (elements : List (Nat × Json.Payload)) :
    Silent stores (Run.collect (Run.nameElement renderer options key) elements) :=
  .collect (.nameElement renderer options key) elements

theorem decodeFragment (key fragment : String) :
    Silent stores (Run.decodeFragment key fragment : Run σ (Option Json)) := by
  unfold Run.decodeFragment
  split
  · exact .pure _
  · exact .bind (.log _) fun _ => .pure _

theorem decodeFound (found : Entries String) (key : String) :
    Silent stores (Run.decodeFound found key : Run σ (Option Json)) := by
  unfold Run.decodeFound
  split
  · exact .decodeFragment key _
  · exact .pure _

theorem readFragment (store : Cache.Store σ) (key : String) : Silent True (Run.readFragment store key) := by
  refine .bind (.store trivial (store.read key) (.read key)) fun answer => ?_
  split
  · exact .pure _
  · exact .decodeFragment key _
  · exact .bind (.log _) fun _ => .pure _

theorem writeFragment (store : Cache.Store σ) (key : String) (lifetime : Option Nat) (node : Json) :
    Silent True (Run.writeFragment store key lifetime node) := by
  refine .bind (.store trivial (store.write key _ lifetime) (.write key _ lifetime)) fun answer => ?_
  split
  · exact .pure _
  · exact .log _

theorem readFragments (batch : Cache.Batch σ) (keys : List String) :
    Silent True (Run.readFragments batch keys) := by
  unfold Run.readFragments
  refine .bind (.store trivial (batch.read keys) (.readBatch keys)) fun answer => ?_
  dsimp only
  split
  · exact .bind (.pure _) fun _ => .bind (.log _) fun _ => .pure _
  · exact .bind (.log _) fun _ => .bind (.pure _) fun _ => .bind (.log _) fun _ => .pure _

theorem logAll (failures : List (String × Cache.StoreError)) :
    Silent stores (failures.forM fun failure =>
      (Run.log (.writeFailed failure.1 failure.2) : Run σ PUnit)) := by
  induction failures with
  | nil => exact .pure _
  | cons failure rest ih => exact .bind (.log _) fun _ => ih

theorem writeFragments (batch : Cache.Batch σ) (lifetime : Option Nat)
    (fragments : List (String × String)) : Silent True (Run.writeFragments batch lifetime fragments) := by
  unfold Run.writeFragments
  split
  · exact .pure _
  · exact .bind (.store trivial (batch.write fragments lifetime) (.writeBatch fragments lifetime)) fun failed =>
      .bind (.logAll failed) fun _ => .log _

end Silent

end Stencil.Run
