import Stencil.Proofs.Cache.Fragments
import Stencil.Proofs.Run.Bound

/-!
# Documents and fragments as text

A portable node is what its text denotes, compact or over several lines (`text_denotes_node`). So a fragment
that was kept decodes to the node that it was kept for, and the two ways to render a block say the same.
-/

namespace Stencil

theorem Json.ofText_compact {node : Json} (portable : node.Portable) : ofText node.compact = .ok node := by
  unfold ofText
  rw [parse_compact portable]

theorem Json.ofText_pretty {node : Json} (portable : node.Portable) : ofText node.pretty = .ok node := by
  unfold ofText
  rw [parse_pretty portable]

variable {σ : Type}

namespace Run

theorem decodeFragment_compact {node : Json} (portable : node.Portable) (key : String) :
    (decodeFragment key node.compact : Run σ _) = pure (some node) := by
  unfold decodeFragment
  rw [Json.ofText_compact portable]

/-- Keeping a node hands its compact text to the store. -/
theorem writeFragment_events (store : Cache.Store σ) (key : String) (lifetime : Option Nat) (node : Json)
    (world : World σ) : ∃ after answer more, writeFragment store key lifetime node world = some ((), after) ∧
      after.events = more ++ .write key node.compact lifetime answer :: world.events := by
  have written : writeStore store key node.compact lifetime world = some _ :=
    recorded_apply (store.write key node.compact lifetime) (.write key node.compact lifetime) world
  unfold writeFragment
  rw [bind_of_some written]
  cases (store.write key node.compact lifetime world.store).1 with
  | ok _ => exact ⟨_, _, [], rfl, rfl⟩
  | error error => exact ⟨_, _, [.log (.writeFailed key error)], rfl, rfl⟩

end Run

namespace Renderer

theorem render_of_renderNode {renderer : Renderer σ} {bound : Nat} {block : Block} {store : σ}
    {rendered : Rendered σ Json} (ran : renderer.renderNode bound block store = some rendered) :
    renderer.render bound block store = some (rendered.map Json.compact) ∧
      renderer.renderPretty bound block store = some (rendered.map Json.pretty) := by
  unfold render renderPretty
  rw [ran]
  exact ⟨rfl, rfl⟩

end Renderer

/--
A portable node is read back from its text, compact or over several lines; from the fragment that a store is
given for it; and from both texts of a block that builds it.
-/
theorem Json.text_denotes_node {node : Json} (portable : node.Portable) :
    ofText node.compact = .ok node ∧ ofText node.pretty = .ok node ∧
    ∀ {σ : Type},
      (∀ (store : Cache.Store σ) (key : String) (lifetime : Option Nat) (world : World σ),
        ∃ after fragment answer more, Run.writeFragment store key lifetime node world = some ((), after) ∧
          after.events = more ++ .write key fragment lifetime answer :: world.events ∧
          (Run.decodeFragment key fragment : Run σ _) = pure (some node)) ∧
      ∀ (renderer : Renderer σ) (bound : Nat) (block : Block) (store : σ) (rendered : Rendered σ Json),
        renderer.renderNode bound block store = some rendered → rendered.outcome = .ok node →
          ∃ one other, renderer.render bound block store = some one ∧
            renderer.renderPretty bound block store = some other ∧
            one.outcome.map ofText = .ok (.ok node) ∧ other.outcome.map ofText = .ok (.ok node) := by
  refine ⟨ofText_compact portable, ofText_pretty portable, fun {σ} => ⟨?_, ?_⟩⟩
  · intro store key lifetime world
    obtain ⟨after, answer, more, ran, events⟩ := Run.writeFragment_events store key lifetime node world
    exact ⟨after, node.compact, answer, more, ran, events, Run.decodeFragment_compact portable key⟩
  · intro renderer bound block store rendered ran succeeded
    obtain ⟨compact, pretty⟩ := Renderer.render_of_renderNode ran
    refine ⟨_, _, compact, pretty, ?_, ?_⟩
    · show (rendered.outcome.map Json.compact).map ofText = _
      rw [succeeded]
      exact congrArg Except.ok (ofText_compact portable)
    · show (rendered.outcome.map Json.pretty).map ofText = _
      rw [succeeded]
      exact congrArg Except.ok (ofText_pretty portable)

namespace Json

/-- The largest and the smallest integer, empty containers, and a key and a text with escapes. -/
def corners : Json :=
  .obj [("z\\", .arr [.num (.int 0xFFFFFFFFFFFFFFFF), .num (.int (-0x8000000000000000)), .arr [], .obj []]),
    ("a\n", .str "\x01\x7f\"é😀"), ("", .arr [.null, .obj [("b", .bool false)]])]

theorem text_denotes_corners :
    ∃ one other, (Renderer.default : Renderer Unit).render 0 (.act (.merge (.ok corners)) .done) () = some one ∧
      (Renderer.default : Renderer Unit).renderPretty 0 (.act (.merge (.ok corners)) .done) () = some other ∧
      one.outcome.map ofText = .ok (.ok corners) ∧ other.outcome.map ofText = .ok (.ok corners) := by
  have portable : corners.Portable := by decide +kernel
  obtain ⟨-, -, texts⟩ := text_denotes_node portable
  have built : ((Renderer.default : Renderer Unit).renderNode 0 (.act (.merge (.ok corners)) .done) ()).map
      (fun rendered => rendered.outcome.toOption) = some (some corners) := by
    decide +kernel
  obtain ⟨rendered, ran, succeeded⟩ := Option.map_eq_some_iff.1 built
  exact texts.2 _ 0 _ () rendered ran (Rendered.document?_eq_some.1 succeeded)

end Json

end Stencil
