import Stencil.Proofs.Json.RoundTrip

/-!
# One text, one value

A value without floats is the only one with its compact text (`eq_of_compact_eq`). The induction is on
that value; the other one is of the same kind since its text starts alike (`lead_eq`).
-/

namespace Stencil.Json

theorem lead_cases (value : Json) :
    match value.lead with
    | .null => value = .null
    | .yes => value = .bool true
    | .no => value = .bool false
    | .number => ∃ number, value = .num number
    | .text => ∃ text, value = .str text
    | .array => ∃ items, value = .arr items
    | .object => ∃ members, value = .obj members := by
  cases value with
  | bool value => cases value <;> rfl
  | null => rfl
  | num number => exact ⟨number, rfl⟩
  | str text => exact ⟨text, rfl⟩
  | arr items => exact ⟨items, rfl⟩
  | obj members => exact ⟨members, rfl⟩

theorem lead_eq {value node : Json} {rest other : List Char}
    (same : value.writeCompact rest = node.writeCompact other) : value.lead = node.lead := by
  obtain ⟨c, tail, valueText, valueLeads⟩ := writeCompact_eq_cons value rest
  obtain ⟨d, tail', nodeText, nodeLeads⟩ := writeCompact_eq_cons node other
  rw [valueText, nodeText] at same
  rw [(List.cons.inj same).1, nodeLeads] at valueLeads
  exact (Option.some.inj valueLeads).symm

theorem writeItems_ne_nil (item : Json) (items : List Json) {c : Char} (closer : Lead.of? c = none)
    (rest rest' : List Char) : writeItems (item :: items) rest ≠ c :: rest' := by
  intro same
  obtain ⟨d, tail, text, leads⟩ := writeItems_eq_cons item items rest
  rw [text] at same
  rw [(List.cons.inj same).1, closer] at leads
  contradiction

mutual

theorem writeCompact_inj : (node value : Json) → (rest other : List Char) → node.FloatFree →
    Ends rest → Ends other → value.writeCompact other = node.writeCompact rest →
    value = node ∧ other = rest
  | .null, value, rest, other, _, _, _, same => by
    have shape := lead_cases value
    rw [lead_eq same] at shape
    obtain rfl : value = .null := shape
    simpa [writeCompact] using same
  | .bool yes, value, rest, other, _, _, _, same => by
    have shape := lead_cases value
    rw [lead_eq same] at shape
    cases yes with
    | true =>
      obtain rfl : value = .bool true := shape
      simpa [writeCompact] using same
    | false =>
      obtain rfl : value = .bool false := shape
      simpa [writeCompact] using same
  | .num number, value, rest, other, floatFree, ends, ends', same => by
    have shape := lead_cases value
    rw [lead_eq same] at shape
    obtain ⟨written, rfl⟩ : ∃ number, value = .num number := shape
    obtain ⟨chars, rests⟩ := chars_inj ends' ends same
    cases number with
    | int value => exact ⟨congrArg Json.num (number_inj chars), rests⟩
    | float x => exact floatFree.elim
  | .str text, value, rest, other, _, _, _, same => by
    have shape := lead_cases value
    rw [lead_eq same] at shape
    obtain ⟨written, rfl⟩ : ∃ text, value = .str text := shape
    obtain ⟨texts, rests⟩ := quoted_inj same
    exact ⟨congrArg Json.str texts, rests⟩
  | .arr items, value, rest, other, floatFree, _, _, same => by
    have shape := lead_cases value
    rw [lead_eq same] at shape
    obtain ⟨written, rfl⟩ : ∃ items, value = .arr items := shape
    rw [writeCompact, writeCompact] at same
    obtain ⟨both, rests⟩ := writeItems_inj items written rest other floatFree (List.cons.inj same).2
    exact ⟨congrArg Json.arr both, rests⟩
  | .obj members, value, rest, other, floatFree, _, _, same => by
    have shape := lead_cases value
    rw [lead_eq same] at shape
    obtain ⟨written, rfl⟩ : ∃ members, value = .obj members := shape
    rw [writeCompact, writeCompact] at same
    obtain ⟨both, rests⟩ := writeMembers_inj members written rest other floatFree (List.cons.inj same).2
    exact ⟨congrArg Json.obj both, rests⟩

theorem writeItems_inj : (items written : List Json) → (rest other : List Char) →
    FloatFreeItems items → writeItems written (']' :: other) = writeItems items (']' :: rest) →
    written = items ∧ other = rest
  | [], [], _, _, _, same => ⟨rfl, (List.cons.inj same).2⟩
  | [], value :: values, _, _, _, same => absurd same (writeItems_ne_nil value values rfl _ _)
  | item :: items, [], _, _, _, same => absurd same.symm (writeItems_ne_nil item items rfl _ _)
  | [item], [value], rest, other, floatFree, same => by
    obtain ⟨rfl, rests⟩ := writeCompact_inj item value (']' :: rest) (']' :: other) floatFree.1
      (ends_cons rfl) (ends_cons rfl) same
    exact ⟨rfl, (List.cons.inj rests).2⟩
  | [item], value :: next :: values, rest, other, floatFree, same => by
    obtain ⟨-, rests⟩ := writeCompact_inj item value (']' :: rest) (',' :: _) floatFree.1
      (ends_cons rfl) (ends_cons rfl) same
    exact absurd (List.cons.inj rests).1 (by decide)
  | item :: next :: items, [value], rest, other, floatFree, same => by
    obtain ⟨-, rests⟩ := writeCompact_inj item value (',' :: _) (']' :: other) floatFree.1
      (ends_cons rfl) (ends_cons rfl) same
    exact absurd (List.cons.inj rests).1 (by decide)
  | item :: next :: items, value :: second :: values, rest, other, floatFree, same => by
    obtain ⟨rfl, rests⟩ := writeCompact_inj item value (',' :: _) (',' :: _) floatFree.1
      (ends_cons rfl) (ends_cons rfl) same
    obtain ⟨others, ended⟩ := writeItems_inj (next :: items) (second :: values) rest other
      floatFree.2 (List.cons.inj rests).2
    exact ⟨congrArg (value :: ·) others, ended⟩

theorem writeMembers_inj : (members written : List (String × Json)) → (rest other : List Char) →
    FloatFreeMembers members →
    writeMembers written ('}' :: other) = writeMembers members ('}' :: rest) →
    written = members ∧ other = rest
  | [], [], _, _, _, same => ⟨rfl, (List.cons.inj same).2⟩
  | [], value :: values, _, _, _, same => by
    obtain ⟨tail, text⟩ := writeMembers_eq_cons value values ('}' :: _)
    rw [text] at same
    exact absurd (List.cons.inj same).1 (by decide)
  | member :: members, [], _, _, _, same => by
    obtain ⟨tail, text⟩ := writeMembers_eq_cons member members ('}' :: _)
    rw [text] at same
    exact absurd (List.cons.inj same).1 (by decide)
  | [(key, node)], [(name, value)], rest, other, floatFree, same => by
    obtain ⟨rfl, values⟩ := quoted_inj same
    obtain ⟨rfl, rests⟩ := writeCompact_inj node value ('}' :: rest) ('}' :: other) floatFree.1
      (ends_cons rfl) (ends_cons rfl) (List.cons.inj values).2
    exact ⟨rfl, (List.cons.inj rests).2⟩
  | [(key, node)], (name, value) :: next :: values, rest, other, floatFree, same => by
    obtain ⟨-, values⟩ := quoted_inj same
    obtain ⟨-, rests⟩ := writeCompact_inj node value ('}' :: rest) (',' :: _) floatFree.1
      (ends_cons rfl) (ends_cons rfl) (List.cons.inj values).2
    exact absurd (List.cons.inj rests).1 (by decide)
  | (key, node) :: next :: members, [(name, value)], rest, other, floatFree, same => by
    obtain ⟨-, values⟩ := quoted_inj same
    obtain ⟨-, rests⟩ := writeCompact_inj node value (',' :: _) ('}' :: other) floatFree.1
      (ends_cons rfl) (ends_cons rfl) (List.cons.inj values).2
    exact absurd (List.cons.inj rests).1 (by decide)
  | (key, node) :: next :: members, (name, value) :: second :: values, rest, other, floatFree,
      same => by
    obtain ⟨rfl, values⟩ := quoted_inj same
    obtain ⟨rfl, rests⟩ := writeCompact_inj node value (',' :: _) (',' :: _) floatFree.1
      (ends_cons rfl) (ends_cons rfl) (List.cons.inj values).2
    obtain ⟨others, ended⟩ := writeMembers_inj (next :: members) (second :: _) rest other
      floatFree.2 (List.cons.inj rests).2
    exact ⟨congrArg ((name, value) :: ·) others, ended⟩

end

theorem eq_of_compact_eq {node value : Json} (floatFree : node.FloatFree)
    (same : value.compact = node.compact) : value = node :=
  (writeCompact_inj node value [] [] floatFree ends_nil ends_nil (String.ofList_injective same)).1

end Stencil.Json
