import Stencil.Proofs.Scope.Writes

/-!
# Nodes spliced in turn

Two nodes that are spliced into a scope one after the other do what the one node does that they make in an untouched
scope (`splice_assoc`). Whether a node fits is a matter of shapes alone (`splice_eq_ok_iff`), so that the nodes fit
one way if they fit the other way.
-/

namespace Stencil

/-- Whether a scope of this shape may take on what implies the other one. -/
def Shape.Admits (shape implied : Shape) : Prop :=
  implied = .undetermined ∨ shape = .undetermined ∨ shape = implied

/-- The shape after something that implies another one, if that is admitted. -/
def Shape.taking (shape implied : Shape) : Shape := if implied = .undetermined then shape else implied

/-- Shapes fit in turn if the later ones fit each other and then the first. -/
theorem Shape.admits_assoc (shape first second : Shape) :
    shape.Admits first ∧ (shape.taking first).Admits second ↔
      first.Admits second ∧ shape.Admits (first.taking second) := by
  cases shape <;> cases first <;> cases second <;> simp [Admits, Shape.taking]

namespace Scope

/-- The scope after a node that it admits. -/
def spliced (node : Json) (scope : Scope) : Scope :=
  match node, scope.body with
  | .null, _ => scope
  | .obj members, _ => { scope with body := .members (scope.members.insertAll members) }
  | .arr items, .elements before => { scope with body := .elements (before ++ items) }
  | .arr items, _ => { scope with body := .elements items }
  | scalar, _ => { scope with body := .whole scalar }

theorem splice_eq_ok_iff {node : Json} {scope after : Scope} :
    scope.splice node = (.ok (), after) ↔ scope.shape.Admits node.shape ∧ scope.spliced node = after := by
  obtain ⟨body, keyFormat, ignoreNil⟩ := scope
  cases node <;> cases body <;>
    simp [splice, spliced, editMembers, editElements, conflict, members, shape, Body.shape, Json.shape, Shape.Admits]

theorem shape_spliced (node : Json) (scope : Scope) : (scope.spliced node).shape = scope.shape.taking node.shape := by
  obtain ⟨body, keyFormat, ignoreNil⟩ := scope
  cases node <;> cases body <;> rfl

theorem splice_both_eq_ok_iff {first second : Json} {scope after : Scope} :
    forEach splice [first, second] scope = (.ok (), after) ↔
      (scope.shape.Admits first.shape ∧ (scope.shape.taking first.shape).Admits second.shape) ∧
        (scope.spliced first).spliced second = after := by
  have next : ∀ {middle},
      forEach splice [second] middle = (.ok (), after) ↔ middle.splice second = (.ok (), after) := by
    intro middle
    rw [forEach]
    split <;> simp_all [forEach]
  rw [forEach]
  split
  · rename_i middle done
    obtain ⟨fits, rfl⟩ := splice_eq_ok_iff.1 done
    rw [next, splice_eq_ok_iff, shape_spliced]
    simp [fits]
  · rename_i failed
    refine ⟨fun done => (failed after done).elim, ?_⟩
    rintro ⟨⟨fits, -⟩, -⟩
    exact (failed _ (splice_eq_ok_iff.2 ⟨fits, rfl⟩)).elim

section Fresh

variable (keyFormat : KeyFormat) (ignoreNil : Bool)

theorem splice_fresh_eq_ok_iff {node : Json} {after : Scope} :
    (fresh keyFormat ignoreNil).splice node = (.ok (), after) ↔ (fresh keyFormat ignoreNil).spliced node = after := by
  rw [splice_eq_ok_iff]
  exact and_iff_right (.inr (.inl rfl))

/-- An untouched scope takes on any node, so that only the second one may not fit. -/
theorem splice_both_fresh_eq_ok_iff {first second : Json} {after : Scope} :
    forEach splice [first, second] (fresh keyFormat ignoreNil) = (.ok (), after) ↔
      first.shape.Admits second.shape ∧ ((fresh keyFormat ignoreNil).spliced first).spliced second = after := by
  rw [splice_both_eq_ok_iff, ← shape_spliced]
  have untouched : ((fresh keyFormat ignoreNil).spliced first).shape = first.shape := by cases first <;> rfl
  rw [untouched]
  exact and_congr_left fun _ => and_iff_right (.inr (.inl rfl))

theorem shape_toNode_spliced (first second : Json) :
    (((fresh keyFormat ignoreNil).spliced first).spliced second).toNode.shape = first.shape.taking second.shape := by
  cases first <;> cases second <;> rfl

/-- What a node makes of an untouched scope does to any scope what the node does. -/
theorem spliced_toNode (node : Json) (scope : Scope) :
    scope.spliced ((fresh keyFormat ignoreNil).spliced node).toNode = scope.spliced node := by
  cases node with
  | obj members =>
    have same : scope.members.insertAll (Entries.ofPairs members) = scope.members.insertAll members :=
      Entries.insertAll_ofPairs _ _
    exact congrArg (fun entries => { scope with body := .members entries }) same
  | _ => rfl

/-- Two objects, of which the later one overwrites members of the earlier one where they stand. -/
theorem spliced_objects (members others : Entries Json) (scope : Scope) :
    (scope.spliced (.obj members)).spliced (.obj others) =
      scope.spliced (.obj (Entries.insertAll (Entries.ofPairs members) others)) := by
  have same := Entries.insertAll_insertAll (Entries.distinct_ofPairs members) scope.members others
  rw [Entries.insertAll_ofPairs] at same
  exact congrArg (fun entries => { scope with body := .members entries }) same.symm

theorem spliced_arrays (items others : List Json) (scope : Scope) :
    (scope.spliced (.arr items)).spliced (.arr others) = scope.spliced (.arr (items ++ others)) := by
  obtain ⟨_ | entries | before | value, keyFormat, ignoreNil⟩ := scope <;> simp [spliced]

theorem spliced_spliced {first second : Json} (fits : first.shape.Admits second.shape) (scope : Scope) :
    (scope.spliced first).spliced second =
      scope.spliced (((fresh keyFormat ignoreNil).spliced first).spliced second).toNode := by
  cases second with
  | null => exact (spliced_toNode keyFormat ignoreNil first scope).symm
  | obj others =>
    cases first with
    | null => exact (spliced_toNode keyFormat ignoreNil (.obj others) scope).symm
    | obj members => exact spliced_objects members others scope
    | _ => simp [Shape.Admits, Json.shape] at fits
  | arr others =>
    cases first with
    | null => rfl
    | arr items => exact spliced_arrays items others scope
    | _ => simp [Shape.Admits, Json.shape] at fits
  | _ =>
    cases first with
    | obj | arr => simp [Shape.Admits, Json.shape] at fits
    | _ => rfl

end Fresh

/--
Splicing two nodes in turn is splicing the node that they make together. Null makes no difference, and a node alone
comes out of an untouched scope as it was.
-/
theorem splice_assoc (keyFormat : KeyFormat) (ignoreNil : Bool) (scope : Scope) :
    (∀ first second after, forEach splice [first, second] scope = (.ok (), after) ↔
      ∃ together, forEach splice [first, second] (fresh keyFormat ignoreNil) = (.ok (), together) ∧
        scope.splice together.toNode = (.ok (), after)) ∧
    scope.splice .null = (.ok (), scope) ∧
    ∀ node : Json, node.WellFormed → ∃ alone, (fresh keyFormat ignoreNil).splice node = (.ok (), alone) ∧
      alone.toNode = node ∧ alone.shape = node.shape := by
  refine ⟨fun first second after => ?_, rfl, fun node wellFormed => ?_⟩
  · rw [splice_both_eq_ok_iff, Shape.admits_assoc]
    constructor
    · rintro ⟨⟨fits, takes⟩, rfl⟩
      refine ⟨_, (splice_both_fresh_eq_ok_iff keyFormat ignoreNil).2 ⟨fits, rfl⟩, ?_⟩
      rw [splice_eq_ok_iff, shape_toNode_spliced]
      exact ⟨takes, (spliced_spliced keyFormat ignoreNil fits scope).symm⟩
    · rintro ⟨together, both, once⟩
      obtain ⟨fits, rfl⟩ := (splice_both_fresh_eq_ok_iff keyFormat ignoreNil).1 both
      obtain ⟨takes, rfl⟩ := splice_eq_ok_iff.1 once
      rw [shape_toNode_spliced] at takes
      exact ⟨⟨fits, takes⟩, spliced_spliced keyFormat ignoreNil fits scope⟩
  · have spliced : (fresh keyFormat ignoreNil).splice node = (.ok (), (fresh keyFormat ignoreNil).spliced node) :=
      (splice_fresh_eq_ok_iff keyFormat ignoreNil).2 rfl
    have same := toNode_splice_fresh wellFormed keyFormat ignoreNil
    rw [spliced] at same
    exact ⟨_, spliced, same, (shape_spliced ..).trans (by cases node <;> rfl)⟩

/-- Members that come later overwrite earlier ones where they stand. -/
theorem splice_assoc_overwriting :
    let scope : Scope := ⟨.members [("a", .str "1"), ("b", .str "2")], .identity, true⟩
    let first : Json := .obj [("c", .str "3"), ("a", .str "4")]
    let second : Json := .obj [("d", .str "5"), ("c", .str "6")]
    let members := [("a", .str "4"), ("b", .str "2"), ("c", .str "6"), ("d", .str "5")]
    first.WellFormed ∧
      (∃ together, forEach splice [first, second] (fresh .identity false) = (.ok (), together) ∧
        scope.splice together.toNode = (.ok (), { scope with body := .members members })) ∧
      ∃ alone, (fresh .identity false).splice first = (.ok (), alone) ∧ alone.toNode = first ∧
        alone.shape = first.shape := by
  intro scope first second members
  obtain ⟨assoc, -, unit⟩ := splice_assoc .identity false scope
  have wellFormed : first.WellFormed := ⟨by decide, trivial, trivial, trivial⟩
  exact ⟨wellFormed, (assoc first second _).1 (by decide), unit first wellFormed⟩

end Scope

end Stencil
