import Stencil.Block

/-!
# Changes of a scope

A change implies a shape, or none. A scope refuses it as a whole, or becomes what it implies
(`Change.takes`); once a scope is committed it takes on no other shape. Two changes are different: `appendAll`
keeps the values before the one that fails (`commits_appendAll`), and `setNull` makes every scope a value.
-/

namespace Stencil

/-- What a call does to a scope once it has made everything ready. -/
inductive Change where
  | act (action : Action)
  | splice (node : Json)
  /-- The call has only given a node. -/
  | nothing

def Change.apply : Change → Scope → Edited
  | .act action => action.apply
  | .splice node => Scope.splice node
  | .nothing => fun scope => (.ok (), scope)

namespace Scope

/-! ### Implied shapes -/

/-- The shape that attributes of these values imply, those left out that the scope skips. -/
def impliedBySet (ignoreNil : Bool) (values : List Json) : Shape :=
  if values.all fun value => value.isNull && ignoreNil then .undetermined else .object

def impliedByMerge : Json → Shape
  | .obj _ => .object
  | .arr _ => .array
  | _ => .undetermined

end Scope

/-- The shape that an action implies; `undetermined` if it implies none. -/
def Action.implied (ignoreNil : Bool) : Action → Shape
  | .openObject => .object
  | .openArray | .append _ | .appendAll _ => .array
  | .set _ value => Scope.impliedBySet ignoreNil value.toOption.toList
  | .extract source names => Scope.impliedBySet ignoreNil (names.map fun name => (source name).getD .null)
  | .merge value => (value.toOption.map Scope.impliedByMerge).getD .undetermined
  | .setNull => .value
  | .ignoreNil _ | .setKeyFormat _ => .undetermined

def Change.implied (ignoreNil : Bool) : Change → Shape
  | .act action => action.implied ignoreNil
  | .splice node => node.shape
  | .nothing => .undetermined

namespace Scope

/-- The scope refuses a change and stays as it is, or takes it and has the shape that the change implies. -/
inductive Takes (implied : Shape) (scope : Scope) : Edited → Prop where
  | refused (error : RenderError) : Takes implied scope (.error error, scope)
  | kept {after : Scope} (none : implied = .undetermined) (same : after.shape = scope.shape) :
      Takes implied scope (.ok (), after)
  | committed {after : Scope} (fits : scope.shape = .undetermined ∨ scope.shape = implied)
      (same : after.shape = implied) : Takes implied scope (.ok (), after)

theorem Takes.eq_of_error {implied : Shape} {scope after : Scope} {error : RenderError}
    (takes : Takes implied scope (.error error, after)) : after = scope := by
  cases takes
  rfl

theorem Takes.shape_of_ok {implied : Shape} {scope : Scope} {edited : Edited} (takes : Takes implied scope edited)
    (implies : implied ≠ .undetermined) (succeeded : edited.1 = .ok ()) : edited.2.shape = implied := by
  cases takes with
  | refused error => contradiction
  | kept none => exact (implies none).elim
  | committed fits same => exact same

variable {scope : Scope}

theorem takes_editMembers (attempt : Attempt) (edit : Entries Json → Entries Json) :
    Takes .object scope (editMembers attempt edit scope) := by
  obtain ⟨body, keyFormat, ignoreNil⟩ := scope
  cases body with
  | empty => exact .committed (.inl rfl) rfl
  | members entries => exact .committed (.inr rfl) rfl
  | elements items => exact .refused _
  | whole value => exact .refused _

theorem takes_editElements (attempt : Attempt) (edit : List Json → List Json) :
    Takes .array scope (editElements attempt edit scope) := by
  obtain ⟨body, keyFormat, ignoreNil⟩ := scope
  cases body with
  | empty => exact .committed (.inl rfl) rfl
  | elements items => exact .committed (.inr rfl) rfl
  | members entries => exact .refused _
  | whole value => exact .refused _

theorem takes_splice (node : Json) : Takes node.shape scope (scope.splice node) := by
  cases node with
  | null => exact .kept rfl rfl
  | obj members => exact takes_editMembers .mergeObject (Entries.insertAll · members)
  | arr items => exact takes_editElements .mergeArray (· ++ items)
  | _ =>
    obtain ⟨body, keyFormat, ignoreNil⟩ := scope
    cases body with
    | empty => exact .committed (.inl rfl) rfl
    | whole value => exact .committed (.inr rfl) rfl
    | members entries => exact .refused _
    | elements items => exact .refused _

/-! ### Attributes in turn -/

/-- Goes on with items in a scope that has taken a change. -/
def following {α : Type} (rest : List α → Scope → Edited) (items : List α) : Edited → Edited
  | (.ok (), scope) => rest items scope
  | failed => failed

theorem impliedBySet_of_skipped {ignoreNil : Bool} {value : Json} (skipped : (value.isNull && ignoreNil) = true)
    (rest : List Json) : impliedBySet ignoreNil (value :: rest) = impliedBySet ignoreNil rest := by
  simp only [impliedBySet, List.all_cons, skipped, Bool.true_and]

theorem impliedBySet_of_written {ignoreNil : Bool} {value : Json} (written : (value.isNull && ignoreNil) = false)
    (rest : List Json) : impliedBySet ignoreNil (value :: rest) = .object := by
  simp only [impliedBySet, List.all_cons, written, Bool.false_and]
  rfl

theorem takes_set (name : String) (value : Json) :
    Takes (impliedBySet scope.ignoreNil [value]) scope (scope.set name value) := by
  unfold set
  split
  next skipped =>
    rw [impliedBySet_of_skipped skipped]
    exact .kept rfl rfl
  next written =>
    rw [impliedBySet_of_written (by simpa using written)]
    exact takes_editMembers _ _

theorem set_of_object (object : scope.shape = .object) (name : String) (value : Json) :
    ∃ after, scope.set name value = (.ok (), after) ∧ after.shape = .object := by
  obtain ⟨body, keyFormat, ignoreNil⟩ := scope
  obtain _ | entries | _ | _ := body <;> try contradiction
  unfold set
  split <;> exact ⟨_, rfl, rfl⟩

section Each

variable {α : Type} (name : α → String) (value : α → Json) (items : List α)

theorem setEach_of_object (object : scope.shape = .object) :
    ∃ after, forEach (fun item => set (name item) (value item)) items scope = (.ok (), after) ∧
      after.shape = .object := by
  induction items generalizing scope with
  | nil => exact ⟨scope, rfl, object⟩
  | cons item rest ih =>
    obtain ⟨middle, done, still⟩ := set_of_object object (name item) (value item)
    obtain ⟨after, others, last⟩ := ih still
    refine ⟨after, ?_, last⟩
    simp only [forEach, done, others]

/-- A scope that has become an object takes all attributes. -/
theorem Takes.setEach {edited : Edited} (takes : Takes .object scope edited) :
    Takes .object scope (following (forEach fun item => set (name item) (value item)) items edited) := by
  cases takes with
  | refused error => exact .refused error
  | kept none => contradiction
  | committed fits same =>
    obtain ⟨after, others, last⟩ := setEach_of_object name value items same
    simp only [following, others]
    exact .committed fits last

theorem takes_setEach :
    Takes (impliedBySet scope.ignoreNil (items.map value)) scope
      (forEach (fun item => set (name item) (value item)) items scope) := by
  induction items with
  | nil => exact .kept rfl rfl
  | cons item rest ih =>
    cases skips : (value item).isNull && scope.ignoreNil with
    | true =>
      have first : scope.set (name item) (value item) = (.ok (), scope) := if_pos skips
      simp only [forEach, first, List.map_cons, impliedBySet_of_skipped skips]
      exact ih
    | false =>
      have first : Takes _ scope (scope.set (name item) (value item)) := takes_set (name item) (value item)
      rw [impliedBySet_of_written skips] at first
      simp only [forEach, List.map_cons, impliedBySet_of_written skips]
      exact first.setEach name value rest

end Each

theorem takes_merge (value : Json) : Takes (impliedByMerge value) scope (scope.merge value) := by
  cases value with
  | null => exact .kept rfl rfl
  | arr items => exact takes_editElements .mergeArray (· ++ items)
  | obj members =>
    have opened : Takes .object scope (scope.openObject .mergeObject) := takes_editMembers .mergeObject id
    exact opened.setEach Prod.fst Prod.snd members
  | _ => exact .refused _

theorem takes_push (value : Json) : Takes .array scope (scope.push value) :=
  takes_editElements .appendElement (· ++ [value])

/-! ### Commitment -/

/-- The shape stays, or becomes the implied one if there was none; after success it has become that. -/
structure Commits (implied before after : Shape) (outcome : Except RenderError Unit) : Prop where
  moves : after = before ∨ before = .undetermined ∧ after = implied
  reaches : outcome = .ok () → before = .undetermined → after = implied

theorem Takes.commits {implied : Shape} {outcome : Except RenderError Unit} {after : Scope}
    (takes : Takes implied scope (outcome, after)) : Commits implied scope.shape after.shape outcome := by
  cases takes with
  | refused error => exact ⟨.inl rfl, by simp⟩
  | kept none same => exact ⟨.inl same, fun _ undetermined => by rw [same, undetermined, none]⟩
  | committed fits same =>
    refine ⟨?_, fun _ _ => same⟩
    obtain undetermined | already := fits
    · exact .inr ⟨undetermined, same⟩
    · exact .inl (same.trans already.symm)

end Scope

/-- The scope takes the change as a whole or not at all. -/
def Change.Whole (change : Change) : Prop := ∀ values, change ≠ .act (.appendAll values)

theorem Change.takes {change : Change} (whole : change.Whole) (resets : change ≠ .act .setNull) (scope : Scope) :
    Scope.Takes (change.implied scope.ignoreNil) scope (change.apply scope) := by
  cases change with
  | splice node => exact Scope.takes_splice node
  | nothing => exact .kept rfl rfl
  | act action =>
    cases action with
    | openObject => exact Scope.takes_editMembers .openObject id
    | openArray => exact Scope.takes_editElements .openArray id
    | set name value =>
      cases value with
      | ok value => exact Scope.takes_set name value
      | error fault => exact .refused _
    | append value =>
      cases value with
      | ok value => exact Scope.takes_push value
      | error fault => exact .refused _
    | appendAll values => exact (whole values rfl).elim
    | merge value =>
      cases value with
      | ok value => exact Scope.takes_merge value
      | error fault => exact .refused _
    | extract source names => exact Scope.takes_setEach id (fun name => (source name).getD .null) names
    | setNull => exact (resets rfl).elim
    | ignoreNil ignore => exact .kept rfl rfl
    | setKeyFormat format => exact .kept rfl rfl

/-- A change that is refused leaves the scope as it is. -/
theorem Change.eq_of_error {change : Change} (whole : change.Whole) {scope after : Scope} {error : RenderError}
    (refused : change.apply scope = (.error error, after)) : after = scope := by
  by_cases resets : change = .act .setNull
  · subst resets
    cases refused
  · have takes := change.takes whole resets scope
    rw [refused] at takes
    exact takes.eq_of_error

namespace Scope

theorem pushEach_of_array {scope : Scope} (array : scope.shape = .array) (values : List Json.Payload) :
    (forEach (withPayload push) values scope).2.shape = .array := by
  induction values generalizing scope with
  | nil => exact array
  | cons value rest ih =>
    cases value with
    | error fault => exact array
    | ok value =>
      obtain ⟨body, keyFormat, ignoreNil⟩ := scope
      obtain _ | _ | items | _ := body <;> try contradiction
      have pushed : shape ⟨.elements (items ++ [value]), keyFormat, ignoreNil⟩ = .array := rfl
      exact ih pushed

/-- Values that come before one that has no JSON form stay in the array. -/
theorem commits_appendAll (values : List Json.Payload) (scope : Scope) :
    Commits .array scope.shape (scope.appendAll values).2.shape (scope.appendAll values).1 := by
  have opened : Takes .array scope (scope.openArray .openArray) := takes_editElements .openArray id
  have filled : scope.appendAll values =
      following (forEach (withPayload push)) values (scope.openArray .openArray) := rfl
  rw [filled]
  cases opening : scope.openArray .openArray with
  | mk outcome middle =>
    rw [opening] at opened
    cases opened with
    | refused error => exact (Takes.refused error).commits
    | kept none => contradiction
    | committed fits same =>
      have still : (following (forEach (withPayload push)) values (.ok (), middle)).2.shape = .array :=
        pushEach_of_array same values
      refine ⟨?_, fun _ _ => still⟩
      obtain undetermined | already := fits
      · exact .inr ⟨undetermined, still⟩
      · exact .inl (still.trans already.symm)

end Scope

/-- Every change but that to null commits the scope to the shape that it implies. -/
theorem Change.commits {change : Change} (resets : change ≠ .act .setNull) (scope : Scope) :
    Scope.Commits (change.implied scope.ignoreNil) scope.shape (change.apply scope).2.shape
      (change.apply scope).1 := by
  by_cases appends : ∃ values, change = .act (.appendAll values)
  · obtain ⟨values, rfl⟩ := appends
    exact Scope.commits_appendAll values scope
  · exact (change.takes (fun values same => appends ⟨values, same⟩) resets scope).commits

end Stencil
