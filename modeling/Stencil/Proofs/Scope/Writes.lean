import Stencil.Proofs.Entries
import Stencil.Proofs.Scope.Changes

/-!
# Attributes that changes write

A change that succeeds binds some attributes in turn: those with a name get keys in the scope's format, unless
they are nulls that the scope skips, and those of a node keep the keys they have (`Change.members_apply`).
-/

namespace Stencil

namespace Scope

/-- The attributes written so far. -/
def members (scope : Scope) : Entries Json :=
  match scope.body with
  | .members entries => entries
  | _ => []

theorem members_of_shape {scope : Scope} (other : scope.shape ≠ .object) : scope.members = [] := by
  obtain ⟨_ | entries | items | value, keyFormat, ignoreNil⟩ := scope
  · rfl
  · exact (other rfl).elim
  · rfl
  · rfl

theorem toNode_of_shape {scope : Scope} (object : scope.shape = .object) : scope.toNode = .obj scope.members := by
  obtain ⟨_ | entries | items | value, keyFormat, ignoreNil⟩ := scope <;> first | rfl | contradiction

/-- Named attributes as the scope writes them: their keys formatted, and nulls left out that it skips. -/
def attributes (scope : Scope) (named : List (String × Json)) : Entries Json :=
  named.filterMap fun given =>
    if given.2.isNull && scope.ignoreNil then none else some (scope.keyFormat.apply given.1, given.2)

theorem attributes_cons (scope : Scope) (given : String × Json) (rest : List (String × Json)) :
    scope.attributes (given :: rest) = scope.attributes [given] ++ scope.attributes rest :=
  List.filterMap_append (l := [given])

variable {scope after : Scope}

theorem eq_of_editMembers {attempt : Attempt} {edit : Entries Json → Entries Json}
    (done : scope.editMembers attempt edit = (.ok (), after)) : after = { scope with body := .members (edit scope.members) } := by
  obtain ⟨_ | entries | items | value, keyFormat, ignoreNil⟩ := scope
  · exact (Prod.mk.inj done).2.symm
  · exact (Prod.mk.inj done).2.symm
  · cases (Prod.mk.inj done).1
  · cases (Prod.mk.inj done).1

theorem members_editElements {attempt : Attempt} {edit : List Json → List Json}
    (done : scope.editElements attempt edit = (.ok (), after)) : after.members = scope.members := by
  obtain ⟨_ | entries | items | value, keyFormat, ignoreNil⟩ := scope
  · rw [← (Prod.mk.inj done).2]
    rfl
  · cases (Prod.mk.inj done).1
  · rw [← (Prod.mk.inj done).2]
    rfl
  · cases (Prod.mk.inj done).1

/-- The scope has bound the attributes in turn, and its settings are as before. -/
structure Wrote (scope : Scope) (written : Entries Json) (after : Scope) : Prop where
  members : after.members = scope.members.insertAll written
  keyFormat : after.keyFormat = scope.keyFormat
  ignoreNil : after.ignoreNil = scope.ignoreNil

theorem wrote_set {name : String} {value : Json} (done : scope.set name value = (.ok (), after)) :
    scope.Wrote (scope.attributes [(name, value)]) after := by
  unfold set at done
  split at done
  next skipped =>
    obtain rfl := (Prod.mk.inj done).2
    have none : scope.attributes [(name, value)] = [] := by
      rw [attributes, List.filterMap_cons, if_pos skipped]
      rfl
    rw [none]
    exact ⟨rfl, rfl, rfl⟩
  next written =>
    have one : scope.attributes [(name, value)] = [(scope.keyFormat.apply name, value)] := by
      rw [attributes, List.filterMap_cons, if_neg written]
      rfl
    rw [one, eq_of_editMembers done]
    exact ⟨rfl, rfl, rfl⟩

theorem wrote_setEach {items : List (String × Json)}
    (done : forEach (fun item => set item.1 item.2) items scope = (.ok (), after)) :
    scope.Wrote (scope.attributes items) after := by
  induction items generalizing scope with
  | nil =>
    obtain rfl := (Prod.mk.inj done).2
    exact ⟨rfl, rfl, rfl⟩
  | cons item rest ih =>
    unfold forEach at done
    split at done
    · rename_i middle first
      have one := wrote_set first
      have others := ih done
      have same : middle.attributes rest = scope.attributes rest := by
        simp only [attributes, one.keyFormat, one.ignoreNil]
      refine ⟨?_, others.keyFormat.trans one.keyFormat, others.ignoreNil.trans one.ignoreNil⟩
      rw [others.members, one.members, same, ← Entries.insertAll_append, ← attributes_cons]
    · rename_i failed
      exact (failed after done).elim

theorem wrote_merge {members : Entries Json} (done : scope.merge (.obj members) = (.ok (), after)) :
    scope.Wrote (scope.attributes members) after := by
  unfold merge at done
  dsimp only at done
  split at done
  · rename_i middle opened
    obtain rfl := eq_of_editMembers opened
    exact ⟨(wrote_setEach done).members, (wrote_setEach done).keyFormat, (wrote_setEach done).ignoreNil⟩
  · rename_i failed
    exact (failed after done).elim

end Scope

/-- The attributes that an action binds in turn. -/
def Action.writes (scope : Scope) : Action → Entries Json
  | .set name (.ok value) => scope.attributes [(name, value)]
  | .merge (.ok (.obj members)) => scope.attributes members
  | .extract source names => scope.attributes (names.map fun name => (name, (source name).getD .null))
  | _ => []

/-- The members of a node that is spliced in are in their final form. -/
def Json.spliced : Json → Entries Json
  | .obj members => members
  | _ => []

def Change.writes (scope : Scope) : Change → Entries Json
  | .act action => action.writes scope
  | .splice node => node.spliced
  | .nothing => []

namespace Scope

variable {scope after : Scope}

theorem forEach_map {α β : Type} (step : β → Scope → Edited) (f : α → β) (items : List α) (scope : Scope) :
    forEach step (items.map f) scope = forEach (fun item => step (f item)) items scope := by
  induction items generalizing scope with
  | nil => rfl
  | cons item rest ih => simp only [List.map_cons, forEach, ih]

theorem members_forEach {α : Type} {step : α → Scope → Edited} {items : List α}
    (each : ∀ item scope after, step item scope = (.ok (), after) → after.members = scope.members)
    (done : forEach step items scope = (.ok (), after)) : after.members = scope.members := by
  induction items generalizing scope with
  | nil => rw [← (Prod.mk.inj done).2]
  | cons item rest ih =>
    unfold forEach at done
    split at done
    · rename_i middle first
      exact (ih done).trans (each item scope middle first)
    · rename_i failed
      exact (failed after done).elim

theorem members_appendAll {values : List Json.Payload} (done : scope.appendAll values = (.ok (), after)) :
    after.members = scope.members := by
  unfold appendAll at done
  split at done
  · rename_i middle opened
    refine (members_forEach (fun value scope after pushed => ?_) done).trans (members_editElements opened)
    cases value with
    | ok value => exact members_editElements pushed
    | error fault => cases (Prod.mk.inj pushed).1
  · rename_i failed
    exact (failed after done).elim

end Scope

/-- Attributes that all are skipped are not written. -/
theorem Scope.attributes_of_implied {scope : Scope} {named : List (String × Json)}
    (other : impliedBySet scope.ignoreNil (named.map Prod.snd) ≠ .object) : scope.attributes named = [] := by
  unfold impliedBySet at other
  split at other
  · rename_i skipped
    refine List.filterMap_eq_nil_iff.2 fun given member => ?_
    exact if_pos (List.all_eq_true.1 skipped given.2 (List.mem_map_of_mem member))
  · exact (other rfl).elim

/-- Only changes to an object write attributes. -/
theorem Change.writes_of_implied {change : Change} {scope : Scope}
    (other : change.implied scope.ignoreNil ≠ .object) : change.writes scope = [] := by
  cases change with
  | nothing => rfl
  | splice node =>
    cases node with
    | obj members => exact (other rfl).elim
    | _ => rfl
  | act action =>
    cases action with
    | set name value =>
      cases value with
      | ok value => exact Scope.attributes_of_implied other
      | error fault => rfl
    | merge value =>
      cases value with
      | error fault => rfl
      | ok value =>
        cases value with
        | obj members => exact (other rfl).elim
        | _ => rfl
    | extract source names =>
      refine Scope.attributes_of_implied ?_
      rw [List.map_map]
      exact other
    | _ => rfl

theorem Change.members_apply {change : Change} (resets : change ≠ .act .setNull) {scope after : Scope}
    (done : change.apply scope = (.ok (), after)) : after.members = scope.members.insertAll (change.writes scope) := by
  cases change with
  | nothing => rw [← (Prod.mk.inj done).2]; rfl
  | splice node =>
    cases node with
    | null => rw [← (Prod.mk.inj done).2]; rfl
    | obj members =>
      have edited : scope.editMembers .mergeObject (Entries.insertAll · members) = (.ok (), after) := done
      rw [Scope.eq_of_editMembers edited]
      rfl
    | arr items =>
      have edited : scope.editElements .mergeArray (· ++ items) = (.ok (), after) := done
      exact Scope.members_editElements edited
    | _ =>
      obtain ⟨_ | entries | items | value, keyFormat, ignoreNil⟩ := scope
      · rw [← (Prod.mk.inj done).2]; rfl
      · cases (Prod.mk.inj done).1
      · cases (Prod.mk.inj done).1
      · rw [← (Prod.mk.inj done).2]; rfl
  | act action =>
    cases action with
    | openObject => rw [Scope.eq_of_editMembers done]; rfl
    | openArray => exact Scope.members_editElements done
    | set name value =>
      cases value with
      | ok value => exact (Scope.wrote_set done).members
      | error fault => cases (Prod.mk.inj done).1
    | append value =>
      cases value with
      | ok value =>
        have edited : scope.editElements .appendElement (· ++ [value]) = (.ok (), after) := done
        exact Scope.members_editElements edited
      | error fault => cases (Prod.mk.inj done).1
    | appendAll values => exact Scope.members_appendAll done
    | merge value =>
      cases value with
      | error fault => cases (Prod.mk.inj done).1
      | ok value =>
        cases value with
        | null => rw [← (Prod.mk.inj done).2]; rfl
        | obj members => exact (Scope.wrote_merge done).members
        | arr items =>
          have edited : scope.editElements .mergeArray (· ++ items) = (.ok (), after) := done
          exact Scope.members_editElements edited
        | _ => cases (Prod.mk.inj done).1
    | extract source names =>
      have each : Scope.forEach (fun item => Scope.set item.1 item.2)
          (names.map fun name => (name, (source name).getD .null)) scope = (.ok (), after) := by
        rw [Scope.forEach_map]
        exact done
      exact (Scope.wrote_setEach each).members
    | setNull => exact (resets rfl).elim
    | ignoreNil ignore => rw [← (Prod.mk.inj done).2]; rfl
    | setKeyFormat format => rw [← (Prod.mk.inj done).2]; rfl

end Stencil
