import Mathlib.Data.Set.Function
import Mathlib.Data.List.Forall2
import Stencil.Block

/-!
# Renaming keys

A value with all keys renamed, at every depth (`Json.mapKeys`). What an operation does to a scope with a
key format is what it does to one without, renamed, if the format tells the names in use apart
(`corresponds_apply`). Only the keys that the operation sets itself pass through the format; nodes and
values without objects go in as they are.
-/

namespace Stencil

namespace Json

mutual

/-- The value with every key of every object in it renamed. -/
def mapKeys (f : String → String) : Json → Json
  | .arr items => .arr (mapKeysItems f items)
  | .obj members => .obj (mapKeysMembers f members)
  | value => value

def mapKeysItems (f : String → String) : List Json → List Json
  | [] => []
  | item :: rest => item.mapKeys f :: mapKeysItems f rest

def mapKeysMembers (f : String → String) : List (String × Json) → List (String × Json)
  | [] => []
  | (key, value) :: rest => (f key, value.mapKeys f) :: mapKeysMembers f rest

end

mutual

/-- There is no object in the value. -/
def ObjectFree : Json → Prop
  | .arr items => ObjectFreeItems items
  | .obj _ => False
  | _ => True

def ObjectFreeItems : List Json → Prop
  | [] => True
  | item :: rest => item.ObjectFree ∧ ObjectFreeItems rest

end

variable {f : String → String}

theorem mapKeys_arr (items : List Json) : (Json.arr items).mapKeys f = .arr (items.map (mapKeys f)) := by
  have same : mapKeysItems f items = items.map (mapKeys f) := by
    induction items with
    | nil => rfl
    | cons item rest ih => rw [mapKeysItems, ih, List.map_cons]
  rw [mapKeys, same]

mutual

theorem mapKeys_of_objectFree : (value : Json) → value.ObjectFree → value.mapKeys f = value
  | .null, _ | .bool _, _ | .num _, _ | .str _, _ => rfl
  | .arr items, free => congrArg Json.arr (mapKeysItems_of_objectFree items free)
  | .obj _, free => free.elim

theorem mapKeysItems_of_objectFree : (items : List Json) → ObjectFreeItems items → mapKeysItems f items = items
  | [], _ => rfl
  | item :: rest, free => by
    rw [mapKeysItems, mapKeys_of_objectFree item free.1, mapKeysItems_of_objectFree rest free.2]

end

theorem isNull_mapKeys (value : Json) : (value.mapKeys f).isNull = value.isNull := by
  cases value <;> rfl

end Json

namespace Entries

variable {f : String → String} {names : Set String}

def rename (f : String → String) (entries : Entries Json) : Entries Json :=
  entries.map fun entry => (f entry.1, entry.2.mapKeys f)

theorem mapKeys_obj (members : List (String × Json)) :
    (Json.obj members).mapKeys f = .obj (rename f members) := by
  have same : Json.mapKeysMembers f members = rename f members := by
    induction members with
    | nil => rfl
    | cons member rest ih =>
      obtain ⟨key, value⟩ := member
      rw [Json.mapKeysMembers, ih]
      rfl
  rw [Json.mapKeys, same]

/-- All keys are among the names. -/
def Within (names : Set String) (entries : Entries Json) : Prop :=
  ∀ entry ∈ entries, entry.1 ∈ names

theorem Within.insert {entries : Entries Json} (within : Within names entries) {key : String}
    (used : key ∈ names) (value : Json) : Within names (entries.insert key value) := by
  induction entries with
  | nil => simpa [Entries.insert, Within] using used
  | cons entry rest ih =>
    obtain ⟨name, old⟩ := entry
    have others : Within names rest := fun entry member => within entry (List.mem_cons_of_mem _ member)
    have first := within (name, old) List.mem_cons_self
    by_cases same : name = key
    · rw [Entries.insert, if_pos same]
      rintro entry (_ | ⟨_, member⟩)
      · exact first
      · exact others entry member
    · rw [Entries.insert, if_neg same]
      rintro entry (_ | ⟨_, member⟩)
      · exact first
      · exact ih others entry member

/-- A renaming that tells the names apart replaces a member where its namesake is replaced. -/
theorem insert_rename (injective : Set.InjOn f names) {entries : Entries Json}
    (within : Within names entries) {key : String} (used : key ∈ names) (value : Json) :
    (rename f entries).insert (f key) (value.mapKeys f) = rename f (entries.insert key value) := by
  induction entries with
  | nil => rfl
  | cons entry rest ih =>
    obtain ⟨name, old⟩ := entry
    have others : Within names rest := fun entry member => within entry (List.mem_cons_of_mem _ member)
    have apart := injective.eq_iff (within (name, old) List.mem_cons_self) used
    have later := ih others
    unfold rename at later ⊢
    by_cases same : name = key
    · simp [Entries.insert, same]
    · have renamed : f name ≠ f key := fun equal => same (apart.1 equal)
      simp [Entries.insert, same, renamed, later]

theorem insertAll_rename (injective : Set.InjOn f names) {entries extra : Entries Json}
    (within : Within names entries) (added : Within names extra) :
    (rename f entries).insertAll (rename f extra) = rename f (entries.insertAll extra) ∧
      Within names (entries.insertAll extra) := by
  induction extra generalizing entries with
  | nil => exact ⟨rfl, within⟩
  | cons entry rest ih =>
    have used := added entry List.mem_cons_self
    have others : Within names rest := fun entry member => added entry (List.mem_cons_of_mem _ member)
    obtain ⟨same, after⟩ := ih (within.insert used entry.2) others
    refine ⟨?_, after⟩
    show insertAll (Entries.insert (f entry.1) (entry.2.mapKeys f) (rename f entries)) (rename f rest) = _
    rw [insert_rename injective within used, same]
    rfl

end Entries

/-! ### Scopes and what is done to them -/

/-- The second node is the first one, renamed; the keys of an object are among the names. -/
def Json.Renamed (f : String → String) (names : Set String) (node other : Json) : Prop :=
  other = node.mapKeys f ∧ ∀ members, node = .obj members → Entries.Within names members

inductive Body.Renamed (f : String → String) (names : Set String) : Body → Body → Prop where
  | empty : Renamed f names .empty .empty
  | members {entries : Entries Json} (within : Entries.Within names entries) :
      Renamed f names (.members entries) (.members (Entries.rename f entries))
  | elements (items : List Json) :
      Renamed f names (.elements items) (.elements (items.map (Json.mapKeys f)))
  | whole {value other : Json} (renamed : value.Renamed f names other) :
      Renamed f names (.whole value) (.whole other)

/-- The first scope leaves keys alone; the second one has the format and holds the same, renamed. -/
structure Scope.Renamed (format : KeyFormat) (names : Set String) (scope other : Scope) : Prop where
  plain : scope.keyFormat = .identity
  formatted : other.keyFormat = format
  ignoreNil : other.ignoreNil = scope.ignoreNil
  body : scope.body.Renamed format.apply names other.body

/-- No object is in the value, unless it is an object itself with names for keys and none within. -/
def Json.Mergeable (names : Set String) (value : Json) : Prop :=
  value.ObjectFree ∨ ∃ members, value = .obj members ∧ ∀ member ∈ members, member.1 ∈ names ∧ member.2.ObjectFree

/--
The same action, with the nodes in it renamed. A value that holds no object is its own renaming and so the
same in both; only such values are merged, and objects of them.
-/
inductive Action.Renamed (f : String → String) (names : Set String) : Action → Action → Prop where
  | openObject : Renamed f names .openObject .openObject
  | openArray : Renamed f names .openArray .openArray
  | set {name : String} (used : name ∈ names) (value : Json.Payload) :
      Renamed f names (.set name value) (.set name (value.map (Json.mapKeys f)))
  | append (value : Json.Payload) : Renamed f names (.append value) (.append (value.map (Json.mapKeys f)))
  | appendAll (values : List Json.Payload) :
      Renamed f names (.appendAll values) (.appendAll (values.map (Except.map (Json.mapKeys f))))
  | merge {value : Json.Payload} (mergeable : ∀ node, value = .ok node → node.Mergeable names) :
      Renamed f names (.merge value) (.merge value)
  | extract {source other : String → Option Json} {used : List String} (among : ∀ name ∈ used, name ∈ names)
      (same : ∀ name ∈ used, other name = (source name).map (Json.mapKeys f)) :
      Renamed f names (.extract source used) (.extract other used)
  | setNull : Renamed f names .setNull .setNull
  | ignoreNil (ignore : Bool) : Renamed f names (.ignoreNil ignore) (.ignoreNil ignore)

namespace Scope

variable {format : KeyFormat} {names : Set String}

theorem Renamed.toNode {scope other : Scope} (renamed : scope.Renamed format names other) :
    scope.toNode.Renamed format.apply names other.toNode := by
  obtain ⟨body, keyFormat, ignoreNil⟩ := scope
  obtain ⟨bodyToo, keyFormatToo, ignoreNilToo⟩ := other
  obtain ⟨-, -, -, bodies⟩ := renamed
  cases bodies with
  | empty =>
    refine ⟨rfl, ?_⟩
    rintro members ⟨⟩
  | members within =>
    refine ⟨(Entries.mapKeys_obj _).symm, ?_⟩
    rintro members ⟨⟩
    exact within
  | elements items =>
    refine ⟨(Json.mapKeys_arr items).symm, ?_⟩
    rintro members ⟨⟩
  | whole renamed => exact renamed

theorem Renamed.shape {scope other : Scope} (renamed : scope.Renamed format names other) :
    scope.shape = other.shape := by
  obtain ⟨body, keyFormat, ignoreNil⟩ := scope
  obtain ⟨bodyToo, keyFormatToo, ignoreNilToo⟩ := other
  obtain ⟨-, -, -, bodies⟩ := renamed
  cases bodies <;> rfl

/-- The operations have the same outcome on corresponding scopes, and leave corresponding ones. -/
def Corresponds (format : KeyFormat) (names : Set String) (operation another : Scope → Edited) : Prop :=
  ∀ scope other, scope.Renamed format names other →
    (operation scope).1 = (another other).1 ∧ (operation scope).2.Renamed format names (another other).2

theorem corresponds_conflict (attempt : Attempt) :
    Corresponds format names (conflict attempt) (conflict attempt) := by
  intro scope other renamed
  refine ⟨?_, renamed⟩
  unfold conflict
  rw [renamed.shape]

theorem corresponds_editMembers (attempt : Attempt) {edit another : Entries Json → Entries Json}
    (same : ∀ entries, Entries.Within names entries →
      another (Entries.rename format.apply entries) = Entries.rename format.apply (edit entries) ∧
        Entries.Within names (edit entries)) :
    Corresponds format names (editMembers attempt edit) (editMembers attempt another) := by
  rintro ⟨body, keyFormat, ignoreNil⟩ ⟨bodyToo, keyFormatToo, ignoreNilToo⟩ renamed
  obtain ⟨plain, formatted, ignore, bodies⟩ := id renamed
  dsimp only at bodies
  cases bodies with
  | empty =>
    obtain ⟨added, within⟩ := same [] (by simp [Entries.Within])
    refine ⟨rfl, plain, formatted, ignore, ?_⟩
    show Body.Renamed _ _ (.members (edit [])) (.members (another []))
    rw [show another [] = _ from added]
    exact .members within
  | @members entries before =>
    obtain ⟨added, within⟩ := same entries before
    refine ⟨rfl, plain, formatted, ignore, ?_⟩
    show Body.Renamed _ _ (.members (edit entries)) (.members (another _))
    rw [added]
    exact .members within
  | elements items => exact corresponds_conflict attempt _ _ renamed
  | whole value => exact corresponds_conflict attempt _ _ renamed

theorem corresponds_editElements (attempt : Attempt) {edit another : List Json → List Json}
    (same : ∀ items, another (items.map (Json.mapKeys format.apply)) =
      (edit items).map (Json.mapKeys format.apply)) :
    Corresponds format names (editElements attempt edit) (editElements attempt another) := by
  rintro ⟨body, keyFormat, ignoreNil⟩ ⟨bodyToo, keyFormatToo, ignoreNilToo⟩ renamed
  obtain ⟨plain, formatted, ignore, bodies⟩ := id renamed
  dsimp only at bodies
  cases bodies with
  | empty =>
    refine ⟨rfl, plain, formatted, ignore, ?_⟩
    show Body.Renamed _ _ (.elements (edit [])) (.elements (another []))
    rw [show another [] = _ from same []]
    exact .elements (edit [])
  | elements items =>
    refine ⟨rfl, plain, formatted, ignore, ?_⟩
    show Body.Renamed _ _ (.elements (edit items)) (.elements (another _))
    rw [same]
    exact .elements (edit items)
  | members within => exact corresponds_conflict attempt _ _ renamed
  | whole value => exact corresponds_conflict attempt _ _ renamed

theorem corresponds_openObject (attempt : Attempt) :
    Corresponds format names (openObject attempt) (openObject attempt) :=
  corresponds_editMembers attempt fun _ within => ⟨rfl, within⟩

theorem corresponds_openArray (attempt : Attempt) :
    Corresponds format names (openArray attempt) (openArray attempt) :=
  corresponds_editElements attempt fun _ => rfl

theorem corresponds_push (value : Json) :
    Corresponds format names (push value) (push (value.mapKeys format.apply)) := by
  refine corresponds_editElements _ fun items => ?_
  rw [List.map_append]
  rfl

/-- One operation after another, if the first one succeeds. -/
theorem corresponds_next {first another next follows : Scope → Edited}
    (one : Corresponds format names first another) (later : Corresponds format names next follows) :
    Corresponds format names
      (fun scope => match first scope with
        | (.ok (), scope) => next scope
        | failed => failed)
      (fun scope => match another scope with
        | (.ok (), scope) => follows scope
        | failed => failed) := by
  intro scope other renamed
  obtain ⟨outcomes, after⟩ := one scope other renamed
  dsimp only
  generalize first scope = here at outcomes after ⊢
  generalize another other = there at outcomes after ⊢
  obtain ⟨outcome, scope⟩ := here
  obtain ⟨answer, other⟩ := there
  dsimp only at outcomes after
  subst outcomes
  cases outcome with
  | ok _ => exact later scope other after
  | error error => exact ⟨rfl, after⟩

theorem corresponds_forEach {α β : Type} {step : α → Scope → Edited} {another : β → Scope → Edited}
    {items : List α} {others : List β}
    (each : List.Forall₂ (fun item other => Corresponds format names (step item) (another other)) items others) :
    Corresponds format names (forEach step items) (forEach another others) := by
  induction each with
  | nil => exact fun _ _ renamed => ⟨rfl, renamed⟩
  | cons first _ ih => exact corresponds_next first ih

variable (injective : Set.InjOn format.apply names)

include injective

theorem corresponds_set {name : String} (used : name ∈ names) (value : Json) :
    Corresponds format names (set name value) (set name (value.mapKeys format.apply)) := by
  intro scope other renamed
  have inserted : Corresponds format names (insert name value)
      (insert (format.apply name) (value.mapKeys format.apply)) := by
    refine corresponds_editMembers _ fun entries within => ?_
    exact ⟨Entries.insert_rename injective within used value, within.insert used value⟩
  unfold set
  rw [Json.isNull_mapKeys, renamed.ignoreNil, renamed.plain, renamed.formatted, KeyFormat.apply_identity]
  split
  · exact ⟨rfl, renamed⟩
  · exact inserted scope other renamed

theorem corresponds_splice {node other : Json} (renamed : node.Renamed format.apply names other) :
    Corresponds format names (splice node) (splice other) := by
  obtain ⟨rfl, within⟩ := renamed
  cases node with
  | null => exact fun _ _ renamed => ⟨rfl, renamed⟩
  | obj members =>
    rw [Entries.mapKeys_obj]
    refine corresponds_editMembers _ fun entries before => ?_
    exact Entries.insertAll_rename injective before (within members rfl)
  | arr items =>
    rw [Json.mapKeys_arr]
    refine corresponds_editElements _ fun others => ?_
    rw [List.map_append]
  | _ =>
    rintro ⟨body, keyFormat, ignoreNil⟩ ⟨bodyToo, keyFormatToo, ignoreNilToo⟩ renamed
    obtain ⟨plain, formatted, ignore, bodies⟩ := id renamed
    dsimp only at bodies
    have whole : Json.Renamed format.apply names _ _ := ⟨rfl, within⟩
    cases bodies with
    | empty => exact ⟨rfl, plain, formatted, ignore, .whole whole⟩
    | whole _ => exact ⟨rfl, plain, formatted, ignore, .whole whole⟩
    | members _ => exact corresponds_conflict _ _ _ renamed
    | elements _ => exact corresponds_conflict _ _ _ renamed

theorem corresponds_merge {value : Json} (mergeable : value.Mergeable names) :
    Corresponds format names (merge value) (merge value) := by
  rcases mergeable with free | ⟨members, rfl, mergeable⟩
  · have same : value.mapKeys format.apply = value := Json.mapKeys_of_objectFree value free
    cases value with
    | null => exact fun _ _ renamed => ⟨rfl, renamed⟩
    | obj members => exact free.elim
    | arr items =>
      rw [Json.mapKeys_arr, Json.arr.injEq] at same
      refine corresponds_editElements _ fun others => ?_
      rw [List.map_append, same]
    | _ => exact corresponds_conflict .mergeScalar
  · refine corresponds_next (corresponds_openObject .mergeObject) (corresponds_forEach ?_)
    refine List.forall₂_same.2 fun member among => ?_
    obtain ⟨used, free⟩ := mergeable member among
    have set := corresponds_set injective used member.2
    rwa [Json.mapKeys_of_objectFree member.2 free] at set

theorem corresponds_apply {action other : Action} (renamed : action.Renamed format.apply names other) :
    Corresponds format names action.apply other.apply := by
  have payload {operation another : Json → Scope → Edited} (value : Json.Payload)
      (each : ∀ node, Corresponds format names (operation node) (another (node.mapKeys format.apply))) :
      Corresponds format names (withPayload operation value)
        (withPayload another (value.map (Json.mapKeys format.apply))) := by
    cases value with
    | ok node => exact each node
    | error fault => exact fun _ _ renamed => ⟨rfl, renamed⟩
  cases renamed with
  | openObject => exact corresponds_openObject .openObject
  | openArray => exact corresponds_openArray .openArray
  | set used value => exact payload value (corresponds_set injective used)
  | append value => exact payload value corresponds_push
  | appendAll values =>
    refine corresponds_next (corresponds_openArray .openArray) (corresponds_forEach ?_)
    rw [List.forall₂_map_right_iff]
    refine List.forall₂_same.2 fun value _ => ?_
    cases value with
    | ok value => exact corresponds_push value
    | error fault => exact fun _ _ renamed => ⟨rfl, renamed⟩
  | @merge value mergeable =>
    cases value with
    | ok value => exact corresponds_merge injective (mergeable value rfl)
    | error fault => exact fun _ _ renamed => ⟨rfl, renamed⟩
  | @extract source other used among same =>
    refine corresponds_forEach (List.forall₂_same.2 fun name member => ?_)
    have set := corresponds_set injective (among name member) ((source name).getD .null)
    have value : (other name).getD .null = ((source name).getD .null).mapKeys format.apply := by
      rw [same name member]
      cases source name <;> rfl
    rwa [← value] at set
  | setNull =>
    intro scope peer renamed
    have whole : Json.Renamed format.apply names .null .null := ⟨rfl, by rintro members ⟨⟩⟩
    exact ⟨rfl, renamed.plain, renamed.formatted, renamed.ignoreNil, .whole whole⟩
  | ignoreNil ignore => exact fun _ _ renamed => ⟨rfl, renamed.plain, renamed.formatted, rfl, renamed.body⟩

end Scope

end Stencil
