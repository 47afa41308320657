import Stencil.Settings

/-!
# Settings as documents

Settings are kept in documents of several formats. A `Setting` is what such a document says, whatever
its format, and `settingsOfSetting?` reads settings from it: a field that is missing has its default,
an unknown field is ignored, and a field with another type of value is refused. What cannot be read
at all is refused everywhere but behind the fields of a record that is written as a list.
-/

namespace Stencil.Config

/-- What a document says about a setting. -/
inductive Setting where
  | absent
  | flag (value : Bool)
  | number (value : Int)
  | text (value : String)
  | list (items : List Setting)
  | table (fields : List (String × Setting))
  /-- A value of a type that no setting has. -/
  | other
  /-- What cannot even be read; a document may have it only where nobody looks. -/
  | unreadable

mutual

/-- A JSON value as a setting. -/
def Setting.ofJson : Json → Setting
  | .null => .absent
  | .bool value => .flag value
  | .num (.int value) => .number value
  | .num (.float _) => .other
  | .str value => .text value
  | .arr items => .list (settingsOfItems items)
  | .obj members => .table (settingsOfMembers members)

def settingsOfItems : List Json → List Setting
  | [] => []
  | item :: rest => .ofJson item :: settingsOfItems rest

def settingsOfMembers : List (String × Json) → List (String × Setting)
  | [] => []
  | (key, value) :: rest => (key, .ofJson value) :: settingsOfMembers rest

end

namespace Setting

mutual

def isReadable : Setting → Bool
  | .list items => areReadable items
  | .table fields => fieldsReadable fields
  | .unreadable => false
  | _ => true

def areReadable : List Setting → Bool
  | [] => true
  | item :: rest => item.isReadable && areReadable rest

def fieldsReadable : List (String × Setting) → Bool
  | [] => true
  | (_, setting) :: rest => setting.isReadable && fieldsReadable rest

end

def flag? : Setting → Option Bool
  | .flag value => some value
  | _ => none

def text? : Setting → Option String
  | .text value => some value
  | _ => none

/-- A list all of whose items are read. -/
def list? {α : Type} (read : Setting → Option α) : Setting → Option (List α)
  | .list items => items.mapM read
  | _ => none

/-- A number of seconds, or none where the document says so. -/
def seconds? : Setting → Option (Option Nat)
  | .absent => some none
  | .number value => if 0 ≤ value ∧ value < 0x10000000000000000 then some (some value.toNat) else none
  | _ => none

/--
The fields of a record: by name, or a list of values in the order of the names. A field of another name
is ignored but has to be readable; a list may have items to spare if `surplus` says so.
-/
def fields? (surplus : Bool) (names : List String) : Setting → Option (List (String × Setting))
  | .table fields =>
    if fields.all fun field => names.contains field.1 || field.2.isReadable then some fields else none
  | .list items =>
    if surplus || items.length ≤ names.length then some (names.zip items) else none
  | _ => none

/-- A field that is read if it is there and has a default otherwise. -/
def field? {α : Type} (fields : List (String × Setting)) (name : String)
    (read : Setting → Option α) (default : α) : Option α :=
  match Entries.get? name fields with
  | some setting => read setting
  | none => some default

end Setting

def stepOfSetting? (surplus : Bool) (setting : Setting) : Option StrategyStep := do
  let fields ← setting.fields? surplus ["strategy", "args"]
  let strategy ← (← Entries.get? "strategy" fields).text?
  let arguments ← Setting.field? fields "args" (Setting.list? Setting.text?) []
  return ⟨strategy, arguments⟩

def settingNames : List String :=
  ["perform_caching", "cache_namespace", "ignore_nil", "key_format", "default_expires_in_secs"]

def settingsOfSetting? (surplus : Bool) (setting : Setting) : Option Settings := do
  let fields ← setting.fields? surplus settingNames
  let defaults : Settings := {}
  return {
    performCaching := ← Setting.field? fields "perform_caching" Setting.flag? defaults.performCaching
    cacheNamespace := ← Setting.field? fields "cache_namespace" Setting.text? defaults.cacheNamespace
    ignoreNil := ← Setting.field? fields "ignore_nil" Setting.flag? defaults.ignoreNil
    keyFormat :=
      ← Setting.field? fields "key_format" (Setting.list? (stepOfSetting? surplus)) defaults.keyFormat
    defaultLifetime :=
      ← Setting.field? fields "default_expires_in_secs" Setting.seconds? defaults.defaultLifetime }

/-- The settings that a JSON value says. -/
def settingsOfJson (value : Json) : Except RenderError Settings :=
  match settingsOfSetting? false (.ofJson value) with
  | some settings => .ok settings
  | none => .error (.conversion .wrongType)

end Stencil.Config
