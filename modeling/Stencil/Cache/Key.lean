import Stencil.Json.Payload

/-!
# Cache keys

The expression that names a fragment, and its flat form. Parts are joined by `/` and empty parts
vanish; an object becomes `key=value` pairs in the order of the pairs, joined by `&`.
-/

namespace Stencil.Cache

/-- The expression under which a fragment is kept. -/
inductive KeyExpr where
  | text (content : String)
  | structured (value : Json)
  | list (parts : List KeyExpr)
  deriving Inhabited

/-- Texts with a separator between them. -/
def join (separator : Char) : List (List Char) → List Char
  | [] => []
  | [part] => part
  | part :: rest => part ++ separator :: join separator rest

def keySeparator : Char := '/'

/-- The parts that are not empty, joined. -/
def joinParts (parts : List (List Char)) : List Char :=
  join keySeparator (parts.filter fun part => !part.isEmpty)

/-- Texts in ascending order of their characters. -/
def sortTexts (texts : List (List Char)) : List (List Char) :=
  texts.mergeSort fun a b => !b.lex a

mutual

/-- The flat form of a JSON value. -/
def expandValue : Json → List Char
  | .null => []
  | .bool true => ['t', 'r', 'u', 'e']
  | .bool false => ['f', 'a', 'l', 's', 'e']
  | .num value => value.chars
  | .str content => content.toList
  | .arr items => joinParts (expandItems items)
  | .obj members => join '&' (sortTexts (expandMembers members))

def expandItems : List Json → List (List Char)
  | [] => []
  | item :: rest => expandValue item :: expandItems rest

/-- The `key=value` pairs of an object. -/
def expandMembers : List (String × Json) → List (List Char)
  | [] => []
  | (key, value) :: rest => (key.toList ++ '=' :: expandValue value) :: expandMembers rest

end

namespace KeyExpr

mutual

def chars : KeyExpr → List Char
  | .text content => content.toList
  | .structured value => expandValue value
  | .list parts => joinParts (charsOfParts parts)

def charsOfParts : List KeyExpr → List (List Char)
  | [] => []
  | part :: rest => part.chars :: charsOfParts rest

end

def expand (key : KeyExpr) : String := String.ofList key.chars

/-- The key of a record that knows its identity and, perhaps, its version. -/
def record (identity : String) : Option String → KeyExpr
  | some version => .text (identity ++ "-" ++ version)
  | none => .text identity

/-- The key of a host value, if it has a JSON form. -/
def ofPayload : Json.Payload → Except Json.Fault KeyExpr := Except.map .structured

end KeyExpr

end Stencil.Cache
