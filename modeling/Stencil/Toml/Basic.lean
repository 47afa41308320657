/-!
# TOML documents

A document as it is written: pairs of a path and a value before the first header, and the sections that
headers open. What the document means, and which documents mean nothing, is the concern of
`Stencil.Toml.Table`.
-/

namespace Stencil.Toml

/-- A dotted key: the names of the tables that lead to the last name. -/
structure Path where
  outer : List String := []
  name : String
  deriving DecidableEq

/-- The value of a pair, as it is written. -/
inductive Value where
  | flag (value : Bool)
  | integer (value : Int)
  | text (value : String)
  /-- A float, a date or a time, by its text. -/
  | other (text : List Char)
  /-- A number without value, since it is too large or its base lacks one of its digits, by its text. -/
  | badNumber (text : List Char)
  | array (items : List Value)
  | inline (pairs : List (Path × Value))
  deriving Inhabited

abbrev Pair := Path × Value

/-- The line that opens a section. -/
inductive Header where
  /-- The table at the path. -/
  | table (path : Path)
  /-- A new element of the array of tables at the path. -/
  | element (path : Path)
  deriving DecidableEq

/-- A header with the pairs below it. -/
structure Section where
  header : Header
  pairs : List Pair

structure Document where
  pairs : List Pair := []
  sections : List Section := []

inductive Line where
  | pair (pair : Pair)
  | header (header : Header)

/-- The document that the lines make up. -/
def Document.ofLines : List Line → Document
  | [] => {}
  | .pair pair :: rest =>
    let document := ofLines rest
    { document with pairs := pair :: document.pairs }
  | .header header :: rest =>
    let document := ofLines rest
    { pairs := [], sections := ⟨header, document.pairs⟩ :: document.sections }

end Stencil.Toml
