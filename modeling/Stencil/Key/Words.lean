import Stencil.Text.Case

/-!
# Words in keys

A key names its words by underscores (`snake_case`) or by capitals (`camelCase`). `camelize` goes from
the first to the second and `underscore` back; both keep what is no word boundary.
-/

namespace Stencil.Key

open Stencil.Text

inductive InitialCase where
  | upper
  | lower
  deriving DecidableEq

/-- The parts of a key between its underscores. -/
def segments : List Char → List (List Char)
  | [] => [[]]
  | c :: rest =>
    if c = '_' then [] :: segments rest
    else match segments rest with
      | first :: others => (c :: first) :: others
      | [] => [[c]]

/-- A segment with an upper-case letter first and the rest in lower case. -/
def capitalize : List Char → List Char
  | [] => []
  | c :: rest => upper c ++ lowerText rest

/-- The first segment, which keeps all but its first character as it is written. -/
def initialSegment (initial : InitialCase) : List Char → List Char
  | [] => []
  | c :: rest => (match initial with | .upper => upper c | .lower => lower c) ++ rest

/-- `snake_case` to `SnakeCase` or `snakeCase`. -/
def camelize (initial : InitialCase) (key : List Char) : List Char :=
  match segments key with
  | first :: later => initialSegment initial first ++ later.flatMap capitalize
  | [] => []

/--
Whether a capital starts a word: after a small letter or a digit, or as the last of several capitals
before a small letter.
-/
def startsWord (before : Option Char) (rest : List Char) : Bool :=
  match before with
  | none => false
  | some previous =>
    isLowercase previous || previous.isDigit
      || (isUppercase previous && rest.head?.any isLowercase)

/-- `underscore` of what follows a character of the key. -/
def underscoreAfter (before : Option Char) : List Char → List Char
  | [] => []
  | c :: rest =>
    if c = '-' then '_' :: underscoreAfter (some c) rest
    else (if isUppercase c && startsWord before rest then ['_'] else []) ++ lower c
      ++ underscoreAfter (some c) rest

/-- `CamelCase`, `camelCase` or `dashed-key` to `snake_case`; several capitals are one word. -/
def underscore (key : List Char) : List Char := underscoreAfter none key

def dasherize (key : List Char) : List Char := key.map fun c => if c = '_' then '-' else c

end Stencil.Key
