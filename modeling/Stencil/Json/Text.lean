import Stencil.Json.Basic
import Stencil.Number.Decimal

/-!
# Text of JSON values

`compact` writes a value without spaces and `pretty` over several lines, indented by two spaces a
level. In a string only the quote, the backslash and the characters below U+0020 are escaped. An
empty container is written in one piece in both layouts. `writeCompact` and `writePretty` put the text
of a value before another text.
-/

namespace Stencil

namespace Number

def integerChars (value : Int) : List Char :=
  if value < 0 then '-' :: Nat.toDigits 10 value.natAbs else Nat.toDigits 10 value.natAbs

def chars : Number → List Char
  | .int value => integerChars value
  | .float value => value.text

end Number

namespace Json

def hexDigit (n : Nat) : Char := Nat.digitChar (n % 16)

/-- A character inside a quoted string. -/
def escapeChar (c : Char) : List Char :=
  if c = '"' then ['\\', '"']
  else if c = '\\' then ['\\', '\\']
  else if c = '\x08' then ['\\', 'b']
  else if c = '\x0c' then ['\\', 'f']
  else if c = '\n' then ['\\', 'n']
  else if c = '\r' then ['\\', 'r']
  else if c = '\t' then ['\\', 't']
  else if c.toNat < 32 then ['\\', 'u', '0', '0', hexDigit (c.toNat / 16), hexDigit c.toNat]
  else [c]

def quoted (text : String) : List Char := '"' :: text.toList.flatMap escapeChar ++ ['"']

mutual

/-- The text of a value without spaces, followed by `rest`. -/
def writeCompact : Json → List Char → List Char
  | .null, rest => 'n' :: 'u' :: 'l' :: 'l' :: rest
  | .bool true, rest => 't' :: 'r' :: 'u' :: 'e' :: rest
  | .bool false, rest => 'f' :: 'a' :: 'l' :: 's' :: 'e' :: rest
  | .num value, rest => value.chars ++ rest
  | .str value, rest => quoted value ++ rest
  | .arr items, rest => '[' :: writeItems items (']' :: rest)
  | .obj members, rest => '{' :: writeMembers members ('}' :: rest)

def writeItems : List Json → List Char → List Char
  | [], rest => rest
  | [item], rest => item.writeCompact rest
  | item :: items, rest => item.writeCompact (',' :: writeItems items rest)

def writeMembers : List (String × Json) → List Char → List Char
  | [], rest => rest
  | [(key, value)], rest => quoted key ++ ':' :: value.writeCompact rest
  | (key, value) :: members, rest =>
    quoted key ++ ':' :: value.writeCompact (',' :: writeMembers members rest)

end

def newline (level : Nat) : List Char := '\n' :: List.replicate (2 * level) ' '

mutual

/-- The text of a value over several lines, its own lines starting at `level`, followed by `rest`. -/
def writePretty (level : Nat) : Json → List Char → List Char
  | .null, rest => 'n' :: 'u' :: 'l' :: 'l' :: rest
  | .bool true, rest => 't' :: 'r' :: 'u' :: 'e' :: rest
  | .bool false, rest => 'f' :: 'a' :: 'l' :: 's' :: 'e' :: rest
  | .num value, rest => value.chars ++ rest
  | .str value, rest => quoted value ++ rest
  | .arr [], rest => '[' :: ']' :: rest
  | .arr (item :: items), rest =>
    '[' :: writePrettyItems (level + 1) (item :: items) (newline level ++ ']' :: rest)
  | .obj [], rest => '{' :: '}' :: rest
  | .obj (member :: members), rest =>
    '{' :: writePrettyMembers (level + 1) (member :: members) (newline level ++ '}' :: rest)

def writePrettyItems (level : Nat) : List Json → List Char → List Char
  | [], rest => rest
  | [item], rest => newline level ++ item.writePretty level rest
  | item :: items, rest =>
    newline level ++ item.writePretty level (',' :: writePrettyItems level items rest)

def writePrettyMembers (level : Nat) : List (String × Json) → List Char → List Char
  | [], rest => rest
  | [(key, value)], rest => newline level ++ quoted key ++ ':' :: ' ' :: value.writePretty level rest
  | (key, value) :: members, rest =>
    newline level ++ quoted key ++ ':' :: ' '
      :: value.writePretty level (',' :: writePrettyMembers level members rest)

end

def compact (value : Json) : String := String.ofList (value.writeCompact [])

def pretty (value : Json) : String := String.ofList (value.writePretty 0 [])

end Json

end Stencil
