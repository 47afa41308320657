import Stencil.Text.Hex

/-!
# Strings in TOML

A string is written between single or double quotes, one or three of them. `basicBody` and
`multilineBody` find where it ends, and `decode` gives what the text between double quotes stands for;
between single quotes every character stands for itself. `writeString` chooses the quotes so that a text
needs no escapes if that can be.
-/

namespace Stencil.Toml

abbrev Reader (α : Type) := List Char → Option (α × List Char)

def isBlank (c : Char) : Bool := c = ' ' || c = '\t'

/-- The characters that may stand unescaped in one line. -/
def isTextChar (c : Char) : Bool := c = '\t' || (32 ≤ c.toNat && c.toNat ≠ 127)

def isKeyChar (c : Char) : Bool := c.isAlphanum || c = '_' || c = '-'

/-! ### Escapes -/

/-- The character that a one-letter escape stands for. -/
def escaped? (c : Char) : Option Char :=
  if c = '"' ∨ c = '\\' then some c
  else if c = 'b' then some '\x08'
  else if c = 't' then some '\t'
  else if c = 'n' then some '\n'
  else if c = 'f' then some '\x0c'
  else if c = 'r' then some '\r'
  else if c = 'e' then some '\x1b'
  else none

/-- The character whose number hexadecimal digits write. -/
def charOf? (digits : List Char) : Option Char :=
  match Text.hexNumber? digits with
  | some n => if n.isValidChar then some (Char.ofNat n) else none
  | none => none

/-- Whether nothing but blanks stands before the end of the line. -/
def endsLine (text : List Char) : Bool :=
  match text.dropWhile isBlank with
  | '\n' :: _ => true
  | '\r' :: '\n' :: _ => true
  | _ => false

/--
What the body of a string between double quotes stands for. A backslash at the end of a line takes away
that end and all blanks and line ends after it; `trimming` says that one has been read just now.
-/
def decode (multiline trimming : Bool) : List Char → Option (List Char)
  | [] => some []
  | '\\' :: 'x' :: a :: b :: rest => do
    return (← charOf? [a, b]) :: (← decode multiline false rest)
  | '\\' :: 'u' :: a :: b :: c :: d :: rest => do
    return (← charOf? [a, b, c, d]) :: (← decode multiline false rest)
  | '\\' :: 'U' :: a :: b :: c :: d :: e :: f :: g :: h :: rest => do
    return (← charOf? [a, b, c, d, e, f, g, h]) :: (← decode multiline false rest)
  | '\\' :: e :: rest =>
    match escaped? e with
    | some c => do return c :: (← decode multiline false rest)
    | none => if multiline && endsLine (e :: rest) then decode multiline true rest else none
  | '\r' :: '\n' :: rest =>
    if !multiline then none
    else if trimming then decode multiline true rest
    else do return '\r' :: '\n' :: (← decode multiline false rest)
  | c :: rest =>
    if trimming && (isBlank c || c = '\n') then decode multiline true rest
    else if c ≠ '\\' ∧ (isTextChar c ∨ (multiline ∧ c = '\n')) then do
      return c :: (← decode multiline false rest)
    else none

/-- Whether a text may stand between triple single quotes. -/
def isLiteralLines : List Char → Bool
  | [] => true
  | '\r' :: '\n' :: rest => isLiteralLines rest
  | c :: rest => (isTextChar c || c = '\n') && isLiteralLines rest

/-! ### Bodies -/

/-- A text without a line end at its head. -/
def dropLineEnd : List Char → List Char
  | '\n' :: rest => rest
  | '\r' :: '\n' :: rest => rest
  | text => text

/-- What stands before the double quote that closes a string, and the text after it. -/
def basicBody : Reader (List Char)
  | [] => none
  | '\\' :: c :: rest => do
    let (body, rest) ← basicBody rest
    return ('\\' :: c :: body, rest)
  | c :: rest =>
    if c = '"' then some ([], rest)
    else do
      let (body, rest) ← basicBody rest
      return (c :: body, rest)

/--
What stands before the three quotes that close a string, and the text after them. One or two more quotes
after these belong to the string.
-/
def multilineBody (quote : Char) (escapes : Bool) : Reader (List Char)
  | [] => none
  | c :: rest =>
    if [quote, quote, quote].isPrefixOf (c :: rest) then
      let extra := ((rest.drop 2).take 2).takeWhile (· = quote)
      some (extra, rest.drop (2 + extra.length))
    else if escapes && c = '\\' then
      match rest with
      | [] => none
      | e :: rest => do
        let (body, rest) ← multilineBody quote escapes rest
        return (c :: e :: body, rest)
    else do
      let (body, rest) ← multilineBody quote escapes rest
      return (c :: body, rest)

/-- The rest of a string after a double quote. -/
def readBasic : Reader String := fun text => do
  let (body, rest) ← basicBody text
  return (String.ofList (← decode false false body), rest)

/-- The rest of a string after a single quote. -/
def readLiteral : Reader String := fun text =>
  match text.dropWhile fun c => isTextChar c && c ≠ '\x27' with
  | '\x27' :: rest =>
    some (String.ofList (text.takeWhile fun c => isTextChar c && c ≠ '\x27'), rest)
  | _ => none

/-- The rest of a string after three double quotes. -/
def readBasicLines : Reader String := fun text => do
  let (body, rest) ← multilineBody '"' true text
  return (String.ofList (← decode true false (dropLineEnd body)), rest)

/-- The rest of a string after three single quotes. -/
def readLiteralLines : Reader String := fun text => do
  let (body, rest) ← multilineBody '\x27' false text
  if isLiteralLines body then return (String.ofList (dropLineEnd body), rest) else none

/-! ### Writing -/

/-- The escape of a character, if it may not stand for itself; quotes are not looked at. -/
def escape? (multiline : Bool) (c : Char) : Option (List Char) :=
  if c = '\x08' then some ['\\', 'b']
  else if c = '\t' then some ['\\', 't']
  else if c = '\n' then if multiline then none else some ['\\', 'n']
  else if c = '\x0c' then some ['\\', 'f']
  else if c = '\r' then some ['\\', 'r']
  else if c = '\\' then some ['\\', '\\']
  else if c.toNat < 32 ∨ c.toNat = 127 then
    some ['\\', 'u', '0', '0', (Nat.digitChar (c.toNat / 16)).toUpper,
      (Nat.digitChar (c.toNat % 16)).toUpper]
  else none

/--
The body of a string between double quotes. Of quotes in a row two may stand for themselves if the string
stands between triple quotes; `quotes` tells how many of them come just before.
-/
def encode (multiline : Bool) (quotes : Nat) : List Char → List Char
  | [] => []
  | c :: rest =>
    if c = '"' then
      if multiline ∧ quotes < 2 then c :: encode multiline (quotes + 1) rest
      else '\\' :: c :: encode multiline 0 rest
    else
      match escape? multiline c with
      | some escape => escape ++ encode multiline 0 rest
      | none => c :: encode multiline 0 rest

/-- Whether a character needs an escape of its own wherever it stands. -/
def isControl (c : Char) : Bool :=
  (c.toNat < 32 && c ≠ '\t' && c ≠ '\n') || c.toNat = 127

/-- The most quotes of a kind in a row; `run` of them come just before. -/
def longestRun (quote : Char) (run : Nat) : List Char → Nat
  | [] => run
  | c :: rest =>
    if c = quote then longestRun quote (run + 1) rest else max run (longestRun quote 0 rest)

/-- How a string is set off. -/
inductive Quoting where
  | basic
  | literal
  | basicLines
  | literalLines
  deriving DecidableEq

/--
The first of the four ways that writes a text without escapes, tabs aside. If there is none, the text
goes between double quotes, three of them if it has several lines.
-/
def Quoting.ofText (text : List Char) : Quoting :=
  let plain := !text.any isControl
  let slashed := text.contains '\\'
  let lines := text.contains '\n'
  let double := longestRun '"' 0 text
  let single := longestRun '\x27' 0 text
  if plain ∧ !slashed ∧ double = 0 ∧ !lines then .basic
  else if plain ∧ single = 0 ∧ !lines then .literal
  else if plain ∧ !slashed ∧ double ≤ 2 then .basicLines
  else if plain ∧ single ≤ 2 then .literalLines
  else if lines then .basicLines
  else .basic

/-- The line end after triple quotes, which stands where the text itself has one. -/
def openingLine (text : List Char) : List Char := if text.contains '\n' then ['\n'] else []

/-- A text as a string set off in a given way. -/
def Quoting.write (text : List Char) : Quoting → List Char
  | .basic => '"' :: encode false 0 text ++ ['"']
  | .literal => '\x27' :: text ++ ['\x27']
  | .basicLines => ['"', '"', '"'] ++ openingLine text ++ encode true 0 text ++ ['"', '"', '"']
  | .literalLines =>
    ['\x27', '\x27', '\x27'] ++ openingLine text ++ text ++ ['\x27', '\x27', '\x27']

def writeString (text : String) : List Char :=
  (Quoting.ofText text.toList).write text.toList

end Stencil.Toml
