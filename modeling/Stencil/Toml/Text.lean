import Stencil.Toml.Basic
import Stencil.Toml.Quoted

/-!
# The text of TOML documents

Every pair is a line, a blank line stands before a header, and an array of two or more items has a line
for each of them, with a comma behind it.
-/

namespace Stencil.Toml

def writeName (name : String) : List Char :=
  let chars := name.toList
  if chars ≠ [] ∧ chars.all isKeyChar then chars else '"' :: encode false 0 chars ++ ['"']

def Path.text (path : Path) : List Char :=
  path.outer.flatMap (fun name => writeName name ++ ['.']) ++ writeName path.name

/-- The blanks before an item of an array, beyond those before the array. -/
def indentation : List Char := [' ', ' ', ' ', ' ']

def writeFlag (flag : Bool) : List Char :=
  if flag then ['t', 'r', 'u', 'e'] else ['f', 'a', 'l', 's', 'e']

def writeInteger : Int → List Char
  | .ofNat n => Nat.toDigits 10 n
  | .negSucc n => '-' :: Nat.toDigits 10 (n + 1)

mutual

/-- A value whose lines, the first one aside, start with blanks. -/
def Value.write (blanks : List Char) : Value → List Char
  | .flag flag => writeFlag flag
  | .integer n => writeInteger n
  | .text text => writeString text
  | .other text => text
  | .badNumber text => text
  | .array [] => ['[', ']']
  | .array [item] => '[' :: item.write blanks ++ [']']
  | .array items => '[' :: writeItems (blanks ++ indentation) items ++ '\n' :: blanks ++ [']']
  | .inline [] => ['\x7b', '\x7d']
  | .inline (pair :: rest) =>
    '\x7b' :: ' ' :: writePair blanks pair ++ writePairs blanks rest ++ [' ', '\x7d']

def writeItems (blanks : List Char) : List Value → List Char
  | [] => []
  | item :: rest => '\n' :: blanks ++ item.write blanks ++ ',' :: writeItems blanks rest

def writePair (blanks : List Char) : Path × Value → List Char
  | (path, value) => path.text ++ [' ', '=', ' '] ++ value.write blanks

def writePairs (blanks : List Char) : List (Path × Value) → List Char
  | [] => []
  | pair :: rest => ',' :: ' ' :: writePair blanks pair ++ writePairs blanks rest

end

/-- Pairs, each in lines of its own. -/
def pairLines (pairs : List Pair) : List Char :=
  pairs.flatMap fun pair => writePair [] pair ++ ['\n']

def Header.text : Header → List Char
  | .table path => '[' :: path.text ++ [']']
  | .element path => '[' :: '[' :: path.text ++ [']', ']']

def Section.text (opened : Section) : List Char :=
  opened.header.text ++ '\n' :: pairLines opened.pairs

def Document.text (document : Document) : List Char :=
  let sections := document.sections.map Section.text
  let blocks := if document.pairs.isEmpty then sections else pairLines document.pairs :: sections
  ['\n'].intercalate blocks

end Stencil.Toml
