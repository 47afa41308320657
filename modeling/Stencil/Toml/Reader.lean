import Stencil.Toml.Quoted
import Stencil.Toml.Scalar

/-!
# Reading TOML

`parse?` accepts a text whose lines are pairs, headers, blank or comments. Within an array or an inline
table lines may end before and after every item and around the equality sign of a pair, and the last
item may have a comma behind it.
-/

namespace Stencil.Toml

def skipBlanks (text : List Char) : List Char := text.dropWhile isBlank

/-- The text after blanks, line ends and comments. -/
def skipFiller (comment : Bool) : List Char → List Char
  | [] => []
  | '\n' :: rest => skipFiller false rest
  | '\r' :: '\n' :: rest => skipFiller false rest
  | c :: rest =>
    if comment then if isTextChar c then skipFiller true rest else c :: rest
    else if isBlank c then skipFiller false rest
    else if c = '#' then skipFiller true rest
    else c :: rest

/-! ### Keys -/

def readName : Reader String
  | '"' :: rest => readBasic rest
  | '\x27' :: rest => readLiteral rest
  | text =>
    match text.takeWhile isKeyChar with
    | [] => none
    | name => some (String.ofList name, text.dropWhile isKeyChar)

/-- The most names that a path may have. -/
def maxNames : Nat := 80

/-- A path of at most as many names, with the blanks after it. -/
def readPath : Nat → Reader Path
  | 0, _ => none
  | names + 1, text => do
    let (name, rest) ← readName text
    match skipBlanks rest with
    | '.' :: rest => do
      let (path, rest) ← readPath names (skipBlanks rest)
      return (⟨name :: path.outer, path.name⟩, rest)
    | rest => return (⟨[], name⟩, rest)

/-! ### Values -/

/--
The items after an opening bracket, up to the closing one; `fuel` bounds their number.
-/
def readItems {α : Type} (item : Reader α) (closing : Char) : Nat → Reader (List α)
  | 0, _ => none
  | fuel + 1, text =>
    match skipFiller false text with
    | [] => none
    | c :: rest =>
      if c = closing then some ([], rest)
      else do
        let (first, rest) ← item (c :: rest)
        match skipFiller false rest with
        | [] => none
        | c :: rest =>
          if c = closing then return ([first], rest)
          else if c = ',' then do
            let (items, rest) ← readItems item closing fuel rest
            return (first :: items, rest)
          else none

/-- A path, an equality sign and what `value` reads behind it; `skip` drops what may stand between. -/
def readPair (skip : List Char → List Char) (value : Reader Value) : Reader Pair := fun text => do
  let (path, rest) ← readPath maxNames text
  match skip rest with
  | '=' :: rest => do
    let (value, rest) ← value (skip rest)
    return ((path, value), rest)
  | _ => none

/-- A string after its first quote, which is double. -/
def readDouble : Reader String
  | '"' :: '"' :: rest => readBasicLines rest
  | text => readBasic text

/-- A string after its first quote, which is single. -/
def readSingle : Reader String
  | '\x27' :: '\x27' :: rest => readLiteralLines rest
  | text => readLiteral text

/-- A value; `nested` reads the values inside of it, and is absent where none may stand. -/
def readStep (fuel : Nat) (nested : Option (Reader Value)) : Reader Value
  | '"' :: rest => do
    let (text, rest) ← readDouble rest
    return (.text text, rest)
  | '\x27' :: rest => do
    let (text, rest) ← readSingle rest
    return (.text text, rest)
  | '[' :: rest => do
    let (items, rest) ← readItems (← nested) ']' fuel rest
    return (.array items, rest)
  | '\x7b' :: rest => do
    let (pairs, rest) ← readItems (readPair (skipFiller false) (← nested)) '\x7d' fuel rest
    return (.inline pairs, rest)
  | text => do
    return (← scalar? (splitScalar text).1, (splitScalar text).2)

/-- The most arrays and inline tables that may be nested. -/
def maxDepth : Nat := 80

/-- A value in which at most `depth` arrays and inline tables are nested. -/
def readValue (fuel : Nat) : Nat → Reader Value
  | 0 => readStep fuel none
  | depth + 1 => readStep fuel (some (readValue fuel depth))

/-! ### Lines -/

def readHeader : Reader Header
  | '[' :: rest => do
    match ← readPath maxNames (skipBlanks rest) with
    | (path, ']' :: ']' :: rest) => return (.element path, rest)
    | _ => none
  | text => do
    match ← readPath maxNames (skipBlanks text) with
    | (path, ']' :: rest) => return (.table path, rest)
    | _ => none

/-- The text after a comment, if one starts it. -/
def skipComment : List Char → List Char
  | '#' :: rest => rest.dropWhile isTextChar
  | text => text

/-- What `lines` reads after the end of a line; before that end a comment may stand. -/
def readLineEnd (lines : List Char → Option (List Line)) (text : List Char) : Option (List Line) :=
  match skipComment (skipBlanks text) with
  | [] => some []
  | '\n' :: rest => lines rest
  | '\r' :: '\n' :: rest => lines rest
  | _ => none

/-- Whether a line says nothing, its blanks aside. -/
def isSilent (text : List Char) : Bool :=
  match text with
  | [] => true
  | c :: _ => c = '\n' || c = '\r' || c = '#'

/-- The lines of a text; `fuel` bounds their number. -/
def readLines (value : Reader Value) : Nat → List Char → Option (List Line)
  | 0, _ => none
  | fuel + 1, text =>
    match skipBlanks text with
    | '[' :: rest => do
      let (header, rest) ← readHeader rest
      return .header header :: (← readLineEnd (readLines value fuel) rest)
    | rest =>
      if isSilent rest then readLineEnd (readLines value fuel) rest
      else do
        let (pair, rest) ← readPair skipBlanks value rest
        return .pair pair :: (← readLineEnd (readLines value fuel) rest)

/-- A text without a byte order mark. -/
def dropMark : List Char → List Char
  | '\uFEFF' :: text => text
  | text => text

def parseChars? (text : List Char) : Option Document := do
  let fuel := text.length + 1
  return .ofLines (← readLines (readValue fuel maxDepth) fuel text)

def parse? (text : String) : Option Document := parseChars? (dropMark text.toList)

end Stencil.Toml
