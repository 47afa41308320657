import Stencil.Text.CaseTable

/-!
# Upper and lower case

Case mappings of single characters and of whole texts. One character may become several. In a text a
capital sigma at the end of a word becomes the final small sigma; on its own it becomes the other one.
Below U+0080 the mappings are those of ASCII (`upper_of_ascii`, `lower_of_ascii`).
-/

namespace Stencil.Text

def isAscii (c : Char) : Bool := c.toNat < 128

def isUppercase (c : Char) : Bool := if isAscii c then c.isUpper else inTable uppercaseTable c

def isLowercase (c : Char) : Bool := if isAscii c then c.isLower else inTable lowercaseTable c

def isCased (c : Char) : Bool := if isAscii c then c.isAlpha else inTable casedTable c

/-- Characters that are skipped when a word's end is looked for. -/
def isCaseIgnorable (c : Char) : Bool :=
  if isAscii c then c = '\'' || c = '.' || c = ':' || c = '^' || c = '\x60'
  else inTable caseIgnorableTable c

def upper (c : Char) : List Char :=
  if isAscii c then [c.toUpper]
  else match upperExpansions.find? fun entry => entry.1 = c.toNat with
    | some (_, points) => points.map Char.ofNat
    | none => [(shifted? upperShifts c).getD c]

/-- The lower-case form of a character that stands alone. -/
def lower (c : Char) : List Char :=
  if isAscii c then [c.toLower]
  else if c = 'İ' then ['i', '\u0307']
  else [(shifted? lowerShifts c).getD c]

def upperText (text : List Char) : List Char := text.flatMap upper

/-- Whether the first character that is not skipped is cased. -/
def meetsCased (text : List Char) : Bool :=
  match text.dropWhile isCaseIgnorable with
  | c :: _ => isCased c
  | [] => false

/-- The lower-case form of `text` after the characters `before`, the nearest one first. -/
def lowerAfter (before : List Char) : List Char → List Char
  | [] => []
  | c :: rest =>
    (if c = 'Σ' then [if meetsCased before && !meetsCased rest then 'ς' else 'σ'] else lower c)
      ++ lowerAfter (c :: before) rest

def lowerText (text : List Char) : List Char := lowerAfter [] text

theorem upper_of_ascii {c : Char} (ascii : isAscii c = true) : upper c = [c.toUpper] := by
  simp [upper, ascii]

theorem lower_of_ascii {c : Char} (ascii : isAscii c = true) : lower c = [c.toLower] := by
  simp [lower, ascii]

end Stencil.Text
