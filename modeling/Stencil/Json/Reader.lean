import Stencil.Json.Text
import Stencil.Text.Hex

/-!
# Reading JSON text

`parse` accepts one value between blanks and nothing after it. Reading is recursive in the number of
containers that may still be nested (`maxDepth` at the start) and, within one container, along the
text. A repeated key replaces the value of its first occurrence. An integer that 64 bits do not hold,
a fraction, an exponent and `-0` give doubles.
-/

namespace Stencil.Json

/-- Why a text is not the text of a value. -/
inductive ReadError where
  | endOfText
  | unexpected (c : Char)
  | badNumber
  | numberTooLarge
  | badEscape
  | loneSurrogate
  | controlCharacter
  | tooDeep
  | trailingText
  deriving DecidableEq

def ReadError.message : ReadError → String
  | .endOfText => "the text ends within a value"
  | .unexpected c => "unexpected character " ++ String.ofList [c]
  | .badNumber => "invalid number"
  | .numberTooLarge => "number out of range"
  | .badEscape => "invalid escape"
  | .loneSurrogate => "lone surrogate in an escape"
  | .controlCharacter => "control character in a string"
  | .tooDeep => "recursion limit exceeded"
  | .trailingText => "trailing characters"

/-- A reader of one item: it gives the item and the rest of the text. -/
abbrev Reader (α : Type) := List Char → Except ReadError (α × List Char)

/-- The most containers that may be nested. -/
def maxDepth : Nat := 127

def isBlank (c : Char) : Bool := c = ' ' || c = '\n' || c = '\r' || c = '\t'

def skipBlanks (text : List Char) : List Char := text.dropWhile isBlank

/-- The reader's complaint about what stands at the head of the text. -/
def unexpectedHead : List Char → ReadError
  | [] => .endOfText
  | c :: _ => .unexpected c

/-! ### Numbers -/

def digitValue (c : Char) : Nat := c.toNat - '0'.toNat

/-- The digits after a decimal point, none without one. -/
def readFraction : List Char → Except ReadError (Option (List Char) × List Char)
  | '.' :: rest =>
    if rest.takeWhile Char.isDigit = [] then .error .badNumber
    else .ok (some (rest.takeWhile Char.isDigit), rest.dropWhile Char.isDigit)
  | text => .ok (none, text)

def exponentSign : List Char → Bool × List Char
  | '-' :: rest => (true, rest)
  | '+' :: rest => (false, rest)
  | text => (false, text)

/-- The exponent after an `e`, none without one. -/
def readExponent : List Char → Except ReadError (Option Int × List Char)
  | c :: rest =>
    if c = 'e' ∨ c = 'E' then
      let (negative, rest) := exponentSign rest
      let digits := rest.takeWhile Char.isDigit
      if digits = [] then .error .badNumber
      else
        let size : Int := Nat.ofDigitChars 10 digits 0
        .ok (some (if negative then -size else size), rest.dropWhile Char.isDigit)
    else .ok (none, c :: rest)
  | [] => .ok (none, [])

/-- The double of a decimal number, its digits collected into 64 bits. -/
def readDouble (negative : Bool) (whole part : List Char) (exponent : Int) :
    Except ReadError Number :=
  let (significand, shift) := Number.decimalParts (whole.map digitValue) (part.map digitValue)
  match Number.Binary64.ofDecimal significand (shift + exponent) with
  | some x => .ok (.float (if negative then x.negate else x))
  | none => .error .numberTooLarge

/-- A number without fraction and exponent: an integer if 64 bits hold it and it is not `-0`. -/
def readInteger (negative : Bool) (whole : List Char) : Except ReadError Number :=
  let size := Nat.ofDigitChars 10 whole 0
  if negative then
    if size ≠ 0 ∧ size ≤ 0x8000000000000000 then .ok (.int (-(size : Int))) else readDouble true whole [] 0
  else if size < 0x10000000000000000 then .ok (.int size)
  else readDouble false whole [] 0

/-- The digits of a whole part: a zero alone, or digits that do not start with one. -/
def wholeDigits (text : List Char) : Except ReadError (List Char) :=
  match text.takeWhile Char.isDigit with
  | [] => .error .badNumber
  | '0' :: _ :: _ => .error .badNumber
  | digits => .ok digits

def readUnsigned (negative : Bool) : Reader Number := fun text => do
  let whole ← wholeDigits text
  let (part, rest) ← readFraction (text.dropWhile Char.isDigit)
  let (exponent, rest) ← readExponent rest
  let number ← match part, exponent with
    | none, none => readInteger negative whole
    | part, exponent => readDouble negative whole (part.getD []) (exponent.getD 0)
  return (number, rest)

def readNumber : Reader Number
  | '-' :: rest => readUnsigned true rest
  | text => readUnsigned false text

/-! ### Strings -/

def escaped? (c : Char) : Option Char :=
  if c = '"' ∨ c = '\\' ∨ c = '/' then some c
  else if c = 'b' then some '\x08'
  else if c = 'f' then some '\x0c'
  else if c = 'n' then some '\n'
  else if c = 'r' then some '\r'
  else if c = 't' then some '\t'
  else none

def isHighSurrogate (unit : Nat) : Bool := 0xD800 ≤ unit && unit < 0xDC00

def isLowSurrogate (unit : Nat) : Bool := 0xDC00 ≤ unit && unit < 0xE000

/-- The character that a surrogate pair stands for. -/
def fromSurrogates (high low : Nat) : Char :=
  Char.ofNat (0x10000 + (high - 0xD800) * 0x400 + (low - 0xDC00))

/--
The rest of a string after its opening quote. `pending` is a high surrogate whose other half has to
come next; `done` holds the characters read, the last one first.
-/
def readQuoted (pending : Option Nat) (done : List Char) : Reader String
  | [] => .error .endOfText
  | '\\' :: 'u' :: a :: b :: c :: d :: rest =>
    match Text.hexNumber? [a, b, c, d], pending with
    | none, _ => .error .badEscape
    | some unit, some high =>
      if isLowSurrogate unit then readQuoted none (fromSurrogates high unit :: done) rest
      else .error .loneSurrogate
    | some unit, none =>
      if isHighSurrogate unit then readQuoted (some unit) done rest
      else if isLowSurrogate unit then .error .loneSurrogate
      else readQuoted none (Char.ofNat unit :: done) rest
  | c :: rest =>
    if pending.isSome then .error .loneSurrogate
    else if c = '"' then .ok (String.ofList done.reverse, rest)
    else if c = '\\' then
      match rest with
      | [] => .error .endOfText
      | e :: rest =>
        match escaped? e with
        | some x => readQuoted none (x :: done) rest
        | none => .error .badEscape
    else if c.toNat < 32 then .error .controlCharacter
    else readQuoted none (c :: done) rest

/-! ### Containers -/

/--
The elements of an array whose bracket is open and which is not empty; `done` holds those read, the
last one first, and `fuel` bounds their number.
-/
def readItems (element : Reader Json) (done : List Json) : Nat → Reader (List Json)
  | 0, _ => .error .endOfText
  | fuel + 1, text => do
    let (item, rest) ← element text
    match skipBlanks rest with
    | ',' :: rest => readItems element (item :: done) fuel rest
    | ']' :: rest => .ok ((item :: done).reverse, rest)
    | rest => .error (unexpectedHead rest)

def readKey : Reader String := fun text =>
  match skipBlanks text with
  | '"' :: rest => do
    let (key, rest) ← readQuoted none [] rest
    match skipBlanks rest with
    | ':' :: rest => .ok (key, rest)
    | rest => .error (unexpectedHead rest)
  | rest => .error (unexpectedHead rest)

/-- The members of an object whose brace is open and which is not empty. -/
def readMembers (element : Reader Json) (done : Entries Json) : Nat → Reader (Entries Json)
  | 0, _ => .error .endOfText
  | fuel + 1, text => do
    let (key, rest) ← readKey text
    let (value, rest) ← element rest
    match skipBlanks rest with
    | ',' :: rest => readMembers element (done.insert key value) fuel rest
    | '}' :: rest => .ok (done.insert key value, rest)
    | rest => .error (unexpectedHead rest)

/--
One value after blanks. `nested` reads the elements of a container, and is absent where no container
may stand.
-/
def readStep (fuel : Nat) (nested : Option (Reader Json)) : Reader Json := fun text =>
  match skipBlanks text with
  | 'n' :: 'u' :: 'l' :: 'l' :: rest => .ok (.null, rest)
  | 't' :: 'r' :: 'u' :: 'e' :: rest => .ok (.bool true, rest)
  | 'f' :: 'a' :: 'l' :: 's' :: 'e' :: rest => .ok (.bool false, rest)
  | '"' :: rest => do
    let (value, rest) ← readQuoted none [] rest
    return (.str value, rest)
  | '[' :: rest =>
    match nested, skipBlanks rest with
    | none, _ => .error .tooDeep
    | some _, ']' :: rest => .ok (.arr [], rest)
    | some element, rest => do
      let (items, rest) ← readItems element [] fuel rest
      return (.arr items, rest)
  | '{' :: rest =>
    match nested, skipBlanks rest with
    | none, _ => .error .tooDeep
    | some _, '}' :: rest => .ok (.obj [], rest)
    | some element, rest => do
      let (members, rest) ← readMembers element [] fuel rest
      return (.obj members, rest)
  | c :: rest =>
    if c = '-' ∨ c.isDigit then do
      let (value, rest) ← readNumber (c :: rest)
      return (.num value, rest)
    else .error (.unexpected c)
  | [] => .error .endOfText

/-- One value in which at most `depth` containers are nested. -/
def readValue (fuel : Nat) : Nat → Reader Json
  | 0 => readStep fuel none
  | depth + 1 => readStep fuel (some (readValue fuel depth))

def parseChars (text : List Char) : Except ReadError Json := do
  let (value, rest) ← readValue (text.length + 1) maxDepth text
  if skipBlanks rest = [] then return value else .error .trailingText

def parse (text : String) : Except ReadError Json := parseChars text.toList

end Stencil.Json
