import Stencil.Text.Hex
import Stencil.Toml.Basic

/-!
# Numbers, dates and times in TOML

`scalar?` tells what a run of characters without quotes and brackets stands for. Dates and times are
those of the calendar. A number may lie beyond the integers of 128 bits and beyond the doubles; then it
may be written, but it has no value.
-/

namespace Stencil.Toml

/-! ### Digits -/

def splitSign : List Char → Bool × List Char
  | '-' :: rest => (true, rest)
  | '+' :: rest => (false, rest)
  | text => (false, text)

/--
A text without its underscores, each of which has a digit behind it and a digit before it; `after` says
that one may come next.
-/
def dropUnderscores? (isDigit : Char → Bool) (after : Bool) : List Char → Option (List Char)
  | [] => some []
  | '_' :: c :: rest =>
    if after && isDigit c then dropUnderscores? isDigit true (c :: rest) else none
  | c :: rest =>
    if c = '_' then none
    else do return c :: (← dropUnderscores? isDigit (isDigit c) rest)

/-- A number without its underscores; a sign is not a digit, so none stands behind it. -/
def joinDigits? (isDigit : Char → Bool) : List Char → Option (List Char) :=
  dropUnderscores? isDigit false

/-- Whether a decimal number starts with a zero that is not all of it. -/
def hasLeadingZero : List Char → Bool
  | '0' :: _ :: _ => true
  | _ => false

/-! ### Integers -/

/-- The value of an integer, if 128 bits hold it with or without sign. -/
def Value.ofInteger (text : List Char) : Option Int → Value
  | some n => if -Int.pow 2 127 ≤ n ∧ n < Int.pow 2 128 then .integer n else .badNumber text
  | none => .badNumber text

/-- The integer that a sign and digits write. -/
def signedNumber? (text : List Char) : Option Int :=
  let (negative, digits) := splitSign text
  if digits ≠ [] ∧ digits.all Char.isDigit then
    let size : Int := Nat.ofDigitChars 10 digits 0
    some (if negative then -size else size)
  else none

/--
An integer in decimal. The digits beside an underscore may be hexadecimal, but then the number has no
value.
-/
def decimal? (text : List Char) : Option Value := do
  let joined ← joinDigits? (fun c => (Text.hexValue? c).isSome) text
  return .ofInteger text (signedNumber? joined)

/-- An integer in another base, its digits behind the letter that stands for the base. -/
def inBase? (base : Nat) (text digits : List Char) : Option Value := do
  let joined ← joinDigits? (fun c => (Text.hexValue? c).isSome) digits
  let number ← Text.numberIn? base 0 joined
  return .ofInteger text (if joined = [] then none else some number)

/-! ### Floats -/

/-- The least number that doubles round to infinity. -/
def doubleBound : Nat := Nat.pow 2 1024 - Nat.pow 2 970

/-- Whether a double comes near `significand * 10 ^ exponent`. -/
def inDoubleRange (significand : Nat) (exponent : Int) : Bool :=
  let size := (Nat.toDigits 10 significand).length + exponent
  if significand = 0 ∨ size < 300 then true
  else if 400 < size then false
  else if exponent < 0 then significand < doubleBound * Nat.pow 10 (-exponent).toNat
  else significand * Nat.pow 10 exponent.toNat < doubleBound

/-- The digits behind a decimal point, none without one. -/
def fraction? : List Char → Option (List Char × List Char)
  | '.' :: rest =>
    if rest.takeWhile Char.isDigit = [] then none
    else some (rest.takeWhile Char.isDigit, rest.dropWhile Char.isDigit)
  | text => some ([], text)

/-- The exponent at the end of a float, zero without one. -/
def exponent? : List Char → Option Int
  | [] => some 0
  | c :: rest => if c = 'e' ∨ c = 'E' then signedNumber? rest else none

/-- A float with a fraction or an exponent. -/
def float? (text : List Char) : Option Value := do
  let joined ← joinDigits? Char.isDigit text
  let unsigned := (splitSign joined).2
  let whole := unsigned.takeWhile Char.isDigit
  if whole = [] ∨ hasLeadingZero whole then none
  else
    let (part, rest) ← fraction? (unsigned.dropWhile Char.isDigit)
    let exponent ← exponent? rest
    let significand := Nat.ofDigitChars 10 (whole ++ part) 0
    return if inDoubleRange significand (exponent - part.length) then .other text
      else .badNumber text

/-! ### Dates and times -/

/-- The number that two digits write, if it is at most `limit`. -/
def twoDigits? (limit : Nat) (a b : Char) : Option Nat :=
  match Text.numberIn? 10 0 [a, b] with
  | some n => if n ≤ limit then some n else none
  | none => none

def daysIn (year month : Nat) : Nat :=
  if month = 2 then
    if year % 4 = 0 ∧ (year % 100 ≠ 0 ∨ year % 400 = 0) then 29 else 28
  else if month = 4 ∨ month = 6 ∨ month = 9 ∨ month = 11 then 30
  else 31

def dropDate? : List Char → Option (List Char)
  | y :: e :: a :: r :: '-' :: m :: o :: '-' :: d :: s :: rest => do
    let century ← twoDigits? 99 y e
    let year ← twoDigits? 99 a r
    let month ← twoDigits? 12 m o
    let day ← twoDigits? (daysIn (century * 100 + year) month) d s
    if month = 0 ∨ day = 0 then none else some rest
  | _ => none

/-- The text after the fraction of a second, if there is one. -/
def dropFraction? : List Char → Option (List Char)
  | '.' :: c :: rest => if c.isDigit then some (rest.dropWhile Char.isDigit) else none
  | '.' :: [] => none
  | text => some text

/-- The text after a time of day; the seconds may be missing. -/
def dropTime? : List Char → Option (List Char)
  | h :: o :: ':' :: m :: i :: ':' :: s :: e :: rest => do
    let _ ← twoDigits? 23 h o
    let _ ← twoDigits? 59 m i
    let _ ← twoDigits? 60 s e
    dropFraction? rest
  | h :: o :: ':' :: m :: i :: rest => do
    let _ ← twoDigits? 23 h o
    let _ ← twoDigits? 59 m i
    some rest
  | _ => none

/-- Whether a text is that of an offset from universal time, or empty. -/
def isOffset : List Char → Bool
  | [] => true
  | [c] => c = 'Z' || c = 'z'
  | [sign, h, o, ':', m, i] =>
    (sign = '+' || sign = '-') && (twoDigits? 23 h o).isSome && (twoDigits? 59 m i).isSome
  | _ => false

/-- Whether a text is that of a date, a time or both. -/
def isMoment (text : List Char) : Bool :=
  match dropDate? text with
  | some [] => true
  | some (c :: rest) =>
    (c = 'T' || c = 't' || c = ' ') &&
      match dropTime? rest with
      | some rest => isOffset rest
      | none => false
  | none => dropTime? text = some []

/-! ### Scalars -/

/-- The number, date or time whose unsigned part is `unsigned`; a sign alone is none of them. -/
def number? (text unsigned : List Char) : Option Value :=
  match unsigned.dropWhile Char.isDigit with
  | [] => if unsigned = [] ∨ hasLeadingZero unsigned then none else decimal? text
  | c :: rest =>
    if c = '-' ∨ c = ':' then if isMoment text then some (.other text) else none
    else if (c :: rest).any fun c => c = '.' || c = 'e' || c = 'E' then float? text
    else if c = '_' ∧ !hasLeadingZero unsigned then decimal? text
    else none

/-- The value that a text without quotes and brackets stands for. -/
def scalar? (text : List Char) : Option Value :=
  if text = ['t', 'r', 'u', 'e'] then some (.flag true)
  else if text = ['f', 'a', 'l', 's', 'e'] then some (.flag false)
  else
    match (splitSign text).2 with
    | ['i', 'n', 'f'] => some (.other text)
    | ['n', 'a', 'n'] => some (.other text)
    | unsigned =>
      match text with
      | '0' :: 'x' :: digits => inBase? 16 text digits
      | '0' :: 'o' :: digits => inBase? 8 text digits
      | '0' :: 'b' :: digits => inBase? 2 text digits
      | _ => number? text unsigned

/-- The characters that no structure of a document is made of. -/
def isScalarChar (c : Char) : Bool :=
  c ≠ '=' && c ≠ ',' && c ≠ '[' && c ≠ ']' && c ≠ '\x7b' && c ≠ '\x7d' && c ≠ '#' && c ≠ ' '
    && c ≠ '\t' && c ≠ '\n' && c ≠ '\r'

/--
The run of characters that a scalar is read from, and the text after it. A time may stand one space
behind its date.
-/
def splitScalar (text : List Char) : List Char × List Char :=
  let run := text.takeWhile isScalarChar
  let rest := text.dropWhile isScalarChar
  match dropDate? run, rest with
  | some [], ' ' :: c :: more =>
    if c.isDigit then
      (run ++ ' ' :: (c :: more).takeWhile isScalarChar, (c :: more).dropWhile isScalarChar)
    else (run, rest)
  | _, _ => (run, rest)

end Stencil.Toml
