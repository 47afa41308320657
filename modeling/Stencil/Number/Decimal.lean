import Stencil.Number.Binary64

/-!
# Decimal text of doubles

Reading: a decimal's digits are collected into a 64-bit significand, which is then scaled by a power
of ten with one rounding (`ofDecimal`). Writing: `shortest` gives the fewest significant digits that
lie in the interval of reals which round to the double, and `text` lays them out, in plain notation
where the decimal exponent is between -5 and 15 and in scientific notation elsewhere.
-/

namespace Stencil.Number

/--
Appends decimal digits to a significand as long as it stays below `2 ^ 64`; the digits from the
first that does not fit are left over.
-/
def absorbDigits (significand : Nat) : List Nat → Nat × List Nat
  | [] => (significand, [])
  | digit :: rest =>
    if significand * 10 + digit < 0x10000000000000000 then absorbDigits (significand * 10 + digit) rest
    else (significand, digit :: rest)

/--
The significand and exponent of `whole.part`: a digit of the whole that does not fit counts as a
zero, and digits of the part are dropped from the first that does not fit.
-/
def decimalParts (whole part : List Nat) : Nat × Int :=
  let (significand, left) := absorbDigits 0 whole
  let (significand, dropped) := absorbDigits significand part
  (significand, (left.length : Int) - ((part.length - dropped.length : Nat) : Int))

namespace Binary64

/-- Divides by `10 ^ n`, at most `10 ^ 308` at a time. -/
def lower (x : Binary64) (n : Nat) : Binary64 :=
  if n ≤ 308 then (div? x (powerOfTen n)).getD x
  else if x.isZero then x
  else lower ((div? x (powerOfTen 308)).getD x) (n - 308)
termination_by n

/-- `significand * 10 ^ exponent`, or `none` beyond the largest double. -/
def ofDecimal (significand : Nat) (exponent : Int) : Option Binary64 := do
  let x ← ofNat? significand
  if exponent < 0 then some (x.lower exponent.natAbs)
  else if exponent ≤ 308 then mul? x (powerOfTen exponent.toNat)
  else if x.isZero then some x
  else none

/-- The decimal exponent of `num / den`: the greatest `e` with `10 ^ e ≤ num / den`. -/
def decimalExponent (num den : Nat) : Int :=
  if den ≤ num then ((Nat.toDigits 10 (num / den)).length : Int) - 1
  else -(below 1 400)
where
  /-- The least `n` from `n` on with `den ≤ num * 10 ^ n`. -/
  below (n : Nat) : Nat → Int
    | 0 => n
    | fuel + 1 => if den ≤ num * Nat.pow 10 n then n else below (n + 1) fuel

/--
The decimal numbers on the grid `10 ^ step` next to `num / den` that lie within `[low, high] / den`
(the ends included only if `closed`), the nearer one first chosen; of two at one distance the even one.
-/
def onGrid (num low high den : Nat) (closed : Bool) (step : Int) : Option Nat :=
  let scale (x : Nat) : Nat := if step < 0 then x * Nat.pow 10 step.natAbs else x
  let unit := if step < 0 then den else den * Nat.pow 10 step.toNat
  let down := scale num / unit
  let inside (d : Nat) : Bool :=
    if closed then decide (scale low ≤ d * unit ∧ d * unit ≤ scale high)
    else decide (scale low < d * unit ∧ d * unit < scale high)
  let toDown := scale num - down * unit
  let toUp := (down + 1) * unit - scale num
  match decide (0 < down) && inside down, inside (down + 1) with
  | true, false => some down
  | false, true => some (down + 1)
  | true, true =>
    if toDown < toUp ∨ (toDown = toUp ∧ down % 2 = 0) then some down else some (down + 1)
  | false, false => none

/--
The first of the grids of `count`, `count + 1`, … digits that has a number inside the interval, as the
number and the grid's exponent.
-/
def firstGrid (num low high den : Nat) (closed : Bool) (exponent : Int) (count : Nat) :
    Nat → Nat × Int
  | 0 => (num / den, 0)
  | fuel + 1 =>
    let step := exponent + 1 - (count : Int)
    match onGrid num low high den closed step with
    | some digits => (digits, step)
    | none => firstGrid num low high den closed exponent (count + 1) fuel

/-- The fewest digits `d` and the exponent `e` such that `d * 10 ^ e` reads back as the magnitude. -/
def shortest (x : Binary64) : Nat × Int :=
  let unit := Nat.pow 2 x.exponent
  let num := 4 * x.significand * unit
  let low := num - (if x.fraction = 0 ∧ 1 < x.biasedExponent then 1 else 2) * unit
  let den := 4 * unitsPerOne
  firstGrid num low (num + 2 * unit) den (x.significand % 2 == 0) (decimalExponent num den) 1 17

def significantDigits (n : Nat) : List Char :=
  ((Nat.toDigits 10 n).reverse.dropWhile (· == '0')).reverse

/-- Lays out digits whose first has the weight `10 ^ exponent`. -/
def layOut (digits : List Char) (exponent : Int) : List Char :=
  if exponent < -5 ∨ 15 < exponent then
    let sign := if exponent < 0 then '-' else '+'
    let fractional := match digits with
      | first :: second :: rest => first :: '.' :: second :: rest
      | few => few
    fractional ++ 'e' :: sign :: Nat.toDigits 10 exponent.natAbs
  else if exponent < 0 then
    '0' :: '.' :: List.replicate (exponent.natAbs - 1) '0' ++ digits
  else
    let whole := exponent.toNat + 1
    if digits.length ≤ whole then
      digits ++ List.replicate (whole - digits.length) '0' ++ ['.', '0']
    else digits.take whole ++ '.' :: digits.drop whole

def text (x : Binary64) : List Char :=
  let sign := if x.isNegative then ['-'] else []
  if x.isZero then sign ++ ['0', '.', '0']
  else
    let (number, step) := x.shortest
    let all := Nat.toDigits 10 number
    sign ++ layOut (significantDigits number) (step + (all.length : Int) - 1)

end Binary64

end Stencil.Number
