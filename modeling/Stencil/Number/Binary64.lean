/-!
# Doubles

A double is its 64 bits. Its magnitude is counted in units of `2 ^ -1074`, the smallest positive
double, so that every finite magnitude is a natural number and an operation is exact arithmetic
followed by one rounding: `ofUnits` is the double nearest to a fraction of units, a tie going to the
even significand.
-/

namespace Stencil.Number

/-- A double by its bits: a sign, eleven bits of exponent, fifty-two of fraction. -/
structure Binary64 where
  bits : UInt64
  deriving DecidableEq

namespace Binary64

def zero : Binary64 := ⟨0⟩

def isNegative (x : Binary64) : Bool := 0x8000000000000000 ≤ x.bits.toNat

def fraction (x : Binary64) : Nat := x.bits.toNat % Nat.pow 2 52

def biasedExponent (x : Binary64) : Nat := x.bits.toNat / Nat.pow 2 52 % Nat.pow 2 11

/-- The magnitude is `significand * 2 ^ exponent` units. -/
def significand (x : Binary64) : Nat :=
  if x.biasedExponent = 0 then x.fraction else x.fraction + Nat.pow 2 52

def exponent (x : Binary64) : Nat := x.biasedExponent - 1

/-- The magnitude in units of `2 ^ -1074`. -/
def units (x : Binary64) : Nat := x.significand * Nat.pow 2 x.exponent

/-- The number of units in one. -/
def unitsPerOne : Nat := Nat.pow 2 1074

def isZero (x : Binary64) : Bool := x.units == 0

def negate (x : Binary64) : Binary64 := ⟨x.bits ^^^ ((1 : UInt64) <<< 63)⟩

/-- The natural number nearest to `num / den`, a tie going to the even one. -/
def roundHalfEven (num den : Nat) : Nat :=
  let whole := num / den
  let twice := 2 * (num % den)
  if twice < den ∨ (twice = den ∧ whole % 2 = 0) then whole else whole + 1

/--
The non-negative double nearest to `num / den` units, or `none` beyond the largest one. With a
significand of 53 bits and a step of `2 ^ shift` units the bits are `shift * 2 ^ 52 + significand`,
also for subnormal numbers and when rounding carries into the next power of two.
-/
def ofUnits (num den : Nat) : Option Binary64 :=
  let shift := (num / den).log2 - 52
  let bits := shift * Nat.pow 2 52 + roundHalfEven num (den * Nat.pow 2 shift)
  if bits < 2047 * Nat.pow 2 52 then some ⟨UInt64.ofNat bits⟩ else none

def ofNat? (n : Nat) : Option Binary64 := ofUnits (n * unitsPerOne) 1

def mul? (x y : Binary64) : Option Binary64 := ofUnits (x.units * y.units) unitsPerOne

def div? (x y : Binary64) : Option Binary64 := ofUnits (x.units * unitsPerOne) y.units

def powerOfTen (n : Nat) : Binary64 := (ofNat? (Nat.pow 10 n)).getD zero

end Binary64

end Stencil.Number
