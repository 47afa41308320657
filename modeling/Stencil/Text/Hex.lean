/-!
# Hexadecimal digits
-/

namespace Stencil.Text

/-- The value of a hexadecimal digit in either case. -/
def hexValue? (c : Char) : Option Nat :=
  if '0' ≤ c ∧ c ≤ '9' then some (c.toNat - '0'.toNat)
  else if 'a' ≤ c ∧ c ≤ 'f' then some (c.toNat - 'a'.toNat + 10)
  else if 'A' ≤ c ∧ c ≤ 'F' then some (c.toNat - 'A'.toNat + 10)
  else none

/-- The number that digits of a base write behind those of `before`. -/
def numberIn? (base before : Nat) : List Char → Option Nat
  | [] => some before
  | c :: rest =>
    match hexValue? c with
    | some digit => if digit < base then numberIn? base (before * base + digit) rest else none
    | none => none

/-- The number that hexadecimal digits write. -/
def hexNumber? (digits : List Char) : Option Nat := numberIn? 16 0 digits

end Stencil.Text
