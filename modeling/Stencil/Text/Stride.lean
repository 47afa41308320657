/-!
# Character sets as strides

A stride is an arithmetic progression of code points; character properties and case mappings are
lists of strides. `mem_iff` says which code points a stride holds.
-/

namespace Stencil.Text

/-- The code points `first`, `first + step`, … up to `last`. -/
structure Stride where
  first : Nat
  last : Nat
  step : Nat

namespace Stride

def contains (stride : Stride) (point : Nat) : Bool :=
  stride.first ≤ point && point ≤ stride.last && (point - stride.first) % stride.step == 0

theorem mem_iff (stride : Stride) (point : Nat) :
    stride.contains point = true ↔
      stride.first ≤ point ∧ point ≤ stride.last ∧ (point - stride.first) % stride.step = 0 := by
  simp [contains, and_assoc]

end Stride

/-- Whether a code point lies on one of the strides. -/
def inTable (table : List Stride) (c : Char) : Bool := table.any fun stride => stride.contains c.toNat

/-- A case mapping that moves every code point of a stride by the same distance. -/
structure Shift where
  stride : Stride
  distance : Int

/-- The character that a table of shifts maps to, if it has the character. -/
def shifted? (table : List Shift) (c : Char) : Option Char :=
  (table.find? fun shift => shift.stride.contains c.toNat).map fun shift =>
    Char.ofNat ((c.toNat : Int) + shift.distance).toNat

end Stencil.Text
