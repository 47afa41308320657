/-!
# Shapes

The shape that a scope is committed to, and how messages name it.
-/

namespace Stencil

/-- What a scope holds: nothing yet, attributes, elements, or one value put in whole. -/
inductive Shape where
  | undetermined
  | object
  | array
  | value
  deriving DecidableEq

/-- The shape as messages name it. -/
def Shape.text : Shape → String
  | .undetermined => "undetermined"
  | .object => "an object"
  | .array => "an array"
  | .value => "a value"

end Stencil
