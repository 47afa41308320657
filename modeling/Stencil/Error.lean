import Stencil.Json.Payload
import Stencil.Shape

/-!
# Render errors

What can fail while a document is built, by cause. `message` words an error in one line, and
`explanation` adds the names that may have been meant and, for a shape conflict, what to do instead.
-/

namespace Stencil

/-- What was attempted on a scope of another shape. -/
inductive Attempt where
  | openObject
  | openArray
  | setAttribute
  | appendElement
  | mergeObject
  | mergeArray
  | mergeScalar
  deriving DecidableEq

def Attempt.text : Attempt → String
  | .openObject => "open an object"
  | .openArray => "open an array"
  | .setAttribute => "set an attribute"
  | .appendElement => "append an element"
  | .mergeObject => "merge an object"
  | .mergeArray => "merge an array"
  | .mergeScalar => "merge a scalar value"

inductive NamespaceFault where
  | surroundingSeparator
  | whitespace
  deriving DecidableEq

inductive RenderError where
  | shapeConflict (attempt : Attempt) (shape : Shape)
  | unknownStrategy (name : String) (suggestions : List String)
  | badArgument (strategy argument : String)
  | partialNotFound (name : String) (suggestions : List String)
  | missingLocal (name : String)
  | missingPartialName
  | conversion (fault : Json.Fault)
  | badNamespace (name : String) (fault : NamespaceFault)
  | other (message : String)
  deriving DecidableEq

namespace RenderError

def message : RenderError → String
  | .shapeConflict attempt shape =>
    "Cannot " ++ attempt.text ++ " on a scope that is already " ++ shape.text
  | .unknownStrategy name _ => "Unknown key format strategy: '" ++ name ++ "'"
  | .badArgument strategy argument =>
    "Invalid argument '" ++ argument ++ "' for key format strategy '" ++ strategy ++ "'"
  | .partialNotFound name _ => "Partial not found: '" ++ name ++ "'"
  | .missingLocal name => "Local '" ++ name ++ "' is not bound in this partial"
  | .missingPartialName => "No partial name given: pass a name or set \x60partial\x60 in the options"
  | .conversion fault => "JSON serialization failed: " ++ fault.message
  | .badNamespace name .surroundingSeparator =>
    "Configuration error: cache_namespace '" ++ name ++ "' must not start or end with '/'"
  | .badNamespace name .whitespace =>
    "Configuration error: cache_namespace '" ++ name ++ "' must not contain whitespace"
  | .other message => message

/-- Names close to the one that was not found. -/
def suggestions : RenderError → List String
  | .unknownStrategy _ suggestions => suggestions
  | .partialNotFound _ suggestions => suggestions
  | _ => []

/-- What to do about an error, below its message. -/
def advice : RenderError → String
  | .shapeConflict _ shape =>
    "\nSUGGESTION: a scope holds one shape only. This scope is " ++ shape.text
      ++ "; open a child scope to nest a different shape.\n"
  | _ => ""

/-- The message, the suggestions and the advice, over several lines. -/
def explanation (error : RenderError) : String :=
  let meant := error.suggestions.map fun name => "  - " ++ name ++ "\n"
  "ERROR: " ++ error.message ++ "\n"
    ++ (if meant.isEmpty then "" else "\nDid you mean one of these?\n" ++ String.join meant)
    ++ error.advice

end RenderError

end Stencil
