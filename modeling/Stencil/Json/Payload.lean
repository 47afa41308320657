import Stencil.Json.Reader

/-!
# Values on their way into JSON

A template hands over values of its host that may have no JSON form. A `Payload` is the outcome of
converting one.
-/

namespace Stencil.Json

inductive Fault where
  | unreadable (cause : ReadError)
  | keyNotText
  | numberTooLarge
  | wrongType
  deriving DecidableEq

def Fault.message : Fault → String
  | .unreadable cause => cause.message
  | .keyNotText => "key must be a string"
  | .numberTooLarge => "number out of range"
  | .wrongType => "invalid type"

/-- The JSON form of a host value, if it has one. -/
abbrev Payload := Except Fault Json

def ofText (text : String) : Payload :=
  match parse text with
  | .ok value => .ok value
  | .error cause => .error (.unreadable cause)

end Stencil.Json
