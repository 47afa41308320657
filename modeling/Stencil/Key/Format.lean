import Stencil.Error
import Stencil.Key.Words
import Stencil.Text.Similar

/-!
# Key formats

A key format renames attributes on their way into the document: a chain of transforms, each named by a
strategy, applied from left to right. The empty chain leaves keys alone (`apply_identity`), and the
identity transform adds nothing to a chain (`andThen_identity`).
-/

namespace Stencil

inductive KeyTransform where
  | identity
  | upcase
  | downcase
  | camelize (initial : Key.InitialCase)
  | underscore
  | dasherize
  deriving DecidableEq

namespace KeyTransform

/-- The names of the strategies, as they are looked for. -/
def strategyNames : List String :=
  ["identity", "upcase", "downcase", "camelize", "underscore", "dasherize"]

def name : KeyTransform → String
  | .identity => "identity"
  | .upcase => "upcase"
  | .downcase => "downcase"
  | .camelize _ => "camelize"
  | .underscore => "underscore"
  | .dasherize => "dasherize"

/-- The initial case that the arguments of `camelize` ask for, the last one deciding. -/
def initialCase (initial : Key.InitialCase) : List String → Except RenderError Key.InitialCase
  | [] => .ok initial
  | "lower" :: rest => initialCase .lower rest
  | "upper" :: rest => initialCase .upper rest
  | argument :: _ => .error (.badArgument "camelize" argument)

def withoutArguments (transform : KeyTransform) : List String → Except RenderError KeyTransform
  | [] => .ok transform
  | argument :: _ => .error (.badArgument transform.name argument)

/-- The transform of a strategy with its arguments. -/
def parse (strategy : String) (arguments : List String) : Except RenderError KeyTransform :=
  match strategy with
  | "identity" => withoutArguments .identity arguments
  | "upcase" => withoutArguments .upcase arguments
  | "downcase" => withoutArguments .downcase arguments
  | "underscore" => withoutArguments .underscore arguments
  | "dasherize" => withoutArguments .dasherize arguments
  | "camelize" => (initialCase .upper arguments).map .camelize
  | _ => .error (.unknownStrategy strategy (Text.similar strategy strategyNames))

/-- The key in its new form, as characters. -/
def applyChars : KeyTransform → List Char → List Char
  | .identity, key => key
  | .upcase, key => Text.upperText key
  | .downcase, key => Text.lowerText key
  | .camelize initial, key => Key.camelize initial key
  | .underscore, key => Key.underscore key
  | .dasherize, key => Key.dasherize key

def apply (transform : KeyTransform) (key : String) : String :=
  String.ofList (transform.applyChars key.toList)

end KeyTransform

/-- A chain of transforms, applied in order. -/
structure KeyFormat where
  transforms : List KeyTransform
  deriving DecidableEq

namespace KeyFormat

def identity : KeyFormat := ⟨[]⟩

/-- A format followed by one more transform; the identity is left out. -/
def andThen (format : KeyFormat) (transform : KeyTransform) : KeyFormat :=
  if transform = .identity then format else ⟨format.transforms ++ [transform]⟩

/-- The format of one strategy. -/
def parse (strategy : String) (arguments : List String) : Except RenderError KeyFormat :=
  (KeyTransform.parse strategy arguments).map identity.andThen

/-- The format of several strategies, applied in order. -/
def parseChain (steps : List (String × List String)) : Except RenderError KeyFormat :=
  steps.foldlM (fun format step => (KeyTransform.parse step.1 step.2).map format.andThen) identity

def apply (format : KeyFormat) (key : String) : String :=
  format.transforms.foldl (fun key transform => transform.apply key) key

def isIdentity (format : KeyFormat) : Bool := format.transforms.isEmpty

/-- The strategies in order, as messages name them. -/
def text (format : KeyFormat) : String :=
  if format.isIdentity then "identity"
  else " + ".intercalate (format.transforms.map KeyTransform.name)

theorem apply_identity (key : String) : identity.apply key = key := rfl

theorem andThen_identity (format : KeyFormat) : format.andThen .identity = format := rfl

theorem apply_andThen (format : KeyFormat) (transform : KeyTransform) (key : String) :
    (format.andThen transform).apply key = transform.apply (format.apply key) := by
  by_cases same : transform = .identity
  · subst same
    simp [andThen, KeyTransform.apply, KeyTransform.applyChars]
  · simp [andThen, same, apply]

end KeyFormat

end Stencil
