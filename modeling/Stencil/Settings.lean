import Stencil.Key.Format
import Stencil.Text.Blank

/-!
# Settings

What all renders of a renderer share: whether fragments are cached, the namespace and default lifetime
of cached fragments, how nulls are handled and the default key format. `validate` refuses a namespace
that could not be told from the rest of a cache key and strategies that do not exist.
-/

namespace Stencil

/-- A strategy of the default key format, with its arguments. -/
structure StrategyStep where
  strategy : String
  arguments : List String := []
  deriving DecidableEq

/-- The namespace of cached fragments unless another one is set. -/
def defaultNamespace : String := "jstreamer"

/-- Settings of a renderer; the lifetime is in seconds. -/
structure Settings where
  performCaching : Bool := true
  cacheNamespace : String := defaultNamespace
  ignoreNil : Bool := false
  keyFormat : List StrategyStep := []
  defaultLifetime : Option Nat := none
  deriving DecidableEq

namespace Settings

def resolvedFormat (settings : Settings) : Except RenderError KeyFormat :=
  KeyFormat.parseChain (settings.keyFormat.map fun step => (step.strategy, step.arguments))

/-- What is wrong with a namespace, if anything. -/
def namespaceFault? (name : String) : Option NamespaceFault :=
  let chars := name.toList
  if chars.head? = some '/' || chars.getLast? = some '/' then some .surroundingSeparator
  else if chars.any Text.isBlank then some .whitespace
  else none

/-- Whether a renderer can use the settings. -/
def validate (settings : Settings) : Except RenderError Unit :=
  match namespaceFault? settings.cacheNamespace with
  | some fault => .error (.badNamespace settings.cacheNamespace fault)
  | none => settings.resolvedFormat.map fun _ => ()

end Settings

end Stencil
