import Stencil.Block
import Stencil.Cache.Store
import Stencil.Text.Quoted

/-!
# Renderers

A renderer bundles settings with what a render needs besides them: where partials come from, where
fragments are kept and how they are named. A renderer made from settings has valid ones (`ofSettings`).
-/

namespace Stencil

/-- What the renders of one application share; `σ` holds the states of the store. -/
structure Renderer (σ : Type) where
  settings : Settings
  /-- The key format of every document's root scope. -/
  keyFormat : KeyFormat
  resolve : String → Except RenderError Template
  store : Option (Cache.Store σ)
  namer : Cache.Namer

namespace Renderer

variable {σ : Type}

def noPartials (name : String) : Except RenderError Template := .error (.partialNotFound name [])

/-- The renderer with default settings, no partials, no store and plain names. -/
def default : Renderer σ := ⟨{}, .identity, noPartials, none, .plain⟩

/-- The renderer with valid settings, no partials, no store and plain names. -/
def ofSettings (settings : Settings) : Except RenderError (Renderer σ) := do
  settings.validate
  let format ← settings.resolvedFormat
  return ⟨settings, format, noPartials, none, .plain⟩

/-- Switches the caching of fragments on or off. -/
def withCaching (enabled : Bool) (renderer : Renderer σ) : Renderer σ :=
  { renderer with settings.performCaching := enabled }

/-- The store, unless caching is switched off. -/
def activeStore (renderer : Renderer σ) : Option (Cache.Store σ) :=
  if renderer.settings.performCaching then renderer.store else none

/-- Whether a cache call asks a store. -/
def cachingEnabled (renderer : Renderer σ) : Bool := renderer.activeStore.isSome

/-- The lifetime of a fragment: the call's own, or the default one. -/
def lifetime (renderer : Renderer σ) (options : Cache.Options) : Option Nat :=
  options.lifetime <|> renderer.settings.defaultLifetime

def storeKey (renderer : Renderer σ) (key : Cache.KeyExpr) (options : Cache.Options) : String :=
  renderer.namer.storeKey renderer.settings.cacheNamespace key options

def describeStep (step : StrategyStep) : String :=
  "KeyFormatStep \x7b strategy: " ++ Text.quoted step.strategy ++ ", args: ["
    ++ ", ".intercalate (step.arguments.map Text.quoted) ++ "] \x7d"

def describeSettings (settings : Settings) : String :=
  let lifetime := match settings.defaultLifetime with
    | some seconds => "Some(" ++ toString seconds ++ ")"
    | none => "None"
  "RenderConfig \x7b perform_caching: " ++ toString settings.performCaching
    ++ ", cache_namespace: " ++ Text.quoted settings.cacheNamespace
    ++ ", ignore_nil: " ++ toString settings.ignoreNil
    ++ ", key_format: [" ++ ", ".intercalate (settings.keyFormat.map describeStep)
    ++ "], default_expires_in_secs: " ++ lifetime ++ " \x7d"

/-- The renderer as it is shown to a developer. -/
def describe (renderer : Renderer σ) : String :=
  "Renderer \x7b config: " ++ describeSettings renderer.settings
    ++ ", default_key_format: " ++ Text.quoted renderer.keyFormat.text
    ++ ", cache: " ++ toString renderer.store.isSome ++ ", .. \x7d"

end Renderer

end Stencil
