import Stencil.Cache.Key
import Stencil.Text.Sha256

/-!
# Naming fragments

A namer may decorate the key of a fragment, typically with a digest of the template it is in. It offers
a current capability, a legacy one, or neither; the current one is asked first. `storeKey` puts the
namespace before the named key and the version after it and expands the whole.
-/

namespace Stencil.Cache

/-- Options of one cache call; the lifetime is in seconds. -/
structure Options where
  skipDigest : Bool := false
  version : Option String := none
  lifetime : Option Nat := none
  deriving DecidableEq

/-- What turns the key of a call into the name of a fragment. -/
structure Namer where
  current : KeyExpr → Options → Option KeyExpr
  legacy : KeyExpr → Option KeyExpr

/-- The capability that named a fragment. -/
inductive Capability where
  | current
  | legacy
  | none
  deriving DecidableEq

namespace Namer

def plain : Namer := ⟨fun _ _ => none, fun _ => none⟩

/-- The named key, and the capability that named it. -/
def name (namer : Namer) (key : KeyExpr) (options : Options) : KeyExpr × Capability :=
  match namer.current key options with
  | some named => (named, .current)
  | none => match namer.legacy key with
    | some named => (named, .legacy)
    | none => (key, .none)

/-- The parts of a store key: namespace, named key and version, of which the first may be empty. -/
def keyParts (space : String) (named : KeyExpr) (options : Options) : List KeyExpr :=
  (if space.isEmpty then [] else [.text space]) ++ named :: (options.version.map .text).toList

def storeKey (namer : Namer) (space : String) (key : KeyExpr) (options : Options) : String :=
  (KeyExpr.list (keyParts space (namer.name key options).1 options)).expand

end Namer

/-- A template's name and the digest of its source. -/
structure TemplateDigest where
  template : String
  digest : String
  deriving DecidableEq

namespace TemplateDigest

def digits : Nat := 32

def ofSource (template source : String) : TemplateDigest :=
  ⟨template, String.ofList ((Text.Sha256.hex source).take digits)⟩

/-- A key with the template's name and digest before it. -/
def decorate (template : TemplateDigest) (key : KeyExpr) : KeyExpr :=
  .list [.text template.template, .text template.digest, key]

/-- The namer with the current capability, which leaves the digest out if the options say so. -/
def namer (template : TemplateDigest) : Namer where
  current key options := some (if options.skipDigest then key else template.decorate key)
  legacy _ := none

/-- The namer with the legacy capability, which always puts the digest in. -/
def legacyNamer (template : TemplateDigest) : Namer where
  current _ _ := none
  legacy key := some (template.decorate key)

theorem length_digest (template source : String) :
    (ofSource template source).digest.length = digits := by
  simp [ofSource, digits, Text.Sha256.length_hex]

end TemplateDigest

end Stencil.Cache
