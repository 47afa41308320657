import Stencil.Cache.Namer
import Stencil.Cache.Store
import Stencil.Key.Format

/-!
# Events of a render

What a render leaves behind besides its document: log entries, the calls of the store with their
answers, the questions to the namer, the uses of a collection's keys and the notes of templates.
-/

namespace Stencil

inductive Level where
  | debug
  | warn
  deriving DecidableEq

inductive LogEntry where
  | keyFormatSet (format : KeyFormat) (depth : Nat)
  | renderingTemplate (name : String)
  | renderingPartial (name : String) (depth : Nat)
  | noCollection (name : String)
  | legacyNaming
  | fragmentHit (key : String)
  | fragmentMiss (key : String)
  | fragmentBypassed (key : String)
  | conditionFalse (key : String)
  | collectionBypassed (count : Nat)
  | singleCalls (count : Nat)
  | batchRead (present total : Nat)
  | batchWrite (count : Nat)
  | batchReadFailed (count : Nat) (error : Cache.StoreError)
  | readFailed (key : String) (error : Cache.StoreError)
  | writeFailed (key : String) (error : Cache.StoreError)
  | undecodable (key : String) (fault : Json.Fault)

namespace LogEntry

/-- Failures of the store and of decoding are warnings. -/
def level : LogEntry → Level
  | .batchReadFailed .. | .readFailed .. | .writeFailed .. | .undecodable .. => .warn
  | _ => .debug

def message : LogEntry → String
  | .keyFormatSet format depth =>
    "Key format set to " ++ format.text ++ " at depth " ++ toString depth
  | .renderingTemplate name => "Rendering template '" ++ name ++ "' as document"
  | .renderingPartial name depth =>
    "Rendering partial '" ++ name ++ "' at depth " ++ toString depth
  | .noCollection name => "Partial '" ++ name ++ "' given no collection, rendering []"
  | .legacyNaming => "Fragment namer has no current capability, used legacy digest naming"
  | .fragmentHit key => "Fragment '" ++ key ++ "': HIT"
  | .fragmentMiss key => "Fragment '" ++ key ++ "': MISS"
  | .fragmentBypassed key => "Fragment '" ++ key ++ "': BYPASSED"
  | .conditionFalse key => "Fragment '" ++ key ++ "': BYPASSED (condition false)"
  | .collectionBypassed count => "Collection of " ++ toString count ++ " elements: BYPASSED"
  | .singleCalls count =>
    "Cache store has no multi-key access, caching " ++ toString count ++ " elements one by one"
  | .batchRead present total =>
    "Batched cache read: " ++ toString present ++ " of " ++ toString total ++ " keys present"
  | .batchWrite count => "Batched cache write of " ++ toString count ++ " fragments"
  | .batchReadFailed count error =>
    "Batched cache read of " ++ toString count ++ " keys failed, rebuilding all: " ++ error.message
  | .readFailed key error => "Cache read of '" ++ key ++ "' failed, rebuilding: " ++ error.message
  | .writeFailed key error => "Failed to write fragment '" ++ key ++ "': " ++ error.message
  | .undecodable key fault =>
    "Discarding undecodable fragment '" ++ key ++ "': "
      ++ (RenderError.conversion fault).message

end LogEntry

inductive Event where
  | log (entry : LogEntry)
  | read (key : String) (answer : Except Cache.StoreError (Option String))
  | write (key fragment : String) (lifetime : Option Nat) (answer : Except Cache.StoreError Unit)
  | readBatch (keys : List String) (answer : Except Cache.StoreError (Entries String))
  | writeBatch (fragments : List (String × String)) (lifetime : Option Nat)
      (failed : List (String × Cache.StoreError))
  | askedCurrent (key : Cache.KeyExpr) (options : Cache.Options)
  | askedLegacy (key : Cache.KeyExpr)
  | keyUsed (index : Nat)
  | note (content : Json)

end Stencil
