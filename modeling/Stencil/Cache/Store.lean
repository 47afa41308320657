import Stencil.Entries

/-!
# Fragment stores

A store keeps the text of fragments by key. Its calls take the state of the store and give their answer
with the state afterwards. A store may also answer for several keys at once; unless it does better, it
writes several fragments one after the other (`writeEach`).
-/

namespace Stencil.Cache

/-- A failure that a store reports. -/
inductive StoreError where
  | unavailable (reason : String)
  | rejected (key reason : String)
  | other (message : String)
  deriving DecidableEq

def StoreError.message : StoreError → String
  | .unavailable reason => "Cache store unavailable: " ++ reason
  | .rejected key reason => "Cache store rejected key '" ++ key ++ "': " ++ reason
  | .other message => message

structure Batch (σ : Type) where
  /-- The fragments of those keys that the store has. -/
  read : List String → σ → Except StoreError (Entries String) × σ
  /-- Stores what it can, and gives the keys that failed. -/
  write : List (String × String) → Option Nat → σ → List (String × StoreError) × σ

/-- A store with states in `σ`; lifetimes are in seconds. -/
structure Store (σ : Type) where
  read : String → σ → Except StoreError (Option String) × σ
  write : String → String → Option Nat → σ → Except StoreError Unit × σ
  batch : Option (Batch σ)

variable {σ : Type}

/-- Writes fragments one by one; a failure does not stop the others. -/
def writeEach (write : String → String → Option Nat → σ → Except StoreError Unit × σ)
    (lifetime : Option Nat) : List (String × String) → σ → List (String × StoreError) × σ
  | [], state => ([], state)
  | (key, fragment) :: rest, state =>
    match write key fragment lifetime state with
    | (.ok (), state) => writeEach write lifetime rest state
    | (.error error, state) =>
      let (failed, state) := writeEach write lifetime rest state
      ((key, error) :: failed, state)

/-- Which calls of a store fail, and how. -/
structure Faults where
  read : Option StoreError := none
  readBatch : Option StoreError := none
  write : String → Option StoreError := fun _ => none

/-- A store with failures put in front of it; a call that fails does not reach the store. -/
def Store.failing (store : Store σ) (faults : Faults) : Store σ :=
  let write key fragment lifetime state :=
    match faults.write key with
    | some error => (.error error, state)
    | none => store.write key fragment lifetime state
  { read := fun key state =>
      match faults.read with
      | some error => (.error error, state)
      | none => store.read key state
    write := write
    batch := store.batch.map fun batch =>
      { read := fun keys state =>
          match faults.readBatch with
          | some error => (.error error, state)
          | none => batch.read keys state
        write := fun fragments lifetime => writeEach write lifetime fragments } }

end Stencil.Cache
