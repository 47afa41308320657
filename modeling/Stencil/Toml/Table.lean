import Stencil.Config.Setting
import Stencil.Toml.Basic

/-!
# What a TOML document means

The pairs of a document build a tree of tables, and `Document.setting?` gives what that tree says. No
name is bound twice in a table. A header may open a table that only the paths of other headers brought
about; a path with several names before an equality sign may go on only through tables that such paths
brought about; and what is written as a value stays as it is.
-/

namespace Stencil.Toml

open Config (Setting)

/-- How a table came about. -/
inductive Origin where
  /-- A header opened it, or it is the outermost one. -/
  | opened
  /-- It is on the way to what a header opened. -/
  | implied
  /-- It is on the way to a pair. -/
  | dotted
  deriving DecidableEq

/-- What a name of a table is bound to. -/
inductive Node where
  | value (setting : Setting)
  | table (origin : Origin) (fields : List (String × Node))
  /-- An array of tables that headers have opened, the last one first. -/
  | tables (items : List (List (String × Node)))

/-- The names of a table and what they are bound to. -/
abbrev Table := List (String × Node)

namespace Table

/--
Changes the table that a path leads to. Tables that are missing on the way come about with the origin
`made`; `change` is told the origin of the table it changes.
-/
def modify (made : Origin) (change : Origin → Table → Option Table) :
    List String → Origin → Table → Option Table
  | [], origin, table => change origin table
  | name :: rest, _, table =>
    match Entries.get? name table with
    | none => do
      return Entries.insert name (.table made (← modify made change rest made [])) table
    | some (.table origin inner) =>
      if made = .dotted ∧ origin = .opened then none
      else do return Entries.insert name (.table origin (← modify made change rest origin inner)) table
    | some (.tables (last :: before)) => do
      return Entries.insert name (.tables ((← modify made change rest .opened last) :: before)) table
    | some _ => none

/-- Binds a name that is not bound yet. -/
def bind? (name : String) (node : Node) (table : Table) : Option Table :=
  if (Entries.get? name table).isSome then none else some (table ++ [(name, node)])

/-- Adds a pair to the table that its section has opened. -/
def assign (table : Table) (pair : Path × Setting) : Option Table :=
  let (path, setting) := pair
  match path.outer with
  | [] => table.bind? path.name (.value setting)
  | outer =>
    modify .dotted
      (fun origin inner => if origin = .dotted then inner.bind? path.name (.value setting) else none)
      outer .opened table

def assignAll : Table → List (Path × Setting) → Option Table
  | table, [] => some table
  | table, pair :: rest => do (← table.assign pair).assignAll rest

/-- Adds a section to the outermost table. -/
def enter (table : Table) (header : Header) (pairs : List (Path × Setting)) : Option Table :=
  match header with
  | .table path =>
    modify .implied
      (fun _ outer =>
        match Entries.get? path.name outer with
        | none => do return Entries.insert path.name (.table .opened (← assignAll [] pairs)) outer
        | some (.table .implied inner) => do
          return Entries.insert path.name (.table .opened (← assignAll inner pairs)) outer
        | some _ => none)
      path.outer .opened table
  | .element path =>
    modify .implied
      (fun _ outer =>
        match Entries.get? path.name outer with
        | none => do return Entries.insert path.name (.tables [← assignAll [] pairs]) outer
        | some (.tables items) => do
          return Entries.insert path.name (.tables ((← assignAll [] pairs) :: items)) outer
        | some _ => none)
      path.outer .opened table

end Table

/-! ### The meaning of nodes and values -/

mutual

/-- What a node says. -/
def Node.setting : Node → Setting
  | .value setting => setting
  | .table _ fields => .table (fieldSettings fields)
  | .tables items => .list (tableSettings items).reverse

def fieldSettings : List (String × Node) → List (String × Setting)
  | [] => []
  | (name, node) :: rest => (name, node.setting) :: fieldSettings rest

def tableSettings : List (List (String × Node)) → List Setting
  | [] => []
  | fields :: rest => .table (fieldSettings fields) :: tableSettings rest

end

mutual

/-- What a value says; an inline table is a table of its own. -/
def Value.setting? : Value → Option Setting
  | .flag value => some (.flag value)
  | .integer value => some (.number value)
  | .text value => some (.text value)
  | .other _ => some .other
  | .badNumber _ => some .unreadable
  | .array items => do return .list (← itemSettings? items)
  | .inline pairs => do
    return .table (fieldSettings (← Table.assignAll [] (← pairSettings? pairs)))

def itemSettings? : List Value → Option (List Setting)
  | [] => some []
  | item :: rest => do return (← item.setting?) :: (← itemSettings? rest)

def pairSettings? : List (Path × Value) → Option (List (Path × Setting))
  | [] => some []
  | (path, value) :: rest => do return (path, ← value.setting?) :: (← pairSettings? rest)

end

def Table.enterAll : Table → List Section → Option Table
  | table, [] => some table
  | table, opened :: rest => do
    (← table.enter opened.header (← pairSettings? opened.pairs)).enterAll rest

/-- What a document says, if no name is bound twice. -/
def Document.setting? (document : Document) : Option Setting := do
  let outermost ← Table.assignAll [] (← pairSettings? document.pairs)
  return .table (fieldSettings (← outermost.enterAll document.sections))

end Stencil.Toml
