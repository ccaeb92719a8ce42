import TaintTracking.Data.Basic

/-!
The tables that a TOML document builds up. A table that a header or a value has defined is closed;
one that only stands on the way to another is implicit and may still be extended, by headers or by
dotted keys, but not by both.
-/

namespace TaintTracking.Toml

mutual

inductive Node where
  | value (data : Data)
  | table (table : Table)
  | tables (earlier : List Table) (current : Table)

inductive Table where
  | mk (implicit dotted : Bool) (entries : List (String × Node))

end

mutual

def Node.toData : Node → Data
  | .value data => data
  | .table table => table.toData
  | .tables earlier current => .list (tablesData earlier ++ [current.toData])

def Table.toData : Table → Data
  | .mk _ _ entries => .record (entriesData entries)

def tablesData : List Table → List Data
  | [] => []
  | table :: tables => table.toData :: tablesData tables

def entriesData : List (String × Node) → List (Option String × Data)
  | [] => []
  | (key, node) :: entries => (some key, node.toData) :: entriesData entries

end

namespace Table

def isImplicit : Table → Bool
  | .mk implicit _ _ => implicit

def isDotted : Table → Bool
  | .mk _ dotted _ => dotted

def entries : Table → List (String × Node)
  | .mk _ _ entries => entries

/-- A table that a header or a value defines. -/
def empty : Table := .mk false false []

def find? (table : Table) (key : String) : Option Node := table.entries.lookup key

def put (table : Table) (key : String) (node : Node) : Table :=
  let entries := table.entries
  let entries :=
    if (entries.lookup key).isSome then
      entries.map fun (name, old) => if name = key then (name, node) else (name, old)
    else entries ++ [(key, node)]
  .mk table.isImplicit table.isDotted entries

/-- Changes the table at the end of a path, with implicit tables for the parts that are missing.
An array of tables stands for its last one. -/
def update (dotted : Bool) (change : Table → Option Table) : List String → Table → Option Table
  | [], table => change table
  | key :: path, table =>
    match table.find? key with
    | none => do return table.put key (.table (← update dotted change path (.mk true dotted [])))
    | some (.value _) => none
    | some (.table child) =>
      if dotted && !child.isImplicit then none
      else do return table.put key (.table (← update dotted change path child))
    | some (.tables earlier current) => do
      return table.put key (.tables earlier (← update dotted change path current))

/-- Adds a new key to the table that the path leads to. Dotted keys do not extend a table that has
been defined in another way. -/
def addPair (table : Table) (path : List String) (key : String) (value : Data) : Option Table :=
  table.update true (fun target =>
    if target.isDotted = path.isEmpty || (target.find? key).isSome then none
    else some (target.put key (.value value))) path

end Table

/-- A key with its value; the key is the last part of a dotted key. -/
structure Pair where
  path : List String
  key : String
  value : Data

def Pair.ofKeys? (keys : List String) (value : Data) : Option Pair := do
  return { path := keys.dropLast, key := ← keys.getLast?, value }

def Table.addPairs (table : Table) (pairs : List Pair) : Option Table :=
  pairs.foldlM (fun table pair => table.addPair pair.path pair.key pair.value) table

end TaintTracking.Toml
