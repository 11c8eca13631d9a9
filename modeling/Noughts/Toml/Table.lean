import Noughts.Json.Node

/-!
# Tables of a configuration

A table is begun in one of three ways: by a header of its own, by being passed through on the way to
another header, or by a dotted key. A header may open a table only once and none that dotted keys
extended, and dotted keys may extend no table that has a header of its own; these rules are kept by
the operations here, which refuse what breaks them.
-/

namespace Noughts.Toml

/-- What a table owes its entries to. -/
inductive Origin where
  /-- Only headers of tables inside it. -/
  | passed
  /-- Dotted keys, perhaps beside headers of tables inside it. -/
  | dotted
  /-- A header of its own. -/
  | header
deriving DecidableEq, Repr

/-- What a key stands for. -/
inductive Item where
  /-- A finished value; lists and tables written in one piece are finished. -/
  | leaf (value : Node)
  | table (origin : Origin) (entries : List (String × Item))
  /-- The tables of a repeated header, newest first. -/
  | tables (list : List (List (String × Item)))

/-- The entries of a table, in the order in which their keys came up. -/
abbrev Entries := List (String × Item)

namespace Entries

/-- The item under a key. -/
def find? (key : String) : Entries → Option Item
  | [] => none
  | (k, item) :: rest => if k = key then some item else find? key rest

/-- Put an item under a key, in the place of the one that is there. -/
def put (key : String) (item : Item) : Entries → Entries
  | [] => [(key, item)]
  | (k, old) :: rest => if k = key then (k, item) :: rest else (k, old) :: put key item rest

/-- Change the table that a path of header keys leads to. Tables that are missing come into being;
of a repeated header the newest table counts. -/
def within (change : Entries → Option Entries) : (path : List String) → Entries → Option Entries
  | [], entries => change entries
  | key :: path, entries =>
    match find? key entries with
    | none => do
      let inner ← within change path []
      some (put key (.table .passed inner) entries)
    | some (.table origin inner) => do
      let inner ← within change path inner
      some (put key (.table origin inner) entries)
    | some (.tables (newest :: older)) => do
      let newest ← within change path newest
      some (put key (.tables (newest :: older)) entries)
    | some (.tables []) | some (.leaf _) => none

/-- Open the table of a header. -/
def openTable (key : String) (entries : Entries) : Option Entries :=
  match find? key entries with
  | none => some (put key (.table .header []) entries)
  | some (.table .passed inner) => some (put key (.table .header inner) entries)
  | some _ => none

/-- Open one more table of a repeated header. -/
def openRepeated (key : String) (entries : Entries) : Option Entries :=
  match find? key entries with
  | none => some (put key (.tables [[]]) entries)
  | some (.tables list) => some (put key (.tables ([] :: list)) entries)
  | some _ => none

/-- Set a value under a dotted key. No table that the key names may have a header of its own, and
all of them count as dotted from then on. A repeated header stands for its newest table, which may
be passed through only. -/
def set (value : Node) : (key : List String) → Entries → Option Entries
  | [], _ => none
  | [last], entries =>
    match find? last entries with
    | none => some (put last (.leaf value) entries)
    | some _ => none
  | key :: path, entries =>
    match find? key entries with
    | none => do
      let inner ← set value path []
      some (put key (.table .dotted inner) entries)
    | some (.table .passed inner) | some (.table .dotted inner) => do
      let inner ← set value path inner
      some (put key (.table .dotted inner) entries)
    | some (.tables (newest :: older)) => do
      if path.length = 1 then none
      else
        let newest ← set value path newest
        some (put key (.tables (newest :: older)) entries)
    | some (.table .header _) | some (.tables []) | some (.leaf _) => none

end Entries

mutual

/-- An item as a value. -/
def Item.toNode : Item → Node
  | .leaf value => value
  | .table _ entries => .record (nodesOf entries) true
  | .tables list => .list (recordsOf list).reverse true

/-- The entries of a table as members. -/
def nodesOf : List (String × Item) → List (Option String × Node)
  | [] => []
  | (key, item) :: rest => (some key, item.toNode) :: nodesOf rest

/-- Several tables as values. -/
def recordsOf : List (List (String × Item)) → List Node
  | [] => []
  | entries :: rest => .record (nodesOf entries) true :: recordsOf rest

end

/-- A table as a value. -/
def Entries.toNode (entries : Entries) : Node := .record (nodesOf entries) true

end Noughts.Toml
