/-!
# TOML values and how tables come together

A TOML document is one table.  Its lines add to it: a pair sets one entry, a header `[a.b]` names
the table that the pairs below it go to, and a header `[[a.b]]` adds a table to a list of tables.
What a later line may still add depends on how a table came to be, so every table carries its
`Form`.

Floats and moments keep the spelling they have in the document.
-/

namespace ProxyGate.Toml

/-- How a table came to be. -/
inductive Form where
  /-- Written in braces as one value, and so complete. -/
  | closed
  /-- Named by a header of its own. -/
  | header
  /-- Named only on the way to another table, by a header. -/
  | implied
  /-- Named on the way to an entry, by a dotted key. -/
  | dotted
deriving DecidableEq, Repr

/-- A TOML value. -/
inductive Value where
  | text (value : String)
  | integer (value : Int)
  | float (spelling : String)
  | bool (value : Bool)
  | moment (spelling : String)
  | list (items : List Value)
  /-- The tables of a list that headers wrote one by one; there is always a last one. -/
  | tables (earlier : List (List (String × Value))) (last : List (String × Value))
  | table (form : Form) (entries : List (String × Value))
deriving Repr

/-- The entries of a table, each key once, in the order in which they came. -/
abbrev Table := List (String × Value)

namespace Table

/-- The value of a key. -/
def get? (table : Table) (key : String) : Option Value :=
  table.lookup key

/-- The table with a value for a key, in place of the old one or at the end. -/
def set : Table → String → Value → Table
  | [], key, value => [(key, value)]
  | (name, old) :: rest, key, value =>
    if name = key then (key, value) :: rest else (name, old) :: set rest key value

/-- Sets the entry that a dotted key names.  The key must be new, and on the way to it there may
only be tables that dotted keys made; tables that headers implied may be passed but not added to. -/
def put? (value : Value) : List String → Table → Option Table
  | [], _ => none
  | [key], table => if (table.get? key).isNone then some (table.set key value) else none
  | key :: next :: rest, table =>
    match table.get? key with
    | none => (put? value (next :: rest) []).map fun inner => table.set key (.table .dotted inner)
    | some (.table .dotted inner) =>
      (put? value (next :: rest) inner).map fun inner => table.set key (.table .dotted inner)
    | some (.table .implied inner) =>
      if rest = [] then none
      else (put? value (next :: rest) inner).map fun inner => table.set key (.table .implied inner)
    | some (.tables earlier last) =>
      if rest = [] then none
      else (put? value (next :: rest) last).map fun last => table.set key (.tables earlier last)
    | some _ => none

/-- Changes the table that a header's path leads to.  Tables missing on the way are implied, and a
list of tables leads to its last one. -/
def change? (change : Table → Option Table) : List String → Table → Option Table
  | [], table => change table
  | key :: path, table =>
    match table.get? key with
    | none => (change? change path []).map fun inner => table.set key (.table .implied inner)
    | some (.table .closed _) => none
    | some (.table form inner) =>
      (change? change path inner).map fun inner => table.set key (.table form inner)
    | some (.tables earlier last) =>
      (change? change path last).map fun last => table.set key (.tables earlier last)
    | some _ => none

/-- Gives a key a table with a header of its own, which it must not have yet. -/
def openTable? (key : String) (table : Table) : Option Table :=
  match table.get? key with
  | none => some (table.set key (.table .header []))
  | some (.table .implied inner) => some (table.set key (.table .header inner))
  | some _ => none

/-- Adds an empty table to the list of tables at a key. -/
def openItem? (key : String) (table : Table) : Option Table :=
  match table.get? key with
  | none => some (table.set key (.tables [] []))
  | some (.tables earlier last) => some (table.set key (.tables (earlier ++ [last]) []))
  | some _ => none

end Table

/-- What a line of a document says. -/
inductive Line where
  | blank
  | pair (key : List String) (value : Value)
  | table (path : List String)
  | item (path : List String)
deriving Repr

/-- A document as far as it has been read. -/
structure Draft where
  root : Table := []
  /-- The path of the table that pairs go to. -/
  place : List String := []

namespace Draft

/-- Goes to the table that a header names, after opening it. -/
def enter? (openKey : String → Table → Option Table) (path : List String) (draft : Draft) :
    Option Draft := do
  let key ← path.getLast?
  return ⟨← draft.root.change? (openKey key) path.dropLast, path⟩

/-- Takes in one line. -/
def add? (draft : Draft) : Line → Option Draft
  | .blank => some draft
  | .pair key value => do
    return { draft with root := ← draft.root.change? (Table.put? value key) draft.place }
  | .table path => draft.enter? Table.openTable? path
  | .item path => draft.enter? Table.openItem? path

end Draft

/-- The table that lines come to. -/
def Table.ofLines? (lines : List Line) : Option Table :=
  (lines.foldlM Draft.add? {}).map (·.root)

/-- The table that pairs come to. -/
def Table.ofPairs? (pairs : List (List String × Value)) : Option Table :=
  pairs.foldlM (fun table (key, value) => Table.put? value key table) []

end ProxyGate.Toml
