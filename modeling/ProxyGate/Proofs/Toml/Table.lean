import ProxyGate.Config.Decode

/-!
# Looking up in tables that change

A table is changed at one key: an entry is taken out (`erase`), or the value of a key that is there
is changed (`adjust`).  The lemmas say what is found at that key afterwards, and that every other
key has what it had.  `setItem` changes one table of a list of tables, whichever way the list was
written (`Value.HasItems`); `items?_setItem` says which items it has then.
-/

namespace ProxyGate.Toml

open Config (items?)

/-! ## Entries -/

namespace Table

theorem get?_cons (name : String) (value : Value) (rest : Table) (key : String) :
    get? ((name, value) :: rest) key = if key = name then some value else get? rest key := by
  rw [get?, List.lookup_cons]
  by_cases h : key = name
  · rw [if_pos h, beq_iff_eq.mpr h]
  · rw [if_neg h, beq_eq_false_iff_ne.mpr h]
    rfl

@[simp] theorem get?_set_self (table : Table) (key : String) (value : Value) :
    (table.set key value).get? key = some value := by
  induction table with
  | nil => rw [set, get?_cons, if_pos rfl]
  | cons entry rest ih =>
    rw [set]
    split
    · rw [get?_cons, if_pos rfl]
    · rename_i hname
      rw [get?_cons, if_neg (Ne.symm hname), ih]

theorem get?_set_of_ne {key other : String} (h : other ≠ key) (table : Table) (value : Value) :
    (table.set key value).get? other = table.get? other := by
  induction table with
  | nil => rw [set, get?_cons, if_neg h]
  | cons entry rest ih =>
    rw [set, get?_cons]
    split
    · rename_i hname
      rw [get?_cons, if_neg h, if_neg (hname ▸ h)]
    · rw [get?_cons, ih]

/-- The table without a key. -/
def erase (table : Table) (key : String) : Table :=
  table.filter fun entry => entry.1 ≠ key

theorem erase_cons (name : String) (value : Value) (rest : Table) (key : String) :
    erase ((name, value) :: rest) key =
      if name = key then rest.erase key else (name, value) :: rest.erase key := by
  by_cases h : name = key
  · rw [if_pos h, erase, List.filter_cons_of_neg (by simpa using h)]
    rfl
  · rw [if_neg h, erase, List.filter_cons_of_pos (by simpa using h)]
    rfl

@[simp] theorem get?_erase_self (table : Table) (key : String) :
    (table.erase key).get? key = none := by
  induction table with
  | nil => rfl
  | cons entry rest ih =>
    rw [erase_cons]
    split
    · exact ih
    · rename_i hname
      rw [get?_cons, if_neg (Ne.symm hname), ih]

theorem get?_erase_of_ne {key other : String} (h : other ≠ key) (table : Table) :
    (table.erase key).get? other = table.get? other := by
  induction table with
  | nil => rfl
  | cons entry rest ih =>
    rw [erase_cons, get?_cons]
    split
    · rename_i hname
      rw [if_neg (hname ▸ h), ih]
    · rw [get?_cons, ih]

/-- The table with the value of a key changed, if the key is there. -/
def adjust (table : Table) (key : String) (change : Value → Value) : Table :=
  match table.get? key with
  | some value => table.set key (change value)
  | none => table

theorem adjust_eq_set {table : Table} {key : String} {value : Value}
    (h : table.get? key = some value) (change : Value → Value) :
    table.adjust key change = table.set key (change value) := by
  rw [adjust, h]

end Table

/-! ## Tables inside values -/

namespace Value

/-- The items of a value, whether they stand in one list or headers wrote them one by one. -/
inductive HasItems : Value → List Value → Prop where
  | list (items : List Value) : HasItems (.list items) items
  | tables (earlier : List Table) (last : Table) :
      HasItems (.tables earlier last) ((earlier ++ [last]).map (.table .header))

theorem items?_eq_some_iff {value : Value} {items : List Value} :
    items? value = some items ↔ value.HasItems items := by
  constructor
  · intro h
    cases value with
    | list items =>
      cases h
      exact .list items
    | tables earlier last =>
      cases h
      exact .tables earlier last
    | text _ | integer _ | float _ | bool _ | moment _ | table _ _ => cases h
  · intro h
    cases h <;> rfl

/-- The entries of a table. -/
def entries? : Value → Option Table
  | .table _ entries => some entries
  | _ => none

/-- A table with other entries. -/
def withEntries (entries : Table) : Value → Value
  | .table form _ => .table form entries
  | value => value

theorem entries?_eq_some_iff {value : Value} {entries : Table} :
    value.entries? = some entries ↔ ∃ form, value = .table form entries := by
  cases value <;> simp [entries?]

/-- A list with other entries in the table at an index. -/
def setItem (index : Nat) (entries : Table) : Value → Value
  | .list items => .list (items.modify index (withEntries entries))
  | .tables earlier last =>
    if index = earlier.length then .tables earlier entries
    else .tables (earlier.set index entries) last
  | value => value

theorem modify_map_table (index : Nat) (entries : Table) (tables : List Table) :
    (tables.map (Value.table .header)).modify index (withEntries entries) =
      (tables.set index entries).map (.table .header) := by
  induction tables generalizing index with
  | nil => simp
  | cons table rest ih =>
    cases index with
    | zero => rfl
    | succ index =>
      rw [List.set_cons_succ, List.map_cons, List.map_cons, List.modify_succ_cons, ih]

theorem items?_setItem (index : Nat) (entries : Table) (value : Value) :
    items? (value.setItem index entries) =
      (items? value).map fun items => items.modify index (withEntries entries) := by
  cases value with
  | list items => rfl
  | tables earlier last =>
    have hitems : items? (.tables earlier last) =
        some ((earlier ++ [last]).map (.table .header)) := rfl
    rw [setItem, hitems, Option.map_some, modify_map_table, List.set_append]
    by_cases hlast : index = earlier.length
    · rw [if_pos hlast, if_neg (by omega), hlast, Nat.sub_self]
      rfl
    · rw [if_neg hlast]
      split
      · rfl
      · have hbeyond : [last].length ≤ index - earlier.length := by
          rw [List.length_singleton]
          omega
        rw [List.set_eq_of_length_le hbeyond, List.set_eq_of_length_le (by omega)]
        rfl
  | text _ | integer _ | float _ | bool _ | moment _ | table _ _ => rfl

end Value

end ProxyGate.Toml
