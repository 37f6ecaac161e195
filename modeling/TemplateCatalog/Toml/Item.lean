import TemplateCatalog.Yaml.Value

/-!
# Tables of a settings file

A settings file is a table of items. It is written as a sequence of statements:
headers, each of which opens a table, and assignments in the open table. How a
table came to be decides what may still be added to it: a header opens a table
once, dotted keys add only to tables that dotted keys made, and a table or an
array that is written as a value is complete.
-/

namespace TemplateCatalog.Toml

/-- How a table came to be. -/
inductive Origin where
  /-- By a header of its own, or as the whole file. -/
  | header
  /-- As a part of the name in a header. -/
  | implied
  /-- As a part of a dotted key. -/
  | dotted
  /-- As a value. -/
  | inline
  deriving DecidableEq, Repr

/-- An item of a table. -/
inductive Item where
  | leaf (value : Yaml.Value)
  /-- An array; `tables` if it was made by headers. -/
  | array (tables : Bool) (items : List Item)
  | table (origin : Origin) (entries : List (String × Item))

/-- A table. -/
structure Table where
  origin : Origin
  entries : List (String × Item)

namespace Table

/-- The table as an item. -/
def item (t : Table) : Item := .table t.origin t.entries

/-- The item of a key. -/
def find? (t : Table) (key : String) : Option Item := t.entries.lookup key

/-- A table with an item in the place of the one with that key, or at the end. -/
def put (t : Table) (key : String) (i : Item) : Table :=
  if (t.find? key).isSome then
    { t with entries := t.entries.map fun e => if e.1 = key then (key, i) else e }
  else { t with entries := t.entries ++ [(key, i)] }

/-- Changes the table at the end of a path, making the tables on the way. The last
    table of an array made by headers stands for the array. -/
def change (viaKey : Bool) (f : Table → Option Table) : List String → Table → Option Table
  | [], t => f t
  | key :: path, t =>
    match t.find? key with
    | none =>
      (change viaKey f path ⟨if viaKey then .dotted else .implied, []⟩).map fun c => t.put key c.item
    | some (.table origin entries) =>
      if origin = .inline || (viaKey && origin = .header) then none
      else (change viaKey f path ⟨origin, entries⟩).map fun c => t.put key c.item
    | some (.array true items) =>
      match items.getLast? with
      | some (.table origin entries) =>
        (change viaKey f path ⟨origin, entries⟩).map fun c =>
          t.put key (.array true (items.dropLast ++ [c.item]))
      | _ => none
    | some _ => none

/-- Assigns an item to a key that has none. -/
def assign (key : String) (i : Item) (t : Table) : Option Table :=
  if (t.find? key).isSome then none else some (t.put key i)

/-- Assigns an item to a dotted key. -/
def assignPath (path : List String) (key : String) (i : Item) (t : Table) : Option Table :=
  t.change true (fun t => if path ≠ [] && t.origin ≠ .dotted then none else t.assign key i) path

/-- Opens the table of a header. -/
def openTable (key : String) (t : Table) : Option Table :=
  match t.find? key with
  | none => some (t.put key (.table .header []))
  | some (.table .implied entries) => some (t.put key (.table .header entries))
  | some _ => none

/-- Opens one more table in an array of tables. -/
def openElement (key : String) (t : Table) : Option Table :=
  match t.find? key with
  | none => some (t.put key (.array true [.table .header []]))
  | some (.array true items) => some (t.put key (.array true (items ++ [.table .header []])))
  | some _ => none

end Table

/-- A statement of a settings file. Names and keys are given as the path and its
    last part. -/
inductive Statement where
  | header (path : List String) (key : String)
  | element (path : List String) (key : String)
  | assign (path : List String) (key : String) (i : Item)

/-- The table that statements make, with the path of the table that is open. -/
def Table.run : List String → Table → List Statement → Option Table
  | _, t, [] => some t
  | opened, t, s :: rest =>
    match s with
    | .header path key =>
      match t.change false (openTable key) path with
      | some t => run (path ++ [key]) t rest
      | none => none
    | .element path key =>
      match t.change false (openElement key) path with
      | some t => run (path ++ [key]) t rest
      | none => none
    | .assign path key i =>
      match t.change false (assignPath path key i) opened with
      | some t => run opened t rest
      | none => none

mutual

/-- The value of an item. -/
def Item.value : Item → Yaml.Value
  | .leaf v => v
  | .array _ items => .sequence (itemValues items)
  | .table _ entries => .mapping (entryValues entries)

/-- The values of items. -/
def itemValues : List Item → List Yaml.Value
  | [] => []
  | i :: rest => i.value :: itemValues rest

/-- The values of the entries of a table. -/
def entryValues : List (String × Item) → List (Yaml.Value × Yaml.Value)
  | [] => []
  | (k, i) :: rest => (.string k, i.value) :: entryValues rest

end

end TemplateCatalog.Toml
