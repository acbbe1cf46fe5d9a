/-
Putting the statements of a document together.

A table remembers how it came about.  One that a longer header or a dotted key implied
may still be extended; one that a header named, or an inline one, may not.  A header
that names an implied table takes it out of its place and puts it back at the end.
-/
import CallBridge.Toml.Value

namespace CallBridge

namespace Toml

/-- What stands under a key while a document is put together. -/
inductive Item where
  | value (v : Value)
  /-- A table, whether it is only implied and whether dotted keys made it. -/
  | table (implied dotted : Bool) (entries : List (String × Item))
  /-- The tables of repeated headers, in order. -/
  | tables (rows : List (List (String × Item)))

mutual

def Item.toValue : Item → Value
  | .value v => v
  | .table _ _ entries => .table (entryValues entries)
  | .tables rows => .array (rowValues rows)

def entryValues : List (String × Item) → List (String × Value)
  | [] => []
  | (key, i) :: rest => (key, i.toValue) :: entryValues rest

def rowValues : List (List (String × Item)) → List Value
  | [] => []
  | row :: rest => .table (entryValues row) :: rowValues rest

end

structure Table where
  implied : Bool
  dotted : Bool
  entries : List (String × Item)

namespace Table

def empty : Table := ⟨false, false, []⟩

def item (t : Table) : Item := .table t.implied t.dotted t.entries

def values (t : Table) : List (String × Value) := entryValues t.entries

def find? (t : Table) (key : String) : Option Item := t.entries.lookup key

/-- Put an item under a key: in its place if the key is there, else at the end. -/
def put (t : Table) (key : String) (i : Item) : Table :=
  if (t.find? key).isSome then
    { t with entries := t.entries.map fun e => if e.1 == key then (key, i) else e }
  else { t with entries := t.entries ++ [(key, i)] }

def erase (t : Table) (key : String) : Table :=
  { t with entries := t.entries.filter fun e => e.1 != key }

/-- Change the table at the end of a path.  Missing tables are implied on the way, and
the last table of a repeated header is the one meant.  Dotted keys do not enter tables
that a header has named. -/
def update (dotted : Bool) (change : Table → Option Table) : List String → Table → Option Table
  | [], t => change t
  | k :: path, t =>
    match t.find? k with
    | none => do return t.put k (← update dotted change path ⟨true, dotted, []⟩).item
    | some (.value _) => none
    | some (.table implied made entries) =>
      if dotted && !implied then none
      else do return t.put k (← update dotted change path ⟨implied, made, entries⟩).item
    | some (.tables rows) => do
      let last ← rows.getLast?
      let row ← update dotted change path ⟨false, false, last⟩
      return t.put k (.tables (rows.dropLast ++ [row.entries]))

/-- Set a key that is not there yet.  A dotted key may only add to a table that dotted
keys made. -/
def set (t : Table) (e : Entry) : Option Table :=
  t.update true (fun inner =>
    if inner.dotted == e.key.path.isEmpty || (inner.find? e.key.name).isSome then none
    else some (inner.put e.key.name (.value e.value))) e.key.path

def setAll (t : Table) (entries : List Entry) : Option Table := entries.foldlM set t

/-- Add what stands under one header.  A single header opens a new table or an implied
one, a repeated header the next row of its tables. -/
def addSection (root : Table) (header : Header) (entries : List Entry) : Option Table :=
  let name := header.key.name
  root.update false (fun parent =>
    match header.repeated, parent.find? name with
    | false, none => do return parent.put name (← empty.setAll entries).item
    | false, some (.table true false held) => do
      return (parent.erase name).put name (← setAll ⟨false, false, held⟩ entries).item
    | true, none => do return parent.put name (.tables [(← empty.setAll entries).entries])
    | true, some (.tables rows) => do
      return parent.put name (.tables (rows ++ [(← empty.setAll entries).entries]))
    | _, _ => none) header.key.path

end Table

/-- The entries before the first header, and each header with its entries. -/
def sections : List Statement → List Entry × List (Header × List Entry)
  | [] => ([], [])
  | .entry e :: rest =>
    let (entries, later) := sections rest
    (e :: entries, later)
  | .header h :: rest =>
    let (entries, later) := sections rest
    ([], (h, entries) :: later)

/-- The table that a list of statements describes, if they fit together. -/
def Table.ofStatements? (statements : List Statement) : Option Table := do
  let (entries, later) := sections statements
  let root ← Table.empty.setAll entries
  later.foldlM (fun t s => t.addSection s.1 s.2) root

end Toml

end CallBridge
