/-
Reading TOML documents.

A text is read into statements, line by line, and the statements are put together.  An
inline table is put together from its entries by the same rules as a document.
-/
import CallBridge.Toml.Scalar
import CallBridge.Toml.Tree

namespace CallBridge

namespace Toml

/-- The items of an array after its opening bracket or a comma; `fuel` bounds their
number. -/
def arrayItems (item : Reader Value) : Nat → Reader (List Value)
  | 0, _ => none
  | fuel + 1, cs =>
    match skipLayout false cs with
    | ']' :: rest => some ([], rest)
    | cs => do
      let (v, rest) ← item cs
      match skipLayout false rest with
      | ']' :: rest => return ([v], rest)
      | ',' :: rest =>
        let (vs, rest) ← arrayItems item fuel rest
        return (v :: vs, rest)
      | _ => none

/-- A key, an equals sign and a value, with blanks between them. -/
def entryOf (value : Reader Value) : Reader Entry := fun cs => do
  let (k, rest) ← key cs
  match skipBlanks rest with
  | '=' :: rest =>
    let (v, rest) ← value (skipBlanks rest)
    return (⟨k, v⟩, rest)
  | _ => none

/-- The entries of an inline table, of which there is at least one. -/
def inlineEntries (value : Reader Value) : Nat → Reader (List Entry)
  | 0, _ => none
  | fuel + 1, cs => do
    let (e, rest) ← entryOf value cs
    match skipBlanks rest with
    | '}' :: rest => return ([e], rest)
    | ',' :: rest =>
      let (es, rest) ← inlineEntries value fuel rest
      return (e :: es, rest)
    | _ => none

def inlineTable (value : Reader Value) : Reader Value := fun cs =>
  match skipBlanks cs with
  | '}' :: rest => some (.table [], rest)
  | cs => do
    let (entries, rest) ← inlineEntries value cs.length cs
    let t ← Table.empty.setAll entries
    return (.table t.values, rest)

/-- A value with at most `depth` arrays and inline tables inside one another. -/
def value : Nat → Reader Value
  | 0, cs => scalar cs
  | depth + 1, cs =>
    match cs with
    | '[' :: rest => do
      let (items, rest) ← arrayItems (value depth) cs.length rest
      return (.array items, rest)
    | '{' :: rest => inlineTable (value depth) rest
    | cs => scalar cs

def entry : Reader Entry := entryOf (value (depthLimit - 1))

/-- A header after its opening brackets. -/
def header (repeated : Bool) : Reader Header := fun cs => do
  let (k, rest) ← key cs
  let ((), rest) ← word (if repeated then [']', ']'] else [']']) rest
  return (⟨k, repeated⟩, rest)

/-- A line that says something, up to its comment. -/
def statement : Reader Statement := fun cs =>
  match cs with
  | '[' :: '[' :: rest => (header true rest).map fun (h, rest) => (.header h, rest)
  | '[' :: rest => (header false rest).map fun (h, rest) => (.header h, rest)
  | cs => (entry cs).map fun (e, rest) => (.entry e, rest)

def statements : Nat → List Char → Option (List Statement)
  | 0, _ => none
  | _, [] => some []
  | fuel + 1, cs =>
    match lineTrailing? cs with
    | some rest => statements fuel rest
    | none => do
      let (s, rest) ← statement (skipBlanks cs)
      let rest ← lineTrailing? rest
      return s :: (← statements fuel rest)

/-- A byte-order mark at the start of a text is no part of it. -/
def dropMark : List Char → List Char
  | '\ufeff' :: rest => rest
  | cs => cs

/-- The entries of a document, or nothing if the text is none. -/
def parse? (text : String) : Option (List (String × Value)) := do
  let cs := dropMark text.toList
  let lines ← statements (cs.length + 1) cs
  return (← Table.ofStatements? lines).values

end Toml

end CallBridge
