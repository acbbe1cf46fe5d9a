/-
From a document to settings.

Keys are visited in document order and the first one that does not fit is reported.  A
section may also be written as an array, with its values in the order of the fields.
-/
import CallBridge.Config.Settings
import CallBridge.Number.Shortest
import CallBridge.Toml.Document

namespace CallBridge

namespace Config

open Toml (Value)

/-- What a value is, for a message about another type wanted in its place. -/
def Unexpected.ofValue : Value → Unexpected
  | .string text => string text
  | .integer n => integer n
  | .float bits => floating (Decimal.message bits)
  | .boolean b => boolean b
  | .datetime => map
  | .array _ => sequence
  | .table _ => map

/-- The key under which a date-time shows up where a table is wanted. -/
def datetimeKey : String := "$__toml_private_datetime"

def mismatch {α : Type} (v : Value) (wanted : String) : Except DocumentError α :=
  .error (.invalidType (.ofValue v) wanted)

def boolean : Value → Except DocumentError Bool
  | .boolean b => .ok b
  | v => mismatch v "a boolean"

def string : Value → Except DocumentError String
  | .string text => .ok text
  | v => mismatch v "a string"

def path : Value → Except DocumentError String
  | .string text => .ok text
  | v => mismatch v "path string"

def paths : Value → Except DocumentError (List String)
  | .array items => items.mapM path
  | v => mismatch v "a sequence"

/-- A group of keys: its name in messages, its fields in order, and how a known field
takes a value. -/
structure Schema (α : Type) where
  name : String
  fields : List String
  empty : α
  set : α → String → Value → Except DocumentError α

namespace Schema

variable {α : Type}

def take (s : Schema α) (a : α) (field : String) (v : Value) : Except DocumentError α :=
  if s.fields.contains field then s.set a field v else .error (.unknownField field s.fields)

def ofEntries (s : Schema α) (entries : List (String × Value)) : Except DocumentError α :=
  entries.foldlM (fun a e => s.take a e.1 e.2) s.empty

/-- The values of an array, one for each field; any more are ignored. -/
def ofItems (s : Schema α) (items : List Value) : Except DocumentError α := do
  let a ← s.ofEntries (s.fields.zip items)
  if items.length < s.fields.length then
    let count := s.fields.length
    let plural := if count = 1 then "" else "s"
    .error (.invalidLength items.length s!"struct {s.name} with {count} element{plural}")
  else return a

def decode (s : Schema α) : Value → Except DocumentError α
  | .table entries => s.ofEntries entries
  | .array items => s.ofItems items
  | .datetime => .error (.unknownField datetimeKey s.fields)
  | v => mismatch v s!"struct {s.name}"

end Schema

def callSchema : Schema CallSettings where
  name := "CallConfig"
  fields := ["check_errno", "release_lock", "abi"]
  empty := .empty
  set := fun s field v => do
    match field with
    | "check_errno" => return { s with checkErrno := some (← boolean v) }
    | "release_lock" => return { s with releaseLock := some (← boolean v) }
    | _ => return { s with abi := some (← string v) }

def callbackSchema : Schema CallbackSettings where
  name := "CallbacksConfig"
  fields := ["on_expired"]
  empty := .empty
  set := fun _ _ v => return ⟨some (← string v)⟩

def loaderSchema : Schema LoaderSettings where
  name := "LoaderConfig"
  fields := ["search_paths"]
  empty := .empty
  set := fun _ _ v => return ⟨some (← paths v)⟩

def settingsSchema : Schema Settings where
  name := "LigatureConfig"
  fields := ["call", "callbacks", "loader"]
  empty := .empty
  set := fun s field v => do
    match field with
    | "call" => return { s with call := some (← callSchema.decode v) }
    | "callbacks" => return { s with callbacks := some (← callbackSchema.decode v) }
    | _ => return { s with loader := some (← loaderSchema.decode v) }

namespace Settings

def decode (text : String) : Except DocumentError Settings :=
  match Toml.parse? text with
  | none => .error .malformed
  | some entries => settingsSchema.ofEntries entries

def parse (file text : String) : Except Error Settings :=
  match decode text with
  | .error reason => .error (.invalidDocument file reason)
  | .ok s => do
    s.validate
    return s

end Settings

end Config

end CallBridge
