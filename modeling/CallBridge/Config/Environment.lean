/-
Environment variables.

A variable holds bytes.  One whose bytes are no text counts as unset, except that a home
directory is used all the same.
-/
import CallBridge.Bytes
import CallBridge.Text.Lowercase
import CallBridge.Text.Utf8

namespace CallBridge

namespace Config

structure Environment where
  bindings : List (String × Bytes)
  /-- The home directory that the account database gives. -/
  accountHome : Option String

namespace Environment

def set (e : Environment) (name : String) (value : Option Bytes) : Environment :=
  let others := e.bindings.filter fun v => v.1 != name
  { e with bindings := others ++ (value.map fun bytes => (name, bytes)).toList }

def get? (e : Environment) (name : String) : Option String := do
  let bytes ← e.bindings.lookup name
  String.fromUTF8? ⟨bytes.toArray⟩

/-- The home directory: the variable unless it is empty, else the account's.  Paths are texts
here, so one that is no text is decoded with replacement characters, and two such homes may
become the same. -/
def home? (e : Environment) : Option String :=
  match e.bindings.lookup "HOME" with
  | none | some [] => e.accountHome
  | some bytes => some (Text.decodeLossy bytes)

/-- A flag is on for three words, in any case, and off for everything else. -/
def isOn (text : String) : Bool := ["true", "1", "yes"].contains (Text.lowercase text)

end Environment

end Config

end CallBridge
