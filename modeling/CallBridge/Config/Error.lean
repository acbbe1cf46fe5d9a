/-
Failures of configuration files.
-/
import CallBridge.Errno
import CallBridge.Text.Quoted

namespace CallBridge

namespace Config

/-- What a value turned out to be where another type was wanted. -/
inductive Unexpected where
  | boolean (b : Bool)
  | integer (n : Int)
  /-- A number with a fraction or exponent, by its written form. -/
  | floating (text : String)
  | string (text : String)
  | sequence
  | map
deriving DecidableEq, Repr

namespace Unexpected

def message : Unexpected → String
  | boolean b => s!"boolean `{b}`"
  | integer n => s!"integer `{n}`"
  | floating text => s!"floating point `{text}`"
  | string text => s!"string {Text.quoted text}"
  | sequence => "sequence"
  | map => "map"

end Unexpected

/-- Why a text is not a configuration: it is no document at all, or the document does
not fit the schema. -/
inductive DocumentError where
  | malformed
  | unknownField (name : String) (known : List String)
  | invalidType (found : Unexpected) (wanted : String)
  | invalidLength (found : Nat) (wanted : String)
deriving DecidableEq, Repr

namespace DocumentError

def message : DocumentError → String
  | malformed => "syntax"
  | unknownField name known =>
    let expected := match known with
      | [only] => s!"`{only}`"
      | _ => "one of " ++ ", ".intercalate (known.map fun k => s!"`{k}`")
    s!"unknown field `{name}`, expected {expected}"
  | invalidType found wanted => s!"invalid type: {found.message}, expected {wanted}"
  | invalidLength found wanted => s!"invalid length {found}, expected {wanted}"

end DocumentError

inductive ReadError where
  | system (code : Int)
  | notUnicode
  | nulInName
deriving DecidableEq, Repr

namespace ReadError

def message : ReadError → String
  | system code => Errno.message code
  | notUnicode => "stream did not contain valid UTF-8"
  | nulInName => "file name contained an unexpected NUL byte"

end ReadError

inductive Error where
  | notFound (path : String)
  | unreadable (reason : ReadError)
  | invalidDocument (file : String) (reason : DocumentError)
  | invalidValue (field reason : String)
  | homeNotFound
deriving DecidableEq, Repr

namespace Error

def message : Error → String
  | notFound path => s!"Configuration file not found: {path}"
  | unreadable reason => s!"Failed to read configuration file: {reason.message}"
  | invalidDocument file reason => s!"Invalid TOML syntax in {file}: {reason.message}"
  | invalidValue field reason => s!"Invalid value for '{field}': {reason}"
  | homeNotFound => "Home directory not found"

/-- The text of the failure behind this one. -/
def cause? : Error → Option String
  | unreadable reason => some reason.message
  | _ => none

end Error

end Config

end CallBridge
