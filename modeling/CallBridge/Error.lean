/-
Failures of the call engine.

Each constructor is a cause with the data that explains it; the wording is `message`.
-/
import CallBridge.Config.Error
import CallBridge.Halt

namespace CallBridge

inductive LoadError where
  | libraryNotFound (library : String)
  | symbolNotFound (library symbol : String)
  /-- The file was found but the dynamic linker refused it. -/
  | loadFailed (library : String)
deriving DecidableEq, Repr

namespace LoadError

def message : LoadError → String
  | libraryNotFound library => s!"Library not found: {library}"
  | symbolNotFound library symbol => s!"Symbol '{symbol}' not found in library '{library}'"
  | loadFailed library => s!"Failed to load library '{library}'"

end LoadError

inductive Error where
  | badTypedef
  | badAbi
  | invalidType (reason : String)
  | unsupportedAlignment (alignment max : Nat)
  | outOfMemory
  /-- A checked call left errno at `code`. -/
  | system (function : String) (code : Int)
  | expiredClosure (key : Nat)
  | invalidState (reason : String)
  | argumentIndex (index arity : Nat)
  | outOfBounds (needed available : Nat)
  | nullFunction (function : String)
  | marshal (reason : String)
  | config (e : Config.Error)
  | load (e : LoadError)
deriving DecidableEq, Repr

namespace Error

def message : Error → String
  | badTypedef => "libffi rejected a type description (FFI_BAD_TYPEDEF)"
  | badAbi => "libffi rejected the calling convention (FFI_BAD_ABI)"
  | invalidType reason => s!"Invalid type descriptor: {reason}"
  | unsupportedAlignment alignment max =>
    s!"Unsupported alignment {alignment} (the call buffer supports at most {max})"
  | outOfMemory => "Out of memory allocating closure trampoline"
  | system function code => s!"{function}: {Errno.message code} (errno {code})"
  | expiredClosure key => s!"call to expired closure (key {key})"
  | invalidState reason => s!"Invalid call specification state: {reason}"
  | argumentIndex index arity => s!"Argument index {index} out of range for {arity} arguments"
  | outOfBounds needed available =>
    s!"Buffer access out of bounds: {needed} bytes needed, {available} available"
  | nullFunction function => s!"Null function pointer for '{function}'"
  | marshal reason => s!"Marshal error: {reason}"
  | config e => s!"Configuration error: {e.message}"
  | load e => e.message

/-- The text of the failure behind this one. -/
def cause? : Error → Option String
  | config e => some e.message
  | _ => none

end Error

/-- A managed function met a signature with another number of arguments. -/
structure ArityMismatch where
  expected : Nat
  found : Nat
deriving DecidableEq, Repr

namespace ArityMismatch

def message (m : ArityMismatch) : String :=
  s!"managed function takes {m.found} arguments but the native signature passes {m.expected}"

end ArityMismatch

end CallBridge
