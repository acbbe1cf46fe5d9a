/-
Reactions to calls through expired trampolines.
-/
import CallBridge.Error

namespace CallBridge

/-- Built-in reactions to a call through an expired trampoline. -/
inductive ExpiryPolicy where
  | abort
  | ignore
deriving DecidableEq, Repr

namespace ExpiryPolicy

def ofName? : String → Option ExpiryPolicy
  | "abort" => some abort
  | "ignore" => some ignore
  | _ => none

def ofName (name : String) : Except Error ExpiryPolicy :=
  match ofName? name with
  | some policy => .ok policy
  | none => .error (.config (.invalidValue "callbacks.on_expired"
      s!"must be 'abort' or 'ignore', got '{name}'"))

def debugText : ExpiryPolicy → String
  | abort => "Abort"
  | ignore => "Ignore"

end ExpiryPolicy

end CallBridge
