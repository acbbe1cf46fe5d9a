/-
Calling conventions and the flags of a call.
-/
import CallBridge.Error

namespace CallBridge

/-- A decimal number below `limit`: one leading plus sign at most, then ASCII digits,
leading zeros allowed. -/
def decimal? (limit : Nat) (text : String) : Option Nat :=
  let digits := match text.toList with
    | '+' :: rest => rest
    | cs => cs
  if digits.isEmpty || !digits.all Char.isDigit then none
  else
    let value := digits.foldl (fun n c => 10 * n + (c.toNat - 48)) 0
    if value < limit then some value else none

/-- A calling convention: the platform's own or a numbered one. -/
inductive Abi where
  | default
  | raw (number : Nat)
deriving DecidableEq, Repr

namespace Abi

/-- The configuration spelling: `default` or a number below `2 ^ 32`. -/
def ofName? (name : String) : Option Abi :=
  if name = "default" then some .default else (decimal? UInt32.size name).map .raw

def ofName (name : String) : Except Error Abi :=
  match ofName? name with
  | some abi => .ok abi
  | none => .error .badAbi

/-- The number the call interface knows the convention by. -/
def number : Abi → Nat
  | default => 2
  | raw n => n

def debugText : Abi → String
  | default => "Default"
  | raw n => s!"Raw({n})"

end Abi

/-- What happens around each call: whether errno is reset and inspected, and whether the
runtime lock is given up while native code runs. -/
structure CallContext where
  checkErrno : Bool
  releaseLock : Bool
deriving DecidableEq, Repr

namespace CallContext

def debugText (c : CallContext) : String :=
  s!"CallContext \x7b check_errno: {c.checkErrno}, release_lock: {c.releaseLock} \x7d"

end CallContext

end CallBridge
