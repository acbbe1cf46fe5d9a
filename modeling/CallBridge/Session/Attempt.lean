/-
Computations that may come to their answer early.

A step looks things up by name, and each failure on the way is its answer.  Types and
calling conventions are evaluated here, since most steps begin with them.
-/
import CallBridge.Session.World

namespace CallBridge

namespace Session

/-- A computation that may come to its answer early. -/
abbrev Attempt (α : Type) := ExceptT Answer (Run World) α

namespace Attempt

variable {α : Type}

def act (x : Run World α) : Attempt α := ExceptT.lift x

def world : Attempt World := act Run.getWorld

def modify (f : World → World) : Attempt Unit := act (Run.modifyWorld f)

/-- The value of a computation that may panic. -/
def unwrap (x : Except Panic α) : Attempt α := act (Run.ofPanic x)

def refuse (text : String) : Attempt α := throw (.refused text)

def check : Except Error α → Attempt α
  | .ok a => pure a
  | .error e => throw (.failed e)

/-- The value under a name, or a refusal that tells what kind of thing is missing. -/
def named (shelf : World → Shelf α) (kind id : String) : Attempt α := do
  match (shelf (← world)).lookup id with
  | some a => return a
  | none => refuse s!"no {kind} '{id}'"

/-- The answer, however it was come to. -/
def answer (a : Attempt Answer) : Run World Answer := do
  match ← a.run with
  | .ok answer | .error answer => return answer

end Attempt

open Attempt

/-! ## Types and conventions -/

/-- A number for a type that is made. -/
def newSerial : Run World Nat := do
  let w ← Run.getWorld
  Run.setWorld { w with serial := w.serial + 1 }
  return w.serial

mutual

def evaluate : TypeExpr → Run World (Except Error TypeToken)
  | .standing t => return .ok t
  | .aggregate members => do
    match ← evaluateAll members with
    | .ok tokens => return TypeToken.ofDescriptor (← newSerial) (some (TypeToken.aggregate tokens))
    | .error e => return .error e
  | .custom d => do return TypeToken.ofDescriptor (← newSerial) (some d)
  | .null => do return TypeToken.ofDescriptor (← newSerial) none

def evaluateAll : List TypeExpr → Run World (Except Error (List TypeToken))
  | [] => return .ok []
  | t :: rest => do
    match ← evaluate t with
    | .error e => return .error e
    | .ok token =>
      match ← evaluateAll rest with
      | .error e => return .error e
      | .ok tokens => return .ok (token :: tokens)

end

def typeToken (t : TypeExpr) : Attempt TypeToken := do check (← act (evaluate t))

def convention : AbiExpr → Attempt Abi
  | .default => pure .default
  | .number n => pure (.raw n)
  | .named text => check (Abi.ofName text)

end Session

end CallBridge
