/-
Steps that build and prepare specifications.
-/
import CallBridge.Session.Attempt

namespace CallBridge

namespace Session

open Attempt

def putBuilder (id : String) (b : Builder) : Attempt Unit :=
  modify fun w => { w with builders := w.builders.put id b }

def putPrepared (id : String) (p : Prepared) : Attempt Unit :=
  modify fun w => { w with prepared := w.prepared.put id p }

def putHandle (id : String) (h : Handle) : Attempt Unit :=
  modify fun w => { w with handles := w.handles.put id h }

/-- Append a type several times; the answer is the last offset.  A panic on the way
leaves the builder as it was before all of them. -/
def appendTimes (id : String) (t : TypeToken) : Nat → Nat → Builder → Attempt Answer
  | 0, offset, b => do
    putBuilder id b
    return .appended offset b
  | count + 1, _, b => do
    match ← unwrap (b.append t) with
    | .error e =>
      putBuilder id b
      return .appendFailed e b
    | .ok (offset, grown) => appendTimes id t count offset grown

def prepareBuilder (id : String) (abi : AbiExpr) (returnType : TypeExpr) (newId : String) :
    Attempt Answer := do
  let abi ← convention abi
  let returnType ← typeToken returnType
  let b ← named World.builders "builder" id
  modify fun w => { w with builders := w.builders.erase id }
  match ← act (b.prepareLogged abi returnType) with
  | .error e =>
    putBuilder id b
    return .prepareFailed e b
  | .ok p =>
    putPrepared newId p
    return .prepared p

/-- Append each type in turn; the answer is the offsets and the grown builder. -/
def appendEach (b : Builder) : List TypeToken → Attempt (List Nat × Builder)
  | [] => return ([], b)
  | t :: rest => do
    let (offset, grown) ← check (← unwrap (b.append t))
    let (offsets, final) ← appendEach grown rest
    return (offset :: offsets, final)

def makeSignature (id : String) (arguments : List TypeExpr) (returnType : TypeExpr) (abi : AbiExpr)
    (context : CallContext) : Attempt Answer := do
  let abi ← convention abi
  let returnType ← typeToken returnType
  let tokens ← check (← act (evaluateAll arguments))
  let (offsets, b) ← appendEach (.empty context) tokens
  let p ← check (← act (b.prepareLogged abi returnType))
  putPrepared id p
  return .signature offsets p

def prepareHandle (id : String) (abi : AbiExpr) (returnType : TypeExpr) : Attempt Answer := do
  let abi ← convention abi
  let returnType ← typeToken returnType
  let h ← named World.handles "id" id
  let (outcome, next) := h.prepare abi returnType
  putHandle id next
  match h, outcome with
  | .building b, .ok (.ok ()) => act (b.report abi next.prepared?)
  | .building b, .ok (.error e) => act (b.report abi (.error e))
  | _, _ => pure ()
  check (← unwrap outcome)
  return .done

end Session

end CallBridge
