/-
A call specification whose phase is known only at run time.

Hosts that receive "append" and "prepare" requests hold a `Handle`; misuse is reported
as an invalid state.  A panic in the middle of preparing leaves the handle between its
two phases for good.
-/
import CallBridge.Signature.Prepared

namespace CallBridge

inductive Handle where
  | building (b : Builder)
  | prepared (p : Prepared)
  | transitioning
deriving DecidableEq

namespace Handle

def create (context : CallContext) : Handle := .building (Builder.empty context)

/-- Append an argument; a handle that is not building refuses. -/
def append (h : Handle) (t : TypeToken) : Except Panic (Except Error Nat) × Handle :=
  match h with
  | building b => ((b.offer t).1, building (b.offer t).2)
  | _ =>
    (.ok (.error (.invalidState "cannot append an argument to a prepared call specification")), h)

/-- Prepare a building handle.  An error leaves it building. -/
def prepare (h : Handle) (abi : Abi) (returnType : TypeToken) :
    Except Panic (Except Error Unit) × Handle :=
  match h with
  | building b =>
    match b.prepare abi returnType with
    | .ok (.ok p) => (.ok (.ok ()), prepared p)
    | .ok (.error e) => (.ok (.error e), h)
    | .error p => (.error p, transitioning)
  | _ => (.ok (.error (.invalidState "call specification is already prepared")), h)

def isPrepared : Handle → Bool
  | prepared _ => true
  | _ => false

/-- The prepared specification, for calls and trampolines. -/
def prepared? : Handle → Except Error Prepared
  | prepared p => .ok p
  | _ => .error (.invalidState "call specification has not been prepared")

def context? : Handle → Option CallContext
  | building b => some b.context
  | prepared p => some p.context
  | transitioning => none

def debugText? : Handle → Option String
  | building b => some s!"CallSpec \x7b state: Building({b.debugText}) \x7d"
  | transitioning => some "CallSpec \x7b state: Transitioning \x7d"
  | prepared _ => none

end Handle

end CallBridge
