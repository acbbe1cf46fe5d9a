/-
What a session answers.

An answer holds domain values and no wording.  Events are what happens while a step
runs; answers to steps inside a managed function are part of them.
-/
import CallBridge.Buffer.Arena
import CallBridge.Run
import CallBridge.Session.Script
import CallBridge.Signature.Handle

namespace CallBridge

namespace Session

/-- What is seen of a global lock; of other locks nothing is seen. -/
structure LockView where
  locked : Bool
  held : Bool
deriving DecidableEq, Repr

/-- What else a global lock tells: whether a thread apart holds it, and its state as
text. -/
structure LockDetails where
  heldElsewhere : Bool
  text : String
deriving DecidableEq, Repr

inductive WriteResult where
  | done
  | failed (e : Error)
  | external (length : Nat)
  | slot (s : Slot)
  | bytes (bs : Bytes)
  | arity (n : Nat)
  | base (aligned : Bool)

/-- What one invocation leaves: its outcome and what the script wanted to know. -/
structure CallReport where
  outcome : Except Error (List Reading)
  writes : List WriteResult
  errno : Option Int
  lock : Option LockView

/-- What a call buffer shows of itself, and the results of the actions on it. -/
structure BufferReport where
  arena : Arena
  results : List (Except Panic (Except Error (Slot ⊕ Bytes)))

inductive Answer where
  | done
  /-- The script asks for something that the session does not have. -/
  | refused (text : String)
  | failed (e : Error)
  | panicked (p : Panic)
  | builder (b : Builder)
  | appended (offset : Nat) (b : Builder)
  | appendFailed (e : Error) (b : Builder)
  | prepared (p : Prepared)
  | prepareFailed (e : Error) (b : Builder)
  | signature (offsets : List Nat) (p : Prepared)
  | offset (n : Nat)
  | handle (h : Handle)
  | buffer (r : BufferReport)
  | cell (results : List (Except Error (Option Reading))) (final : Bytes)
  | driven (result : Bytes)
  | mismatched (m : ArityMismatch) (result : Bytes)
  | called (r : CallReport)
  | bound (name : String) (arity : Nat)
  | sorted (values : List Int)
  | errno (code : Int)
  | key (k : Nat)
  | revoked (arity : Option Nat) (left : Nat)
  | resolved (arity : Nat)
  | registry (contains : List Bool) (size : Nat) (text : String)
  | factory
  | trampoline (key : Nat)
  | detached
  | lock (view : Option LockView)
  | released (view : Option LockView) (released : Bool)
  | lockState (view : Option LockView) (shared : Option LockDetails)
  | otherHeld (during after : LockView) (released suspended theirs : Bool)
  | unwound (p : Panic) (view : Option LockView)

/-- What happens while a step runs, in order. -/
inductive Event where
  | lock (id : String) (acquired : Bool)
  | started (function : String)
  | applied (function : String) (index length : Nat) (value : Except Error Reading)
  | collected (function : String) (arguments : List (Nat × Except Error Reading))
  | finished (function : String) (outcomes : List (Except Error Unit)) (length : Nat)
  | nested (answers : List Answer)
  | expired (key : Nat) (message : String)
  | logged (r : LogRecord)
  /-- The first and last event in place of all. -/
  | span (first last : Event)

end Session

end CallBridge
