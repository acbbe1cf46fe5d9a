/-
Scripts: what a session is asked to do.

Objects go by names.  A managed function is described by what it reads, what it writes,
and the steps that it plays itself, so steps and functions contain one another.
-/
import CallBridge.Abi
import CallBridge.Expiry
import CallBridge.Session.Number

namespace CallBridge

namespace Session

/-- A type as scripts write it.  All but the standing types are made anew where they
are used. -/
inductive TypeExpr where
  | standing (t : TypeToken)
  | aggregate (members : List TypeExpr)
  | custom (d : Descriptor)
  | null

inductive AbiExpr where
  | default
  | number (n : Nat)
  | named (text : String)

inductive How where
  | number (t : NumberType)
  | bytes
  | text
  | pointee
deriving DecidableEq, Repr

inductive Action where
  | write (t : NumberType) (v : Int)
  | bytes (bs : Bytes)
  /-- The sum of the arguments that were read as `t`. -/
  | sum (t : NumberType)
  | copy (index : Nat)
  /-- The order of the numbers that the first two arguments point to. -/
  | compare (descending : Bool)
deriving DecidableEq, Repr

inductive Phase where
  | apply | finish
deriving DecidableEq, Repr

/-- A managed function; `τ` are the steps it may play. -/
structure FunctionScript (τ : Type) where
  name : String
  arity : Nat
  /-- Whether it sees all arguments at once. -/
  collects : Bool
  reads : List How
  actions : List Action
  steps : List τ
  errno : Option Int
  panics : Option Phase
  quiet : Bool
  /-- Whether the result buffer keeps what it holds. -/
  keep : Bool

inductive WriteOp where
  | write (index : Nat) (t : NumberType) (v : Int)
  | bytes (index : Nat) (bs : Bytes)
  | text (index : Nat) (bs : Bytes)
  | external (index : Nat) (bs : Bytes) (offset : Nat)
  | slot (index : Nat)
  | get (index : Nat)
  | fill (index : Nat) (byte : UInt8)
  | arity
  | base
  | fail (message : String)

structure WriteAction where
  op : WriteOp
  continues : Bool

/-- What a reader makes of the return value. -/
inductive ReadAction where
  | number (t : NumberType)
  | size
  | bytes
  | text
  | fail (message : String)

/-- What is called: nothing, a native function, or the code of a trampoline. -/
inductive Target where
  | missing
  | native (name : String)
  | code (id : String)

/-- One call, apart from what is called. -/
structure CallScript where
  lock : Option String
  writes : List WriteAction
  reads : List ReadAction
  errnoBefore : Option Int
  errnoAfter : Bool

inductive BufferAction where
  | slot (index : Nat)
  | read (offset size alignment : Nat)
  | write (offset size alignment : Nat) (bs : Bytes)

inductive CellAction where
  | read (how : How)
  | act (a : Action)

inductive Reaction where
  | policy (p : ExpiryPolicy)
  /-- An event is left. -/
  | hook
  | panicHook

inductive ReactionExpr where
  | unchanged
  | hook
  | panicHook
  | named (text : String)

inductive LockKind where
  | none
  | recording (returns : Bool) (errno : Option Int)
  | global

inductive GuardKind where
  | suspend | hold
deriving DecidableEq, Repr

inductive Step where
  | builder (id : String) (context : CallContext)
  | append (id : String) (type : TypeExpr) (count : Nat)
  | builderState (id : String)
  | clone (id newId : String)
  | prepare (id : String) (abi : AbiExpr) (returnType : TypeExpr) (newId : String)
  | preparedState (id : String)
  | signature (id : String) (arguments : List TypeExpr) (returnType : TypeExpr) (abi : AbiExpr)
      (context : CallContext)
  | handle (id : String) (context : CallContext)
  | handleAppend (id : String) (type : TypeExpr)
  | handlePrepare (id : String) (abi : AbiExpr) (returnType : TypeExpr)
  | handleTake (id newId : String)
  | handleState (id : String)
  | buffer (spec : String) (actions : List BufferAction)
  | cell (bytes : Bytes) (actions : List CellAction)
  | drive (f : FunctionScript Step) (arguments : List Bytes) (result : Bytes)
  | invoke (spec name : String) (target : Target) (call : CallScript)
  | bind (id spec name : String) (target : Target)
  | call (id : String) (call : CallScript)
  | sort (values : List Int) (code : String) (lock : Option String) (releaseLock : Bool)
  | errno (set : Option Int)
  | register (f : FunctionScript Step)
  | revoke (key : Nat)
  | resolve (key : Nat)
  | registry (keys : List Nat)
  | factory (id : String) (reaction : ReactionExpr) (lock : Option String)
  | dropFactory (id : String)
  | trampoline (id factory spec : String) (key : Nat)
  | dropTrampoline (id : String)
  | detach (id : String)
  | lock (id : String) (kind : LockKind)
  | hold (lock : Option String) (guard : String)
  | suspend (lock : Option String) (guard : String)
  | dropGuard (id : String)
  | lockState (lock : Option String)
  | acquire (lock : Option String)
  | release (lock : Option String) (elsewhere : Bool)
  | otherHolds (lock : Option String)
  | panicIn (lock : Option String) (guard : GuardKind)

end Session

end CallBridge
