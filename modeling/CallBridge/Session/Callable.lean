/-
Steps that make and use callables: registered functions, trampolines and native ones.
-/
import CallBridge.Session.Attempt
import CallBridge.Session.Call
import CallBridge.Session.Locking
import CallBridge.Session.Specification

namespace CallBridge

namespace Session

open Attempt

/-! ## Functions and trampolines -/

def registry (keys : List Nat) : Attempt Answer := do
  let r := (← world).registry
  return .registry (keys.map r.contains) r.size r.debugText

def reactionOf : ReactionExpr → Attempt Reaction
  | .unchanged => pure (.policy .abort)
  | .hook => pure .hook
  | .panicHook => pure .panicHook
  | .named text => do return .policy (← check (ExpiryPolicy.ofName text))

def makeFactory (id : String) (reaction : ReactionExpr) (lock : Option String) : Attempt Answer := do
  let ref ← lockNamed lock
  let reaction ← reactionOf reaction
  modify fun w => { w with factories := w.factories.put id ⟨ref, reaction⟩ }
  return .factory

def makeTrampoline (play : PlaySteps) (id factory spec : String) (key : Nat) : Attempt Answer := do
  let f ← named World.factories "factory" factory
  let p ← named World.prepared "spec" spec
  let _ ← act ((f.toFactory play).make p key)
  let replaced := (← world).trampolines.lookup id
  modify fun w =>
    { w with trampolines := w.trampolines.put id key, codes := w.codes.put id ⟨f, p, key⟩ }
  replaced.forM fun old => act (ClosureFactory.announceFree old)
  return .trampoline key

def dropTrampoline (id : String) : Attempt Answer := do
  let found := (← world).trampolines.lookup id
  modify fun w =>
    { w with trampolines := w.trampolines.erase id, codes := w.codes.erase id }
  match found with
  | none => refuse s!"no trampoline '{id}'"
  | some key =>
    act (ClosureFactory.announceFree key)
    return .done

def detach (id : String) : Attempt Answer := do
  let _ ← named World.trampolines "trampoline" id
  modify fun w => { w with trampolines := w.trampolines.erase id }
  return .detached

/-! ## Calls -/

def calleeOf : Target → Attempt Callee
  | .missing => pure .missing
  | .native name =>
    if (native? name).isSome then pure (.native name) else refuse s!"unknown native {name}"
  | .code id => do return .code (← named World.codes "code" id)

/-- The specification and the callee, which must fit one another. -/
def resolveCall (spec : String) (target : Target) : Attempt (Prepared × Callee) := do
  let p ← named World.prepared "spec" spec
  let callee ← calleeOf target
  if callee.accepts p then return (p, callee) else refuse "signature"

def callNow (play : PlaySteps) (p : Prepared) (name : String) (callee : Callee) (c : CallScript) :
    Attempt Answer := do
  let ref ← lockNamed c.lock
  return .called (← act (makeCall play p name callee ref c))

def bindFunction (id spec name : String) (target : Target) : Attempt Answer := do
  let (p, callee) ← resolveCall spec target
  let f ← check (BoundFunction.create p name callee)
  modify fun w => { w with bound := w.bound.put id f }
  return .bound f.name f.spec.arity

/-- What the comparing of two numbers through pointers looks like from outside. -/
def comparatorTypes (p : Prepared) : Bool :=
  p.arguments == [.pointer, .pointer] && p.returnType == .sint32

def sortValues (play : PlaySteps) (values : List Int) (code : String) (lock : Option String)
    (releaseLock : Bool) : Attempt Answer := do
  let before := (← world).events
  let ref ← lockNamed lock
  let c ← named World.codes "code" code
  if !comparatorTypes c.spec then refuse "signature"
  let (_, b) ← appendEach (.empty ⟨false, releaseLock⟩) [.pointer, .uint64, .uint64, .pointer]
  let p ← check (← act (b.prepareLogged .default .void))
  let array := (values.map NumberType.i32.encode).flatten
  let address ← act (storeText array)
  let sorting := sortFunction (c.toClosure play).native
  let frame ← act (reserve (frameSize p))
  let write : WriteArguments World := fun w => return do
    let w ← w.write 0 (Bytes.ofNat pointerSize address)
    let w ← w.write 1 (Bytes.ofNat 8 values.length)
    w.write 2 (Bytes.ofNat 8 4)
  let sorted ← act (invoke "qsort" (some sorting) p (runtimeLock ref) frame write fun _ =>
    return .ok ())
  check sorted
  modify fun w => { w with events := before ++ summarise (w.events.drop before.length) }
  let w ← world
  let places := (List.range values.length).map fun i => address + 4 * i
  return .sorted (places.map fun place => NumberType.i32.decode (w.memory.load place 4))

def driveNow (play : PlaySteps) (f : FunctionScript Step) (arguments : List Bytes) (result : Bytes) :
    Attempt Answer := do
  match ← act (drive (f.toFunction play) (arguments.map RawBuffer.mk) ⟨result⟩) with
  | .ok made => return .driven made.bytes
  | .error m => return .mismatched m result

end Session

end CallBridge
