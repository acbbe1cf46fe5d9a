/-
Steps on locks and their guards.

A step that would make the thread wait is refused, and nothing changes.
-/
import CallBridge.Session.Attempt

namespace CallBridge

namespace Session

open Attempt

/-- The lock of a name; no name is a lock made for one use. -/
def lockNamed : Option String → Attempt LockRef
  | none => return none
  | some id => do return some (← named World.lockNames "lock" id)

def view (lock : LockRef) : Attempt (Option LockView) := do return (← world).view lock

/-- Refuse to wait for a global lock that is locked. -/
def refuseToWait (lock : LockRef) : Attempt Unit := do
  if ((← world).globalAt lock).isLocked then refuse "would deadlock"

def globalNamed (lock : Option String) : Attempt LockRef := do
  let ref ← lockNamed lock
  if (← world).isGlobal ref then return ref else refuse "not a global lock"

def seize (lock : LockRef) (thread : ThreadId) : Attempt Unit :=
  modify fun w => w.setGlobal lock (((w.globalAt lock).acquire? thread).getD (w.globalAt lock))

def releaseAs (lock : LockRef) (thread : ThreadId) : Run World Bool :=
  GlobalLock.releaseIn thread (World.globalAt lock) (World.setGlobal lock)

def addGuard (id : String) (g : Guard) : Attempt Unit :=
  modify fun w => { w with guards := w.guards ++ [(id, g)] }

namespace Guard

/-- Whether dropping the guard would wait for its lock. -/
def waits (w : World) : Guard → Bool
  | suspension lock released => released && (w.globalAt lock).isLocked
  | hold _ => false

def drop : Guard → Run World Unit
  | suspension lock released => Suspension.drop ⟨runtimeLock lock, released⟩
  | hold lock => Hold.drop ⟨runtimeLock lock⟩

end Guard

def makeLock (id : String) (kind : LockKind) : Attempt Answer := do
  let state : LockState := match kind with
    | .none => .none
    | .recording returns errno => .recording id returns errno
    | .global => .global .free
  let number := (← world).locks.length
  modify fun w =>
    { w with locks := w.locks ++ [state], lockNames := w.lockNames.put id number }
  return .lock (← view (some number))

def takeHold (lock : Option String) (guard : String) : Attempt Answer := do
  let ref ← lockNamed lock
  refuseToWait ref
  let _ ← act (runtimeLock ref).hold
  addGuard guard (.hold ref)
  return .lock (← view ref)

def takeSuspension (lock : Option String) (guard : String) : Attempt Answer := do
  let ref ← lockNamed lock
  let s ← act (runtimeLock ref).suspend
  addGuard guard (.suspension ref s.released)
  return .released (← view ref) s.released

def dropGuard (id : String) : Attempt Answer := do
  let w ← world
  let g ← named World.guards "guard" id
  if g.waits w then refuse "would deadlock"
  modify fun w => { w with guards := w.guards.eraseP fun e => e.1 == id }
  act g.drop
  return .done

def lockState (lock : Option String) : Attempt Answer := do
  let ref ← lockNamed lock
  let w ← world
  let l := w.globalAt ref
  let shared : LockDetails := ⟨l.isHeldBy otherThread, l.debugText⟩
  return .lockState (w.view ref) (if w.isGlobal ref then some shared else none)

def releaseGlobal (lock : Option String) (elsewhere : Bool) : Attempt Answer := do
  let ref ← globalNamed lock
  let released ← act <| releaseAs ref (if elsewhere then otherThread else mainThread)
  return .released (← view ref) released

/-- Let another thread hold a lock while this one tries to give it up. -/
def otherHolds (lock : Option String) : Attempt Answer := do
  let ref ← globalNamed lock
  refuseToWait ref
  seize ref otherThread
  let seen : Attempt LockView := do return ((← view ref).getD ⟨false, false⟩)
  let during ← seen
  let released ← act <| releaseAs ref mainThread
  let s ← act (runtimeLock ref).suspend
  act s.drop
  let theirs ← act <| releaseAs ref otherThread
  return .otherHeld during (← seen) released s.released theirs

def nativeFailure : Panic := .raised "native call failed"

/-- Take a guard and let a panic drop it. -/
def panicIn (lock : Option String) (kind : GuardKind) : Attempt Answer := do
  let ref ← lockNamed lock
  let token := runtimeLock ref
  let failing : Run World Unit := Run.panic nativeFailure
  match kind with
  | .suspend => do let _ ← act (token.suspendedIf true failing).catchPanic
  | .hold => do
    refuseToWait ref
    let _ ← act (token.heldIf true failing).catchPanic
  return .unwound nativeFailure (← view ref)

end Session

end CallBridge
