/-
What a session has made so far.

Everything in the world is plain data.  Locks are kept by number, so that a name can be
given to a new lock while guards and factories still hold the old one.
-/
import CallBridge.Lock.Global
import CallBridge.Registry
import CallBridge.Session.Answer
import CallBridge.Session.Memory

namespace CallBridge

namespace Session

/-- Values under names.  A later value of a name replaces the earlier one. -/
abbrev Shelf (α : Type) := List (String × α)

namespace Shelf

variable {α : Type}

def erase (s : Shelf α) (id : String) : Shelf α := s.filter fun e => e.1 != id

def put (s : Shelf α) (id : String) (a : α) : Shelf α := s.erase id ++ [(id, a)]

end Shelf

inductive LockState where
  | none
  | recording (id : String) (returns : Bool) (errno : Option Int)
  | global (l : GlobalLock)

/-- A lock as the world refers to it; `none` is a lock made for one use. -/
abbrev LockRef := Option Nat

inductive Guard where
  | suspension (lock : LockRef) (released : Bool)
  | hold (lock : LockRef)

structure FactoryRecord where
  lock : LockRef
  reaction : Reaction

/-- The control block behind a code id. -/
structure CodeRecord where
  factory : FactoryRecord
  spec : Prepared
  key : FunctionKey

inductive Callee where
  | missing
  | native (name : String)
  | code (c : CodeRecord)

/-- A callee under its name, bound to a specification. -/
structure BoundFunction where
  spec : Prepared
  name : String
  callee : Callee

namespace BoundFunction

/-- Bind a callee.  There must be something to bind. -/
def create (spec : Prepared) (name : String) : Callee → Except Error BoundFunction
  | .missing => .error (.nullFunction name)
  | callee => .ok ⟨spec, name, callee⟩

end BoundFunction

structure World where
  logging : Bool
  events : List Event
  memory : Memory
  serial : Nat
  builders : Shelf Builder
  prepared : Shelf Prepared
  handles : Shelf Handle
  registry : Registry (FunctionScript Step)
  locks : List LockState
  lockNames : Shelf Nat
  /-- Open guards, oldest first. -/
  guards : List (String × Guard)
  factories : Shelf FactoryRecord
  trampolines : Shelf FunctionKey
  codes : Shelf CodeRecord
  bound : Shelf BoundFunction
  /-- The lock given to the call that was started last. -/
  lastLock : LockRef
  /-- Writer results of the open calls, the innermost first. -/
  written : List (List WriteResult)

namespace World

def start (logging : Bool) : World where
  logging := logging
  events := []
  memory := .empty
  serial := 0
  builders := []
  prepared := []
  handles := []
  registry := .empty
  locks := []
  lockNames := []
  guards := []
  factories := []
  trampolines := []
  codes := []
  bound := []
  lastLock := none
  written := []

def addEvent (e : Event) (w : World) : World := { w with events := w.events ++ [e] }

instance : Journal World :=
  ⟨fun record w => if w.logging then w.addEvent (.logged record) else w⟩

def lockAt (w : World) (lock : LockRef) : LockState := (lock.bind (w.locks[·]?)).getD .none

/-- The state of a global lock; what is not one counts as free. -/
def globalAt (lock : LockRef) (w : World) : GlobalLock :=
  match w.lockAt lock with
  | .global l => l
  | _ => .free

def setGlobal (lock : LockRef) (l : GlobalLock) (w : World) : World :=
  match lock with
  | some n => { w with locks := w.locks.set n (.global l) }
  | none => w

def isGlobal (w : World) (lock : LockRef) : Bool :=
  match w.lockAt lock with
  | .global _ => true
  | _ => false

end World

/-- The thread that plays the script, and another one. -/
def mainThread : ThreadId := 1
def otherThread : ThreadId := 2

def emit (e : Event) : Run World Unit := Run.modifyWorld (World.addEvent e)

/-- What the thread of the script sees of a lock. -/
def World.view (w : World) (lock : LockRef) : Option LockView :=
  match w.lockAt lock with
  | .global l => some ⟨l.isLocked, l.isHeldBy mainThread⟩
  | _ => none

/-- A transition of a recording lock: it shows, and then may disturb errno. -/
def record (id : String) (acquired : Bool) (errno : Option Int) : Run World Unit := do
  emit (.lock id acquired)
  errno.forM Run.setErrno

/-- A lock of the world as calls use it. -/
def runtimeLock (lock : LockRef) : RuntimeLock World :=
  let shared := GlobalLock.token mainThread (World.globalAt lock) (World.setGlobal lock)
  { acquire := do
      match (← Run.getWorld).lockAt lock with
      | .none => RuntimeLock.none.acquire
      | .recording id _ errno => record id true errno
      | .global _ => shared.acquire
    release := do
      match (← Run.getWorld).lockAt lock with
      | .none => RuntimeLock.none.release
      | .recording id returns errno =>
        record id false errno
        return returns
      | .global _ => shared.release }

end Session

end CallBridge
