/-
A mutex that remembers its owner.

The mutex and the owner word are apart, and every operation keeps them in step.  `token` is
such a lock kept in the world, as one thread uses it.

An operation is one step here, though it stores the mutex and the word one after the other.  In
between the mutex is locked and the word names nobody, which every other thread takes for a lock
that somebody holds.
-/
import CallBridge.Lock.Token

namespace CallBridge

/-- What tells apart the threads that are alive.  When a thread has ended, its token may come to
another, so a thread that holds the lock is assumed not to end. -/
abbrev ThreadId := Nat

structure GlobalLock where
  locked : Bool
  /-- The thread that the mutex was last locked by, unless it has unlocked it. -/
  owner : Option ThreadId
deriving DecidableEq, Repr

namespace GlobalLock

def free : GlobalLock := ⟨false, none⟩

def heldBy (thread : ThreadId) : GlobalLock := ⟨true, some thread⟩

def isLocked (l : GlobalLock) : Bool := l.locked

def isHeldBy (l : GlobalLock) (thread : ThreadId) : Bool := l.owner == some thread

theorem isHeldBy_heldBy (thread : ThreadId) : (heldBy thread).isHeldBy thread = true :=
  beq_self_eq_true (some thread)

/-- Acquisition completes only on a free lock; `none` is a thread that waits. -/
def acquire? (l : GlobalLock) (thread : ThreadId) : Option GlobalLock :=
  if l.isLocked then none else some (heldBy thread)

/-- Release by a thread.  Only the owner changes anything. -/
def release (l : GlobalLock) (thread : ThreadId) : Bool × GlobalLock :=
  if l.isHeldBy thread then (true, free) else (false, l)

def debugText (l : GlobalLock) : String := s!"GlobalLock \x7b locked: {l.isLocked} \x7d"

/-- Release for a computation: the attempt of a thread that is not the owner is only
noted. -/
def releaseIn {σ : Type} [Journal σ] (thread : ThreadId) (get : σ → GlobalLock)
    (set : GlobalLock → σ → σ) : Run σ Bool := do
  let (released, l) := (get (← Run.getWorld)).release thread
  if released then Run.modifyWorld (set l)
  else Run.log .warn "release of a global lock this thread does not hold" []
  return released

/-- A lock of the world as `thread` uses it.  A thread that would have to wait is
blocked. -/
def token {σ : Type} [Journal σ] (thread : ThreadId) (get : σ → GlobalLock)
    (set : GlobalLock → σ → σ) : RuntimeLock σ where
  acquire := do
    match (get (← Run.getWorld)).acquire? thread with
    | some l => Run.modifyWorld (set l)
    | none => Run.halt .blocked
  release := releaseIn thread get set

section

variable {σ : Type} [Journal σ] (thread : ThreadId) (get : σ → GlobalLock)
  (set : GlobalLock → σ → σ) (t : Thread σ)

theorem token_acquire_apply : (token thread get set).acquire t =
    if (get t.world).isLocked then (.error .blocked, t)
    else (.ok (), { t with world := set (heldBy thread) t.world }) := by
  show (match (get t.world).acquire? thread with
    | some l => Run.modifyWorld (set l)
    | none => Run.halt .blocked : Run σ Unit) t = _
  rw [acquire?]
  split <;> rfl

theorem token_release_apply : (token thread get set).release t =
    if (get t.world).isHeldBy thread then (.ok true, { t with world := set free t.world })
    else (.ok false, t.logged .warn "release of a global lock this thread does not hold" []) := by
  show (do
    let (released, l) := (get t.world).release thread
    if released then Run.modifyWorld (set l)
    else Run.log .warn "release of a global lock this thread does not hold" []
    return released : Run σ Bool) t = _
  rw [GlobalLock.release]
  split <;> rfl

end

end GlobalLock

end CallBridge
