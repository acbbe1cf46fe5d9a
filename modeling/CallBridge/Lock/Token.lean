/-
The runtime's execution lock, as calls see it.

Foreign calls may give the lock up while native code runs, and trampolines take it back
while managed code runs.  Both go through a token and a guard; dropping the guard undoes
what taking it did, also when a panic unwinds.
-/
import CallBridge.Run

namespace CallBridge

/-- Shared handle to a lock.  `release` answers whether the calling thread held it; if
it did not, nothing changes. -/
structure RuntimeLock (σ : Type) where
  acquire : Run σ Unit
  release : Run σ Bool

def lockText : String := "RuntimeLock(..)"

/-- The lock is given up while this guard lives. -/
structure Suspension (σ : Type) where
  lock : RuntimeLock σ
  /-- Whether the suspension actually gave the lock up. -/
  released : Bool

/-- The lock is held while this guard lives. -/
structure Hold (σ : Type) where
  lock : RuntimeLock σ

namespace RuntimeLock

variable {σ α : Type}

def none : RuntimeLock σ := ⟨pure (), pure true⟩

variable [Journal σ]

def suspend (lock : RuntimeLock σ) : Run σ (Suspension σ) := do
  Run.log .trace "releasing runtime lock" []
  let released ← lock.release
  return ⟨lock, released⟩

def hold (lock : RuntimeLock σ) : Run σ (Hold σ) := do
  Run.log .trace "acquiring runtime lock" []
  lock.acquire
  return ⟨lock⟩

end RuntimeLock

variable {σ α : Type} [Journal σ]

/-- Drop a suspension: it takes back only what it gave up. -/
def Suspension.drop (s : Suspension σ) : Run σ Unit := do
  if s.released then
    Run.log .trace "reacquiring runtime lock" []
    s.lock.acquire

def Hold.drop (h : Hold σ) : Run σ Unit := do
  Run.log .trace "releasing runtime lock after callback" []
  let _ ← h.lock.release

namespace RuntimeLock

/-- A suspension taken at `t`, if the lock answers. -/
theorem suspend_apply (lock : RuntimeLock σ) {t u : Thread σ} {released : Bool}
    (h : lock.release (t.logged .trace "releasing runtime lock" []) = (.ok released, u)) :
    lock.suspend t = (.ok ⟨lock, released⟩, u) :=
  (Run.bind_of_ok rfl).trans (Run.bind_of_ok h)

theorem hold_apply (lock : RuntimeLock σ) {t u : Thread σ}
    (h : lock.acquire (t.logged .trace "acquiring runtime lock" []) = (.ok (), u)) :
    lock.hold t = (.ok ⟨lock⟩, u) :=
  (Run.bind_of_ok rfl).trans (Run.bind_of_ok h)

/-- Run `body` with the lock given up if `flag` asks for it. -/
def suspendedIf (lock : RuntimeLock σ) (flag : Bool) (body : Run σ α) : Run σ α := do
  if flag then
    let guard ← lock.suspend
    body.guarded guard.drop
  else body

/-- Run `body` with the lock held if `flag` asks for it. -/
def heldIf (lock : RuntimeLock σ) (flag : Bool) (body : Run σ α) : Run σ α := do
  if flag then
    let guard ← lock.hold
    body.guarded guard.drop
  else body

theorem suspendedIf_map {β : Type} (lock : RuntimeLock σ) (flag : Bool) (g : α → β)
    (body : Run σ α) : lock.suspendedIf flag (g <$> body) = g <$> lock.suspendedIf flag body := by
  cases flag with
  | false => rfl
  | true =>
    show (lock.suspend >>= fun guard => (g <$> body).guarded guard.drop) =
      g <$> (lock.suspend >>= fun guard => body.guarded guard.drop)
    rw [map_bind]
    simp only [Run.guarded_map]

theorem heldIf_map {β : Type} (lock : RuntimeLock σ) (flag : Bool) (g : α → β) (body : Run σ α) :
    lock.heldIf flag (g <$> body) = g <$> lock.heldIf flag body := by
  cases flag with
  | false => rfl
  | true =>
    show (lock.hold >>= fun guard => (g <$> body).guarded guard.drop) =
      g <$> (lock.hold >>= fun guard => body.guarded guard.drop)
    rw [map_bind]
    simp only [Run.guarded_map]

theorem heldIf_eq_ok {lock : RuntimeLock σ} {flag : Bool} {body : Run σ α} {t t' : Thread σ} {a : α}
    (h : lock.heldIf flag body t = (.ok a, t')) : ∃ u u', body u = (.ok a, u') := by
  cases flag with
  | false => exact ⟨t, t', h⟩
  | true =>
    obtain ⟨guard, u, -, h⟩ := Run.bind_eq_ok h
    obtain ⟨u', h, -⟩ := Run.guarded_eq_ok h
    exact ⟨u, u', h⟩

end RuntimeLock

end CallBridge
