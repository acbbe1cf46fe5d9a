/-
Managed functions and how they are driven.

One invocation opens a call, hands it the arguments one at a time in order, and then
the result buffer.  A buffer is passed by its bytes; a step that writes answers with
the buffer as it left it.
-/
import CallBridge.Bytes
import CallBridge.Error
import CallBridge.Run

namespace CallBridge

/-- Native memory handed to managed code: one argument or the return slot. -/
structure RawBuffer where
  bytes : Bytes
deriving DecidableEq

namespace RawBuffer

def size (b : RawBuffer) : Nat := b.bytes.length

def read (b : RawBuffer) (count : Nat) : Except Error Bytes :=
  if count > b.size then .error (.outOfBounds count b.size) else .ok (b.bytes.take count)

def write (b : RawBuffer) (data : Bytes) : Except Error RawBuffer :=
  if data.length > b.size then .error (.outOfBounds data.length b.size)
  else .ok ⟨data.overlay b.bytes⟩

def zero (b : RawBuffer) : RawBuffer := ⟨Bytes.zeros b.size⟩

theorem size_zero (b : RawBuffer) : b.zero.size = b.size := Bytes.length_zeros b.size

theorem size_write {b written : RawBuffer} {data : Bytes} (h : b.write data = .ok written) :
    written.size = b.size := by
  unfold write at h
  split at h
  · cases h
  · cases h
    exact Bytes.length_overlay (by unfold size at *; omega)

/-- Work on a buffer may change its bytes but not how many there are. -/
def KeepsSize {σ : Type} (work : RawBuffer → Run σ RawBuffer) : Prop :=
  ∀ result made t t', work result t = (.ok made, t') → made.size = result.size

end RawBuffer

/-- A function that native code can call through a trampoline.  `κ` is the state of one
invocation: it is made by `start` and handed on from step to step. -/
structure ManagedFunction (σ κ : Type) where
  arity : Nat
  start : Run σ κ
  apply : κ → Nat → RawBuffer → Run σ κ
  finish : κ → RawBuffer → Run σ RawBuffer
  finish_keepsSize : ∀ call, RawBuffer.KeepsSize (finish call)

namespace ManagedFunction

variable {σ κ : Type}

/-- Hand over the arguments from number `index` on. -/
def applyFrom (f : ManagedFunction σ κ) (call : κ) (index : Nat) : List RawBuffer → Run σ κ
  | [] => return call
  | argument :: rest => do
    let call ← f.apply call index argument
    f.applyFrom call (index + 1) rest

/-- A managed function from one that sees all arguments at once. -/
def collecting (arity : Nat) (function : List RawBuffer → RawBuffer → Run σ RawBuffer)
    (keeps : ∀ arguments, RawBuffer.KeepsSize (function arguments)) :
    ManagedFunction σ (List RawBuffer) where
  arity := arity
  start := return []
  apply := fun call _ argument => return call ++ [argument]
  finish := fun call result => function call result
  finish_keepsSize := keeps

def call (f : ManagedFunction σ κ) (arguments : List RawBuffer) (result : RawBuffer) :
    Run σ RawBuffer := do
  let call ← f.start
  let call ← f.applyFrom call 0 arguments
  f.finish call result

theorem call_size {f : ManagedFunction σ κ} {arguments : List RawBuffer} {result made : RawBuffer}
    {t t' : Thread σ} (h : f.call arguments result t = (.ok made, t')) :
    made.size = result.size := by
  obtain ⟨_, _, -, h⟩ := Run.bind_eq_ok h
  obtain ⟨call, u, -, h⟩ := Run.bind_eq_ok h
  exact f.finish_keepsSize call result made u t' h

end ManagedFunction

def drive {σ κ : Type} (f : ManagedFunction σ κ) (arguments : List RawBuffer)
    (result : RawBuffer) : Run σ (Except ArityMismatch RawBuffer) := do
  if f.arity ≠ arguments.length then
    return .error ⟨arguments.length, f.arity⟩
  else
    return .ok (← f.call arguments result)

/-- A drive that returns leaves a result buffer of the size it got. -/
theorem drive_size {σ κ : Type} {f : ManagedFunction σ κ} {arguments : List RawBuffer}
    {result made : RawBuffer} {t t' : Thread σ}
    (h : drive f arguments result t = (.ok (.ok made), t')) : made.size = result.size := by
  unfold drive at h
  split at h
  · cases h
  · obtain ⟨made', u, hcall, h⟩ := Run.bind_eq_ok h
    cases h
    exact ManagedFunction.call_size hcall

end CallBridge
