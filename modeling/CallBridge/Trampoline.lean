/-
Native entry points that call managed functions.

A trampoline carries only a key.  It is resolved afresh at every firing, so the managed
function can be reclaimed while native code still holds the address.  Native frames
cannot unwind, so a panic or an arity mismatch inside one ends the process.
-/
import CallBridge.Expiry
import CallBridge.Lock.Token
import CallBridge.Managed
import CallBridge.Registry
import CallBridge.Invoke
import CallBridge.Passing

namespace CallBridge

variable {σ : Type}

/-- What a trampoline does when its key no longer resolves. -/
abbrev ExpiredHook (σ : Type) := FunctionKey → Run σ Unit

namespace ExpiryPolicy

/-- The reaction itself: both say so in the log, one of them for the last time. -/
def hook [Journal σ] (policy : ExpiryPolicy) : ExpiredHook σ := fun key => do
  let expired := (Error.expiredClosure key).message
  match policy with
  | abort =>
    Run.log .error s!"{expired}; aborting" [("key", .text (toString key))]
    Run.halt .abort
  | ignore => Run.log .warn s!"{expired}; returning zero" [("key", .text (toString key))]

end ExpiryPolicy

/-- A resolver that asks a registry of the world, at the moment it is asked. -/
def Registry.resolver {κ φ : Type} (get : σ → Registry φ) (function : φ → ManagedFunction σ κ)
    (key : FunctionKey) : Run σ (Option (ManagedFunction σ κ)) := do
  return ((get (← Run.getWorld)).resolve? key).map function

structure Closure (σ κ : Type) where
  key : FunctionKey
  spec : Prepared
  lock : RuntimeLock σ
  resolve? : FunctionKey → Run σ (Option (ManagedFunction σ κ))
  onExpired : ExpiredHook σ

/-- A number as a full word, with or without its sign. -/
def extended (signed : Bool) (number : Bytes) : Bytes :=
  if signed then Bytes.ofInt 8 (Bytes.toInt number) else Bytes.ofNat 8 (Bytes.toNat number)

/-- Sign- or zero-extend a narrow result to a full word.  `cell` is the word whose first
bytes hold it. -/
def widen (t : TypeToken) (cell : Bytes) : Bytes :=
  match t.size with
  | 1 => extended t.isSigned (cell.take 1)
  | 2 => extended t.isSigned (cell.take 2)
  | 4 => extended t.isSigned (cell.take 4)
  | _ => cell

namespace Closure

variable {κ : Type}

/-- The arguments of a firing as managed code sees them, each by its declared size. -/
def buffers (c : Closure σ κ) (arguments : List Bytes) : List RawBuffer :=
  (c.spec.arguments.zip arguments).map fun (t, bs) => ⟨bs.take t.size⟩

/-- Resolve the key and drive its function, or report it and leave zeros. -/
def answer (c : Closure σ κ) (arguments : List RawBuffer) (result : RawBuffer) :
    Run σ (Except ArityMismatch RawBuffer) := do
  match ← c.resolve? c.key with
  | none =>
    c.onExpired c.key
    return .ok result.zero
  | some f => drive f arguments result

/-- `answer` for arguments as native code passes them. -/
def run (c : Closure σ κ) (arguments : List Bytes) (result : RawBuffer) :
    Run σ (Except ArityMismatch RawBuffer) := c.answer (c.buffers arguments) result

/-- One firing under the lock.  `area` is the native return area.  A narrow integer is
made in a zeroed cell of its own and stored as a full word. -/
def body (c : Closure σ κ) (arguments : List Bytes) (area : Bytes) :
    Run σ (Except ArityMismatch Bytes) := do
  let t := c.spec.returnType
  if t.isNarrowInteger then
    match ← c.run arguments ⟨Bytes.zeros t.size⟩ with
    | .error mismatch => return .error mismatch
    | .ok made => return .ok (widen t (made.bytes.overlay (Bytes.zeros 8)))
  else
    match ← c.run arguments ⟨area.take t.size⟩ with
    | .error mismatch => return .error mismatch
    | .ok made => return .ok made.bytes

variable [Journal σ]

/-- Run a firing to its end.  Native frames cannot unwind, so whatever goes wrong in one
ends the process. -/
def shielded (c : Closure σ κ) (firing : Run σ (Except ArityMismatch Bytes)) : Run σ Bytes := do
  let dying (reason : String) : Run σ Bytes := do
    Run.log .error s!"{reason}; aborting" [("key", .text (toString c.key))]
    Run.halt .abort
  match ← firing.catchPanic with
  | .ok (.ok stored) => return stored
  | .ok (.error mismatch) => dying mismatch.message
  | .error _ => dying "managed callback panicked"

def fire (c : Closure σ κ) (arguments : List Bytes) (area : Bytes) : Run σ Bytes :=
  c.shielded (c.lock.heldIf c.spec.context.releaseLock (c.body arguments area))

/-- The trampoline as a native function whose return area is `area`.  A `void` result is
never stored. -/
def nativeOver (c : Closure σ κ) (area : Bytes) : NativeFunction σ := fun arguments => do
  let stored ← c.fire arguments area
  return if c.spec.returnType.isVoid then [] else stored

def native (c : Closure σ κ) : NativeFunction σ :=
  c.nativeOver (Bytes.zeros (max 8 c.spec.returnType.size))

/-- `nativeOver` as callers reach it: the arguments come as they travel. -/
def entryOver (c : Closure σ κ) (area : Bytes) : NativeFunction σ := fun sent =>
  c.nativeOver area (Passing.carry c.spec sent)

def entry (c : Closure σ κ) : NativeFunction σ :=
  c.entryOver (Bytes.zeros (max 8 c.spec.returnType.size))

end Closure

/-- Makes trampolines that share a resolver, a lock and a reaction to expired keys. -/
structure ClosureFactory (σ κ : Type) where
  lock : RuntimeLock σ
  resolve? : FunctionKey → Run σ (Option (ManagedFunction σ κ))
  onExpired : ExpiredHook σ

namespace ClosureFactory

variable {κ : Type}

/-- The control block of a trampoline with the signature of `spec` that calls the managed
function `key`. -/
def closure (f : ClosureFactory σ κ) (spec : Prepared) (key : FunctionKey) : Closure σ κ :=
  { key, spec, lock := f.lock, resolve? := f.resolve?, onExpired := f.onExpired }

variable [Journal σ]

def make (f : ClosureFactory σ κ) (spec : Prepared) (key : FunctionKey) : Run σ (Closure σ κ) := do
  Run.log .debug "trampoline created"
    [("key", .text (toString key)), ("code", .text "<address>"), ("arity", .number spec.arity)]
  return f.closure spec key

def announceFree (key : FunctionKey) : Run σ Unit :=
  Run.log .debug "freeing trampoline" [("key", .text (toString key))]

end ClosureFactory

def factoryText : String := s!"ClosureFactory \x7b lock: {lockText}, .. \x7d"

def trampolineText (key : FunctionKey) : String :=
  s!"Trampoline \x7b code: FunctionAddress(<address>), key: FunctionKey({key}) \x7d"

end CallBridge
