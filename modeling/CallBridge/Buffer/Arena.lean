/-
The call buffer: arguments, return value, a spare word and the pointer array.

  | arg 0 | pad | arg 1 | ... | pad | return | pad | spare word | ptr 0 | ptr 1 | ... |

Access goes through slots and is bounds-checked.  Filling the pointer array is the
last step before a call.
-/
import CallBridge.Bytes
import CallBridge.Signature.Prepared

namespace CallBridge

structure Arena where
  bytes : Bytes
  arguments : List Slot
  returnSlot : Slot
  pointerArray : Nat
deriving DecidableEq

namespace Arena

/-- Buffers of up to this many bytes stay on the stack. -/
def inlineBytes : Nat := 256

/-- A zeroed buffer laid out for `spec`. -/
def forSpec (spec : Prepared) : Except Panic Arena := do
  let pointerArray ← alignUp spec.bytes pointerSize
  let length ← checkedAdd pointerArray (spec.arity * pointerSize)
  let arguments ← layout (spec.arguments.map TypeToken.shape)
  return {
    bytes := Bytes.zeros length, arguments, pointerArray,
    returnSlot := ⟨spec.returnOffset, spec.returnType.size, spec.returnType.alignment⟩ }

/-- Total size in bytes, pointer array included. -/
def size (a : Arena) : Nat := a.bytes.length

def arity (a : Arena) : Nat := a.arguments.length

def spilled (a : Arena) : Bool := a.size > inlineBytes

def argumentSlot (a : Arena) (index : Nat) : Except Error Slot :=
  match a.arguments[index]? with
  | some slot => .ok slot
  | none => .error (.argumentIndex index a.arity)

/-- The bytes covered by one of the buffer's own slots, whose end is a word. -/
def read (a : Arena) (slot : Slot) : Except Error Bytes :=
  if slot.offset + slot.size ≤ a.size then .ok (a.bytes.slice slot.offset slot.size)
  else .error (.outOfBounds (slot.offset + slot.size) a.size)

/-- Replace the first bytes of `slot` by as much of `data` as it holds. -/
def fill (a : Arena) (slot : Slot) (data : Bytes) : Except Error Arena :=
  if slot.offset + slot.size ≤ a.size then
    .ok { a with bytes := a.bytes.splice slot.offset (data.take slot.size) }
  else .error (.outOfBounds (slot.offset + slot.size) a.size)

/-- The bytes covered by any descriptor.  One whose end is no word panics. -/
def slotBytes (a : Arena) (slot : Slot) : Except Panic (Except Error Bytes) := do
  let _ ← slot.stop
  return a.read slot

def fillSlot (a : Arena) (slot : Slot) (data : Bytes) : Except Panic (Except Error Arena) := do
  let _ ← slot.stop
  return a.fill slot data

/-- The address stored for an argument: its redirect, or its own place in the buffer. -/
def argumentAddress (base : Nat) (slot : Slot) (redirect : Option Nat) : Nat :=
  redirect.getD (base + slot.offset)

/-- The pointer array as it is stored, for a buffer at address `base`. -/
def pointers (a : Arena) (base : Nat) (redirects : List (Option Nat)) : Bytes :=
  (a.arguments.zipIdx.map fun (slot, index) =>
    Bytes.ofNat pointerSize (argumentAddress base slot (redirects[index]?.join))).flatten

/-- What a call is told of its buffer: the addresses of the return slot and of the pointer
array. -/
structure Binding where
  returnAddress : Nat
  pointerAddress : Nat
deriving DecidableEq

/-- Fill the pointer array of a buffer at address `base`. -/
def bind (a : Arena) (base : Nat) (redirects : List (Option Nat)) : Arena × Binding :=
  ({ a with bytes := a.bytes.splice a.pointerArray (a.pointers base redirects) },
    ⟨base + a.returnSlot.offset, base + a.pointerArray⟩)

/-- Store a native result at the return slot.  Nothing past the spare word changes. -/
def storeResult (a : Arena) (result : Bytes) : Arena :=
  { a with
    bytes := a.bytes.splice a.returnSlot.offset
      (result.take (a.pointerArray - a.returnSlot.offset)) }

end Arena

end CallBridge
