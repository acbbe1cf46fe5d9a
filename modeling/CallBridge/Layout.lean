/-
Placement of values in a call buffer.

Sizes and offsets are machine words.  They are computed as natural numbers, and a sum
past the word range ends in a panic, so that a result is always the true one.
-/
import CallBridge.Halt

namespace CallBridge

/-- Sizes and offsets stay below this bound. -/
def wordLimit : Nat := UInt64.size

/-- The sum of two word quantities, or a panic where it does not fit. -/
def checkedAdd (a b : Nat) : Except Panic Nat :=
  if a + b < wordLimit then .ok (a + b) else .error .overflow

/-- Round `offset` up to the next multiple of `alignment`. -/
def alignUp (offset alignment : Nat) : Except Panic Nat :=
  if alignment = 0 then .error .zeroAlignment
  else if offset % alignment = 0 then .ok offset
  else checkedAdd (offset - offset % alignment) alignment

theorem checkedAdd_eq_ok {a b c : Nat} : checkedAdd a b = .ok c ↔ c = a + b ∧ a + b < wordLimit := by
  unfold checkedAdd
  split <;> simp_all [eq_comm]

/-- Position of one value inside a call buffer. -/
structure Slot where
  offset : Nat
  size : Nat
  alignment : Nat
deriving DecidableEq, Repr

namespace Slot

def stop (s : Slot) : Except Panic Nat := checkedAdd s.offset s.size

end Slot

/-- Place `(size, alignment)` shapes in order from `offset` on, each at the next aligned
offset. -/
def placeFrom (offset : Nat) : List (Nat × Nat) → Except Panic (List Slot)
  | [] => .ok []
  | (size, alignment) :: rest => do
    let start ← alignUp offset alignment
    let slot : Slot := ⟨start, size, alignment⟩
    let next ← slot.stop
    let slots ← placeFrom next rest
    return slot :: slots

def layout (shapes : List (Nat × Nat)) : Except Panic (List Slot) := placeFrom 0 shapes

end CallBridge
