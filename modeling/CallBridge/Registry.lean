/-
Keys for managed functions.

Keys are handed out in increasing order and, while there are words left, never again.  So
a trampoline that outlives its function finds nothing rather than another function.
-/

namespace CallBridge

abbrev FunctionKey := Nat

/-- Live functions by key, and the key that comes next. -/
structure Registry (φ : Type) where
  next : FunctionKey
  functions : List (FunctionKey × φ)

namespace Registry

variable {φ : Type}

/-- Keys are words; the one after the last is zero again. -/
def keyLimit : Nat := UInt64.size

def empty : Registry φ := ⟨1, []⟩

def resolve? (r : Registry φ) (key : FunctionKey) : Option φ := r.functions.lookup key

def contains (r : Registry φ) (key : FunctionKey) : Bool := (r.resolve? key).isSome

def size (r : Registry φ) : Nat := r.functions.length

/-- Keep a function under the next key, in place of whatever that key had. -/
def register (r : Registry φ) (f : φ) : FunctionKey × Registry φ :=
  let others := r.functions.filter fun e => e.1 != r.next
  (r.next, ⟨(r.next + 1) % keyLimit, others ++ [(r.next, f)]⟩)

/-- Remove a function; trampolines of its key are expired from now on. -/
def revoke (r : Registry φ) (key : FunctionKey) : Option φ × Registry φ :=
  (r.resolve? key, { r with functions := r.functions.filter fun e => e.1 != key })

def debugText (r : Registry φ) : String := s!"KeyRegistry \x7b registered: {r.size} \x7d"

end Registry

end CallBridge
