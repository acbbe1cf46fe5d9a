/-
Memory outside of call buffers.

Blocks are handed out at increasing addresses, multiples of sixteen, and stay.
-/
import CallBridge.Bytes

namespace CallBridge

namespace Session

structure Memory where
  next : Nat
  blocks : List (Nat × Bytes)

namespace Memory

def empty : Memory := ⟨65536, []⟩

/-- Set `count` bytes aside; the answer is their address. -/
def reserve (m : Memory) (count : Nat) : Nat × Memory :=
  (m.next, { m with next := m.next + (count / 16 + 1) * 16 })

/-- Keep some bytes; the answer is their address. -/
def store (m : Memory) (bs : Bytes) : Nat × Memory :=
  let (address, m) := m.reserve bs.length
  (address, { m with blocks := (address, bs) :: m.blocks })

def tail (m : Memory) (address : Nat) : Bytes :=
  match m.blocks.find? fun b => b.1 ≤ address && address < b.1 + b.2.length with
  | some (start, bs) => bs.drop (address - start)
  | none => []

def load (m : Memory) (address count : Nat) : Bytes := (m.tail address).take count

/-- The text at an address, without the NUL that ends it. -/
def text (m : Memory) (address : Nat) : Bytes := (m.tail address).takeWhile (· != 0)

end Memory

end Session

end CallBridge
