/-
How argument values travel from a caller to a trampoline.

Small arguments travel in registers, eight bytes in each, and the rest in memory.  Eight
bytes that hold a single float and nothing else travel as that float alone, so what
stood beside it does not arrive.  Everything else arrives as it was sent.
-/
import CallBridge.Bytes
import CallBridge.Signature.Prepared

namespace CallBridge

namespace Passing

/-- The registers that eight bytes of an argument travel in. -/
inductive Word where
  | general
  | vector
  /-- A vector register that carries one float and no more. -/
  | loneFloat
  /-- Padding alone takes no register. -/
  | idle
deriving DecidableEq, Repr

def floatKind : Nat := 2
def doubleKind : Nat := 3
def extendedKind : Nat := 4

def registerBytes : Nat := 16

/-- The way of the eight bytes from `start` on, by the parts that lie in them. -/
def wordOf (fields : List Field) (start : Nat) : Word :=
  match fields.filter fun f => f.offset < start + 8 && start < f.offset + f.size with
  | [] => .idle
  | [f] =>
    if f.kind = floatKind then if f.offset = start then .loneFloat else .vector
    else if f.kind = doubleKind then .vector
    else .general
  | inside =>
    if inside.all fun f => f.kind == floatKind || f.kind == doubleKind then .vector else .general

/-- The words of an argument, or nothing if it always travels in memory. -/
def words? (t : TypeToken) : Option (List Word) :=
  let fields := TypeToken.fieldsAt 0 t
  if t.size > registerBytes || fields.any (·.kind == extendedKind) then none
  else some ((List.range ((t.size + 7) / 8)).map fun k => wordOf fields (8 * k))

/-- The bytes of a word as they arrive. -/
def arrived (w : Word) (bs : Bytes) : Bytes :=
  if w = .loneFloat then bs.take 4 ++ Bytes.zeros (bs.length - 4) else bs

/-- An argument as it arrives, word by word. -/
def arrivedAll : List Word → Bytes → Bytes
  | [], bs => bs
  | w :: rest, bs => arrived w (bs.take 8) ++ arrivedAll rest (bs.drop 8)

/-- Arguments as they arrive, with some registers left for them.  An argument that does
not fit into those travels in memory and leaves them to later ones. -/
def carryAll (general vector : Nat) : List (TypeToken × Bytes) → List Bytes
  | [] => []
  | (t, bs) :: rest =>
    match words? t with
    | none => bs :: carryAll general vector rest
    | some words =>
      let g := words.count .general
      let v := words.count .vector + words.count .loneFloat
      if g ≤ general && v ≤ vector then
        arrivedAll words bs :: carryAll (general - g) (vector - v) rest
      else bs :: carryAll general vector rest

/-- The argument values that a trampoline with this specification is handed.  A result
in memory costs a register for its address.  Only the platform's own convention splits
arguments over registers. -/
def carry (spec : Prepared) (sent : List Bytes) : List Bytes :=
  if spec.abi.number = 2 then
    let inMemory := spec.returnType.kind == TypeToken.structKind.toNat && (words? spec.returnType).isNone
    let general := if inMemory then 5 else 6
    carryAll general 8 (spec.arguments.zip sent)
  else sent

end Passing

end CallBridge
