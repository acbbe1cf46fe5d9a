/-
A call specification under construction.

Arguments are placed as they are appended, one step of `placeFrom` each.  A step that
fails, with an error or a panic, leaves the builder as it was: it returns no builder.
-/
import CallBridge.Abi
import CallBridge.Layout
import CallBridge.TypeToken

namespace CallBridge

/-- The largest argument alignment the call buffer honours. -/
def maxAlignment : Nat := 16

def pointerSize : Nat := 8

structure Builder where
  arguments : List TypeToken
  /-- Bytes needed so far for the packed, aligned arguments. -/
  bytes : Nat
  maxAlignment : Nat
  context : CallContext
deriving DecidableEq

namespace Builder

def empty (context : CallContext) : Builder := ⟨[], 0, 0, context⟩

def arity (b : Builder) : Nat := b.arguments.length

/-- The call buffer starts at a multiple of `maxAlignment` and can promise no more. -/
def checkAlignment (t : TypeToken) : Except Error Unit :=
  if t.alignment > CallBridge.maxAlignment then
    .error (.unsupportedAlignment t.alignment CallBridge.maxAlignment)
  else .ok ()

/-- Append the next argument; the answer is its offset and the grown builder. -/
def append (b : Builder) (t : TypeToken) : Except Panic (Except Error (Nat × Builder)) :=
  match checkAlignment t with
  | .error e => .ok (.error e)
  | .ok () => do
    let offset ← alignUp b.bytes t.alignment
    let bytes ← checkedAdd offset t.size
    let grown : Builder :=
      { b with
        arguments := b.arguments ++ [t], bytes,
        maxAlignment := max b.maxAlignment t.alignment }
    return .ok (offset, grown)

/-- `append` as whoever holds the builder sees it: an attempt that fails, with an error or
a panic, leaves the builder. -/
def offer (b : Builder) (t : TypeToken) : Except Panic (Except Error Nat) × Builder :=
  match b.append t with
  | .ok (.ok (offset, grown)) => (.ok (.ok offset), grown)
  | .ok (.error e) => (.ok (.error e), b)
  | .error p => (.error p, b)

def debugText (b : Builder) : String :=
  let arguments := Text.bracketed (b.arguments.map TypeToken.debugText)
  let context := b.context.debugText
  let bytes := s!"bytes: {b.bytes}, max_alignment: {b.maxAlignment}"
  s!"CallSpecBuilder \x7b arguments: {arguments}, {bytes}, context: {context} \x7d"

end Builder

end CallBridge
