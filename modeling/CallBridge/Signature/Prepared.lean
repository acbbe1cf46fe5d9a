/-
Prepared call specifications.

Preparing fixes the return type and the calling convention.  The return value follows
the arguments, and a spare word follows it, because a narrow integer result may be
stored as a full word.
-/
import CallBridge.Run
import CallBridge.Signature.Builder

namespace CallBridge

structure Prepared where
  arguments : List TypeToken
  returnType : TypeToken
  /-- Bytes for arguments, return value and the spare word. -/
  bytes : Nat
  returnOffset : Nat
  maxAlignment : Nat
  context : CallContext
  abi : Abi
deriving DecidableEq

namespace Prepared

def arity (p : Prepared) : Nat := p.arguments.length

/-- Whether two specifications describe the same native signature. -/
def sameTypes (p q : Prepared) : Bool :=
  p.arguments == q.arguments && p.returnType == q.returnType

end Prepared

/-- What the call interface accepts: a convention it has, no empty types, and with its
own convention a return type it knows.  Descriptors are assumed to be laid out: an aggregate of
size zero that tells of its elements, whose size the call interface would fill in, is refused. -/
def acceptSignature (abi : Abi) (arguments : List TypeToken) (returnType : TypeToken) :
    Except Error Unit :=
  if !([2, 3, 4].contains abi.number) then .error .badAbi
  else if returnType.size = 0 || arguments.any (·.size == 0) then .error .badTypedef
  else if abi.number = 2 && returnType.kind > TypeToken.lastReturnKind then .error .badTypedef
  else .ok ()

namespace Builder

/-- Offset of the return value and the size of the buffer without its pointer array. -/
def returnPlacement (b : Builder) (returnType : TypeToken) : Except Panic (Nat × Nat) := do
  let returnOffset ← alignUp b.bytes returnType.alignment
  let used ← checkedAdd returnOffset returnType.size
  let padded ← alignUp used pointerSize
  let bytes ← checkedAdd padded pointerSize
  return (returnOffset, bytes)

def prepare (b : Builder) (abi : Abi) (returnType : TypeToken) :
    Except Panic (Except Error Prepared) :=
  match checkAlignment returnType with
  | .error e => .ok (.error e)
  | .ok () => do
    let (returnOffset, bytes) ← b.returnPlacement returnType
    return do
      acceptSignature abi b.arguments returnType
      return {
        arguments := b.arguments, returnType, bytes, returnOffset,
        maxAlignment := b.maxAlignment, context := b.context, abi }

/-- Say how the call interface took a signature.  An alignment is refused before it is
asked, and in silence. -/
def report {σ : Type} [Journal σ] (b : Builder) (abi : Abi) (outcome : Except Error Prepared) :
    Run σ Unit := do
  let shape := [("abi", FieldValue.text abi.debugText), ("arity", .number b.arity)]
  match outcome with
  | .ok p =>
    Run.log .debug "call specification prepared"
      (shape ++ [("bytes", .number p.bytes), ("return_offset", .number p.returnOffset)])
  | .error (.unsupportedAlignment _ _) => return ()
  | .error e => Run.log .debug "ffi_prep_cif failed" (shape ++ [("error", .text e.message)])

def prepareLogged {σ : Type} [Journal σ] (b : Builder) (abi : Abi) (returnType : TypeToken) :
    Run σ (Except Error Prepared) := do
  let outcome ← Run.ofPanic (b.prepare abi returnType)
  b.report abi outcome
  return outcome

end Builder

/-- An error of preparing as its own kind of failure. -/
def Error.prepareMessage (e : Error) : String := s!"failed to prepare call specification: {e.message}"

end CallBridge
