/-
Descriptions of the values that cross a call.

A `Descriptor` is the record the type layer hands over: size, alignment and a type
code.  A `TypeToken` is a descriptor that may be used, together with its identity: two
tokens are the same only if they name the same descriptor, whatever the sizes say.
-/
import CallBridge.Error

namespace CallBridge

structure Field where
  offset : Nat
  size : Nat
  kind : Nat
deriving DecidableEq, Repr

/-- Size, alignment and type code as the type layer stores them, and the parts of an
aggregate if it has told of them. -/
structure Descriptor where
  size : UInt64
  alignment : UInt16
  kind : UInt16
  fields : List Field
deriving DecidableEq, Repr

/-- Which descriptor a token names: a standing one, by its type code, or one made by
the type layer, by the order of creation. -/
inductive Origin where
  | builtin (kind : UInt16)
  | custom (serial : Nat)
deriving DecidableEq, Repr

/-- A usable descriptor.  Its alignment is never zero. -/
structure TypeToken where
  descriptor : Descriptor
  origin : Origin
  aligned : descriptor.alignment ≠ 0
deriving DecidableEq

namespace TypeToken

/-- The largest type code that the call interface knows a return convention for. -/
def lastReturnKind : Nat := 17

def size (t : TypeToken) : Nat := t.descriptor.size.toNat

def alignment (t : TypeToken) : Nat := t.descriptor.alignment.toNat

def kind (t : TypeToken) : Nat := t.descriptor.kind.toNat

/-- What placing a value of the type needs to know. -/
def shape (t : TypeToken) : Nat × Nat := (t.size, t.alignment)

theorem alignment_pos (t : TypeToken) : 0 < t.alignment :=
  Nat.pos_of_ne_zero fun h => t.aligned (UInt16.toNat_inj.mp h)

/-- Accept a descriptor of the type layer; `none` is a missing one. -/
def ofDescriptor (serial : Nat) : Option Descriptor → Except Error TypeToken
  | none => .error (.invalidType "null type descriptor")
  | some d =>
    if h : d.alignment ≠ 0 then .ok ⟨d, .custom serial, h⟩
    else .error (.invalidType "type descriptor at <address> has zero alignment")

def standing (size : UInt64) (alignment kind : UInt16) (h : alignment ≠ 0) : TypeToken :=
  ⟨⟨size, alignment, kind, []⟩, .builtin kind, h⟩

def void : TypeToken := standing 1 1 0 (by decide)
def uint8 : TypeToken := standing 1 1 5 (by decide)
def sint8 : TypeToken := standing 1 1 6 (by decide)
def uint16 : TypeToken := standing 2 2 7 (by decide)
def sint16 : TypeToken := standing 2 2 8 (by decide)
def uint32 : TypeToken := standing 4 4 9 (by decide)
def sint32 : TypeToken := standing 4 4 10 (by decide)
def uint64 : TypeToken := standing 8 8 11 (by decide)
def sint64 : TypeToken := standing 8 8 12 (by decide)
def float : TypeToken := standing 4 4 2 (by decide)
def double : TypeToken := standing 8 8 3 (by decide)
def pointer : TypeToken := standing 8 8 14 (by decide)

def structKind : UInt16 := 13

/-- An integer narrower than a word.  Such results travel as a full word. -/
def isNarrowInteger (t : TypeToken) : Bool :=
  [1, 5, 6, 7, 8, 9, 10].contains t.kind && t.size < 8

theorem size_of_narrow {t : TypeToken} (h : t.isNarrowInteger = true) : t.size < 8 :=
  of_decide_eq_true (Bool.and_eq_true_iff.mp h).2

def isSigned (t : TypeToken) : Bool := [1, 6, 8, 10, 12].contains t.kind

/-- `void` results are never stored. -/
def isVoid (t : TypeToken) : Bool := t.kind == 0

/-- The parts of a member at `offset`.  A member that tells of none is a part itself. -/
def fieldsAt (offset : Nat) (t : TypeToken) : List Field :=
  match t.descriptor.fields with
  | [] => [⟨offset, t.size, t.kind⟩]
  | fields => fields.map fun f => { f with offset := offset + f.offset }

/-- The aggregate of some members by the rules of C: each at its alignment, the whole
padded to the largest of them. -/
def aggregate (members : List TypeToken) : Descriptor :=
  let roundUp (n a : Nat) : Nat := (n + a - 1) / a * a
  let alignment := members.foldl (fun a t => max a t.alignment) 1
  let (used, fields) := members.foldl (fun (used, fields) t =>
    let offset := roundUp used t.alignment
    (offset + t.size, fields ++ t.fieldsAt offset)) (0, [])
  ⟨UInt64.ofNat (roundUp used alignment), UInt16.ofNat alignment, structKind, fields⟩

def debugText (t : TypeToken) : String :=
  s!"TypeToken \x7b size: {t.size}, alignment: {t.alignment} \x7d"

end TypeToken

end CallBridge
