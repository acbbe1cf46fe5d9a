/-
Writing argument values.

A writer fills argument slots in place or attaches external text, which travels by
address.  An operation that fails returns no writer, so nothing has changed.
-/
import CallBridge.Buffer.Arena

namespace CallBridge

/-- NUL-terminated text owned outside the buffer, at its address. -/
structure ExternalText where
  address : Nat
  text : Bytes
deriving DecidableEq

/-- An argument that refers to external bytes from `offset` on. -/
structure ExternalArgument where
  source : ExternalText
  offset : Nat
deriving DecidableEq

namespace ExternalArgument

def address (e : ExternalArgument) : Nat := e.source.address + e.offset

end ExternalArgument

structure ArgumentWriter where
  arena : Arena
  external : List (Option ExternalArgument)
deriving DecidableEq

namespace ArgumentWriter

def ofArena (arena : Arena) : ArgumentWriter := ⟨arena, List.replicate arena.arity none⟩

def arity (w : ArgumentWriter) : Nat := w.arena.arity

def get (w : ArgumentWriter) (index : Nat) : Except Error Bytes := do
  let slot ← w.arena.argumentSlot index
  w.arena.read slot

def modify (w : ArgumentWriter) (index : Nat) (edit : Bytes → Bytes) :
    Except Error ArgumentWriter := do
  let slot ← w.arena.argumentSlot index
  let held ← w.arena.read slot
  let arena ← w.arena.fill slot (edit held)
  return { w with arena }

/-- Store `data` at the start of argument `index`. -/
def write (w : ArgumentWriter) (index : Nat) (data : Bytes) : Except Error ArgumentWriter := do
  let held ← w.get index
  if data.length > held.length then .error (.outOfBounds data.length held.length)
  else w.modify index fun _ => data

/-- Pass argument `index` as the address of byte `offset` of `text`. -/
def passExternal (w : ArgumentWriter) (index : Nat) (text : ExternalText) (offset : Nat) :
    Except Error ArgumentWriter :=
  if offset > text.text.length then .error (.outOfBounds offset text.text.length)
  else if index < w.external.length then
    .ok { w with external := w.external.set index (some ⟨text, offset⟩) }
  else .error (.argumentIndex index w.arity)

end ArgumentWriter

end CallBridge
