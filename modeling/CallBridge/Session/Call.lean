/-
Calls as scripts make them.
-/
import CallBridge.Passing
import CallBridge.Session.Native

namespace CallBridge

namespace Session

def reserve (count : Nat) : Run World Nat := do
  let (address, memory) := (← Run.getWorld).memory.reserve count
  Run.modifyWorld fun w => { w with memory }
  return address

/-- Keep a text with the NUL that ends it. -/
def storeText (bs : Bytes) : Run World Nat := do
  let (address, memory) := (← Run.getWorld).memory.store (bs ++ [0])
  Run.modifyWorld fun w => { w with memory }
  return address

/-! ## Writing arguments -/

namespace WriteOp

/-- Do one thing to the arguments of a call whose buffer is at `frame`. -/
def run (frame : Nat) (w : ArgumentWriter) :
    WriteOp → Run World (Except Error (WriteResult × ArgumentWriter))
  | write i t v => return do return (.done, ← w.write i (t.encode v))
  | bytes i bs => return do return (.done, ← w.write i bs)
  | text i bs => do
    let address ← storeText bs
    return do return (.done, ← w.write i (Bytes.ofNat pointerSize address))
  | external i bs offset => do
    let address ← storeText bs
    return do return (.external bs.length, ← w.passExternal i ⟨address, bs⟩ offset)
  | slot i => return do return (.slot (← w.arena.argumentSlot i), w)
  | get i => return do return (.bytes (← w.get i), w)
  | fill i byte => return do return (.done, ← w.modify i fun held => held.map fun _ => byte)
  | arity => return .ok (.arity w.arity, w)
  | base => return .ok (.base (frame % maxAlignment == 0), w)
  | fail message => return .error (.marshal message)

end WriteOp

def note (r : WriteResult) : Run World Unit :=
  Run.modifyWorld fun w =>
    { w with written := match w.written with
      | results :: outer => (results ++ [r]) :: outer
      | [] => [] }

/-- The writer of a script: an error ends it unless the action goes on. -/
def writer (frame : Nat) : List WriteAction → WriteArguments World
  | [] => fun w => return .ok w
  | a :: rest => fun w => do
    match ← a.op.run frame w with
    | .ok (r, w) =>
      note r
      writer frame rest w
    | .error e =>
      note (.failed e)
      if a.continues then writer frame rest w else return .error e

/-! ## Reading the return value -/

namespace ReadAction

def run (m : Memory) (r : ReturnSlot) : ReadAction → Except Error Reading
  | number t => do return .number t (t.decode (← r.take t.size))
  | size => .ok (.count r.size)
  | bytes => do return .bytes (← r.bytes)
  | text => do return m.readText (Bytes.toNat (← r.take pointerSize))
  | fail message => .error (.marshal message)

end ReadAction

/-- The reader of a script: the first error ends it. -/
def reader (actions : List ReadAction) : ReadReturn World (List Reading) := fun r => do
  let memory := (← Run.getWorld).memory
  return actions.mapM (ReadAction.run memory r)

/-! ## Calling -/

namespace Callee

def function? (c : Callee) (play : PlaySteps) : Option (NativeFunction World) :=
  match c with
  | missing => none
  | native name => (native? name).map fun n => n.1.function
  | code c => some (c.toClosure play).entry

/-- Whether a function may be called with a specification: its types are the same, and
for a trampoline its calling convention too. -/
def accepts (c : Callee) (spec : Prepared) : Bool :=
  match c with
  | missing => true
  | native name =>
    (native? name).all fun (n, types) => types == spec.arguments && n.returnType == spec.returnType
  | code c => c.spec.sameTypes spec && c.spec.abi == spec.abi

end Callee

/-- Room for a call buffer with its pointer array and the cells of external addresses. -/
def frameSize (spec : Prepared) : Nat := spec.bytes + 2 * pointerSize * (spec.arity + 1)

def makeCall (play : PlaySteps) (spec : Prepared) (name : String) (callee : Callee)
    (lock : LockRef) (c : CallScript) : Run World CallReport := do
  Run.modifyWorld fun w => { w with lastLock := lock, written := [] :: w.written }
  let frame ← reserve (frameSize spec)
  c.errnoBefore.forM Run.setErrno
  let called ← (invoke name (callee.function? play) spec (runtimeLock lock) frame
    (writer frame c.writes) (reader c.reads)).catchPanic
  let errno ← Run.getErrno
  let w ← Run.getWorld
  Run.setWorld { w with written := w.written.tail }
  return {
    outcome := ← Run.ofPanic called, writes := w.written.headD [],
    errno := if c.errnoAfter then some errno else none, lock := w.view lock }

/-! ## Sorting -/

/-- Merge two sorted lists; `fuel` bounds their common length.  Equal elements of the
first list come first. -/
def merge (compare : Nat → Nat → Run World Int) : Nat → List Nat → List Nat → Run World (List Nat)
  | _, [], right => return right
  | _, left, [] => return left
  | 0, left, right => return left ++ right
  | fuel + 1, a :: left, b :: right => do
    if (← compare a b) ≤ 0 then return a :: (← merge compare fuel left (b :: right))
    else return b :: (← merge compare fuel (a :: left) right)

/-- Sort by halves; `fuel` bounds the depth. -/
def sortHalves (compare : Nat → Nat → Run World Int) : Nat → List Nat → Run World (List Nat)
  | 0, xs => return xs
  | fuel + 1, xs => do
    if xs.length ≤ 1 then return xs
    let half := xs.length / 2
    let left ← sortHalves compare fuel (xs.take half)
    let right ← sortHalves compare fuel (xs.drop half)
    merge compare xs.length left right

/-- Sort an array of 32-bit numbers in place, comparing through `comparator`. -/
def sortFunction (comparator : NativeFunction World) : NativeFunction World := fun received => do
  let word (index : Nat) : Nat := Bytes.toNat ((received[index]?).getD [])
  let compare (a b : Nat) : Run World Int := do
    let result ← comparator [Bytes.ofNat pointerSize a, Bytes.ofNat pointerSize b]
    return NumberType.i32.decode (result.take 4)
  let addresses := (List.range (word 1)).map fun i => word 0 + 4 * i
  let sorted ← sortHalves compare addresses.length addresses
  Run.modifyWorld fun w =>
    let made := (sorted.map fun address => w.memory.load address 4).flatten
    { w with memory := { w.memory with blocks := (word 0, made) :: w.memory.blocks } }
  return []

/-- The first and last event of a step in place of all. -/
def summarise : List Event → List Event
  | [] => []
  | first :: rest => [.span first (rest.getLastD first)]

end Session

end CallBridge
