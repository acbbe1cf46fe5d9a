/-
Calling a native function.

The native side is handed a frame: the call buffer at its address, and the cells that
hold the addresses of external arguments.  It finds argument `i` by following entry `i`
of the pointer array.
-/
import CallBridge.Buffer.Writer
import CallBridge.Lock.Token

namespace CallBridge

/-- The memory of one call as native code can reach it. -/
structure CallFrame where
  base : Nat
  arena : Arena
  /-- One word per argument, holding an external address where there is one. -/
  cells : Bytes

namespace CallFrame

/-- The cells follow the buffer in memory. -/
def cellsBase (f : CallFrame) : Nat := f.base + f.arena.size

def load (f : CallFrame) (address count : Nat) : Bytes :=
  if address < f.cellsBase then f.arena.bytes.slice (address - f.base) count
  else f.cells.slice (address - f.cellsBase) count

def pointer (f : CallFrame) (index : Nat) : Nat :=
  (f.arena.bytes.slice (f.arena.pointerArray + index * pointerSize) pointerSize).toNat

def received (f : CallFrame) (types : List TypeToken) : List Bytes :=
  types.zipIdx.map fun (t, index) => f.load (f.pointer index) t.size

/-- Lay the written arguments out at `base` and fill the pointer array. -/
def ofWriter (base : Nat) (w : ArgumentWriter) : CallFrame :=
  let cellsBase := base + w.arena.size
  let redirects := w.external.zipIdx.map fun (entry, index) =>
    entry.map fun _ => cellsBase + index * pointerSize
  let cells := (w.external.map fun entry =>
    Bytes.ofNat pointerSize (entry.elim 0 ExternalArgument.address)).flatten
  ⟨base, (w.arena.bind base redirects).1, cells⟩

end CallFrame

/-- A native function: the bytes of its arguments in, the bytes of its result out. -/
abbrev NativeFunction (σ : Type) := List Bytes → Run σ Bytes

/-- The raw return value of a call. -/
structure ReturnSlot where
  arena : Arena

namespace ReturnSlot

def size (r : ReturnSlot) : Nat := r.arena.returnSlot.size

def bytes (r : ReturnSlot) : Except Error Bytes := r.arena.read r.arena.returnSlot

def take (r : ReturnSlot) (count : Nat) : Except Error Bytes := do
  let held ← r.bytes
  if count > held.length then .error (.outOfBounds count held.length)
  else return held.take count

end ReturnSlot

abbrev WriteArguments (σ : Type) := ArgumentWriter → Run σ (Except Error ArgumentWriter)

abbrev ReadReturn (σ α : Type) := ReturnSlot → Run σ (Except Error α)

variable {σ α β : Type} [Journal σ]

/-- Transfer control, with errno reset and captured around it if the specification says
so.  The answer is the result and the captured code. -/
def dispatch (spec : Prepared) (callee : Run σ β) : Run σ (β × Int) := do
  if spec.context.checkErrno then
    Run.setErrno 0
    let result ← callee
    let code ← Run.getErrno
    return (result, code)
  else
    let result ← callee
    return (result, 0)

/-- What happens once the arguments are written: the callee runs, with the lock given up
around it if the specification says so, and then either the code it left becomes an error
or its result is read.  `size` is the size of the call buffer. -/
def transact (name : String) (spec : Prepared) (lock : RuntimeLock σ) (size : Nat)
    (callee : Run σ β) (read : β → Run σ (Except Error α)) : Run σ (Except Error α) := do
  Run.log .trace "dispatching foreign call"
    [("function", .text name), ("arity", .number spec.arity), ("bytes", .number size)]
  let (result, code) ← lock.suspendedIf spec.context.releaseLock (dispatch spec callee)
  if code ≠ 0 then
    Run.log .debug "foreign call reported errno"
      [("function", .text name), ("code", .number code)]
    return .error (.system name code)
  else read result

omit [Journal σ] in
theorem dispatch_map {γ : Type} (spec : Prepared) (g : β → γ) (callee : Run σ β) :
    dispatch spec (g <$> callee) = (fun e => (g e.1, e.2)) <$> dispatch spec callee := by
  unfold dispatch
  split
  · simp only [map_bind, bind_map_left, map_pure]
  · simp only [map_bind, bind_map_left, map_pure]

/-- What is made of a result may be left to the reader. -/
theorem transact_map {γ : Type} (name : String) (spec : Prepared) (lock : RuntimeLock σ)
    (size : Nat) (g : β → γ) (callee : Run σ β) (read : γ → Run σ (Except Error α)) :
    transact name spec lock size (g <$> callee) read =
      transact name spec lock size callee fun result => read (g result) := by
  unfold transact
  rw [dispatch_map, RuntimeLock.suspendedIf_map]
  simp only [bind_map_left]

/-- Call a native function once with the layout and flags of `spec`.

A missing function fails before anything runs, a failed writer before the call.  The
lock is given up only around the call itself and is held again before an error is made
or the reader runs. -/
def invoke (name : String) (function : Option (NativeFunction σ)) (spec : Prepared)
    (lock : RuntimeLock σ) (base : Nat) (write : WriteArguments σ) (read : ReadReturn σ α) :
    Run σ (Except Error α) := do
  match function with
  | none => return .error (.nullFunction name)
  | some function =>
    let arena ← Run.ofPanic (Arena.forSpec spec)
    match ← write (ArgumentWriter.ofArena arena) with
    | .error e => return .error e
    | .ok written =>
      let frame := CallFrame.ofWriter base written
      transact name spec lock arena.size (function (frame.received spec.arguments))
        fun result => read ⟨frame.arena.storeResult result⟩

end CallBridge
