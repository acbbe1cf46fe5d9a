/-
Scripts as managed functions.

A script reads its arguments as they come and keeps them until the end, when it plays
its steps and acts on the result buffer.  How steps are played is a parameter here.
-/
import CallBridge.Managed
import CallBridge.Trampoline
import CallBridge.Session.World

namespace CallBridge

namespace Session

abbrev PlaySteps := List Step → Run World (List Answer)

/-- What stands at an address: text, or nothing for a null pointer. -/
def Memory.readText (m : Memory) (address : Nat) : Reading :=
  if address = 0 then .missing else .bytes (m.text address)

def Memory.readNumber (m : Memory) (address : Nat) : Reading :=
  if address = 0 then .missing else .number .i32 (NumberType.i32.decode (m.load address 4))

namespace How

def read (m : Memory) (how : How) (b : RawBuffer) : Except Error Reading :=
  match how with
  | number t => do return .number t (t.decode (← b.read t.size))
  | bytes => .ok (.bytes b.bytes)
  | text => do return m.readText (Bytes.toNat (← b.read pointerSize))
  | pointee => do return m.readNumber (Bytes.toNat (← b.read pointerSize))

/-- The number that a buffer holds, if it is read as `t` and long enough. -/
def number? (m : Memory) (t : NumberType) (how : How) (b : RawBuffer) : Option Int :=
  if how = number t then
    match how.read m b with
    | .ok (.number _ v) => some v
    | _ => none
  else none

end How

/-- Minus one, zero or one, as the first number is less, equal or greater. -/
def order (a b : Int) : Int := if a < b then -1 else if a = b then 0 else 1

abbrev Argument := How × RawBuffer

namespace Action

/-- The number that the pointer in argument `index` points to. -/
def pointed (m : Memory) (arguments : List Argument) (index : Nat) : Int :=
  match arguments[index]?.map fun a => How.pointee.read m a.2 with
  | some (.ok (.number _ v)) => v
  | _ => 0

def run (m : Memory) (arguments : List Argument) (a : Action) (result : RawBuffer) :
    Except Error RawBuffer :=
  match a with
  | write t v => result.write (t.encode v)
  | bytes bs => result.write bs
  | sum t =>
    let numbers := arguments.filterMap fun a => a.1.number? m t a.2
    result.write (t.encode (numbers.foldl t.add 0))
  | copy index => result.write ((arguments[index]?.map fun a => a.2.bytes).getD [])
  | compare descending =>
    let v := order (pointed m arguments 0) (pointed m arguments 1)
    result.write (NumberType.i32.encode (if descending then -v else v))

/-- Act several times.  An action that fails leaves the buffer as it is. -/
def runAll (m : Memory) (arguments : List Argument) :
    List Action → RawBuffer → List (Except Error Unit) × RawBuffer
  | [], result => ([], result)
  | a :: rest, result =>
    let (outcome, next) := match a.run m arguments result with
      | .ok changed => (.ok (), changed)
      | .error e => (.error e, result)
    let (outcomes, final) := runAll m arguments rest next
    (outcome :: outcomes, final)

theorem size_run {m : Memory} {arguments : List Argument} {a : Action} {result made : RawBuffer}
    (h : a.run m arguments result = .ok made) : made.size = result.size := by
  cases a <;> exact RawBuffer.size_write h

theorem size_runAll (m : Memory) (arguments : List Argument) (actions : List Action)
    (result : RawBuffer) : (runAll m arguments actions result).2.size = result.size := by
  induction actions generalizing result with
  | nil => rfl
  | cons a rest ih =>
    rw [runAll]
    cases hrun : a.run m arguments result with
    | ok changed => exact (ih changed).trans (size_run hrun)
    | error e => exact ih result

end Action

namespace FunctionScript

def how (f : FunctionScript Step) (index : Nat) : How := (f.reads[index]?).getD .bytes

/-- Tell of an event, unless the function is quiet. -/
def say (f : FunctionScript Step) (e : Event) : Run World Unit :=
  if f.quiet then pure () else emit e

/-- What comes before the result: a panic if the script has one, and its own steps. -/
def prelude (f : FunctionScript Step) (play : PlaySteps) : Run World Unit := do
  if f.panics = some .finish then Run.panic (.raised "managed panic in finish")
  unless f.steps.isEmpty do
    let answers ← play f.steps
    emit (.nested answers)

def conclude (f : FunctionScript Step) (arguments : List RawBuffer) (result : RawBuffer) :
    Run World RawBuffer := do
  let memory := (← Run.getWorld).memory
  let read := arguments.zipIdx.map fun (b, index) => (f.how index, b)
  let (outcomes, made) :=
    Action.runAll memory read f.actions (if f.keep then result else result.zero)
  f.say (.finished f.name outcomes made.size)
  f.errno.forM Run.setErrno
  return made

def finish (f : FunctionScript Step) (play : PlaySteps) (arguments : List RawBuffer)
    (result : RawBuffer) : Run World RawBuffer := do
  f.prelude play
  f.conclude arguments result

theorem finish_keepsSize (f : FunctionScript Step) (play : PlaySteps) (arguments : List RawBuffer) :
    RawBuffer.KeepsSize (f.finish play arguments) := by
  intro result made t t' h
  obtain ⟨_, _, -, h⟩ := Run.bind_eq_ok h
  obtain ⟨w, _, -, h⟩ := Run.bind_eq_ok h
  obtain ⟨_, _, -, h⟩ := Run.bind_eq_ok h
  obtain ⟨_, _, -, h⟩ := Run.bind_eq_ok h
  cases h
  rw [Action.size_runAll]
  split
  · rfl
  · exact result.size_zero

def stepwise (f : FunctionScript Step) (play : PlaySteps) :
    ManagedFunction World (List RawBuffer) where
  arity := f.arity
  start := do
    f.say (.started f.name)
    return []
  apply := fun arguments index argument => do
    if f.panics = some .apply then Run.panic (.raised "managed panic in apply")
    let memory := (← Run.getWorld).memory
    f.say (.applied f.name index argument.size ((f.how index).read memory argument))
    return arguments ++ [argument]
  finish := f.finish play
  finish_keepsSize := f.finish_keepsSize play

def collecting (f : FunctionScript Step) (play : PlaySteps) :
    ManagedFunction World (List RawBuffer) :=
  .collecting f.arity (fun arguments result => do
    let memory := (← Run.getWorld).memory
    f.say (.collected f.name (arguments.zipIdx.map fun (b, index) =>
      (b.size, (f.how index).read memory b)))
    f.finish play arguments result) fun arguments result made t t' h => by
      obtain ⟨_, _, -, h⟩ := Run.bind_eq_ok h
      obtain ⟨_, _, -, h⟩ := Run.bind_eq_ok h
      exact f.finish_keepsSize play arguments result made _ _ h

def toFunction (f : FunctionScript Step) (play : PlaySteps) :
    ManagedFunction World (List RawBuffer) :=
  if f.collects then f.collecting play else f.stepwise play

end FunctionScript

namespace FactoryRecord

/-- A factory of the world, with the registry of the world behind it. -/
def toFactory (f : FactoryRecord) (play : PlaySteps) : ClosureFactory World (List RawBuffer) where
  lock := runtimeLock f.lock
  resolve? := Registry.resolver World.registry fun script => script.toFunction play
  onExpired := match f.reaction with
    | .policy p => p.hook
    | .hook => fun key => emit (.expired key (Error.expiredClosure key).message)
    | .panicHook => fun _ => Run.panic (.raised "expired hook panicked")

end FactoryRecord

namespace CodeRecord

def toClosure (c : CodeRecord) (play : PlaySteps) : Closure World (List RawBuffer) :=
  (c.factory.toFactory play).closure c.spec c.key

end CodeRecord

end Session

end CallBridge
