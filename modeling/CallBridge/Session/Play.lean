/-
Playing scripts.

A step is one request to the engine, and its answer is all that the script sees of it.
The steps that a managed function plays are played by the same rules; how deep that may
go is bounded.
-/
import CallBridge.Session.Callable
import CallBridge.Session.Cell

namespace CallBridge

namespace Session

open Attempt

/-! ## Steps -/

/-- One step, with `play` for the steps inside it. -/
def Step.attempt (play : PlaySteps) : Step → Attempt Answer
  | builder id context => do
    putBuilder id (.empty context)
    return .builder (.empty context)
  | append id type count => do
    let t ← typeToken type
    let b ← named World.builders "builder" id
    appendTimes id t count 0 b
  | builderState id => do return .builder (← named World.builders "id" id)
  | clone id newId => do
    putBuilder newId (← named World.builders "id" id)
    return .done
  | prepare id abi returnType newId => prepareBuilder id abi returnType newId
  | preparedState id => do return .prepared (← named World.prepared "id" id)
  | signature id arguments returnType abi context =>
    makeSignature id arguments returnType abi context
  | handle id context => do
    putHandle id (.create context)
    return .done
  | handleAppend id type => do
    let t ← typeToken type
    let h ← named World.handles "id" id
    let (outcome, next) := h.append t
    putHandle id next
    return .offset (← check (← unwrap outcome))
  | handlePrepare id abi returnType => prepareHandle id abi returnType
  | handleTake id newId => do
    let h ← named World.handles "id" id
    putPrepared newId (← check h.prepared?)
    return .done
  | handleState id => do return .handle (← named World.handles "id" id)
  | buffer spec actions => do
    let p ← named World.prepared "spec" spec
    let a ← unwrap (Arena.forSpec p)
    return .buffer ⟨a, bufferResults actions a⟩
  | cell bytes actions => do
    let (results, final) := cellResults (← world).memory actions ⟨bytes⟩
    return .cell results final.bytes
  | drive f arguments result => driveNow play f arguments result
  | invoke spec name target c => do
    let (p, callee) ← resolveCall spec target
    callNow play p name callee c
  | bind id spec name target => bindFunction id spec name target
  | call id c => do
    let f ← named World.bound "id" id
    callNow play f.spec f.name f.callee c
  | sort values code l releaseLock => sortValues play values code l releaseLock
  | errno set => do
    set.forM fun code => act (Run.setErrno code)
    return .errno (← act Run.getErrno)
  | register f => do
    let (key, grown) := (← world).registry.register f
    modify fun w => { w with registry := grown }
    return .key key
  | revoke key => do
    let (removed, left) := (← world).registry.revoke key
    modify fun w => { w with registry := left }
    return .revoked (removed.map FunctionScript.arity) left.size
  | resolve key => do
    match (← world).registry.resolve? key with
    | some f => return .resolved f.arity
    | none => return .failed (.expiredClosure key)
  | registry keys => Session.registry keys
  | factory id reaction l => makeFactory id reaction l
  | dropFactory id => do
    let _ ← named World.factories "factory" id
    modify fun w => { w with factories := w.factories.erase id }
    return .done
  | trampoline id maker spec key => makeTrampoline play id maker spec key
  | dropTrampoline id => Session.dropTrampoline id
  | detach id => Session.detach id
  | lock id kind => makeLock id kind
  | hold l guard => takeHold l guard
  | suspend l guard => takeSuspension l guard
  | dropGuard id => Session.dropGuard id
  | lockState l => Session.lockState l
  | acquire l => do
    let ref ← globalNamed l
    refuseToWait ref
    seize ref mainThread
    return .lock (← view ref)
  | release l elsewhere => releaseGlobal l elsewhere
  | otherHolds l => Session.otherHolds l
  | panicIn l guard => Session.panicIn l guard

/-- Play one step; a panic is its answer. -/
def playStep (play : PlaySteps) (s : Step) : Run World Answer := do
  match ← ((s.attempt play).answer).catchPanic with
  | .ok answer => return answer
  | .error p => return .panicked p

/-- Play steps with at most `depth` managed functions inside one another. -/
def playSteps : Nat → PlaySteps
  | 0 => fun _ => Run.halt .exhausted
  | depth + 1 => fun steps => steps.mapM (playStep (playSteps depth))

def depthLimit : Nat := 1000

/-! ## Sessions -/

structure Outcome where
  answer : Answer
  events : List Event

/-- What a whole session shows: its finished steps, then the events of cleaning up, or
those of the step in which it died. -/
structure Report where
  outcomes : List Outcome
  halted : Option Halt
  remaining : List Event

/-- Drop the open guards, newest first, but none that would wait. -/
def dropGuards : List Guard → Run World Unit
  | [] => return ()
  | g :: older => do
    unless g.waits (← Run.getWorld) do g.drop
    dropGuards older

/-- What is left to do when all steps are done: guards first, then trampolines in the
order of their names. -/
def cleanUp : Run World Unit := do
  let w ← Run.getWorld
  Run.setWorld { w with guards := [] }
  dropGuards (w.guards.map Prod.snd).reverse
  let keys := (w.trampolines.mergeSort fun a b => decide (a.1 ≤ b.1)).map Prod.snd
  keys.forM ClosureFactory.announceFree

/-- Play the steps of a session one after the other. -/
def playAll : List Step → List Outcome → Thread World → Report
  | [], done, t =>
    let (_, final) := cleanUp { t with world := { t.world with events := [] } }
    ⟨done, none, final.world.events⟩
  | s :: rest, done, t =>
    let clear := { t with world := { t.world with events := [] } }
    match playStep (playSteps depthLimit) s clear with
    | (.ok answer, next) => playAll rest (done ++ [⟨answer, next.world.events⟩]) next
    | (.error h, next) => ⟨done, some h, next.world.events⟩

def play (logging : Bool) (steps : List Step) : Report :=
  playAll steps [] ⟨0, .start logging⟩

end Session

end CallBridge
