/-
Trees of nested calls.

A call runs native code, native code fires trampolines, and the function behind a trampoline makes
calls of its own, to any depth.  `Call.run` is what the engine makes of such a tree over one lock.
What stands between the calls is `Work`, of which nothing is known but what it does to the part of
the world that is watched.
-/
import CallBridge.Proofs.Firing

namespace CallBridge

namespace Nesting

/-- Whose work something is. -/
inductive Role where
  | writer
  | reader
  | function
  | hook
  /-- Native code under a call that gives the lock up, or that keeps it. -/
  | native (suspended : Bool)
  /-- The last thing native code does before it fires a trampoline that takes the lock, or that
  does not. -/
  | firing (holds suspended : Bool)
deriving DecidableEq

/-- A view of the world, what work does to it by its role, and how work may end if it does not
return. -/
structure Watch (σ ν : Type) where
  view : σ → ν
  mark : Role → ν → ν
  ends : Role → Halt → Prop

/-- Work that makes no calls. -/
structure Work {σ ν : Type} (o : Watch σ ν) (role : Role) (α : Type) where
  run : Run σ α
  view_run : ∀ t, o.view (run t).2.world = o.mark role (o.view t.world)
  ends_run : ∀ t h, (run t).1 = .error h → o.ends role h

/-- Where a call is made.  There is room for its buffer. -/
structure CallSite where
  name : String
  spec : Prepared
  base : Nat
  arena : Arena
  arena_eq : Arena.forSpec spec = .ok arena

def CallSite.suspends (s : CallSite) : Bool := s.spec.context.releaseLock

/-- Where a trampoline is fired. -/
structure FireSite where
  spec : Prepared
  key : FunctionKey
  area : Bytes

def FireSite.holds (s : FireSite) : Bool := s.spec.context.releaseLock

/-- The arguments of a firing. -/
abbrev FireSite.Sent (s : FireSite) : Type := {sent : List Bytes // sent.length = s.spec.arity}

variable {σ ν : Type}

mutual

inductive Call (o : Watch σ ν) (κ α : Type) : Type
  /-- The address is null. -/
  | missing (site : CallSite) (write : WriteArguments σ) (read : ReadReturn σ α)
  /-- The writer comes to an error. -/
  | unwritten (site : CallSite) (callee : NativeFunction σ)
      (write : ArgumentWriter → Work o .writer Error) (read : ReadReturn σ α)
  | made (site : CallSite) (write : ArgumentWriter → Work o .writer ArgumentWriter)
      (callee : Native o κ α site.suspends)
      (read : ReturnSlot → Work o .reader (Except Error α))

/-- Native code under a call that gives the lock up if `flag` says so: firings one after the
other, and at last a result. -/
inductive Native (o : Watch σ ν) (κ α : Type) : Bool → Type
  | finish {flag : Bool} (work : List Bytes → Work o (.native flag) Bytes) : Native o κ α flag
  | fire {flag : Bool} (before : List Bytes → Work o (.native flag) Unit) (site : FireSite)
      (arguments : List Bytes → Work o (.firing site.holds flag) site.Sent) (target : Target o κ α)
      (use : Bytes → Work o (.native flag) Unit) (rest : Native o κ α flag) : Native o κ α flag

/-- What a key stands for when its trampoline is fired. -/
inductive Target (o : Watch σ ν) (κ α : Type) : Type
  | expired (hook : FunctionKey → Work o .hook Unit)
  /-- A function of the trampoline's arity, with the calls it makes when it is started, as each
  argument comes, and before it finishes.  One of another arity is never started: by
  `nativeOver_of_mismatch` such a firing does not return. -/
  | live (start : Work o .function κ) (starting : Calls o κ α)
      (apply : κ → Nat → RawBuffer → Work o .function κ) (applying : Nat → Calls o κ α)
      (finishing : Calls o κ α) (finish : κ → RawBuffer → Work o .function RawBuffer)
      (keeps : ∀ call, RawBuffer.KeepsSize fun result => (finish call result).run)

/-- The calls of managed code, one after the other. -/
inductive Calls (o : Watch σ ν) (κ α : Type) : Type
  | nil
  | cons (before : Work o .function Unit) (call : Call o κ α)
      (use : Except Error α → Work o .function Unit) (rest : Calls o κ α)

end

/-! ## As the engine runs them -/

theorem keepsSize_after (x : Run σ Unit) {work : RawBuffer → Run σ RawBuffer}
    (h : RawBuffer.KeepsSize work) :
    RawBuffer.KeepsSize fun result => x >>= fun _ => work result := by
  intro result made t t' hrun
  obtain ⟨_, u, -, hrun⟩ := Run.bind_eq_ok hrun
  exact h result made u t' hrun

/-- The trampoline that is fired, if its key has the function `found`. -/
def FireSite.closure {κ : Type} (s : FireSite) (lock : RuntimeLock σ)
    (found : Option (ManagedFunction σ κ)) (onExpired : ExpiredHook σ) : Closure σ κ :=
  { key := s.key, spec := s.spec, lock, resolve? := fun _ => return found, onExpired }

variable {o : Watch σ ν} {κ α : Type}

def Target.hook : Target o κ α → ExpiredHook σ
  | .expired hook => fun key => (hook key).run
  | .live .. => fun _ => return ()

variable [Journal σ]

mutual

def Call.run (lock : RuntimeLock σ) : Call o κ α → Run σ (Except Error α)
  | .missing site write read => invoke site.name none site.spec lock site.base write read
  | .unwritten site callee write read =>
    invoke site.name (some callee) site.spec lock site.base (fun w => .error <$> (write w).run) read
  | .made site write callee read =>
    invoke site.name (some (callee.run lock)) site.spec lock site.base
      (fun w => .ok <$> (write w).run) fun slot => (read slot).run

def Native.run (lock : RuntimeLock σ) {flag : Bool} : Native o κ α flag → NativeFunction σ
  | .finish work => fun received => (work received).run
  | .fire before site arguments target use rest => fun received => do
    (before received).run
    let sent ← (arguments received).run
    let closure := site.closure lock (target.function? lock site.spec.arity) target.hook
    let stored ← closure.nativeOver site.area sent
    (use stored).run
    rest.run lock received

def Target.function? (lock : RuntimeLock σ) (arity : Nat) :
    Target o κ α → Option (ManagedFunction σ κ)
  | .expired _ => none
  | .live start starting apply applying finishing finish keeps => some {
    arity
    start := do
      let call ← start.run
      starting.run lock
      return call
    apply := fun call index argument => do
      let call ← (apply call index argument).run
      (applying index).run lock
      return call
    finish := fun call result => do
      finishing.run lock
      (finish call result).run
    finish_keepsSize := fun call => keepsSize_after (finishing.run lock) (keeps call) }

def Calls.run (lock : RuntimeLock σ) : Calls o κ α → Run σ Unit
  | .nil => return ()
  | .cons before call use rest => do
    before.run
    let result ← call.run lock
    (use result).run
    rest.run lock

end

/-! ## One step of a tree -/

namespace CallSite

theorem invoke_of_error (s : CallSite) (lock : RuntimeLock σ) (callee : NativeFunction σ)
    (write : ArgumentWriter → Run σ Error) (read : ReadReturn σ α) :
    invoke s.name (some callee) s.spec lock s.base (fun w => .error <$> write w) read =
      .error <$> write (.ofArena s.arena) := by
  rw [invoke, s.arena_eq]
  show ((Except.error <$> write (.ofArena s.arena)) >>= _) = _
  rw [bind_map_left, map_eq_pure_bind]

theorem invoke_of_ok (s : CallSite) (lock : RuntimeLock σ) (callee : NativeFunction σ)
    (write : ArgumentWriter → Run σ ArgumentWriter) (read : ReadReturn σ α) :
    invoke s.name (some callee) s.spec lock s.base (fun w => .ok <$> write w) read =
      write (.ofArena s.arena) >>= fun written =>
        let frame := CallFrame.ofWriter s.base written
        transact s.name s.spec lock s.arena.size (callee (frame.received s.spec.arguments))
          fun result => read ⟨frame.arena.storeResult result⟩ := by
  rw [invoke, s.arena_eq]
  show ((Except.ok <$> write (.ofArena s.arena)) >>= _) = _
  rw [bind_map_left]

end CallSite

namespace FireSite

variable (s : FireSite) (lock : RuntimeLock σ)

/-- A firing that does `call` with the lock as its signature wants it. -/
def firing (found : Option (ManagedFunction σ κ)) (onExpired : ExpiredHook σ)
    (call : Run σ RawBuffer) : Run σ Bytes :=
  let closure := s.closure lock found onExpired
  closure.handed <$> closure.shielded (.ok <$> lock.heldIf s.holds (RawBuffer.bytes <$> call))

theorem nativeOver_of_answer {found : Option (ManagedFunction σ κ)} {onExpired : ExpiredHook σ}
    {sent : List Bytes} {call : Run σ RawBuffer}
    (h : (s.closure lock found onExpired).answer ((s.closure lock found onExpired).buffers sent)
      ((s.closure lock found onExpired).resultBuffer s.area) = .ok <$> call) :
    (s.closure lock found onExpired).nativeOver s.area sent =
      s.firing lock found onExpired call := by
  rw [Closure.nativeOver_eq, Closure.serve, h, firing, ← RuntimeLock.heldIf_map, ← comp_map,
    ← comp_map]
  rfl

theorem nativeOver_of_none (onExpired : ExpiredHook σ) (sent : List Bytes) :
    ∃ zeros, (s.closure (κ := κ) lock none onExpired).nativeOver s.area sent =
      s.firing (κ := κ) lock none onExpired (onExpired s.key >>= fun _ => return zeros) := by
  let closure := s.closure (κ := κ) lock none onExpired
  refine ⟨(closure.resultBuffer s.area).zero, s.nativeOver_of_answer lock ?_⟩
  rw [map_bind]
  rfl

theorem nativeOver_of_some {f : ManagedFunction σ κ} (harity : f.arity = s.spec.arity)
    (onExpired : ExpiredHook σ) (sent : s.Sent) :
    ∃ arguments result, arguments.length = s.spec.arity ∧
      (s.closure lock (some f) onExpired).nativeOver s.area sent =
        s.firing lock (some f) onExpired (f.call arguments result) := by
  let closure := s.closure lock (some f) onExpired
  have hlength := closure.length_buffers sent.property
  refine ⟨closure.buffers sent, closure.resultBuffer s.area, hlength, ?_⟩
  refine s.nativeOver_of_answer lock ?_
  show drive f _ _ = _
  rw [drive, if_neg fun hne => hne (harity.trans hlength.symm)]
  rfl

/-- A firing whose function has another arity runs nothing of it and never returns to native
code. -/
theorem nativeOver_of_mismatch {f : ManagedFunction σ κ} (harity : f.arity ≠ s.spec.arity)
    (onExpired : ExpiredHook σ) (sent : s.Sent) :
    let closure := s.closure lock (some f) onExpired
    closure.nativeOver s.area sent =
        closure.handed <$> closure.shielded
          (lock.heldIf s.holds (return .error ⟨s.spec.arity, f.arity⟩)) ∧
      ∀ t stored t', closure.nativeOver s.area sent t ≠ (.ok stored, t') := by
  intro closure
  have hlength : (closure.buffers sent).length = s.spec.arity :=
    closure.length_buffers sent.property
  have hanswer : closure.answer (closure.buffers sent) (closure.resultBuffer s.area) =
      return .error ⟨s.spec.arity, f.arity⟩ := by
    show drive f _ _ = _
    rw [drive, if_pos fun heq => harity (heq.trans hlength), hlength]
  have hfiring : closure.nativeOver s.area sent = closure.handed <$> closure.shielded
      (lock.heldIf s.holds (return .error ⟨s.spec.arity, f.arity⟩)) := by
    rw [Closure.nativeOver_eq, Closure.serve, hanswer]
    rfl
  refine ⟨hfiring, fun t stored t' hreturn => ?_⟩
  rw [hfiring] at hreturn
  obtain ⟨left, hshielded, -⟩ := Run.map_eq_ok hreturn
  obtain ⟨u, u', hbody⟩ := RuntimeLock.heldIf_eq_ok (Closure.shielded_eq_ok hshielded)
  cases hbody

end FireSite

/-! ## A tree with every kind of node -/

/-- The signature of a function without arguments, called with errno checked. -/
def watched (releaseLock : Bool) : Prepared :=
  ⟨[], .sint32, 16, 0, 0, ⟨true, releaseLock⟩, .default⟩

def watchedSite (releaseLock : Bool) : CallSite where
  name := "callee"
  spec := watched releaseLock
  base := 4096
  arena := ⟨Bytes.zeros 16, [], ⟨0, 4, 4⟩, 16⟩
  arena_eq := by cases releaseLock <;> rfl

def watchedFiring (releaseLock : Bool) : FireSite := ⟨watched releaseLock, 1, Bytes.zeros 8⟩

section

variable (mark : Role → σ → σ) (h : ∀ role w, o.view (mark role w) = o.mark role (o.view w))

/-- Work that leaves `code` in errno and comes to `a`. -/
def Work.leaving (role : Role) (code : Int) (a : α) : Work o role α where
  run t := (.ok a, ⟨code, mark role t.world⟩)
  view_run t := h role t.world
  ends_run t halt heq := by cases heq

/-- The outer call fires a function whose three calls all fail, each in its own way, and then a
key that has expired. -/
def nested : Call o Unit Unit :=
  let work (role : Role) : Work o role Unit := .leaving mark h role 0 ()
  let missing : Call o Unit Unit :=
    .missing (watchedSite true) (fun w => return .ok w) fun _ => return .ok ()
  let unwritten : Call o Unit Unit := .unwritten (watchedSite true) (fun _ => return [])
    (fun _ => .leaving mark h .writer 0 .outOfMemory) fun _ => return .ok ()
  let failing : Call o Unit Unit := .made (watchedSite true) (.leaving mark h .writer 0)
    (.finish fun _ => .leaving mark h _ 2 []) fun _ => .leaving mark h .reader 0 (.ok ())
  let target : Target o Unit Unit := .live (work .function)
    (.cons (work _) missing (fun _ => work _) (.cons (work _) unwritten (fun _ => work _) .nil))
    (fun _ _ _ => work .function) (fun _ => .nil)
    (.cons (work _) failing (fun _ => work _) .nil)
    (fun _ result => .leaving mark h .function 0 result)
    (fun _ _ _ _ _ heq => by cases heq; rfl)
  .made (watchedSite true) (.leaving mark h .writer 0)
    (.fire (fun _ => work _) (watchedFiring true) (fun _ => .leaving mark h _ 0 ⟨[], rfl⟩) target
      (fun _ => work _)
      (.fire (fun _ => work _) (watchedFiring true) (fun _ => .leaving mark h _ 0 ⟨[], rfl⟩)
        (.expired fun _ => work _) (fun _ => work _) (.finish fun _ => .leaving mark h _ 0 [])))
    fun _ => .leaving mark h .reader 0 (.ok ())

end

end Nesting

end CallBridge
