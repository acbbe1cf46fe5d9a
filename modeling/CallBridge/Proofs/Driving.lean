/-
What a managed function is asked for when it is driven.

An invocation is opened, gets its arguments one after the other and then the result buffer, each
time as the step before left it, and the first step that halts is the last.  `Drives` has one rule
for each way this can go.  `drive_protocol` says that a drive goes one of these ways, and that the
requests of the rule are all that a function with a record of them is asked for.
-/
import CallBridge.Managed

namespace CallBridge

namespace ManagedFunction

/-! ## Requests -/

/-- What a managed function is asked for. -/
inductive Request where
  | start
  | apply (index : Nat) (argument : RawBuffer)
  | finish (result : RawBuffer)
deriving DecidableEq

/-- The arguments handed over, counted from `index` on. -/
def applications (index : Nat) (arguments : List RawBuffer) : List Request :=
  (arguments.zipIdx index).map fun a => .apply a.2 a.1

/-- The requests of an invocation that nothing stops. -/
def schedule (arguments : List RawBuffer) (result : RawBuffer) : List Request :=
  .start :: applications 0 arguments ++ [.finish result]

/-- A world with a record of requests beside it. -/
structure Recorded (σ : Type) where
  world : σ
  requests : List Request

variable {σ κ α : Type}

/-- The thread in a world with these requests on record. -/
def recording (t : Thread σ) (requests : List Request) : Thread (Recorded σ) :=
  ⟨t.errno, ⟨t.world, requests⟩⟩

/-- The answer to a request, which goes on record whether the answer comes or not. -/
def answering (request : Request) (x : Run σ α) : Run (Recorded σ) α := fun t =>
  let (outcome, u) := x ⟨t.errno, t.world.world⟩
  (outcome, recording u (t.world.requests ++ [request]))

theorem answering_apply (request : Request) (x : Run σ α) (t : Thread σ) (before : List Request) :
    answering request x (recording t before) =
      ((x t).1, recording (x t).2 (before ++ [request])) := rfl

theorem answering_of_eq {request : Request} {x : Run σ α} {t u : Thread σ}
    {outcome : Except Halt α} (h : x t = (outcome, u)) (before : List Request) :
    answering request x (recording t before) = (outcome, recording u (before ++ [request])) := by
  rw [answering_apply, h]

/-- The function with a record of what it is asked for. -/
def recorded (f : ManagedFunction σ κ) : ManagedFunction (Recorded σ) κ where
  arity := f.arity
  start := answering .start f.start
  apply := fun call index argument =>
    answering (.apply index argument) (f.apply call index argument)
  finish := fun call result => answering (.finish result) (f.finish call result)
  finish_keepsSize := by
    intro call result made t u h
    have houtcome : (f.finish call result ⟨t.errno, t.world.world⟩).1 = .ok made :=
      congrArg Prod.fst h
    exact f.finish_keepsSize call result made _ _ (Prod.ext houtcome rfl)

/-! ## Ways to go -/

/-- From the call as it is, the arguments are applied in order and leave another call. -/
inductive Applies (f : ManagedFunction σ κ) :
    κ → Nat → List RawBuffer → Thread σ → κ → Thread σ → Prop
  | nil {call : κ} {index : Nat} {t : Thread σ} : Applies f call index [] t call t
  | cons {call next left : κ} {index : Nat} {argument : RawBuffer} {rest : List RawBuffer}
      {t u v : Thread σ} (happly : f.apply call index argument t = (.ok next, u))
      (hrest : Applies f next (index + 1) rest u left v) :
      Applies f call index (argument :: rest) t left v

/-- Driving goes one of four ways: the requests that are made, what they come to, and the thread
that they leave. -/
inductive Drives (f : ManagedFunction σ κ) (arguments : List RawBuffer) (result : RawBuffer)
    (t : Thread σ) : List Request → Except Halt (Except ArityMismatch RawBuffer) → Thread σ → Prop
  | mismatched (harity : f.arity ≠ arguments.length) :
    Drives f arguments result t [] (.ok (.error ⟨arguments.length, f.arity⟩)) t
  | unopened {h : Halt} {u : Thread σ} (harity : f.arity = arguments.length)
    (hstart : f.start t = (.error h, u)) : Drives f arguments result t [.start] (.error h) u
  | stopped {h : Halt} {call left : κ} {before after : List RawBuffer} {argument : RawBuffer}
    {u v w : Thread σ} (harity : f.arity = arguments.length) (hstart : f.start t = (.ok call, u))
    (hsplit : arguments = before ++ argument :: after) (happlies : Applies f call 0 before u left v)
    (happly : f.apply left before.length argument v = (.error h, w)) :
    Drives f arguments result t (.start :: applications 0 (before ++ [argument])) (.error h) w
  | finished {call left : κ} {outcome : Except Halt RawBuffer} {u v w : Thread σ}
    (harity : f.arity = arguments.length) (hstart : f.start t = (.ok call, u))
    (happlies : Applies f call 0 arguments u left v)
    (hfinish : f.finish left result v = (outcome, w)) :
    Drives f arguments result t (schedule arguments result) (outcome.map .ok) w

theorem applications_cons (index : Nat) (argument : RawBuffer) (rest : List RawBuffer) :
    applications index (argument :: rest) =
      .apply index argument :: applications (index + 1) rest := rfl

theorem applications_append (index : Nat) (before after : List RawBuffer) :
    applications index (before ++ after) =
      applications index before ++ applications (index + before.length) after := by
  simp [applications, List.zipIdx_append]

variable {f : ManagedFunction σ κ} {arguments : List RawBuffer} {result : RawBuffer}
  {call left : κ} {index : Nat} {t u : Thread σ} {requests : List Request}
  {outcome : Except Halt (Except ArityMismatch RawBuffer)}

/-- Arguments that are applied bring the rest to where they leave the call. -/
theorem Applies.applyFrom_append (h : Applies f call index arguments t left u)
    (rest : List RawBuffer) :
    f.applyFrom call index (arguments ++ rest) t =
      f.applyFrom left (index + arguments.length) rest u := by
  induction h with
  | nil => rfl
  | @cons call next left index argument arguments t u v happly hrest ih =>
    have hindex : index + 1 + arguments.length = index + (argument :: arguments).length := by
      rw [List.length_cons]
      omega
    rw [hindex] at ih
    exact (Run.bind_of_ok happly).trans ih

/-- The arguments are applied, or one of them halts after those before it were applied. -/
theorem applies_or_stops (f : ManagedFunction σ κ) (call : κ) (index : Nat)
    (arguments : List RawBuffer) (t : Thread σ) :
    (∃ left u, Applies f call index arguments t left u) ∨
      ∃ before argument after left u h w, arguments = before ++ argument :: after ∧
        Applies f call index before t left u ∧
        f.apply left (index + before.length) argument u = (.error h, w) := by
  induction arguments generalizing call index t with
  | nil => exact Or.inl ⟨call, t, .nil⟩
  | cons argument rest ih =>
    rcases happly : f.apply call index argument t with ⟨h | next, u⟩
    · exact Or.inr ⟨[], argument, rest, call, t, h, u, rfl, .nil, happly⟩
    · rcases ih next (index + 1) u with
        ⟨left, v, hrest⟩ | ⟨before, argument', after, left, v, h, w, rfl, hbefore, hstop⟩
      · exact Or.inl ⟨left, v, .cons happly hrest⟩
      · have hindex : index + 1 + before.length = index + (argument :: before).length := by
          rw [List.length_cons]
          omega
        rw [hindex] at hstop
        exact Or.inr ⟨argument :: before, argument', after, left, v, h, w, rfl,
          .cons happly hbefore, hstop⟩

theorem exists_drives (f : ManagedFunction σ κ) (arguments : List RawBuffer) (result : RawBuffer)
    (t : Thread σ) : ∃ requests outcome u, Drives f arguments result t requests outcome u := by
  by_cases harity : f.arity = arguments.length
  · rcases hstart : f.start t with ⟨h | call, u⟩
    · exact ⟨_, _, _, .unopened harity hstart⟩
    · rcases applies_or_stops f call 0 arguments u with
        ⟨left, v, happlies⟩ | ⟨before, argument, after, left, v, h, w, hsplit, happlies, hstop⟩
      · exact ⟨_, _, _, .finished harity hstart happlies rfl⟩
      · rw [Nat.zero_add] at hstop
        exact ⟨_, _, _, .stopped harity hstart hsplit happlies hstop⟩
  · exact ⟨_, _, _, .mismatched harity⟩

/-! ## Driving goes by the rules -/

theorem drive_of_arity (harity : f.arity = arguments.length) :
    drive f arguments result = Except.ok <$> f.call arguments result := by
  unfold drive
  rw [if_neg (not_not_intro harity)]
  rfl

theorem drive_of_mismatch (harity : f.arity ≠ arguments.length) :
    drive f arguments result = pure (.error ⟨arguments.length, f.arity⟩) := by
  unfold drive
  rw [if_pos harity]

theorem Drives.drive_eq (h : Drives f arguments result t requests outcome u) :
    drive f arguments result t = (outcome, u) := by
  cases h with
  | mismatched harity => rw [drive_of_mismatch harity, Run.pure_apply]
  | unopened harity hstart =>
    have hcall : f.call arguments result t = _ := Run.bind_of_error hstart
    rw [drive_of_arity harity, Run.map_apply, hcall]
  | @stopped h call left before after argument v w _ harity hstart hsplit happlies happly =>
    have hfrom := happlies.applyFrom_append (argument :: after)
    rw [Nat.zero_add, ← hsplit] at hfrom
    have hstop : f.applyFrom call 0 arguments v = (.error h, u) :=
      hfrom.trans (Run.bind_of_error happly)
    have hcall : f.call arguments result t = _ :=
      (Run.bind_of_ok hstart).trans (Run.bind_of_error hstop)
    rw [drive_of_arity harity, Run.map_apply, hcall]
  | @finished call left outcome _ _ _ harity hstart happlies hfinish =>
    have hfrom := happlies.applyFrom_append []
    rw [List.append_nil] at hfrom
    have hcall : f.call arguments result t = _ :=
      (Run.bind_of_ok hstart).trans ((Run.bind_of_ok hfrom).trans hfinish)
    rw [drive_of_arity harity, Run.map_apply, hcall]
    cases outcome <;> rfl

theorem Applies.recorded (h : Applies f call index arguments t left u) (before : List Request) :
    Applies f.recorded call index arguments (recording t before) left
      (recording u (before ++ applications index arguments)) := by
  induction h generalizing before with
  | nil =>
    rw [applications, List.zipIdx_nil, List.map_nil, List.append_nil]
    exact .nil
  | cons happly hrest ih =>
    rw [applications_cons, List.append_cons]
    exact .cons (answering_of_eq happly before) (ih _)

/-- With a record the same happens, and the requests that are made are put on it. -/
theorem Drives.recorded (h : Drives f arguments result t requests outcome u)
    (before : List Request) :
    Drives f.recorded arguments result (recording t before) requests outcome
      (recording u (before ++ requests)) := by
  cases h with
  | mismatched harity =>
    rw [List.append_nil]
    exact .mismatched harity
  | unopened harity hstart => exact .unopened harity (answering_of_eq hstart before)
  | @stopped h call left sent after argument _ _ _ harity hstart hsplit happlies happly =>
    have hlast : before ++ .start :: applications 0 (sent ++ [argument]) =
        before ++ [.start] ++ applications 0 sent ++ [.apply sent.length argument] := by
      rw [applications_append, Nat.zero_add]
      simp [applications]
    rw [hlast]
    exact .stopped harity (answering_of_eq hstart before) hsplit (happlies.recorded _)
      (answering_of_eq happly _)
  | finished harity hstart happlies hfinish =>
    have hlast : before ++ schedule arguments result =
        before ++ [.start] ++ applications 0 arguments ++ [.finish result] := by
      simp [schedule]
    rw [hlast]
    exact .finished harity (answering_of_eq hstart before) (happlies.recorded _)
      (answering_of_eq hfinish _)

/-- Whatever stops an invocation, no request is made out of turn or twice. -/
theorem Drives.prefix_schedule (h : Drives f arguments result t requests outcome u) :
    requests <+: schedule arguments result := by
  cases h with
  | mismatched => exact List.nil_prefix
  | unopened => exact List.prefix_append [Request.start] _
  | @stopped h call left before after argument _ _ _ harity hstart hsplit happlies happly =>
    have hall : applications 0 arguments =
        applications 0 (before ++ [argument]) ++ applications (before.length + 1) after := by
      rw [hsplit, List.append_cons, applications_append 0 (before ++ [argument])]
      simp
    rw [schedule, hall, List.cons_append, List.append_assoc]
    exact List.prefix_append (Request.start :: _) _
  | finished => exact List.prefix_rfl

/-! ## All arguments at once -/

theorem applyFrom_collecting (arity : Nat)
    (function : List RawBuffer → RawBuffer → Run σ RawBuffer)
    (keeps : ∀ arguments, RawBuffer.KeepsSize (function arguments))
    (seen arguments : List RawBuffer) (index : Nat) (t : Thread σ) :
    (collecting arity function keeps).applyFrom seen index arguments t =
      (.ok (seen ++ arguments), t) := by
  induction arguments generalizing seen index with
  | nil => rw [List.append_nil, applyFrom, Run.pure_apply]
  | cons argument rest ih =>
    rw [List.append_cons, ← ih (seen ++ [argument]) (index + 1)]
    exact Run.bind_of_ok rfl

theorem call_collecting (arity : Nat) (function : List RawBuffer → RawBuffer → Run σ RawBuffer)
    (keeps : ∀ arguments, RawBuffer.KeepsSize (function arguments)) (arguments : List RawBuffer)
    (result : RawBuffer) :
    (collecting arity function keeps).call arguments result = function arguments result := by
  funext t
  have hfrom := applyFrom_collecting arity function keeps [] arguments 0 t
  exact (Run.bind_of_ok rfl).trans (Run.bind_of_ok hfrom)

/-- A drive goes by the rules and makes the requests of its rule, which begin the schedule.  One of
a function that collects its arguments is a single call of that with all of them. -/
theorem drive_protocol (f : ManagedFunction σ κ) (arguments : List RawBuffer) (result : RawBuffer)
    (t : Thread σ) :
    (∃ requests outcome u, Drives f arguments result t requests outcome u ∧
      requests <+: schedule arguments result ∧ drive f arguments result t = (outcome, u) ∧
      ∀ before, drive f.recorded arguments result (recording t before) =
        (outcome, recording u (before ++ requests))) ∧
    ∀ arity function keeps, drive (collecting arity function keeps) arguments result t =
      if arity = arguments.length then (Except.ok <$> function arguments result) t
      else (.ok (.error ⟨arguments.length, arity⟩), t) := by
  constructor
  · obtain ⟨requests, outcome, u, h⟩ := exists_drives f arguments result t
    exact ⟨requests, outcome, u, h, h.prefix_schedule, h.drive_eq,
      fun before => (h.recorded before).drive_eq⟩
  · intro arity function keeps
    split
    · rename_i harity
      rw [drive_of_arity harity, call_collecting]
    · rename_i harity
      rw [drive_of_mismatch harity, Run.pure_apply]
      rfl

/-- Takes three arguments but panics at the second. -/
def faltering : ManagedFunction Unit Unit where
  arity := 3
  start := return ()
  apply := fun _ index _ => if index = 1 then Run.panic (.raised "second") else return ()
  finish := fun _ result => return result
  finish_keepsSize := fun _ result _ t _ h => by
    cases h
    rfl

/-- Answers how many arguments there are. -/
def counting (arguments : List RawBuffer) (result : RawBuffer) : Run Unit RawBuffer :=
  return ⟨Bytes.ofNat result.size arguments.length⟩

theorem counting_keepsSize (arguments : List RawBuffer) :
    RawBuffer.KeepsSize (counting arguments) := by
  intro result made t t' h
  cases h
  exact Bytes.length_ofNat _ _

/-- The third argument and the result buffer are never seen, and seventy arguments are seen by one
call. -/
theorem drive_protocol_stopped :
    Drives faltering [⟨[1]⟩, ⟨[2]⟩, ⟨[3]⟩] ⟨[0]⟩ ⟨0, ()⟩ [.start, .apply 0 ⟨[1]⟩, .apply 1 ⟨[2]⟩]
        (.error (.panic (.raised "second"))) ⟨0, ()⟩ ∧
      drive (collecting 70 counting counting_keepsSize) (List.replicate 70 ⟨[7]⟩) ⟨[0]⟩ ⟨0, ()⟩ =
        (.ok (.ok ⟨[70]⟩), ⟨0, ()⟩) := by
  have hprotocol := drive_protocol faltering [⟨[1]⟩, ⟨[2]⟩, ⟨[3]⟩] ⟨[0]⟩ ⟨0, ()⟩
  obtain ⟨requests, outcome, u, hdrives, -, hdrive, hrecord⟩ := hprotocol.1
  have hrun : drive faltering.recorded [⟨[1]⟩, ⟨[2]⟩, ⟨[3]⟩] ⟨[0]⟩ (recording ⟨0, ()⟩ []) =
      (.error (.panic (.raised "second")),
        recording ⟨0, ()⟩ [.start, .apply 0 ⟨[1]⟩, .apply 1 ⟨[2]⟩]) := rfl
  have hrecorded := (hrecord []).symm.trans hrun
  obtain rfl : outcome = _ := congrArg Prod.fst hrecorded
  obtain rfl : requests = _ := congrArg (fun left => left.2.world.requests) hrecorded
  obtain rfl : _ = u := congrArg Prod.snd hdrive
  refine ⟨hdrives, ?_⟩
  exact (drive_protocol faltering (List.replicate 70 ⟨[7]⟩) ⟨[0]⟩ ⟨0, ()⟩).2 70 counting
    counting_keepsSize

end ManagedFunction

end CallBridge
