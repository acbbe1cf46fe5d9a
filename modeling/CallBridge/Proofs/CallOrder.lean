/-
The order of one call.

A call looks at the address, has its arguments written, gives the lock up, resets errno, runs the
callee, captures errno and takes the lock back, and only then decides what it comes to.
`Course` has one rule for each way a call can go.  `invoke_follows_course` says that a call
returns by these rules and no others, and that what it reports is the callee's doing.
-/
import CallBridge.Invoke

namespace CallBridge

variable {σ α β : Type}

/-! ## Errno -/

namespace Prepared

/-- A callee of this specification starts here, if it is reached at `t`. -/
def reset (p : Prepared) (t : Thread σ) : Thread σ :=
  if p.context.checkErrno then { t with errno := 0 } else t

/-- The code to report after a callee that ended at `t`.  Zero is none. -/
def captured (p : Prepared) (t : Thread σ) : Int := if p.context.checkErrno then t.errno else 0

theorem reset_congr {p : Prepared} (hcheck : p.context.checkErrno = true) {t u : Thread σ}
    (h : t.world = u.world) : p.reset t = p.reset u := by
  rw [reset, reset, if_pos hcheck, if_pos hcheck, h]

end Prepared

theorem dispatch_eq_ok_iff {p : Prepared} {callee : Run σ β} {t v : Thread σ} {result : β}
    {code : Int} : dispatch p callee t = (.ok (result, code), v) ↔
      callee (p.reset t) = (.ok result, v) ∧ p.captured v = code := by
  unfold dispatch Prepared.reset Prepared.captured
  by_cases hcheck : p.context.checkErrno = true
  · simp only [if_pos hcheck]
    constructor
    · intro h
      obtain ⟨_, u, hset, h⟩ := Run.bind_eq_ok h
      cases hset
      obtain ⟨made, v', hcallee, h⟩ := Run.bind_eq_ok h
      cases h
      exact ⟨hcallee, rfl⟩
    · rintro ⟨hcallee, rfl⟩
      exact Run.bind_of_ok hcallee
  · simp only [if_neg hcheck]
    constructor
    · intro h
      obtain ⟨made, v', hcallee, h⟩ := Run.bind_eq_ok h
      cases h
      exact ⟨hcallee, rfl⟩
    · rintro ⟨hcallee, rfl⟩
      exact Run.bind_of_ok hcallee

/-- Begun at `t` and at `u`, two computations come to the same but for errno. -/
structure Run.AgreeAt (x y : Run σ α) (t u : Thread σ) : Prop where
  outcome : (x t).1 = (y u).1
  world : (x t).2.world = (y u).2.world

/-- Two computations that differ in nothing but what they make of errno. -/
def Run.Agree (x y : Run σ α) : Prop := ∀ t u, t.world = u.world → x.AgreeAt y t u

theorem Run.AgreeAt.symm {x y : Run σ α} {t u : Thread σ} (h : x.AgreeAt y t u) :
    y.AgreeAt x u t := ⟨h.outcome.symm, h.world.symm⟩

theorem Run.AgreeAt.eq_ok {x y : Run σ α} {t t' u : Thread σ} {a : α} (h : x.AgreeAt y t u)
    (hx : x t = (.ok a, t')) : ∃ u', y u = (.ok a, u') ∧ t'.world = u'.world := by
  obtain ⟨houtcome, hleft⟩ := h
  rw [hx] at houtcome hleft
  exact ⟨(y u).2, Prod.ext houtcome.symm rfl, hleft⟩

theorem Run.Agree.symm {x y : Run σ α} (h : x.Agree y) : y.Agree x :=
  fun t u hworld => (h u t hworld.symm).symm

structure RuntimeLock.Agree (lock other : RuntimeLock σ) : Prop where
  acquire : lock.acquire.Agree other.acquire
  release : lock.release.Agree other.release

theorem RuntimeLock.Agree.symm {lock other : RuntimeLock σ} (h : lock.Agree other) :
    other.Agree lock := ⟨h.acquire.symm, h.release.symm⟩

variable [Journal σ]

/-! ## Transfers of control -/

theorem Thread.logged_congr {t u : Thread σ} (h : t.world = u.world) (level : Level)
    (message : String) (fields : List (String × FieldValue)) :
    (t.logged level message fields).world = (u.logged level message fields).world :=
  congrArg (Journal.record _) h

/-- From `t` control goes to the callee once and comes back with its result, the code to report
and the lock as it was. -/
inductive Transfer (p : Prepared) (lock : RuntimeLock σ) (callee : Run σ β) :
    Thread σ → β → Int → Thread σ → Prop
  | keeping {t v : Thread σ} {result : β} (hflag : p.context.releaseLock = false)
      (hcallee : callee (p.reset t) = (.ok result, v)) :
      Transfer p lock callee t result (p.captured v) v
  | lending {t u v w : Thread σ} {result : β} (hflag : p.context.releaseLock = true)
      (hrelease : lock.release (t.logged .trace "releasing runtime lock" []) = (.ok true, u))
      (hcallee : callee (p.reset u) = (.ok result, v))
      (hacquire : lock.acquire (v.logged .trace "reacquiring runtime lock" []) = (.ok (), w)) :
      Transfer p lock callee t result (p.captured v) w
  /-- What was not given up is not taken back. -/
  | lacking {t u v : Thread σ} {result : β} (hflag : p.context.releaseLock = true)
      (hrelease : lock.release (t.logged .trace "releasing runtime lock" []) = (.ok false, u))
      (hcallee : callee (p.reset u) = (.ok result, v)) :
      Transfer p lock callee t result (p.captured v) v

theorem transfer_iff {p : Prepared} {lock : RuntimeLock σ} {callee : Run σ β} {t w : Thread σ}
    {result : β} {code : Int} :
    lock.suspendedIf p.context.releaseLock (dispatch p callee) t = (.ok (result, code), w) ↔
      Transfer p lock callee t result code w := by
  constructor
  · intro h
    unfold RuntimeLock.suspendedIf at h
    split at h
    · rename_i hflag
      obtain ⟨guard, u, hsuspend, h⟩ := Run.bind_eq_ok h
      obtain ⟨_, _, hlog, hsuspend⟩ := Run.bind_eq_ok hsuspend
      cases hlog
      obtain ⟨released, _, hrelease, hguard⟩ := Run.bind_eq_ok hsuspend
      cases hguard
      obtain ⟨v, hdispatch, hdrop⟩ := Run.guarded_eq_ok h
      obtain ⟨hcallee, rfl⟩ := dispatch_eq_ok_iff.mp hdispatch
      cases released with
      | true =>
        obtain ⟨_, _, hlog, hacquire⟩ := Run.bind_eq_ok hdrop
        cases hlog
        exact .lending hflag hrelease hcallee hacquire
      | false =>
        cases hdrop
        exact .lacking hflag hrelease hcallee
    · rename_i hflag
      obtain ⟨hcallee, rfl⟩ := dispatch_eq_ok_iff.mp h
      exact .keeping (Bool.eq_false_iff.mpr hflag) hcallee
  · intro h
    unfold RuntimeLock.suspendedIf
    cases h with
    | keeping hflag hcallee =>
      rw [hflag, if_neg Bool.false_ne_true]
      exact dispatch_eq_ok_iff.mpr ⟨hcallee, rfl⟩
    | lending hflag hrelease hcallee hacquire =>
      rw [if_pos hflag]
      refine (Run.bind_of_ok (lock.suspend_apply hrelease)).trans ?_
      exact Run.guarded_of_ok (dispatch_eq_ok_iff.mpr ⟨hcallee, rfl⟩)
        ((Run.bind_of_ok rfl).trans hacquire)
    | lacking hflag hrelease hcallee =>
      rw [if_pos hflag]
      refine (Run.bind_of_ok (lock.suspend_apply hrelease)).trans ?_
      exact Run.guarded_of_ok (dispatch_eq_ok_iff.mpr ⟨hcallee, rfl⟩) rfl

/-- If errno is checked, neither what it was before nor what the lock makes of it shows. -/
theorem Transfer.agree {p : Prepared} {lock other : RuntimeLock σ} {callee : Run σ β}
    (hcheck : p.context.checkErrno = true) (hlock : lock.Agree other) {t t' u : Thread σ}
    (hworld : t.world = u.world) {result : β} {code : Int}
    (h : Transfer p lock callee t result code t') :
    ∃ u', Transfer p other callee u result code u' ∧ t'.world = u'.world := by
  cases h with
  | keeping hflag hcallee =>
    rw [Prepared.reset_congr hcheck hworld] at hcallee
    exact ⟨t', .keeping hflag hcallee, rfl⟩
  | lending hflag hrelease hcallee hacquire =>
    obtain ⟨_, hrelease, hgiven⟩ :=
      (hlock.release _ _ (Thread.logged_congr hworld ..)).eq_ok hrelease
    rw [Prepared.reset_congr hcheck hgiven] at hcallee
    obtain ⟨u', hacquire, htaken⟩ := (hlock.acquire _ _ (Thread.logged_congr rfl ..)).eq_ok hacquire
    exact ⟨u', .lending hflag hrelease hcallee hacquire, htaken⟩
  | lacking hflag hrelease hcallee =>
    obtain ⟨_, hrelease, hgiven⟩ :=
      (hlock.release _ _ (Thread.logged_congr hworld ..)).eq_ok hrelease
    rw [Prepared.reset_congr hcheck hgiven] at hcallee
    exact ⟨t', .lacking hflag hrelease hcallee, rfl⟩

/-- Once the arguments are written, a call returns just if control goes to the callee and comes
back, and then it reports the code that was left, or it reads the result. -/
theorem transact_eq_ok_iff {name : String} {p : Prepared} {lock : RuntimeLock σ} {size : Nat}
    {callee : Run σ β} {read : β → Run σ (Except Error α)} {t t' : Thread σ} {r : Except Error α} :
    transact name p lock size callee read t = (.ok r, t') ↔
      ∃ result code v, Transfer p lock callee (t.logged .trace "dispatching foreign call"
          [("function", .text name), ("arity", .number p.arity), ("bytes", .number size)])
          result code v ∧
        (code ≠ 0 ∧ r = .error (.system name code) ∧
            t' = v.logged .debug "foreign call reported errno"
              [("function", .text name), ("code", .number code)] ∨
          code = 0 ∧ read result v = (.ok r, t')) := by
  constructor
  · intro h
    obtain ⟨_, _, hlog, h⟩ := Run.bind_eq_ok h
    cases hlog
    obtain ⟨⟨result, code⟩, v, htransfer, h⟩ := Run.bind_eq_ok h
    refine ⟨result, code, v, transfer_iff.mp htransfer, ?_⟩
    by_cases hcode : code = 0
    · subst hcode
      exact Or.inr ⟨rfl, h⟩
    · simp only [if_pos hcode] at h
      obtain ⟨_, _, hlog, h⟩ := Run.bind_eq_ok h
      cases hlog
      cases h
      exact Or.inl ⟨hcode, rfl, rfl⟩
  · rintro ⟨result, code, v, htransfer, hending⟩
    refine (Run.bind_of_ok rfl).trans ((Run.bind_of_ok (transfer_iff.mpr htransfer)).trans ?_)
    obtain ⟨hcode, rfl, rfl⟩ | ⟨rfl, hread⟩ := hending
    · simp only [if_pos hcode]
      exact Run.bind_of_ok rfl
    · exact hread

/-! ## Courses of a call -/

/-- The ways in which a call can end. -/
inductive Ending (α : Type) where
  | missing
  | unwritten (e : Error)
  | reported (code : Int)
  | answered (answer : Except Error α)

def Ending.result (name : String) : Ending α → Except Error α
  | missing => .error (.nullFunction name)
  | unwritten e => .error e
  | reported code => .error (.system name code)
  | answered answer => answer

/-- From `t` the arguments of a call of `callee` are written into the buffer of `p`. -/
structure Writes (p : Prepared) (function : Option (NativeFunction σ)) (write : WriteArguments σ)
    (t : Thread σ) (callee : NativeFunction σ) (arena : Arena)
    (outcome : Except Error ArgumentWriter) (t' : Thread σ) : Prop where
  callee_eq : function = some callee
  arena_eq : Arena.forSpec p = .ok arena
  write_eq : write (.ofArena arena) t = (.ok outcome, t')

/-- How a call of `function` goes that starts at `t`. -/
inductive Course (name : String) (function : Option (NativeFunction σ)) (p : Prepared)
    (lock : RuntimeLock σ) (base : Nat) (write : WriteArguments σ) (read : ReadReturn σ α) :
    Thread σ → Ending α → Thread σ → Prop
  /-- Without an address nothing runs. -/
  | missing {t : Thread σ} (hnone : function = none) :
      Course name function p lock base write read t .missing t
  /-- After the writer's error nothing runs. -/
  | unwritten {t t' : Thread σ} {callee : NativeFunction σ} {arena : Arena} {e : Error}
      (hwrite : Writes p function write t callee arena (.error e) t') :
      Course name function p lock base write read t (.unwritten e) t'
  /-- A code that the callee left is the call's error, and nothing is read. -/
  | reported {t u v : Thread σ} {callee : NativeFunction σ} {arena : Arena}
      {written : ArgumentWriter} {result : Bytes} {code : Int}
      (hwrite : Writes p function write t callee arena (.ok written) u)
      (htransfer : Transfer p lock (callee ((CallFrame.ofWriter base written).received p.arguments))
        (u.logged .trace "dispatching foreign call"
          [("function", .text name), ("arity", .number p.arity), ("bytes", .number arena.size)])
        result code v)
      (hcode : code ≠ 0) :
      Course name function p lock base write read t (.reported code)
        (v.logged .debug "foreign call reported errno"
          [("function", .text name), ("code", .number code)])
  | answered {t u v t' : Thread σ} {callee : NativeFunction σ} {arena : Arena}
      {written : ArgumentWriter} {result : Bytes} {answer : Except Error α}
      (hwrite : Writes p function write t callee arena (.ok written) u)
      (htransfer : Transfer p lock (callee ((CallFrame.ofWriter base written).received p.arguments))
        (u.logged .trace "dispatching foreign call"
          [("function", .text name), ("arity", .number p.arity), ("bytes", .number arena.size)])
        result 0 v)
      (hread : read ⟨(CallFrame.ofWriter base written).arena.storeResult result⟩ v =
        (.ok answer, t')) :
      Course name function p lock base write read t (.answered answer) t'

section

variable {name : String} {function : Option (NativeFunction σ)} {p : Prepared}
  {lock other : RuntimeLock σ} {base : Nat} {write : WriteArguments σ} {read : ReadReturn σ α}

theorem Course.invoke_eq {t t' : Thread σ} {ending : Ending α}
    (h : Course name function p lock base write read t ending t') :
    invoke name function p lock base write read t = (.ok (ending.result name), t') := by
  cases h with
  | missing hnone =>
    subst hnone
    rfl
  | unwritten hwrite =>
    obtain ⟨rfl, harena, hwrite⟩ := hwrite
    rw [invoke, harena]
    exact Run.bind_of_ok hwrite
  | reported hwrite htransfer hcode =>
    obtain ⟨rfl, harena, hwrite⟩ := hwrite
    rw [invoke, harena]
    refine (Run.bind_of_ok hwrite).trans ?_
    exact transact_eq_ok_iff.mpr ⟨_, _, _, htransfer, Or.inl ⟨hcode, rfl, rfl⟩⟩
  | answered hwrite htransfer hread =>
    obtain ⟨rfl, harena, hwrite⟩ := hwrite
    rw [invoke, harena]
    refine (Run.bind_of_ok hwrite).trans ?_
    exact transact_eq_ok_iff.mpr ⟨_, _, _, htransfer, Or.inr ⟨rfl, hread⟩⟩

theorem Course.of_invoke {t t' : Thread σ} {r : Except Error α}
    (h : invoke name function p lock base write read t = (.ok r, t')) :
    ∃ ending, Course name function p lock base write read t ending t' ∧ ending.result name = r := by
  cases function with
  | none =>
    cases h
    exact ⟨.missing, .missing rfl, rfl⟩
  | some callee =>
    obtain ⟨arena, u, hlaid, h⟩ := Run.bind_eq_ok h
    cases harena : Arena.forSpec p with
    | error panic =>
      rw [harena] at hlaid
      cases hlaid
    | ok laid =>
      rw [harena] at hlaid
      cases hlaid
      obtain ⟨outcome, u, hwrite, h⟩ := Run.bind_eq_ok h
      have hwrites : Writes p (some callee) write t callee arena outcome u := ⟨rfl, harena, hwrite⟩
      cases outcome with
      | error e =>
        cases h
        exact ⟨.unwritten e, .unwritten hwrites, rfl⟩
      | ok written =>
        obtain ⟨result, code, v, htransfer, ⟨hcode, rfl, rfl⟩ | ⟨rfl, hread⟩⟩ :=
          transact_eq_ok_iff.mp h
        · exact ⟨.reported code, .reported hwrites htransfer hcode, rfl⟩
        · exact ⟨.answered r, .answered hwrites htransfer hread, rfl⟩

theorem Course.reported_agree (hcheck : p.context.checkErrno = true) (hlock : lock.Agree other)
    {t t' u : Thread σ} (hwriter : ∀ w, (write w).AgreeAt (write w) t u) {code : Int}
    (h : Course name function p lock base write read t (.reported code) t') :
    ∃ u', Course name function p other base write read u (.reported code) u' := by
  cases h with
  | reported hwrite htransfer hcode =>
    obtain ⟨_, hwritten, hleft⟩ := (hwriter _).eq_ok hwrite.write_eq
    obtain ⟨_, htransfer, -⟩ := htransfer.agree hcheck hlock (Thread.logged_congr hleft ..)
    exact ⟨_, .reported ⟨hwrite.callee_eq, hwrite.arena_eq, hwritten⟩ htransfer hcode⟩

end

/-- A call returns exactly by the rules of its course.  If errno is checked and the same was
written, then the same is reported, whatever errno was before and whatever the lock makes of it. -/
theorem invoke_follows_course (name : String) (function : Option (NativeFunction σ)) (p : Prepared)
    (lock : RuntimeLock σ) (base : Nat) (write : WriteArguments σ) (read : ReadReturn σ α) :
    (∀ t r t', invoke name function p lock base write read t = (.ok r, t') ↔
      ∃ ending, Course name function p lock base write read t ending t' ∧
        ending.result name = r) ∧
    (p.context.checkErrno = true → ∀ other : RuntimeLock σ, lock.Agree other → ∀ t u,
      (∀ w, (write w).AgreeAt (write w) t u) → ∀ code,
        ((∃ t', Course name function p lock base write read t (.reported code) t') ↔
          ∃ u', Course name function p other base write read u (.reported code) u')) := by
  refine ⟨fun t r t' => ⟨Course.of_invoke, ?_⟩, ?_⟩
  · rintro ⟨ending, hcourse, rfl⟩
    exact hcourse.invoke_eq
  · intro hcheck other hlock t u hwriter code
    constructor
    · rintro ⟨t', hcourse⟩
      exact hcourse.reported_agree hcheck hlock hwriter
    · rintro ⟨u', hcourse⟩
      exact hcourse.reported_agree hcheck hlock.symm fun w => (hwriter w).symm

/-! ## A lock that disturbs errno -/

def disturbing : RuntimeLock (List LogRecord) where
  acquire := Run.setErrno 13
  release := do
    Run.setErrno 11
    return true

/-- It leaves 2 in errno. -/
def failing : NativeFunction (List LogRecord) := fun _ => do
  Run.setErrno 2
  return Bytes.ofInt 8 (-1)

/-- It checks errno and gives the lock up. -/
def watchful : Prepared := ⟨[], .sint32, 16, 0, 0, ⟨true, true⟩, .default⟩

/-- The callee's code is reported, at a stale errno and over a lock that sets errno twice, just as
without any lock. -/
theorem invoke_follows_course_disturbed :
    (Builder.empty ⟨true, true⟩).prepare .default .sint32 = .ok (.ok watchful) ∧
      (∃ t', invoke "open" (some failing) watchful disturbing 4096 (fun w => return .ok w)
        (fun r => return r.bytes) ⟨7, []⟩ = (.ok (.error (.system "open" 2)), t')) ∧
      ∃ u', Course "open" (some failing) watchful .none 4096 (fun w => return .ok w)
        (fun r => return r.bytes) ⟨0, []⟩ (.reported 2) u' := by
  obtain ⟨hiff, hagree⟩ := invoke_follows_course "open" (some failing) watchful disturbing 4096
    (fun w => return .ok w) (fun r => return r.bytes)
  have hlock : disturbing.Agree .none := ⟨fun _ _ h => ⟨rfl, h⟩, fun _ _ h => ⟨rfl, h⟩⟩
  have harena : Arena.forSpec watchful = .ok ⟨Bytes.zeros 16, [], ⟨0, 4, 4⟩, 16⟩ := rfl
  have htransfer (values : List Bytes) (t : Thread (List LogRecord)) :
      ∃ v, Transfer watchful disturbing (failing values) t (Bytes.ofInt 8 (-1)) 2 v :=
    ⟨⟨13, _⟩, @Transfer.lending _ _ _ watchful disturbing (failing values) t ⟨11, _⟩ ⟨2, _⟩
      ⟨13, _⟩ _ rfl rfl rfl rfl⟩
  have hcourse : ∃ t', Course "open" (some failing) watchful disturbing 4096
      (fun w => return .ok w) (fun r => return r.bytes) ⟨7, []⟩ (.reported 2) t' := by
    obtain ⟨v, htransfer⟩ := htransfer _ _
    exact ⟨_, .reported ⟨rfl, harena, rfl⟩ htransfer (by decide)⟩
  refine ⟨rfl, ?_, ?_⟩
  · obtain ⟨t', hcourse⟩ := hcourse
    exact ⟨t', (hiff _ _ _).mpr ⟨_, hcourse, rfl⟩⟩
  · exact (hagree rfl .none hlock ⟨7, []⟩ ⟨0, []⟩ (fun _ => ⟨rfl, rfl⟩) 2).mp hcourse

end CallBridge
