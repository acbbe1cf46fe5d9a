/-
A handle from its creation on.

Requests come in any order, and the log of a run pairs each with its answer.  Until a prepare
succeeds a handle is the builder of the arguments it took, and from then on it is the
specification which that builder made; `handle_refines_builder` says so of every log without an
overflow, and that a request which fails might as well not have been made.
-/
import CallBridge.Proofs.CallLayout
import CallBridge.Signature.Handle

namespace CallBridge

namespace Builder

/-- Append one type after the other, up to the first that fails. -/
def appendAll (b : Builder) : List TypeToken → Except Panic (Except Error Builder)
  | [] => .ok (.ok b)
  | t :: rest =>
    match b.append t with
    | .ok (.ok (_, grown)) => grown.appendAll rest
    | .ok (.error e) => .ok (.error e)
    | .error p => .error p

theorem context_append {b grown : Builder} {t : TypeToken} {offset : Nat}
    (h : b.append t = .ok (.ok (offset, grown))) : grown.context = b.context := by
  unfold append at h
  split at h
  · cases h
  · obtain ⟨_, -, h⟩ := bind_eq_ok h
    obtain ⟨_, -, h⟩ := bind_eq_ok h
    cases h
    rfl

theorem context_prepare {b : Builder} {abi : Abi} {returnType : TypeToken} {p : Prepared}
    (h : b.prepare abi returnType = .ok (.ok p)) : p.context = b.context := by
  unfold prepare at h
  split at h
  · cases h
  · obtain ⟨_, -, h⟩ := bind_eq_ok h
    obtain ⟨_, -, h⟩ := bind_eq_ok (Except.ok.inj h)
    cases h
    rfl

end Builder

/-! ## What goes wrong -/

theorem checkedAdd_eq_error {a b : Nat} {p : Panic} (h : checkedAdd a b = .error p) :
    p = .overflow := by
  unfold checkedAdd at h
  split at h
  · cases h
  · exact (Except.error.inj h).symm

theorem alignUp_eq_error {offset alignment : Nat} {p : Panic} (ha : 0 < alignment)
    (h : alignUp offset alignment = .error p) : p = .overflow := by
  rw [alignUp, if_neg (by omega)] at h
  split at h
  · cases h
  · exact checkedAdd_eq_error h

/-- A computation of two steps fails in one of them. -/
theorem bind_eq_error {ε α β : Type} {x : Except ε α} {f : α → Except ε β} {e : ε}
    (h : (x >>= f) = .error e) : x = .error e ∨ ∃ a, x = .ok a ∧ f a = .error e := by
  cases x with
  | error e' =>
    cases h
    exact Or.inl rfl
  | ok a => exact Or.inr ⟨a, rfl, h⟩

/-- The errors of appending and preparing. -/
inductive Error.Refusal : Error → Prop
  | alignment (alignment max : Nat) : Refusal (.unsupportedAlignment alignment max)
  | abi : Refusal .badAbi
  | typedef : Refusal .badTypedef
  | state (reason : String) : Refusal (.invalidState reason)

namespace Builder

variable {b : Builder} {t : TypeToken} {abi : Abi}

theorem refusal_of_checkAlignment {e : Error} (h : checkAlignment t = .error e) : e.Refusal := by
  unfold checkAlignment at h
  split at h
  · cases h
    exact .alignment ..
  · cases h

theorem refusal_of_acceptSignature {types : List TypeToken} {e : Error}
    (h : acceptSignature abi types t = .error e) : e.Refusal := by
  unfold acceptSignature at h
  split at h
  · cases h
    exact .abi
  · split at h
    · cases h
      exact .typedef
    · split at h
      · cases h
        exact .typedef
      · cases h

theorem append_eq_panic {p : Panic} (h : b.append t = .error p) : p = .overflow := by
  unfold append at h
  split at h
  · cases h
  · obtain h | ⟨_, -, h⟩ := bind_eq_error h
    · exact alignUp_eq_error t.alignment_pos h
    · obtain h | ⟨_, -, h⟩ := bind_eq_error h
      · exact checkedAdd_eq_error h
      · cases h

theorem append_eq_refusal {e : Error} (h : b.append t = .ok (.error e)) : e.Refusal := by
  unfold append at h
  split at h
  · rename_i hcheck
    cases h
    exact refusal_of_checkAlignment hcheck
  · obtain ⟨_, -, h⟩ := bind_eq_ok h
    obtain ⟨_, -, h⟩ := bind_eq_ok h
    cases h

theorem prepare_eq_panic {p : Panic} (h : b.prepare abi t = .error p) : p = .overflow := by
  unfold prepare at h
  split at h
  · cases h
  · obtain h | ⟨_, -, h⟩ := bind_eq_error h
    · unfold returnPlacement at h
      obtain h | ⟨_, -, h⟩ := bind_eq_error h
      · exact alignUp_eq_error t.alignment_pos h
      obtain h | ⟨_, -, h⟩ := bind_eq_error h
      · exact checkedAdd_eq_error h
      obtain h | ⟨_, -, h⟩ := bind_eq_error h
      · exact alignUp_eq_error (by decide) h
      obtain h | ⟨_, -, h⟩ := bind_eq_error h
      · exact checkedAdd_eq_error h
      · cases h
    · cases h

theorem prepare_eq_refusal {e : Error} (h : b.prepare abi t = .ok (.error e)) : e.Refusal := by
  unfold prepare at h
  split at h
  · rename_i hcheck
    cases h
    exact refusal_of_checkAlignment hcheck
  · obtain ⟨_, -, h⟩ := bind_eq_ok h
    obtain h | ⟨_, -, h⟩ := bind_eq_error (Except.ok.inj h)
    · exact refusal_of_acceptSignature h
    · cases h

end Builder

/-! ## Requests and their answers -/

namespace Handle

/-- What a handle can be asked for. -/
inductive Request where
  | append (t : TypeToken)
  | prepare (abi : Abi) (returnType : TypeToken)
  | prepared
  | isPrepared
  | context

inductive Reply where
  | appended (outcome : Except Panic (Except Error Nat))
  | prepared (outcome : Except Panic (Except Error Unit))
  | specification (outcome : Except Error Prepared)
  | isPrepared (answer : Bool)
  | context (answer : Option CallContext)
deriving DecidableEq

namespace Reply

def error? : Reply → Option Error
  | appended (.ok (.error e)) | prepared (.ok (.error e)) | specification (.error e) => some e
  | _ => none

def panic? : Reply → Option Panic
  | appended (.error p) | prepared (.error p) => some p
  | _ => none

end Reply

def ask (h : Handle) : Request → Reply × Handle
  | .append t => (.appended (h.append t).1, (h.append t).2)
  | .prepare abi returnType =>
    (.prepared (h.prepare abi returnType).1, (h.prepare abi returnType).2)
  | .prepared => (.specification h.prepared?, h)
  | .isPrepared => (.isPrepared h.isPrepared, h)
  | .context => (.context h.context?, h)

/-- A request with its answer. -/
structure Exchange where
  request : Request
  reply : Reply

namespace Exchange

/-- The argument type that was appended. -/
def taken? : Exchange → Option TypeToken
  | ⟨.append t, .appended (.ok (.ok _))⟩ => some t
  | _ => none

/-- Whether this is the prepare that succeeded. -/
def isFinal : Exchange → Bool
  | ⟨.prepare _ _, .prepared (.ok (.ok ()))⟩ => true
  | _ => false

end Exchange

/-- The log of some requests, and the handle they leave. -/
def run (h : Handle) : List Request → List Exchange × Handle
  | [] => ([], h)
  | r :: rest => (⟨r, (h.ask r).1⟩ :: ((h.ask r).2.run rest).1, ((h.ask r).2.run rest).2)

/-- The argument types that were appended, in order. -/
def taken (log : List Exchange) : List TypeToken := log.filterMap Exchange.taken?

theorem run_cons {h next : Handle} {r : Request} {reply : Reply} (hask : h.ask r = (reply, next))
    (rest : List Request) :
    h.run (r :: rest) = (⟨r, reply⟩ :: (next.run rest).1, (next.run rest).2) := by
  rw [run, hask]

theorem run_append (h : Handle) (before after : List Request) :
    h.run (before ++ after) =
      ((h.run before).1 ++ ((h.run before).2.run after).1, ((h.run before).2.run after).2) := by
  induction before generalizing h with
  | nil => rfl
  | cons r rest ih => simp [run, ih]

end Handle

/-! ## The two phases -/

open Handle (Request Reply Exchange)

/-- How a builder answers while it is one. -/
def Builder.answer (b : Builder) : Request → Reply
  | .append t => .appended ((b.append t).map (Except.map Prod.fst))
  | .prepare abi returnType => .prepared ((b.prepare abi returnType).map (Except.map fun _ => ()))
  | .prepared => .specification (.error (.invalidState "call specification has not been prepared"))
  | .isPrepared => .isPrepared false
  | .context => .context (some b.context)

/-- How a specification answers.  It takes no more arguments and is not prepared again. -/
def Prepared.answer (p : Prepared) : Request → Reply
  | .append _ => .appended
      (.ok (.error (.invalidState "cannot append an argument to a prepared call specification")))
  | .prepare _ _ => .prepared
      (.ok (.error (.invalidState "call specification is already prepared")))
  | .prepared => .specification (.ok p)
  | .isPrepared => .isPrepared true
  | .context => .context (some p.context)

/-- Errors are refusals, and what breaks is a sum. -/
structure Handle.Reply.Orderly (reply : Reply) : Prop where
  refusal : ∀ e, reply.error? = some e → e.Refusal
  overflow : ∀ p, reply.panic? = some p → p = .overflow

theorem Builder.orderly_answer (b : Builder) (r : Request) : (b.answer r).Orderly := by
  cases r with
  | append t =>
    rw [answer]
    rcases happend : b.append t with p | e | grown
    · exact ⟨by rintro _ ⟨⟩, by rintro _ ⟨⟩; exact append_eq_panic happend⟩
    · exact ⟨by rintro _ ⟨⟩; exact append_eq_refusal happend, by rintro _ ⟨⟩⟩
    · exact ⟨by rintro _ ⟨⟩, by rintro _ ⟨⟩⟩
  | prepare abi returnType =>
    rw [answer]
    rcases hprepare : b.prepare abi returnType with p | e | made
    · exact ⟨by rintro _ ⟨⟩, by rintro _ ⟨⟩; exact prepare_eq_panic hprepare⟩
    · exact ⟨by rintro _ ⟨⟩; exact prepare_eq_refusal hprepare, by rintro _ ⟨⟩⟩
    · exact ⟨by rintro _ ⟨⟩, by rintro _ ⟨⟩⟩
  | prepared => exact ⟨by rintro _ ⟨⟩; exact .state _, by rintro _ ⟨⟩⟩
  | isPrepared => exact ⟨by rintro _ ⟨⟩, by rintro _ ⟨⟩⟩
  | context => exact ⟨by rintro _ ⟨⟩, by rintro _ ⟨⟩⟩

namespace Handle

variable {h : Handle} {r : Request}

theorem ask_prepared (p : Prepared) (r : Request) :
    (prepared p).ask r = (p.answer r, prepared p) := by
  cases r <;> rfl

theorem run_prepared (p : Prepared) (requests : List Request) :
    (prepared p).run requests = (requests.map fun r => ⟨r, p.answer r⟩, prepared p) := by
  induction requests with
  | nil => rfl
  | cons r rest ih => simp [run, ask_prepared, ih]

/-- All that a builder can do: take an argument, become a specification, break in the middle
of it, or stay as it is. -/
theorem ask_building (b : Builder) (r : Request) :
    (∃ t offset grown, r = .append t ∧ b.append t = .ok (.ok (offset, grown)) ∧
      (building b).ask r = (.appended (.ok (.ok offset)), building grown)) ∨
    (∃ abi returnType p, r = .prepare abi returnType ∧
      b.prepare abi returnType = .ok (.ok p) ∧
      (building b).ask r = (.prepared (.ok (.ok ())), prepared p)) ∨
    (∃ abi returnType p, r = .prepare abi returnType ∧
      b.prepare abi returnType = .error p ∧
      (building b).ask r = (.prepared (.error p), transitioning)) ∨
    ((building b).ask r = (b.answer r, building b) ∧
      Exchange.taken? ⟨r, b.answer r⟩ = none ∧ Exchange.isFinal ⟨r, b.answer r⟩ = false) := by
  cases r with
  | append t =>
    simp only [ask, Handle.append, Builder.offer, Builder.answer]
    cases happend : b.append t with
    | error p => simp [Except.map, Exchange.taken?, Exchange.isFinal]
    | ok outcome =>
      cases outcome with
      | error e => simp [Except.map, Exchange.taken?, Exchange.isFinal]
      | ok answer => simp [happend]
  | prepare abi returnType =>
    simp only [ask, Handle.prepare, Builder.answer]
    cases hprepare : b.prepare abi returnType with
    | error p => simp [hprepare]
    | ok outcome =>
      cases outcome with
      | error e => simp [Except.map, Exchange.taken?, Exchange.isFinal]
      | ok p => simp [hprepare]
  | prepared => simp [ask, prepared?, Builder.answer, Exchange.taken?, Exchange.isFinal]
  | isPrepared => simp [ask, isPrepared, Builder.answer, Exchange.taken?, Exchange.isFinal]
  | context => simp [ask, context?, Builder.answer, Exchange.taken?, Exchange.isFinal]

theorem reply_building (b : Builder) (r : Request) : ((building b).ask r).1 = b.answer r := by
  obtain ⟨t, offset, grown, rfl, happend, hask⟩ | ⟨abi, returnType, p, rfl, hprepare, hask⟩ |
    ⟨abi, returnType, p, rfl, hprepare, hask⟩ | ⟨hask, -, -⟩ := ask_building b r
  · simp [hask, Builder.answer, happend, Except.map]
  · simp [hask, Builder.answer, hprepare, Except.map]
  · simp [hask, Builder.answer, hprepare, Except.map]
  · rw [hask]

/-- A request that fails changes nothing. -/
theorem ask_of_error {e : Error} (he : (h.ask r).1.error? = some e) : (h.ask r).2 = h := by
  cases h with
  | building b =>
    obtain ⟨t, offset, grown, rfl, -, hask⟩ | ⟨abi, returnType, p, rfl, -, hask⟩ |
      ⟨abi, returnType, p, rfl, -, hask⟩ | ⟨hask, -, -⟩ := ask_building b r
    · simp [hask, Reply.error?] at he
    · simp [hask, Reply.error?] at he
    · simp [hask, Reply.error?] at he
    · rw [hask]
  | prepared p => rw [ask_prepared]
  | transitioning => cases r <;> rfl

theorem orderly_ask (h : Handle) (r : Request) : (h.ask r).1.Orderly := by
  cases h with
  | building b =>
    rw [reply_building]
    exact b.orderly_answer r
  | prepared p =>
    rw [ask_prepared]
    cases r <;> constructor <;> rintro _ ⟨⟩ <;> exact .state _
  | transitioning => cases r <;> constructor <;> rintro _ ⟨⟩ <;> exact .state _

theorem context_ask (hp : (h.ask r).1.panic? = none) : (h.ask r).2.context? = h.context? := by
  cases h with
  | building b =>
    obtain ⟨t, offset, grown, rfl, happend, hask⟩ | ⟨abi, returnType, p, rfl, hprepare, hask⟩ |
      ⟨abi, returnType, p, rfl, -, hask⟩ | ⟨hask, -, -⟩ := ask_building b r
    · rw [hask]
      exact congrArg some (Builder.context_append happend)
    · rw [hask]
      exact congrArg some (Builder.context_prepare hprepare)
    · rw [hask] at hp
      cases hp
    · rw [hask]
  | prepared p => rw [ask_prepared]
  | transitioning => cases r <;> rfl

/-! ## Runs -/

theorem ask_of_final (hfinal : Exchange.isFinal ⟨r, (h.ask r).1⟩ = true) :
    ∃ p, (h.ask r).2 = prepared p := by
  cases h with
  | building b =>
    obtain ⟨t, offset, grown, rfl, -, hask⟩ | ⟨abi, returnType, p, rfl, -, hask⟩ |
      ⟨abi, returnType, p, rfl, -, hask⟩ | ⟨hask, -, hnot⟩ := ask_building b r
    · rw [hask] at hfinal
      cases hfinal
    · exact ⟨p, by rw [hask]⟩
    · rw [hask] at hfinal
      cases hfinal
    · rw [hask, hnot] at hfinal
      cases hfinal
  | prepared p => exact ⟨p, by rw [ask_prepared]⟩
  | transitioning => cases r <;> cases hfinal

/-- Once a request has made a handle a specification, it stays that specification. -/
theorem run_of_final {requests : List Request} {e : Exchange} (he : e ∈ (h.run requests).1)
    (hfinal : e.isFinal = true) : ∃ p, (h.run requests).2 = prepared p := by
  induction requests generalizing h with
  | nil => cases he
  | cons r rest ih =>
    rcases List.mem_cons.mp he with rfl | he
    · obtain ⟨p, hp⟩ := ask_of_final hfinal
      exact ⟨p, by simp [run, hp, run_prepared]⟩
    · exact ih he

/-- Before that a handle is the builder of the arguments it took. -/
theorem run_building {b : Builder} {requests : List Request}
    (hpanic : ∀ e ∈ ((building b).run requests).1, e.reply.panic? = none)
    (hopen : ∀ e ∈ ((building b).run requests).1, e.isFinal = false) :
    ∃ grown, b.appendAll (taken ((building b).run requests).1) = .ok (.ok grown) ∧
      ((building b).run requests).2 = building grown := by
  induction requests generalizing b with
  | nil => exact ⟨b, rfl, rfl⟩
  | cons r rest ih =>
    obtain ⟨t, offset, grown, rfl, happend, hask⟩ | ⟨abi, returnType, p, rfl, -, hask⟩ |
      ⟨abi, returnType, p, rfl, -, hask⟩ | ⟨hask, htaken, -⟩ := ask_building b r
    · rw [run_cons hask] at *
      obtain ⟨last, hall, hlast⟩ := ih (fun e he => hpanic e (List.mem_cons_of_mem _ he))
        (fun e he => hopen e (List.mem_cons_of_mem _ he))
      refine ⟨last, ?_, hlast⟩
      simp only [taken, List.filterMap_cons, Exchange.taken?, Builder.appendAll, happend]
      exact hall
    · rw [run_cons hask] at hopen
      cases hopen _ List.mem_cons_self
    · rw [run_cons hask] at hpanic
      cases hpanic _ List.mem_cons_self
    · rw [run_cons hask] at *
      obtain ⟨last, hall, hlast⟩ := ih (fun e he => hpanic e (List.mem_cons_of_mem _ he))
        (fun e he => hopen e (List.mem_cons_of_mem _ he))
      refine ⟨last, ?_, hlast⟩
      rw [taken, List.filterMap_cons_none htaken]
      exact hall

/-- The prepare that succeeds is the first to do so, and prepares the builder of the arguments
before it. -/
theorem prepared_of_done {b : Builder} {before : List Request} {abi : Abi} {returnType : TypeToken}
    (hpanic : ∀ e ∈ ((building b).run before).1, e.reply.panic? = none)
    (hdone : (((building b).run before).2.ask (.prepare abi returnType)).1 =
      .prepared (.ok (.ok ()))) :
    (∀ e ∈ ((building b).run before).1, e.isFinal = false) ∧
      ∃ grown p, b.appendAll (taken ((building b).run before).1) = .ok (.ok grown) ∧
        grown.prepare abi returnType = .ok (.ok p) ∧
        (((building b).run before).2.ask (.prepare abi returnType)).2 = prepared p := by
  have hopen : ∀ e ∈ ((building b).run before).1, e.isFinal = false := by
    intro e he
    refine Bool.eq_false_iff.mpr fun hfinal => ?_
    obtain ⟨p, hp⟩ := run_of_final he hfinal
    rw [hp, ask_prepared] at hdone
    cases hdone
  obtain ⟨grown, hall, hlast⟩ := run_building hpanic hopen
  rw [hlast] at hdone ⊢
  obtain ⟨t, offset, more, hr, -, hask⟩ | ⟨_, _, p, hr, hprepare, hask⟩ |
    ⟨_, _, p, hr, -, hask⟩ | ⟨hask, -, hnot⟩ := ask_building grown (.prepare abi returnType)
  · cases hr
  · cases hr
    exact ⟨hopen, grown, p, hall, hprepare, by rw [hask]⟩
  · rw [hask] at hdone
    cases hdone
  · rw [hask] at hdone
    simp only at hdone
    rw [hdone] at hnot
    cases hnot

theorem context_run {requests : List Request}
    (hpanic : ∀ e ∈ (h.run requests).1, e.reply.panic? = none) :
    (h.run requests).2.context? = h.context? := by
  induction requests generalizing h with
  | nil => rfl
  | cons r rest ih =>
    rw [run] at *
    exact (ih fun e he => hpanic e (List.mem_cons_of_mem _ he)).trans
      (context_ask (hpanic _ List.mem_cons_self))

theorem exchange_of_run {requests : List Request} {e : Exchange}
    (he : e ∈ (h.run requests).1) : ∃ h' : Handle, e.reply = (h'.ask e.request).1 := by
  induction requests generalizing h with
  | nil => cases he
  | cons r rest ih =>
    rcases List.mem_cons.mp he with rfl | he
    · exact ⟨h, rfl⟩
    · exact ih he

/-! ## The whole life -/

/-- What the log of a handle, asked for anything in any order, shows. -/
structure RefinesBuilder (context : CallContext) (requests : List Request) : Prop where
  answered : ∀ e ∈ ((create context).run requests).1, e.reply.panic? = none
  refusals : ∀ e ∈ ((create context).run requests).1, ∀ error, e.reply.error? = some error →
    error.Refusal
  /-- A request that fails leaves the handle as it was, so that all others are answered as if it
  had not been made. -/
  traceless : ∀ before r after, requests = before ++ r :: after →
    ∀ error, (((create context).run before).2.ask r).1.error? = some error →
      (((create context).run before).2.ask r).2 = ((create context).run before).2 ∧
      ∃ rest last,
        (create context).run (before ++ r :: after) = (((create context).run before).1 ++
          ⟨r, (((create context).run before).2.ask r).1⟩ :: rest, last) ∧
        (create context).run (before ++ after) = (((create context).run before).1 ++ rest, last)
  /-- While no prepare has succeeded, it is the builder of the arguments that it took. -/
  building : ∀ before r after, requests = before ++ r :: after →
    (∀ e ∈ ((create context).run before).1, e.isFinal = false) →
    ∃ b, (Builder.empty context).appendAll (taken ((create context).run before).1) = .ok (.ok b) ∧
      ((create context).run before).2 = .building b ∧
      (((create context).run before).2.ask r).1 = b.answer r
  /-- The prepare that succeeds is the first, and makes it the specification that this builder
  yields, for good. -/
  prepared : ∀ before abi returnType after, requests = before ++ .prepare abi returnType :: after →
    (((create context).run before).2.ask (.prepare abi returnType)).1 = .prepared (.ok (.ok ())) →
    (∀ e ∈ ((create context).run before).1, e.isFinal = false) ∧
    ∃ b p, (Builder.empty context).appendAll (taken ((create context).run before).1) = .ok (.ok b) ∧
      b.prepare abi returnType = .ok (.ok p) ∧
      (((create context).run before).2.ask (.prepare abi returnType)).2 = .prepared p ∧
      (Handle.prepared p).run after = (after.map fun r => ⟨r, p.answer r⟩, .prepared p)
  context : ∀ before after, requests = before ++ after →
    ((create context).run before).2.context? = some context

/-- Whatever is asked of a handle, as long as no sum of the layout overflows. -/
theorem handle_refines_builder {context : CallContext} {requests : List Request}
    (hfits : ∀ e ∈ ((create context).run requests).1, e.reply.panic? ≠ some .overflow) :
    RefinesBuilder context requests := by
  have hpanic : ∀ e ∈ ((create context).run requests).1, e.reply.panic? = none := by
    intro e he
    obtain ⟨h, hreply⟩ := exchange_of_run he
    refine Option.eq_none_iff_forall_ne_some.mpr fun p hp => ?_
    have hoverflow := (orderly_ask h e.request).overflow p (hreply ▸ hp)
    exact hfits e he (hoverflow ▸ hp)
  have hbefore : ∀ before after, requests = before ++ after →
      ∀ e ∈ ((create context).run before).1, e.reply.panic? = none := by
    rintro before after rfl e he
    rw [run_append] at hpanic
    exact hpanic e (List.mem_append_left _ he)
  refine ⟨hpanic, ?_, ?_, ?_, ?_, ?_⟩
  · intro e he error herror
    obtain ⟨h, hreply⟩ := exchange_of_run he
    exact (orderly_ask h e.request).refusal error (hreply ▸ herror)
  · intro before r after hrequests error herror
    have hsame := ask_of_error herror
    refine ⟨hsame, _, _, ?_, run_append ..⟩
    rw [run_append, run, hsame]
  · intro before r after hrequests hopen
    obtain ⟨b, hall, hlast⟩ := run_building (hbefore before _ hrequests) hopen
    refine ⟨b, hall, hlast, ?_⟩
    rw [create, hlast, reply_building]
  · intro before abi returnType after hrequests hdone
    obtain ⟨hopen, b, p, hall, hprepare, hlast⟩ := prepared_of_done (hbefore before _ hrequests) hdone
    exact ⟨hopen, b, p, hall, hprepare, hlast, run_prepared p after⟩
  · intro before after hrequests
    exact context_run (hbefore before after hrequests)

/-- A type that cannot be aligned, a convention that does not exist and a request that comes too
late. -/
def misused : List Request :=
  [.append .sint32, .append overaligned, .prepare (.raw 9999) .uint8, .append .double,
    .prepare (.raw 3) .uint8, .append .sint8, .context]

theorem handle_refines_builder_misused :
    (∀ e ∈ ((create ⟨true, false⟩).run misused).1, e.reply.panic? ≠ some .overflow) ∧
      ((create ⟨true, false⟩).run misused).1.filterMap (fun e => e.reply.error?) =
        [.unsupportedAlignment 32 16, .badAbi,
          .invalidState "cannot append an argument to a prepared call specification"] ∧
      ((create ⟨true, false⟩).run misused).2 =
        .prepared ⟨[.sint32, .double], .uint8, 32, 16, 8, ⟨true, false⟩, .raw 3⟩ ∧
      RefinesBuilder ⟨true, false⟩ misused := by
  have hfits : ∀ e ∈ ((create ⟨true, false⟩).run misused).1, e.reply.panic? ≠ some .overflow := by
    decide
  exact ⟨hfits, rfl, rfl, handle_refines_builder hfits⟩

end Handle

end CallBridge
