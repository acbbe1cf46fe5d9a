/-
The transitions that a tree of calls makes on its lock.

They are the word that the tree spells: a call that gives the lock up brackets the word of its
callee, a firing that takes it brackets the word of its function, and nothing else adds to it.
`transitions_of_call` is the statement.
-/
import CallBridge.Proofs.Nesting

namespace CallBridge

inductive Transition where
  | acquire
  | release
deriving DecidableEq

namespace Nesting

/-! ## Words -/

def bracket (flag : Bool) (first : Transition) (inner : List Transition) (last : Transition) :
    List Transition :=
  if flag then first :: (inner ++ [last]) else inner

variable {σ ν : Type} {o : Watch σ ν} {κ α β : Type}

mutual

def Call.word : Call o κ α → List Transition
  | .missing .. => []
  | .unwritten .. => []
  | .made site _ callee _ => bracket site.suspends .release callee.word .acquire

def Native.word {flag : Bool} : Native o κ α flag → List Transition
  | .finish _ => []
  | .fire _ site _ target _ rest =>
    bracket site.holds .acquire (target.word site.spec.arity) .release ++ rest.word

def Target.word (arity : Nat) : Target o κ α → List Transition
  | .expired _ => []
  | .live _ starting _ applying finishing _ _ =>
    starting.word ++ (List.range arity).flatMap (fun index => (applying index).word) ++
      finishing.word

def Calls.word : Calls o κ α → List Transition
  | .nil => []
  | .cons _ call _ rest => call.word ++ rest.word

end

/-! ## Computations and their words -/

/-- A lock that answers every request and writes each into a log of the world. -/
structure Recording [Journal σ] (lock : RuntimeLock σ) (log : σ → List Transition) : Prop where
  acquire : ∀ t, ∃ t', lock.acquire t = (.ok (), t') ∧
    log t'.world = log t.world ++ [.acquire]
  release : ∀ t, ∃ t', lock.release t = (.ok true, t') ∧
    log t'.world = log t.world ++ [.release]
  journal : ∀ record w, log (Journal.record record w) = log w

/-- Only the log is watched; work returns and leaves it alone. -/
def Watch.silent (log : σ → List Transition) : Watch σ (List Transition) :=
  ⟨log, fun _ seen => seen, fun _ _ => False⟩

/-- From any state the computation returns, and adds this word to the log. -/
def Spells (log : σ → List Transition) (word : List Transition) (x : Run σ α) : Prop :=
  ∀ t, ∃ a t', x t = (.ok a, t') ∧ log t'.world = log t.world ++ word

section

variable {log : σ → List Transition} {word rest : List Transition}

theorem Spells.pure (a : α) : Spells log [] (pure a : Run σ α) :=
  fun t => ⟨a, t, rfl, (List.append_nil _).symm⟩

theorem Spells.bind {x : Run σ α} {f : α → Run σ β} (hx : Spells log word x)
    (hf : ∀ a, Spells log rest (f a)) : Spells log (word ++ rest) (x >>= f) := by
  intro t
  obtain ⟨a, u, hx, hword⟩ := hx t
  obtain ⟨b, v, hf, hrest⟩ := hf a u
  refine ⟨b, v, (Run.bind_of_ok hx).trans hf, ?_⟩
  rw [hrest, hword, List.append_assoc]

/-- What comes before or after and spells nothing does not show. -/
theorem Spells.before {x : Run σ α} {f : α → Run σ β} (hx : Spells log [] x)
    (hf : ∀ a, Spells log word (f a)) : Spells log word (x >>= f) := hx.bind hf

theorem Spells.after {x : Run σ α} {f : α → Run σ β} (hx : Spells log word x)
    (hf : ∀ a, Spells log [] (f a)) : Spells log word (x >>= f) := by
  have h := hx.bind hf
  rwa [List.append_nil] at h

theorem Spells.map {x : Run σ α} (hx : Spells log word x) (g : α → β) :
    Spells log word (g <$> x) := by
  rw [map_eq_pure_bind]
  exact hx.after fun a => .pure (g a)

theorem Spells.guarded {body : Run σ α} {cleanup : Run σ Unit} (hbody : Spells log word body)
    (hcleanup : Spells log rest cleanup) : Spells log (word ++ rest) (body.guarded cleanup) := by
  intro t
  obtain ⟨a, u, hbody, hword⟩ := hbody t
  obtain ⟨_, v, hcleanup, hrest⟩ := hcleanup u
  refine ⟨a, v, Run.guarded_of_ok hbody hcleanup, ?_⟩
  rw [hrest, hword, List.append_assoc]

theorem Work.spells {role : Role} (w : Work (.silent log) role α) : Spells log [] w.run := by
  intro t
  have hview : log (w.run t).2.world = log t.world := w.view_run t
  rcases hrun : w.run t with ⟨h | a, t'⟩
  · exact (w.ends_run t h (congrArg Prod.fst hrun)).elim
  · rw [hrun] at hview
    exact ⟨a, t', rfl, by rw [hview, List.append_nil]⟩

theorem spells_applyFrom {f : ManagedFunction σ κ} {words : Nat → List Transition}
    (h : ∀ call index argument, Spells log (words index) (f.apply call index argument))
    (arguments : List RawBuffer) (call : κ) (index : Nat) :
    Spells log ((List.range' index arguments.length).flatMap words)
      (f.applyFrom call index arguments) := by
  induction arguments generalizing call index with
  | nil => exact .pure call
  | cons argument rest ih =>
    rw [List.length_cons, List.range'_succ, List.flatMap_cons]
    exact (h call index argument).bind fun call => ih call (index + 1)

theorem Spells.dispatch {callee : Run σ β} (h : Spells log word callee) (p : Prepared) :
    Spells log word (dispatch p callee) := by
  have hset : Spells log [] (Run.setErrno 0) := fun t => ⟨(), _, rfl, (List.append_nil _).symm⟩
  have hget : Spells log [] Run.getErrno := fun t => ⟨_, t, rfl, (List.append_nil _).symm⟩
  unfold CallBridge.dispatch
  split
  · exact hset.before fun _ => h.after fun result => hget.before fun code => .pure (result, code)
  · exact h.after fun result => .pure (result, 0)

end

variable [Journal σ] {log : σ → List Transition} {word : List Transition}

theorem Spells.shielded {x : Run σ Bytes} (hx : Spells log word x) (c : Closure σ κ) :
    Spells log word (c.shielded (.ok <$> x)) := by
  intro t
  obtain ⟨left, t', hx, hword⟩ := hx t
  refine ⟨left, t', ?_, hword⟩
  rw [Closure.shielded, Run.bind_apply, Run.catchPanic, Run.map_apply, hx]
  rfl

namespace Recording

variable {lock : RuntimeLock σ}

theorem journal_logged (h : Recording lock log) (t : Thread σ) (level : Level) (message : String)
    (fields : List (String × FieldValue)) :
    log (t.logged level message fields).world = log t.world := h.journal _ t.world

theorem spells_log (h : Recording lock log) (level : Level) (message : String)
    (fields : List (String × FieldValue)) : Spells log [] (Run.log level message fields) := by
  intro t
  refine ⟨(), t.logged level message fields, rfl, ?_⟩
  rw [h.journal_logged, List.append_nil]

theorem spells_acquire (h : Recording lock log) : Spells log [.acquire] lock.acquire := by
  intro t
  obtain ⟨t', hacquire, hlog⟩ := h.acquire t
  exact ⟨(), t', hacquire, hlog⟩

theorem spells_release (h : Recording lock log) : Spells log [.release] lock.release := by
  intro t
  obtain ⟨t', hrelease, hlog⟩ := h.release t
  exact ⟨true, t', hrelease, hlog⟩

theorem spells_suspendedIf (h : Recording lock log) {body : Run σ β} (hbody : Spells log word body)
    (flag : Bool) :
    Spells log (bracket flag .release word .acquire) (lock.suspendedIf flag body) := by
  cases flag with
  | false => exact hbody
  | true =>
    have hdrop : Spells log [.acquire] (Suspension.mk lock true).drop :=
      (h.spells_log _ _ _).before fun _ => h.spells_acquire
    intro t
    obtain ⟨u, hrelease, hreleased⟩ := h.release (t.logged .trace "releasing runtime lock" [])
    obtain ⟨b, v, hrun, hword⟩ := hbody.guarded hdrop u
    refine ⟨b, v, (Run.bind_of_ok (lock.suspend_apply hrelease)).trans hrun, ?_⟩
    rw [hword, hreleased, h.journal_logged, List.append_assoc]
    rfl

theorem spells_heldIf (h : Recording lock log) {body : Run σ β} (hbody : Spells log word body)
    (flag : Bool) : Spells log (bracket flag .acquire word .release) (lock.heldIf flag body) := by
  cases flag with
  | false => exact hbody
  | true =>
    have hdrop : Spells log [.release] (Hold.mk lock).drop :=
      (h.spells_log _ _ _).before fun _ => h.spells_release.after fun _ => .pure ()
    show Spells log ([.acquire] ++ (word ++ [.release])) ((Run.log _ _ _ >>= fun _ =>
      lock.acquire >>= fun _ => pure (Hold.mk lock)) >>= fun guard => body.guarded guard.drop)
    rw [bind_assoc]
    refine (h.spells_log _ _ _).before fun _ => ?_
    rw [bind_assoc]
    refine h.spells_acquire.bind fun _ => ?_
    rw [pure_bind]
    exact hbody.guarded hdrop

theorem spells_transact (h : Recording lock log) (name : String) (p : Prepared) (size : Nat)
    {callee : Run σ β} (hcallee : Spells log word callee) {read : β → Run σ (Except Error α)}
    (hread : ∀ result, Spells log [] (read result)) :
    Spells log (bracket p.context.releaseLock .release word .acquire)
      (transact name p lock size callee read) := by
  refine (h.spells_log _ _ _).before fun _ => ?_
  refine (h.spells_suspendedIf (hcallee.dispatch p) _).after fun (result, code) => ?_
  show Spells log [] (if code ≠ 0 then _ else read result)
  split
  · exact (h.spells_log _ _ _).before fun _ => .pure _
  · exact hread result

theorem spells_firing (h : Recording lock log) (s : FireSite)
    (found : Option (ManagedFunction σ κ)) (onExpired : ExpiredHook σ) {call : Run σ RawBuffer}
    (hcall : Spells log word call) :
    Spells log (bracket s.holds .acquire word .release) (s.firing lock found onExpired call) :=
  ((h.spells_heldIf (hcall.map RawBuffer.bytes) s.holds).shielded _).map _

theorem spells_expired (h : Recording lock log) (s : FireSite) {onExpired : ExpiredHook σ}
    (hhook : Spells log word (onExpired s.key)) (sent : List Bytes) :
    Spells log (bracket s.holds .acquire word .release)
      ((s.closure (κ := κ) lock none onExpired).nativeOver s.area sent) := by
  obtain ⟨zeros, hfire⟩ := s.nativeOver_of_none (κ := κ) lock onExpired sent
  rw [hfire]
  exact h.spells_firing s none onExpired (hhook.after fun _ => .pure zeros)

theorem spells_live (h : Recording lock log) (s : FireSite) {f : ManagedFunction σ κ}
    (harity : f.arity = s.spec.arity) (hcall : ∀ arguments result, arguments.length = s.spec.arity →
      Spells log word (f.call arguments result)) (onExpired : ExpiredHook σ) (sent : s.Sent) :
    Spells log (bracket s.holds .acquire word .release)
      ((s.closure lock (some f) onExpired).nativeOver s.area sent) := by
  obtain ⟨arguments, result, hlength, hfire⟩ := s.nativeOver_of_some lock harity onExpired sent
  rw [hfire]
  exact h.spells_firing s (some f) onExpired (hcall arguments result hlength)

end Recording

/-! ## Trees and their words

By induction on the tree: every node spells its word, from any state. -/

variable {lock : RuntimeLock σ}

mutual

theorem Call.spells (h : Recording lock log) :
    ∀ c : Call (.silent log) κ α, Spells log c.word (c.run lock)
  | .missing site write read => .pure _
  | .unwritten site callee write read => by
    rw [Call.run, site.invoke_of_error]
    exact (write _).spells.map _
  | .made site write callee read => by
    rw [Call.run, site.invoke_of_ok]
    exact (write _).spells.before fun written =>
      h.spells_transact _ _ _ (callee.spells h _) fun result => (read _).spells

theorem Native.spells (h : Recording lock log) {flag : Bool} :
    ∀ (c : Native (.silent log) κ α flag) (received : List Bytes),
      Spells log c.word (c.run lock received)
  | .finish work, received => (work received).spells
  | .fire before site arguments target use rest, received =>
    (before received).spells.before fun _ => (arguments received).spells.before fun sent =>
      (target.spells h site sent).bind fun stored => (use stored).spells.before fun _ =>
        rest.spells h received

theorem Target.spells (h : Recording lock log) :
    ∀ (c : Target (.silent log) κ α) (site : FireSite) (sent : site.Sent),
      Spells log (bracket site.holds .acquire (c.word site.spec.arity) .release)
        ((site.closure lock (c.function? lock site.spec.arity) c.hook).nativeOver site.area sent)
  | .expired hook, site, sent => h.spells_expired site (hook site.key).spells sent
  | .live start starting apply applying finishing finish keeps, site, sent => by
    rw [Target.function?]
    refine h.spells_live site rfl (fun arguments result hlength => ?_) _ sent
    have hstart : Spells log starting.word (start.run >>= fun call =>
        starting.run lock >>= fun _ => pure call) :=
      start.spells.before fun call => (starting.spells h).after fun _ => .pure call
    have happly (call : κ) (index : Nat) (argument : RawBuffer) : Spells log (applying index).word
        ((apply call index argument).run >>= fun call =>
          (applying index).run lock >>= fun _ => pure call) :=
      (apply call index argument).spells.before fun call =>
        ((applying index).spells h).after fun _ => .pure call
    have hfinish (call : κ) : Spells log finishing.word
        (finishing.run lock >>= fun _ => (finish call result).run) :=
      (finishing.spells h).after fun _ => (finish call result).spells
    rw [Target.word, List.append_assoc, List.range_eq_range', ← hlength]
    exact hstart.bind fun call => (spells_applyFrom happly arguments call 0).bind hfinish

theorem Calls.spells (h : Recording lock log) :
    ∀ c : Calls (.silent log) κ α, Spells log c.word (c.run lock)
  | .nil => .pure ()
  | .cons before call use rest =>
    before.spells.before fun _ => (call.spells h).bind fun result =>
      (use result).spells.before fun _ => rest.spells h

end

/-- A tree of calls returns, whatever goes wrong in it, and has made on the lock the transitions
of its word and no others.  A function of another arity than its trampoline's is in no tree: its
firing ends the process before managed code runs (`FireSite.nativeOver_of_mismatch`). -/
theorem transitions_of_call (h : Recording lock log) (c : Call (.silent log) κ α) (t : Thread σ) :
    ∃ result t', c.run lock t = (.ok result, t') ∧ log t'.world = log t.world ++ c.word :=
  c.spells h t

instance : Journal (List Transition) := ⟨fun _ log => log⟩

def recorder : RuntimeLock (List Transition) where
  acquire := Run.modifyWorld (· ++ [.acquire])
  release := do
    Run.modifyWorld (· ++ [.release])
    return true

theorem recorder_recording : Recording recorder id where
  acquire _ := ⟨_, rfl, rfl⟩
  release _ := ⟨_, rfl, rfl⟩
  journal _ _ := rfl

theorem transitions_of_call_nested :
    ∃ result t', (nested (o := .silent id) (fun _ log => log) fun _ _ => rfl).run recorder ⟨0, []⟩ =
        (.ok result, t') ∧
      t'.world = [.release, .acquire, .release, .acquire, .release, .acquire, .release, .acquire] :=
  transitions_of_call recorder_recording _ ⟨0, []⟩

end Nesting

end CallBridge
