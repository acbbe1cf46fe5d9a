/-
Threads that share a global lock.

Any number of threads acquire and release one lock, suspend and hold it through guards, and drop
guards, in any order.  What they do is written down in a history, and `ownership` says that the
lock is always what the history makes of it.  It also says that threads that keep to their own
guards, newest first, get back with every drop what they had before the guard was made.
-/
import CallBridge.Lock.Global
import Mathlib.Logic.Function.Basic

namespace CallBridge

namespace Sharing

/-! ## A shared lock and its guards -/

inductive Event where
  | acquired (thread : ThreadId)
  | released (thread : ThreadId)
  /-- A release by a thread that did not hold the lock. -/
  | refused (thread : ThreadId)

/-- The thread's acquisition was the last to complete and was not undone. -/
inductive Holder : List Event → ThreadId → Prop
  | acquired {thread : ThreadId} {earlier : List Event} :
    Holder (.acquired thread :: earlier) thread
  | refused {thread other : ThreadId} {earlier : List Event} (h : Holder earlier thread) :
    Holder (.refused other :: earlier) thread

inductive Guard where
  | suspension (released : Bool)
  | hold
deriving DecidableEq

structure Shared where
  lock : GlobalLock
  /-- The guards that a thread has made and nobody has dropped, newest first. -/
  guards : ThreadId → List Guard
  /-- What the lock was asked for, newest first.  Nobody reads it. -/
  history : List Event

instance : Journal Shared := ⟨fun _ s => s⟩

namespace Shared

def start : Shared := ⟨.free, fun _ => [], []⟩

def setLock (l : GlobalLock) (s : Shared) : Shared := { s with lock := l }

def stamp (e : Event) (s : Shared) : Shared := { s with history := e :: s.history }

def push (thread : ThreadId) (g : Guard) (s : Shared) : Shared :=
  { s with guards := Function.update s.guards thread (g :: s.guards thread) }

def pull (owner : ThreadId) (index : Nat) (s : Shared) : Shared :=
  { s with guards := Function.update s.guards owner ((s.guards owner).eraseIdx index) }

end Shared

/-- The lock as a thread uses it, with everything that it is asked for written down. -/
def lockOf (thread : ThreadId) : RuntimeLock Shared :=
  let token := GlobalLock.token thread Shared.lock Shared.setLock
  { acquire := do
      token.acquire
      Run.modifyWorld (.stamp (.acquired thread))
    release := do
      let released ← token.release
      Run.modifyWorld (.stamp (if released then .released thread else .refused thread))
      return released }

/-- A thread drops a guard, of its own or handed to it. -/
def Guard.drop (thread : ThreadId) : Guard → Run Shared Unit
  | suspension released => (Suspension.mk (lockOf thread) released).drop
  | hold => (Hold.mk (lockOf thread)).drop

/-! ## What threads do -/

/-- The end of a guard's scope, left by a return or by a panic that is on its way. -/
def leaving (ending : Except Panic Unit) (cleanup : Run Shared Unit) : Run Shared Unit := do
  let _ ← ((Run.ofPanic ending).guarded cleanup).catchPanic

inductive Op where
  | acquire
  | release
  | suspend
  | hold
  /-- The guard of `owner` that has `index` newer ones is dropped. -/
  | drop (owner : ThreadId) (index : Nat) (ending : Except Panic Unit)

def Op.run (thread : ThreadId) : Op → Run Shared Unit
  | acquire => (lockOf thread).acquire
  | release => do
    let _ ← (lockOf thread).release
  | suspend => do
    let guard ← (lockOf thread).suspend
    Run.modifyWorld (.push thread (.suspension guard.released))
  | hold => do
    let _ ← (lockOf thread).hold
    Run.modifyWorld (.push thread .hold)
  | drop owner index ending => do
    let found := ((← Run.getWorld).guards owner)[index]?
    Run.modifyWorld (.pull owner index)
    found.elim (return ()) fun guard => leaving ending (guard.drop thread)

/-- An operation of a thread completes.  One that has to wait does so later, or never. -/
def Step (thread : ThreadId) (op : Op) (s s' : Shared) : Prop :=
  ∃ errno errno', op.run thread ⟨errno, s⟩ = (.ok (), ⟨errno', s'⟩)

/-- Any interleaving of operations that threads may do. -/
inductive Reachable (may : ThreadId → Op → Prop) : Shared → Prop
  | start : Reachable may .start
  | step {s s' : Shared} {thread : ThreadId} {op : Op} (h : Reachable may s) (hmay : may thread op)
    (hstep : Step thread op s s') : Reachable may s'

/-- The lock is used through guards only, and each thread drops its own newest guard. -/
def Tidy (thread : ThreadId) : Op → Prop
  | .acquire | .release => False
  | .suspend | .hold => True
  | .drop owner index _ => owner = thread ∧ index = 0

/-! ## The outcome of each request -/

namespace Shared

def taken (thread : ThreadId) (s : Shared) : Shared :=
  (s.setLock (.heldBy thread)).stamp (.acquired thread)

/-- The thread gave the lock up, if it held it. -/
def given (thread : ThreadId) (s : Shared) : Shared :=
  if s.lock.isHeldBy thread then (s.setLock .free).stamp (.released thread)
  else s.stamp (.refused thread)

theorem given_of_held {thread : ThreadId} {s : Shared} (h : s.lock.isHeldBy thread = true) :
    s.given thread = (s.setLock .free).stamp (.released thread) := if_pos h

theorem given_of_unheld {thread : ThreadId} {s : Shared} (h : s.lock.isHeldBy thread = false) :
    s.given thread = s.stamp (.refused thread) := if_neg (Bool.eq_false_iff.mp h)

theorem push_guards_self (thread : ThreadId) (g : Guard) (s : Shared) :
    (s.push thread g).guards thread = g :: s.guards thread := Function.update_self ..

theorem pull_guards_self (thread : ThreadId) (s : Shared) :
    (s.pull thread 0).guards thread = (s.guards thread).tail := by
  rw [← List.eraseIdx_zero]
  exact Function.update_self ..

theorem pull_of_none {owner : ThreadId} {index : Nat} {s : Shared}
    (h : (s.guards owner)[index]? = none) : s.pull owner index = s := by
  rw [pull, List.eraseIdx_of_length_le (List.getElem?_eq_none_iff.mp h), Function.update_eq_self]

theorem given_guards (thread : ThreadId) (s : Shared) : (s.given thread).guards = s.guards := by
  rw [given]
  split <;> rfl

theorem given_pull (thread owner : ThreadId) (index : Nat) (s : Shared) :
    (s.pull owner index).given thread = (s.given thread).pull owner index := by
  rw [given, given, apply_ite (pull owner index)]
  rfl

end Shared

section

variable {thread : ThreadId} {s : Shared}

theorem acquire_of_free (errno : Int) (h : s.lock.isLocked = false) :
    (lockOf thread).acquire ⟨errno, s⟩ = (.ok (), ⟨errno, s.taken thread⟩) :=
  Run.bind_of_ok ((GlobalLock.token_acquire_apply thread _ _ ⟨errno, s⟩).trans
    (if_neg (Bool.eq_false_iff.mp h)))

theorem acquire_of_locked (errno : Int) (h : s.lock.isLocked = true) :
    (lockOf thread).acquire ⟨errno, s⟩ = (.error .blocked, ⟨errno, s⟩) :=
  Run.bind_of_error ((GlobalLock.token_acquire_apply thread _ _ ⟨errno, s⟩).trans (if_pos h))

variable (thread s) (errno : Int)

theorem release_apply : (lockOf thread).release ⟨errno, s⟩ =
    (.ok (s.lock.isHeldBy thread), ⟨errno, s.given thread⟩) := by
  have h := GlobalLock.token_release_apply thread Shared.lock Shared.setLock ⟨errno, s⟩
  cases hheld : s.lock.isHeldBy thread with
  | true =>
    rw [Shared.given_of_held hheld]
    exact Run.bind_of_ok (h.trans (if_pos hheld))
  | false =>
    rw [Shared.given_of_unheld hheld]
    exact Run.bind_of_ok (h.trans (if_neg (Bool.eq_false_iff.mp hheld)))

theorem suspend_apply : (lockOf thread).suspend ⟨errno, s⟩ =
    (.ok ⟨lockOf thread, s.lock.isHeldBy thread⟩, ⟨errno, s.given thread⟩) :=
  @RuntimeLock.suspend_apply _ _ _ ⟨errno, s⟩ _ _ (release_apply thread s errno)

theorem drop_hold_apply : Guard.hold.drop thread ⟨errno, s⟩ =
    (.ok (), ⟨errno, s.given thread⟩) :=
  (Run.bind_of_ok rfl).trans (Run.bind_of_ok (release_apply thread s errno))

theorem drop_suspension_apply : (Guard.suspension true).drop thread ⟨errno, s⟩ =
    (lockOf thread).acquire ⟨errno, s⟩ := rfl

theorem Guard.drop_ne_panic (g : Guard) (p : Panic) :
    (g.drop thread ⟨errno, s⟩).1 ≠ .error (.panic p) := by
  intro h
  cases g with
  | suspension released =>
    cases released with
    | false => cases h
    | true =>
      rw [drop_suspension_apply] at h
      cases hlocked : s.lock.isLocked with
      | true =>
        rw [acquire_of_locked errno hlocked] at h
        cases h
      | false =>
        rw [acquire_of_free errno hlocked] at h
        cases h
  | hold =>
    rw [drop_hold_apply] at h
    cases h

/-- A guard is dropped the same whether its scope is left by a return or by a panic. -/
theorem leaving_apply (ending : Except Panic Unit) {cleanup : Run Shared Unit} {t : Thread Shared}
    (hcleanup : ∀ p, (cleanup t).1 ≠ .error (.panic p)) :
    leaving ending cleanup t = cleanup t := by
  have hguarded : (Run.ofPanic ending).guarded cleanup t =
      (cleanup >>= fun _ => Run.ofPanic ending) t := by cases ending <;> rfl
  rw [leaving, Run.bind_apply, Run.catchPanic, hguarded, Run.bind_apply]
  rcases hrun : cleanup t with ⟨halt | a, u⟩
  · cases halt with
    | panic p => exact (hcleanup p (congrArg Prod.fst hrun)).elim
    | _ => rfl
  · cases ending <;> rfl

end

/-- What each operation does when it completes. -/
inductive Move (thread : ThreadId) (s : Shared) : Op → Shared → Prop
  | acquire (hfree : s.lock.isLocked = false) : Move thread s .acquire (s.taken thread)
  | release : Move thread s .release (s.given thread)
  | suspend : Move thread s .suspend
      ((s.given thread).push thread (.suspension (s.lock.isHeldBy thread)))
  | hold (hfree : s.lock.isLocked = false) :
    Move thread s .hold ((s.taken thread).push thread .hold)
  | dropNothing {owner : ThreadId} {index : Nat} {ending : Except Panic Unit}
      (hguard : (s.guards owner)[index]? = none) :
      Move thread s (.drop owner index ending) (s.pull owner index)
  /-- A suspension that gave nothing up takes nothing back. -/
  | dropVain {owner : ThreadId} {index : Nat} {ending : Except Panic Unit}
      (hguard : (s.guards owner)[index]? = some (.suspension false)) :
      Move thread s (.drop owner index ending) (s.pull owner index)
  | dropSuspension {owner : ThreadId} {index : Nat} {ending : Except Panic Unit}
      (hguard : (s.guards owner)[index]? = some (.suspension true))
      (hfree : s.lock.isLocked = false) :
      Move thread s (.drop owner index ending) ((s.pull owner index).taken thread)
  | dropHold {owner : ThreadId} {index : Nat} {ending : Except Panic Unit}
      (hguard : (s.guards owner)[index]? = some .hold) :
      Move thread s (.drop owner index ending) ((s.pull owner index).given thread)

theorem free_of_acquire {thread : ThreadId} {s : Shared} {errno : Int} {t : Thread Shared}
    (h : (lockOf thread).acquire ⟨errno, s⟩ = (.ok (), t)) :
    s.lock.isLocked = false ∧ t = ⟨errno, s.taken thread⟩ := by
  cases hlocked : s.lock.isLocked with
  | true =>
    rw [acquire_of_locked errno hlocked] at h
    cases h
  | false =>
    rw [acquire_of_free errno hlocked] at h
    cases h
    exact ⟨rfl, rfl⟩

theorem Step.move {thread : ThreadId} {op : Op} {s s' : Shared} (h : Step thread op s s') :
    Move thread s op s' := by
  obtain ⟨errno, errno', h⟩ := h
  cases op with
  | acquire =>
    obtain ⟨hfree, h⟩ := free_of_acquire h
    cases h
    exact .acquire hfree
  | release =>
    obtain ⟨_, _, hrelease, h⟩ := Run.bind_eq_ok h
    rw [release_apply] at hrelease
    cases hrelease
    cases h
    exact .release
  | suspend =>
    obtain ⟨_, _, hsuspend, h⟩ := Run.bind_eq_ok h
    rw [suspend_apply] at hsuspend
    cases hsuspend
    cases h
    exact .suspend
  | hold =>
    obtain ⟨_, _, hhold, h⟩ := Run.bind_eq_ok h
    obtain ⟨_, _, hlog, hhold⟩ := Run.bind_eq_ok hhold
    cases hlog
    obtain ⟨_, _, hacquire, hguard⟩ := Run.bind_eq_ok hhold
    obtain ⟨hfree, rfl⟩ := free_of_acquire hacquire
    cases hguard
    cases h
    exact .hold hfree
  | drop owner index ending =>
    obtain ⟨_, _, hworld, h⟩ := Run.bind_eq_ok h
    cases hworld
    obtain ⟨_, _, hpull, h⟩ := Run.bind_eq_ok h
    cases hpull
    rcases hguard : (s.guards owner)[index]? with _ | guard
    · rw [hguard] at h
      cases h
      exact .dropNothing hguard
    · rw [hguard] at h
      change leaving ending (guard.drop thread) ⟨errno, s.pull owner index⟩ = _ at h
      rw [leaving_apply ending (guard.drop_ne_panic _ _ _)] at h
      cases guard with
      | suspension released =>
        cases released with
        | false =>
          cases h
          exact .dropVain hguard
        | true =>
          obtain ⟨hfree, h⟩ := free_of_acquire h
          cases h
          exact .dropSuspension hguard hfree
      | hold =>
        rw [drop_hold_apply] at h
        cases h
        exact .dropHold hguard

/-! ## Whose the lock is -/

/-- The lock is what the history says. -/
structure Owned (l : GlobalLock) (history : List Event) : Prop where
  locked_iff : l.isLocked = true ↔ l.owner.isSome = true
  owner_iff : ∀ thread, l.owner = some thread ↔ Holder history thread
  held_iff : ∀ thread, l.isHeldBy thread = true ↔ Holder history thread

theorem isHeldBy_iff {l : GlobalLock} {thread : ThreadId} :
    l.isHeldBy thread = true ↔ l.owner = some thread := beq_iff_eq

theorem holder_acquired_iff {thread other : ThreadId} {earlier : List Event} :
    Holder (.acquired thread :: earlier) other ↔ thread = other := by
  constructor
  · intro h
    cases h
    rfl
  · rintro rfl
    exact .acquired

theorem holder_refused_iff {thread other : ThreadId} {earlier : List Event} :
    Holder (.refused thread :: earlier) other ↔ Holder earlier other := by
  constructor
  · intro h
    cases h with
    | refused h => exact h
  · exact .refused

theorem not_holder_released {thread other : ThreadId} {earlier : List Event} :
    ¬Holder (.released thread :: earlier) other := fun h => nomatch h

theorem Owned.of_owner_iff {l : GlobalLock} {history : List Event}
    (hlocked : l.isLocked = true ↔ l.owner.isSome = true)
    (howner : ∀ thread, l.owner = some thread ↔ Holder history thread) : Owned l history :=
  ⟨hlocked, howner, fun thread => isHeldBy_iff.trans (howner thread)⟩

theorem Owned.heldBy (thread : ThreadId) (earlier : List Event) :
    Owned (.heldBy thread) (.acquired thread :: earlier) :=
  .of_owner_iff (iff_of_true rfl rfl) fun _ => Option.some_inj.trans holder_acquired_iff.symm

theorem Owned.free {history : List Event} (h : ∀ thread, ¬Holder history thread) :
    Owned .free history :=
  .of_owner_iff (iff_of_false Bool.false_ne_true Bool.false_ne_true) fun thread =>
    iff_of_false nofun (h thread)

theorem Owned.refused {l : GlobalLock} {history : List Event} (h : Owned l history)
    (thread : ThreadId) : Owned l (.refused thread :: history) :=
  .of_owner_iff h.locked_iff fun other => (h.owner_iff other).trans holder_refused_iff.symm

theorem Owned.unheld_of_unlocked {l : GlobalLock} {history : List Event} (h : Owned l history)
    (hfree : l.isLocked = false) (thread : ThreadId) : l.isHeldBy thread = false := by
  by_contra hheld
  have howner := isHeldBy_iff.mp (eq_true_of_ne_false hheld)
  have hlocked := h.locked_iff.mpr (by rw [howner]; rfl)
  rw [hfree] at hlocked
  cases hlocked

/-- What an operation does to the lock and its history. -/
inductive Effect (thread : ThreadId) (s : Shared) : Shared → Prop
  | kept : Effect thread s s
  | taken (hfree : s.lock.isLocked = false) : Effect thread s (s.taken thread)
  | given : Effect thread s (s.given thread)

theorem Move.effect {thread : ThreadId} {op : Op} {s s' : Shared} (h : Move thread s op s') :
    ∃ u, Effect thread s u ∧ s'.lock = u.lock ∧ s'.history = u.history := by
  cases h with
  | acquire hfree => exact ⟨_, .taken hfree, rfl, rfl⟩
  | release => exact ⟨_, .given, rfl, rfl⟩
  | suspend => exact ⟨_, .given, rfl, rfl⟩
  | hold hfree => exact ⟨_, .taken hfree, rfl, rfl⟩
  | dropNothing | dropVain => exact ⟨_, .kept, rfl, rfl⟩
  | dropSuspension _ hfree => exact ⟨_, .taken hfree, rfl, rfl⟩
  | dropHold =>
    rw [Shared.given_pull]
    exact ⟨_, .given, rfl, rfl⟩

theorem Effect.owned {thread : ThreadId} {s u : Shared} (h : Effect thread s u)
    (howned : Owned s.lock s.history) : Owned u.lock u.history := by
  cases h with
  | kept => exact howned
  | taken => exact .heldBy thread s.history
  | given =>
    cases hheld : s.lock.isHeldBy thread with
    | true =>
      rw [Shared.given_of_held hheld]
      exact .free fun _ => not_holder_released
    | false =>
      rw [Shared.given_of_unheld hheld]
      exact howned.refused thread

theorem Reachable.owned {may : ThreadId → Op → Prop} {s : Shared} (h : Reachable may s) :
    Owned s.lock s.history := by
  induction h with
  | start => exact .free fun _ => nofun
  | step _ _ hstep ih =>
    obtain ⟨u, heffect, hlock, hhistory⟩ := hstep.move.effect
    rw [hlock, hhistory]
    exact heffect.owned ih

/-! ## Guards in their order -/

theorem given_isHeldBy (thread : ThreadId) (s : Shared) :
    (s.given thread).lock.isHeldBy thread = false := by
  cases hheld : s.lock.isHeldBy thread with
  | true =>
    rw [Shared.given_of_held hheld]
    rfl
  | false =>
    rw [Shared.given_of_unheld hheld]
    exact hheld

theorem taken_isHeldBy (thread : ThreadId) (s : Shared) :
    (s.taken thread).lock.isHeldBy thread = true := GlobalLock.isHeldBy_heldBy thread

/-- Nobody takes the lock from another thread, or gives it to one. -/
theorem Effect.isHeldBy_of_ne {thread other : ThreadId} {s u : Shared} (h : Effect thread s u)
    (howned : Owned s.lock s.history) (hne : other ≠ thread) :
    u.lock.isHeldBy other = s.lock.isHeldBy other := by
  have hapart {l : GlobalLock} (hheld : l.isHeldBy thread = true) : l.isHeldBy other = false := by
    rw [Bool.eq_false_iff]
    intro hother
    rw [isHeldBy_iff] at hheld hother
    exact hne (Option.some_inj.mp (hother.symm.trans hheld))
  cases h with
  | kept => rfl
  | taken hfree =>
    rw [howned.unheld_of_unlocked hfree]
    exact hapart (taken_isHeldBy thread s)
  | given =>
    cases hheld : s.lock.isHeldBy thread with
    | true =>
      rw [Shared.given_of_held hheld, hapart hheld]
      rfl
    | false =>
      rw [Shared.given_of_unheld hheld]
      rfl

/-- Whether the thread held the lock when it made the guard, as far as the guard shows. -/
def Guard.before : Guard → Bool
  | suspension released => released
  | hold => false

/-- A thread with these guards holds the lock just if `held`. -/
inductive Stacked : Bool → List Guard → Prop
  | none : Stacked false []
  | suspension {before : Bool} {older : List Guard} (h : Stacked before older) :
    Stacked false (.suspension before :: older)
  | hold {older : List Guard} (h : Stacked false older) : Stacked true (.hold :: older)

/-- Whether the thread holds the lock while this is its newest guard. -/
def Guard.within : Guard → Bool
  | suspension _ => false
  | hold => true

theorem Stacked.held_eq {held : Bool} {g : Guard} {older : List Guard}
    (h : Stacked held (g :: older)) : held = g.within := by
  cases h <;> rfl

theorem Stacked.older {held : Bool} {g : Guard} {older : List Guard}
    (h : Stacked held (g :: older)) : Stacked g.before older := by
  cases h with
  | suspension h => exact h
  | hold h => exact h

/-- Dropping the newest guard undoes what making it did. -/
theorem Move.drop_newest {thread : ThreadId} {ending : Except Panic Unit} {s s' : Shared}
    {g : Guard} {older : List Guard} (h : Move thread s (.drop thread 0 ending) s')
    (hguards : s.guards thread = g :: older)
    (hstacked : Stacked (s.lock.isHeldBy thread) (s.guards thread)) :
    s'.lock.isHeldBy thread = g.before := by
  have hnewest : (s.guards thread)[0]? = some g := by rw [hguards]; rfl
  cases h with
  | dropNothing hguard => cases hnewest.symm.trans hguard
  | dropVain hguard =>
    cases hnewest.symm.trans hguard
    rw [hguards] at hstacked
    exact hstacked.held_eq
  | dropSuspension hguard =>
    cases hnewest.symm.trans hguard
    exact taken_isHeldBy thread _
  | dropHold hguard =>
    cases hnewest.symm.trans hguard
    exact given_isHeldBy thread _

theorem Move.drop_guards {thread owner : ThreadId} {index : Nat} {ending : Except Panic Unit}
    {s s' : Shared} (h : Move thread s (.drop owner index ending) s') :
    s'.guards = (s.pull owner index).guards := by
  cases h with
  | dropHold => exact Shared.given_guards _ _
  | _ => rfl

theorem Move.drop_missing {thread owner : ThreadId} {index : Nat} {ending : Except Panic Unit}
    {s s' : Shared} (h : Move thread s (.drop owner index ending) s')
    (hmissing : (s.guards owner)[index]? = none) : s' = s := by
  cases h with
  | dropNothing => exact Shared.pull_of_none hmissing
  | dropVain hguard => cases hmissing.symm.trans hguard
  | dropSuspension hguard => cases hmissing.symm.trans hguard
  | dropHold hguard => cases hmissing.symm.trans hguard

theorem Move.drop_vain {thread owner : ThreadId} {index : Nat} {ending : Except Panic Unit}
    {s s' : Shared} (h : Move thread s (.drop owner index ending) s')
    (hguard : (s.guards owner)[index]? = some (.suspension false)) :
    s'.lock = s.lock ∧ s'.history = s.history := by
  cases h with
  | dropNothing | dropVain => exact ⟨rfl, rfl⟩
  | dropSuspension hother => cases hguard.symm.trans hother
  | dropHold hother => cases hguard.symm.trans hother

/-- A thread that keeps to its own guards makes one or drops the newest. -/
theorem Move.guards_eq {thread : ThreadId} {op : Op} {s s' : Shared} (h : Move thread s op s')
    (htidy : Tidy thread op) : ∃ stack, s'.guards = Function.update s.guards thread stack ∧
      ((∃ g, stack = g :: s.guards thread) ∨ stack = (s.guards thread).tail) := by
  have htail : (s.pull thread 0).guards =
      Function.update s.guards thread (s.guards thread).tail := by
    rw [Shared.pull, List.eraseIdx_zero]
  cases op with
  | acquire | release => exact htidy.elim
  | suspend =>
    cases h
    refine ⟨_, ?_, Or.inl ⟨.suspension (s.lock.isHeldBy thread), rfl⟩⟩
    rw [Shared.push, Shared.given_guards]
  | hold =>
    cases h
    exact ⟨_, rfl, Or.inl ⟨.hold, rfl⟩⟩
  | drop owner index ending =>
    obtain ⟨rfl, rfl⟩ := htidy
    exact ⟨_, h.drop_guards.trans htail, Or.inr rfl⟩

theorem Move.guards_of_ne {thread other : ThreadId} {op : Op} {s s' : Shared}
    (h : Move thread s op s') (htidy : Tidy thread op) (hne : other ≠ thread) :
    s'.guards other = s.guards other := by
  obtain ⟨stack, hguards, -⟩ := h.guards_eq htidy
  rw [hguards, Function.update_of_ne hne]

theorem Move.guards_self {thread : ThreadId} {op : Op} {s s' : Shared} (h : Move thread s op s')
    (htidy : Tidy thread op) :
    (∃ g, s'.guards thread = g :: s.guards thread) ∨
      s'.guards thread = (s.guards thread).tail := by
  obtain ⟨stack, hguards, hstack⟩ := h.guards_eq htidy
  rwa [hguards, Function.update_self]

theorem Move.made {thread : ThreadId} {make : Op} {s s' : Shared} (h : Move thread s make s')
    (hmake : make = .suspend ∨ make = .hold) (howned : Owned s.lock s.history) :
    ∃ g, s'.guards thread = g :: s.guards thread ∧ g.before = s.lock.isHeldBy thread ∧
      s'.lock.isHeldBy thread = g.within ∧ (make = .suspend → g = .suspension g.before) := by
  obtain rfl | rfl := hmake
  · cases h
    refine ⟨.suspension (s.lock.isHeldBy thread), ?_, rfl, given_isHeldBy thread s, fun _ => rfl⟩
    rw [Shared.push_guards_self, Shared.given_guards]
  · cases h with
    | hold hfree =>
      refine ⟨.hold, Function.update_self .., ?_, taken_isHeldBy thread s, nofun⟩
      exact (howned.unheld_of_unlocked hfree thread).symm

theorem Stacked.make {g : Guard} {older : List Guard} (h : Stacked g.before older) :
    Stacked g.within (g :: older) := by
  cases g with
  | suspension => exact .suspension h
  | hold => exact .hold h

theorem Move.stacked {thread : ThreadId} {op : Op} {s s' : Shared} (h : Move thread s op s')
    (htidy : Tidy thread op) (howned : Owned s.lock s.history)
    (hstacked : ∀ i, Stacked (s.lock.isHeldBy i) (s.guards i)) (i : ThreadId) :
    Stacked (s'.lock.isHeldBy i) (s'.guards i) := by
  by_cases hi : i = thread
  -- its newest guard says whether the thread holds the lock, before and after
  · subst hi
    have hmade (hmake : op = .suspend ∨ op = .hold) :
        Stacked (s'.lock.isHeldBy i) (s'.guards i) := by
      obtain ⟨g, hguards, hbefore, hwithin, -⟩ := h.made hmake howned
      rw [hguards, hwithin]
      exact .make (hbefore ▸ hstacked i)
    cases op with
    | acquire | release => exact htidy.elim
    | suspend => exact hmade (Or.inl rfl)
    | hold => exact hmade (Or.inr rfl)
    | drop owner index ending =>
      obtain ⟨rfl, rfl⟩ := htidy
      rcases hguards : s.guards owner with _ | ⟨g, older⟩
      · rw [h.drop_missing (by rw [hguards]; rfl)]
        exact hstacked owner
      · have htail : s'.guards owner = older := by
          rw [h.drop_guards, Shared.pull_guards_self, hguards, List.tail_cons]
        rw [h.drop_newest hguards (hstacked owner), htail]
        exact (hguards ▸ hstacked owner).older
  -- others lose neither a guard nor the lock
  · obtain ⟨u, heffect, hlock, -⟩ := h.effect
    rw [h.guards_of_ne htidy hi, hlock, heffect.isHeldBy_of_ne howned hi]
    exact hstacked i

theorem Reachable.stacked {s : Shared} (h : Reachable Tidy s) (thread : ThreadId) :
    Stacked (s.lock.isHeldBy thread) (s.guards thread) := by
  induction h generalizing thread with
  | start => exact .none
  | step h htidy hstep ih => exact hstep.move.stacked htidy h.owned ih thread

/-! ## The life of a guard -/

/-- What happens from `s` on as long as the guards live that `thread` has there. -/
inductive Meanwhile (thread : ThreadId) (s : Shared) : Shared → Prop
  | refl : Meanwhile thread s s
  | step {u v : Shared} {other : ThreadId} {op : Op} (h : Meanwhile thread s u)
    (htidy : Tidy other op) (hstep : Step other op u v)
    (hlive : (s.guards thread).length ≤ (v.guards thread).length) : Meanwhile thread s v

/-- At `before` the thread makes a guard, and when it is the newest again, at `last`, drops it. -/
structure Lifetime (thread : ThreadId) (make : Op) (before first last after : Shared) : Prop where
  make_eq : make = .suspend ∨ make = .hold
  made : Step thread make before first
  meanwhile : Meanwhile thread first last
  newest : (last.guards thread).length = (first.guards thread).length
  dropped : ∃ ending, Step thread (.drop thread 0 ending) last after

theorem Meanwhile.reachable {thread : ThreadId} {s s' : Shared} (h : Meanwhile thread s s')
    (hs : Reachable Tidy s) : Reachable Tidy s' := by
  induction h with
  | refl => exact hs
  | step _ htidy hstep _ ih => exact ih.step htidy hstep

/-- The guards of the thread stay where they are, under those that it makes later. -/
theorem Meanwhile.suffix {thread : ThreadId} {s s' : Shared} (h : Meanwhile thread s s') :
    s.guards thread <:+ s'.guards thread := by
  induction h with
  | refl => exact List.suffix_rfl
  | @step u v other op _ htidy hstep hlive ih =>
    by_cases hother : thread = other
    · subst hother
      rcases hstep.move.guards_self htidy with ⟨g, hguards⟩ | hguards
      · rw [hguards]
        exact ih.trans (List.suffix_cons g _)
      · rw [hguards] at hlive ⊢
        exact List.suffix_of_suffix_length_le ih (List.tail_suffix _) hlive
    · rwa [hstep.move.guards_of_ne htidy hother]

/-! ## What the lock answers -/

/-- The lock is given to a thread only while it is free, and taken only from the one that holds it.
To any other nothing changes but the history. -/
structure Serves (thread : ThreadId) (s : Shared) : Prop where
  acquire_iff : ∀ errno, (∃ t, (lockOf thread).acquire ⟨errno, s⟩ = (.ok (), t)) ↔
    s.lock.isLocked = false
  release_holder : Holder s.history thread → ∀ errno, (lockOf thread).release ⟨errno, s⟩ =
    (.ok true, ⟨errno, (s.setLock .free).stamp (.released thread)⟩)
  release_other : ¬Holder s.history thread → ∀ errno, (lockOf thread).release ⟨errno, s⟩ =
    (.ok false, ⟨errno, s.stamp (.refused thread)⟩)
  suspend_other : ¬Holder s.history thread → ∀ errno, (lockOf thread).suspend ⟨errno, s⟩ =
    (.ok ⟨lockOf thread, false⟩, ⟨errno, s.stamp (.refused thread)⟩)
  drop_other : ¬Holder s.history thread → ∀ errno, Guard.hold.drop thread ⟨errno, s⟩ =
    (.ok (), ⟨errno, s.stamp (.refused thread)⟩)

theorem Owned.serves {s : Shared} (h : Owned s.lock s.history) (thread : ThreadId) :
    Serves thread s := by
  have hunheld (hother : ¬Holder s.history thread) : s.lock.isHeldBy thread = false :=
    Bool.eq_false_iff.mpr fun hheld => hother ((h.held_iff thread).mp hheld)
  refine ⟨fun errno => ⟨?_, fun hfree => ⟨_, acquire_of_free errno hfree⟩⟩, ?_, ?_, ?_, ?_⟩
  · rintro ⟨t, hacquire⟩
    exact (free_of_acquire hacquire).1
  · intro hholder errno
    have hheld := (h.held_iff thread).mpr hholder
    rw [release_apply, Shared.given_of_held hheld, hheld]
  · intro hother errno
    rw [release_apply, Shared.given_of_unheld (hunheld hother), hunheld hother]
  · intro hother errno
    rw [suspend_apply, Shared.given_of_unheld (hunheld hother), hunheld hother]
  · intro hother errno
    rw [drop_hold_apply, Shared.given_of_unheld (hunheld hother)]

theorem Lifetime.restores {thread : ThreadId} {make : Op} {before first last after : Shared}
    (h : Lifetime thread make before first last after) (hbefore : Reachable Tidy before) :
    after.lock.isHeldBy thread = before.lock.isHeldBy thread ∧
      (make = .suspend → before.lock.isHeldBy thread = false →
        after.lock = last.lock ∧ after.history = last.history) := by
  obtain ⟨hmake, hmade, hmeanwhile, hnewest, _, hdropped⟩ := h
  have htidy : Tidy thread make := by obtain rfl | rfl := hmake <;> trivial
  have hfirst : Reachable Tidy first := hbefore.step htidy hmade
  have hstacked := (hmeanwhile.reachable hfirst).stacked thread
  obtain ⟨g, hguards, hbeforeHeld, -, hsuspension⟩ := hmade.move.made hmake hbefore.owned
  -- the newest guard at `last` is the one that was made at `before`
  rw [hmeanwhile.suffix.eq_of_length hnewest.symm] at hguards
  have hrestored := hdropped.move.drop_newest hguards hstacked
  refine ⟨hrestored.trans hbeforeHeld, fun hsuspend hunheld => hdropped.move.drop_vain ?_⟩
  rw [hguards, hsuspension hsuspend, hbeforeHeld, hunheld]
  rfl

/-- The lock shared by any number of threads, whatever they do, is locked just if it has an owner,
and that is the one thread whose acquisition completed last and was not undone.  No other thread
can release it, by itself or by a guard.  If the threads use it through guards only, each its own
and the newest first, then a guard that is dropped leaves its thread holding the lock just if it
did before the guard was made, and one that released nothing takes nothing.  An operation completes
in one step, and no thread ends while it holds the lock, as another could then come by its token. -/
theorem ownership :
    (∀ s, Reachable (fun _ _ => True) s →
      Owned s.lock s.history ∧ ∀ thread, Serves thread s) ∧
    ∀ before, Reachable Tidy before → ∀ thread make first last after,
      Lifetime thread make before first last after →
        after.lock.isHeldBy thread = before.lock.isHeldBy thread ∧
        (make = .suspend → before.lock.isHeldBy thread = false →
          after.lock = last.lock ∧ after.history = last.history) := by
  constructor
  · intro s hs
    exact ⟨hs.owned, hs.owned.serves⟩
  · intro before hbefore thread make first last after hlife
    exact hlife.restores hbefore

/-- Thread 1 suspends its hold, and thread 2 takes the lock meanwhile and panics. -/
theorem ownership_suspended : ∃ before first last after,
    before.lock = .heldBy 1 ∧ first.lock = .free ∧ Lifetime 1 .suspend before first last after ∧
      Owned before.lock before.history ∧ after.lock.isHeldBy 1 = true := by
  let before := (Shared.start.taken 1).push 1 .hold
  let first := (before.given 1).push 1 (.suspension true)
  let lent := (first.taken 2).push 2 .hold
  let last := (lent.given 2).pull 2 0
  let after := (last.taken 1).pull 1 0
  have hhold : Step 1 .hold .start before := ⟨0, 0, rfl⟩
  have hlend : Step 2 .hold first lent := ⟨0, 0, rfl⟩
  have hpanic : Step 2 (.drop 2 0 (.error (.raised "lost"))) lent last := ⟨0, 0, rfl⟩
  have hmeanwhile : Meanwhile 1 first last := by
    refine .step (.step .refl ?_ hlend (Nat.le_refl 2)) ?_ hpanic (Nat.le_refl 2)
    · trivial
    · exact ⟨rfl, rfl⟩
  have hlife : Lifetime 1 .suspend before first last after :=
    ⟨Or.inl rfl, ⟨0, 0, rfl⟩, hmeanwhile, rfl, .ok (), 0, 0, rfl⟩
  obtain ⟨howned, hlifetime⟩ := ownership
  have hanyhow : Reachable (fun _ _ => True) before := .step .start trivial hhold
  have htidy : Reachable Tidy before := .step .start (by trivial) hhold
  exact ⟨before, first, last, after, rfl, rfl, hlife, (howned before hanyhow).1,
    (hlifetime before htidy 1 .suspend first last after hlife).1⟩

end Sharing

end CallBridge
