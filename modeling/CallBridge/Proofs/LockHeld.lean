/-
Who runs with the global lock held.

A thread that holds the lock makes a tree of calls, and whatever works in the tree notes what the
lock is at that moment.  `held_iff_matched` says when all managed work finds the lock held.
-/
import CallBridge.Lock.Global
import CallBridge.Proofs.Nesting

namespace CallBridge

namespace Nesting

/-! ## Notes -/

/-- Work that is to be done with the lock held. -/
def Role.Managed : Role → Prop
  | writer | reader | function | hook => True
  | native _ | firing _ _ => False

/-- The trampoline that is fired takes the lock just if the call around it gave it up. -/
def Role.Matched : Role → Prop
  | firing holds suspended => holds = suspended
  | _ => True

instance : DecidablePred Role.Matched
  | .firing holds suspended => inferInstanceAs (Decidable (holds = suspended))
  | .writer | .reader | .function | .hook | .native _ => .isTrue trivial

/-- Somebody worked, and the lock was this. -/
structure Note where
  role : Role
  lock : GlobalLock

/-- The lock that native code runs under. -/
def station (thread : ThreadId) (suspended : Bool) : GlobalLock :=
  if suspended then .free else .heldBy thread

/-- What is written down as it should be. -/
def Note.Right (thread : ThreadId) (n : Note) : Prop :=
  match n.role with
  | .writer | .reader | .function | .hook => n.lock = .heldBy thread
  | .native suspended => n.lock = station thread suspended
  | .firing holds suspended => holds = suspended

/-- A world with a global lock in which those who work leave notes. -/
structure Scene (σ : Type) [Journal σ] where
  lock : σ → GlobalLock
  setLock : GlobalLock → σ → σ
  notes : σ → List Note
  lock_setLock : ∀ l w, lock (setLock l w) = l
  notes_setLock : ∀ l w, notes (setLock l w) = notes w
  lock_record : ∀ record w, lock (Journal.record record w) = lock w
  notes_record : ∀ record w, notes (Journal.record record w) = notes w

/-- Work that may stop a thread panics or aborts. -/
def Stop (halting : Prop) (h : Halt) : Prop := halting ∧ (h = .abort ∨ ∃ p, h = .panic p)

variable {σ κ α β : Type} [Journal σ]

namespace Scene

/-- Work leaves the lock as it is and one note.  If `halting`, it may also fail to return, but not
at the moment of a firing. -/
def watch (s : Scene σ) (halting : Prop) : Watch σ (GlobalLock × List Note) where
  view w := (s.lock w, s.notes w)
  mark role seen := (seen.1, seen.2 ++ [⟨role, seen.1⟩])
  ends role h := (∀ holds suspended, role ≠ .firing holds suspended) ∧ Stop halting h

/-- The lock as the thread uses it. -/
def token (s : Scene σ) (thread : ThreadId) : RuntimeLock σ :=
  GlobalLock.token thread s.lock s.setLock

/-- What is left after `t` when these notes were added. -/
def Adds (s : Scene σ) (t t' : Thread σ) (notes : List Note) : Prop :=
  s.notes t'.world = s.notes t.world ++ notes

theorem Adds.trans {s : Scene σ} {t u v : Thread σ} {notes more : List Note}
    (h : s.Adds t u notes) (h' : s.Adds u v more) : s.Adds t v (notes ++ more) := by
  unfold Adds at h h' ⊢
  rw [h', h, List.append_assoc]

theorem adds_nil {s : Scene σ} {t t' : Thread σ} (h : s.notes t'.world = s.notes t.world) :
    s.Adds t t' [] := by
  rw [Adds, h, List.append_nil]

end Scene

/-! ## Two ways to go -/

section

variable (s : Scene σ) (thread : ThreadId) (halting : Prop)

/-- All went as it should: it ended with the lock being `l`, unless it ended for good. -/
structure Kept (l : GlobalLock) (notes : List Note) (outcome : Except Halt β × Thread σ) :
    Prop where
  right : ∀ n ∈ notes, n.Right thread
  stop : ∀ h, outcome.1 = .error h → Stop halting h
  lock_eq : outcome.1 = .error .abort ∨ s.lock outcome.2.world = l

/-- It shows that managed work was to find the lock held and did not. -/
def Shows (notes : List Note) (outcome : Except Halt β × Thread σ) : Prop :=
  outcome.1 = .error .blocked ∨ ∃ n ∈ notes, n.role.Managed ∧ n.lock.isHeldBy thread = false

/-- Some firing was not matched, and that showed. -/
structure Broken (notes : List Note) (outcome : Except Halt β × Thread σ) : Prop where
  mismatch : ∃ n ∈ notes, ¬n.role.Matched
  shows : Shows thread notes outcome

/-- Begun with the lock being `l`, a computation goes one of two ways.  Begun anywhere it only adds
to the notes. -/
def Fair (l : GlobalLock) (x : Run σ β) : Prop :=
  ∀ t, ∃ notes, s.Adds t (x t).2 notes ∧
    (s.lock t.world = l → Kept s thread halting l notes (x t) ∨ Broken thread notes (x t))

/-- Begun with the lock being `l`, a computation goes wrong. -/
def Fails (l : GlobalLock) (x : Run σ β) : Prop :=
  ∀ t, ∃ notes, s.Adds t (x t).2 notes ∧ (s.lock t.world = l → Shows thread notes (x t))

end

variable {s : Scene σ} {thread : ThreadId} {halting : Prop} {l l' : GlobalLock}
  {notes more : List Note}

theorem Kept.of_error {h : Halt} {u : Thread σ}
    (hkept : Kept s thread halting l notes ((.error h, u) : Except Halt α × Thread σ)) :
    Kept s thread halting l notes ((.error h, u) : Except Halt β × Thread σ) where
  right := hkept.right
  stop := fun h' heq => by
    cases heq
    exact hkept.stop h rfl
  lock_eq := hkept.lock_eq.imp (fun heq => by cases heq; rfl) id

omit [Journal σ] in
theorem Shows.of_error {h : Halt} {u : Thread σ}
    (hshows : Shows thread notes ((.error h, u) : Except Halt α × Thread σ)) :
    Shows thread notes ((.error h, u) : Except Halt β × Thread σ) :=
  hshows.imp (fun heq => by cases heq; rfl) id

omit [Journal σ] in
theorem Shows.append {a : α} {u : Thread σ}
    (hshows : Shows thread notes ((.ok a, u) : Except Halt α × Thread σ))
    (outcome : Except Halt β × Thread σ) : Shows thread (notes ++ more) outcome := by
  rcases hshows with hblocked | ⟨n, hn, hunheld⟩
  · cases hblocked
  · exact Or.inr ⟨n, List.mem_append_left more hn, hunheld⟩

omit [Journal σ] in
theorem Shows.prepend {outcome : Except Halt β × Thread σ} (hshows : Shows thread more outcome) :
    Shows thread (notes ++ more) outcome :=
  hshows.imp id fun ⟨n, hn, hunheld⟩ => ⟨n, List.mem_append_right notes hn, hunheld⟩

/-! ## Computations in a row -/

theorem Fair.pure (a : α) : Fair s thread halting l (pure a : Run σ α) := by
  intro t
  refine ⟨[], Scene.adds_nil rfl, fun hlock => Or.inl ⟨?_, ?_, Or.inr hlock⟩⟩
  · intro n hn
    cases hn
  · intro h heq
    cases heq

theorem Fair.bind {x : Run σ α} {f : α → Run σ β} (hx : Fair s thread halting l x)
    (hf : ∀ a, Fair s thread halting l (f a)) : Fair s thread halting l (x >>= f) := by
  intro t
  obtain ⟨notes, hadds, hgoes⟩ := hx t
  rcases hrun : x t with ⟨h | a, u⟩
  · rw [hrun] at hadds hgoes
    rw [Run.bind_of_error hrun]
    refine ⟨notes, hadds, fun hlock => ?_⟩
    rcases hgoes hlock with hkept | hbroken
    · exact Or.inl hkept.of_error
    · exact Or.inr ⟨hbroken.mismatch, hbroken.shows.of_error⟩
  · rw [hrun] at hadds hgoes
    rw [Run.bind_of_ok hrun]
    obtain ⟨more, hmore, hthen⟩ := hf a u
    refine ⟨notes ++ more, hadds.trans hmore, fun hlock => ?_⟩
    rcases hgoes hlock with hkept | ⟨⟨n, hn, hmismatch⟩, hshows⟩
    · rcases hthen (hkept.lock_eq.resolve_left fun heq => by cases heq) with hkept' | hbroken
      · refine Or.inl ⟨fun n hn => ?_, hkept'.stop, hkept'.lock_eq⟩
        exact (List.mem_append.mp hn).elim (hkept.right n) (hkept'.right n)
      -- the first part was well, so the mismatch is the second one's
      · obtain ⟨n, hn, hmismatch⟩ := hbroken.mismatch
        exact Or.inr ⟨⟨n, List.mem_append_right notes hn, hmismatch⟩, hbroken.shows.prepend⟩
    -- a first part that returned was not blocked: what it showed stands in its notes
    · exact Or.inr ⟨⟨n, List.mem_append_left more hn, hmismatch⟩, hshows.append _⟩

theorem Fair.map {x : Run σ α} (hx : Fair s thread halting l x) (g : α → β) :
    Fair s thread halting l (g <$> x) := by
  rw [map_eq_pure_bind]
  exact hx.bind fun a => .pure (g a)

theorem Fails.bind {x : Run σ α} {f : α → Run σ β} (hx : Fails s thread l x)
    (hf : ∀ a, Fair s thread halting l' (f a)) : Fails s thread l (x >>= f) := by
  intro t
  obtain ⟨notes, hadds, hshows⟩ := hx t
  rcases hrun : x t with ⟨h | a, u⟩
  · rw [hrun] at hadds hshows
    rw [Run.bind_of_error hrun]
    exact ⟨notes, hadds, fun hlock => (hshows hlock).of_error⟩
  · rw [hrun] at hadds hshows
    rw [Run.bind_of_ok hrun]
    obtain ⟨more, hmore, -⟩ := hf a u
    exact ⟨notes ++ more, hadds.trans hmore, fun hlock => (hshows hlock).append _⟩

theorem Fails.map {x : Run σ α} (hx : Fails s thread l x) (g : α → β) :
    Fails s thread l (g <$> x) := by
  rw [map_eq_pure_bind]
  exact hx.bind fun a => (Fair.pure (g a) : Fair s thread False l _)

/-- Work that is right to be done here, and leaves the lock as it is. -/
theorem Work.fair {role : Role} (w : Work (s.watch halting) role α)
    (hright : (Note.mk role l).Right thread) : Fair s thread halting l w.run := by
  intro t
  obtain ⟨hlock, hnotes⟩ := Prod.mk.inj (w.view_run t)
  refine ⟨[⟨role, s.lock t.world⟩], hnotes, fun hl => Or.inl ⟨?_, ?_, Or.inr (hlock.trans hl)⟩⟩
  · intro n hn
    rw [List.mem_singleton.mp hn, hl]
    exact hright
  · exact fun h heq => (w.ends_run t h heq).2

theorem Work.fails {role : Role} (w : Work (s.watch halting) role α) (hmanaged : role.Managed)
    (hunheld : l.isHeldBy thread = false) : Fails s thread l w.run := by
  intro t
  refine ⟨[⟨role, s.lock t.world⟩], (Prod.mk.inj (w.view_run t)).2, fun hl => Or.inr ?_⟩
  exact ⟨_, List.mem_singleton_self _, hmanaged, by rw [hl, hunheld]⟩

/-- Before a firing that goes wrong it stands that it was not matched. -/
theorem Work.fair_mismatch {holds suspended : Bool} (hne : holds ≠ suspended)
    (w : Work (s.watch halting) (.firing holds suspended) α) {f : α → Run σ β}
    (hf : ∀ a, Fails s thread l (f a)) : Fair s thread halting l (w.run >>= f) := by
  intro t
  obtain ⟨hlock, hnotes⟩ := Prod.mk.inj (w.view_run t)
  rcases hrun : w.run t with ⟨h | a, u⟩
  · exact ((w.ends_run t h (congrArg Prod.fst hrun)).1 holds suspended rfl).elim
  · rw [hrun] at hlock hnotes
    rw [Run.bind_of_ok hrun]
    have hadds : s.Adds t u [⟨.firing holds suspended, s.lock t.world⟩] := hnotes
    obtain ⟨more, hmore, hshows⟩ := hf a u
    refine ⟨_, hadds.trans hmore, fun hl => Or.inr ?_⟩
    exact ⟨⟨_, List.mem_cons_self, hne⟩, (hshows (hlock.trans hl)).prepend⟩

/-! ## The lock -/

/-- A computation that leaves no notes. -/
def Quiet (s : Scene σ) (x : Run σ α) : Prop := ∀ t, s.notes (x t).2.world = s.notes t.world

/-- Begun with the lock being `l`, the computation returns and the lock is `l'`. -/
def Leads (s : Scene σ) (l l' : GlobalLock) (x : Run σ Unit) : Prop :=
  ∀ t, s.lock t.world = l → ∃ u, x t = (.ok (), u) ∧ s.lock u.world = l'

theorem Quiet.bind {x : Run σ α} {f : α → Run σ β} (hx : Quiet s x) (hf : ∀ a, Quiet s (f a)) :
    Quiet s (x >>= f) := by
  intro t
  have hfirst := hx t
  rw [Run.bind_apply]
  rcases hrun : x t with ⟨h | a, u⟩
  · rwa [hrun] at hfirst
  · rw [hrun] at hfirst
    exact (hf a u).trans hfirst

theorem Quiet.adds {x : Run σ α} (hx : Quiet s x) (t : Thread σ) : s.Adds t (x t).2 [] :=
  Scene.adds_nil (hx t)

theorem Fair.guarded {body : Run σ α} {cleanup : Run σ Unit} (hbody : Fair s thread halting l body)
    (hquiet : Quiet s cleanup) (t : Thread σ) : ∃ notes, s.Adds t (body.guarded cleanup t).2 notes ∧
      ∀ l', Leads s l l' cleanup → s.lock t.world = l →
        Kept s thread halting l' notes (body.guarded cleanup t) ∨
          Broken thread notes (body.guarded cleanup t) := by
  obtain ⟨notes, hadds, hgoes⟩ := hbody t
  refine ⟨notes, ?_⟩
  rcases body.guarded_cases cleanup t with ⟨h, hfinal, hhalted, hrun⟩ | ⟨hunwinds, hrun⟩
  -- nothing is cleaned up after the end of the process
  · rw [hrun]
    refine ⟨hadds, fun _ _ hlock => (hgoes hlock).imp_left fun hkept => ?_⟩
    refine ⟨hkept.right, hkept.stop, Or.inl ?_⟩
    obtain ⟨-, rfl | ⟨p, hpanic⟩⟩ := hkept.stop h hhalted
    · exact hhalted
    · exact (hfinal p hpanic).elim
  · have hsame : Quiet s (cleanup >>= fun _ => .ending (body t).1) := hquiet.bind fun _ _ => rfl
    rw [hrun]
    refine ⟨(hsame _).trans hadds, fun l' hleads hlock => ?_⟩
    rcases hgoes hlock with hkept | hbroken
    · obtain ⟨v, hcleanup, hback⟩ := hleads _ (hkept.lock_eq.resolve_left
        (hunwinds .abort fun p heq => by cases heq))
      rw [Run.bind_of_ok hcleanup]
      exact Or.inl ⟨hkept.right, hkept.stop, Or.inr hback⟩
    · exact Or.inr ⟨hbroken.mismatch, Or.inr (hbroken.shows.resolve_left
        (hunwinds .blocked fun p heq => by cases heq))⟩

theorem quiet_log (level : Level) (message : String) (fields : List (String × FieldValue)) :
    Quiet s (Run.log level message fields) := fun t => s.notes_record _ t.world

theorem Scene.acquire_apply (s : Scene σ) (thread : ThreadId) (t : Thread σ) :
    (s.token thread).acquire t = if (s.lock t.world).isLocked then (.error .blocked, t)
      else (.ok (), { t with world := s.setLock (.heldBy thread) t.world }) :=
  GlobalLock.token_acquire_apply thread s.lock s.setLock t

theorem Scene.release_apply (s : Scene σ) (thread : ThreadId) (t : Thread σ) :
    (s.token thread).release t = if (s.lock t.world).isHeldBy thread
      then (.ok true, { t with world := s.setLock .free t.world })
      else (.ok false,
        t.logged .warn "release of a global lock this thread does not hold" []) :=
  GlobalLock.token_release_apply thread s.lock s.setLock t

theorem quiet_acquire : Quiet s (s.token thread).acquire := by
  intro t
  rw [s.acquire_apply]
  split
  · rfl
  · exact s.notes_setLock _ _

theorem quiet_release : Quiet s (s.token thread).release := by
  intro t
  rw [s.release_apply]
  split
  · exact s.notes_setLock _ _
  · exact s.notes_record _ _

theorem quiet_drop_suspension (released : Bool) :
    Quiet s (Suspension.mk (s.token thread) released).drop := by
  cases released with
  | false => exact fun _ => rfl
  | true => exact (quiet_log _ _ _).bind fun _ => quiet_acquire

theorem quiet_drop_hold : Quiet s (Hold.mk (s.token thread)).drop :=
  (quiet_log _ _ _).bind fun _ => quiet_release.bind fun _ _ => rfl

theorem leads_drop_suspension :
    Leads s .free (.heldBy thread) (Suspension.mk (s.token thread) true).drop := by
  intro t hlock
  let u := t.logged .trace "reacquiring runtime lock" []
  have hfree : s.lock u.world = .free := (s.lock_record _ _).trans hlock
  have hacquire := s.acquire_apply thread u
  rw [hfree, if_neg (show ¬(GlobalLock.free.isLocked = true) from Bool.false_ne_true)] at hacquire
  exact ⟨_, (Run.bind_of_ok rfl).trans hacquire, s.lock_setLock _ _⟩

theorem leads_drop_hold : Leads s (.heldBy thread) .free (Hold.mk (s.token thread)).drop := by
  intro t hlock
  let u := t.logged .trace "releasing runtime lock after callback" []
  have hheld : s.lock u.world = .heldBy thread := (s.lock_record _ _).trans hlock
  have hrelease := s.release_apply thread u
  rw [hheld, if_pos (GlobalLock.isHeldBy_heldBy thread)] at hrelease
  exact ⟨_, (Run.bind_of_ok rfl).trans (Run.bind_of_ok hrelease), s.lock_setLock _ _⟩

theorem suspend_token (s : Scene σ) (thread : ThreadId) (t : Thread σ) :
    ∃ released u, (s.token thread).suspend t = (.ok ⟨s.token thread, released⟩, u) ∧
      s.notes u.world = s.notes t.world ∧
      (s.lock t.world = .heldBy thread → released = true ∧ s.lock u.world = .free) := by
  let u := t.logged .trace "releasing runtime lock" []
  have hlock : s.lock u.world = s.lock t.world := s.lock_record _ _
  have hnotes : s.notes u.world = s.notes t.world := s.notes_record _ _
  have hrelease := s.release_apply thread u
  cases hheld : (s.lock t.world).isHeldBy thread with
  | true =>
    rw [hlock, hheld, if_pos rfl] at hrelease
    exact ⟨true, _, RuntimeLock.suspend_apply _ hrelease, (s.notes_setLock _ _).trans hnotes,
      fun _ => ⟨rfl, s.lock_setLock _ _⟩⟩
  | false =>
    rw [hlock, hheld, if_neg Bool.false_ne_true] at hrelease
    refine ⟨false, _, RuntimeLock.suspend_apply _ hrelease, (s.notes_record _ _).trans hnotes, ?_⟩
    intro heq
    rw [heq, GlobalLock.isHeldBy_heldBy] at hheld
    cases hheld

theorem hold_token (s : Scene σ) (thread : ThreadId) (t : Thread σ) :
    ∃ u, s.notes u.world = s.notes t.world ∧
      (((s.lock t.world).isLocked = true ∧ (s.token thread).hold t = (.error .blocked, u)) ∨
        ((s.lock t.world).isLocked = false ∧ s.lock u.world = .heldBy thread ∧
          (s.token thread).hold t = (.ok ⟨s.token thread⟩, u))) := by
  let u := t.logged .trace "acquiring runtime lock" []
  have hlock : s.lock u.world = s.lock t.world := s.lock_record _ _
  have hnotes : s.notes u.world = s.notes t.world := s.notes_record _ _
  have hacquire := s.acquire_apply thread u
  cases hlocked : (s.lock t.world).isLocked with
  | true =>
    rw [hlock, hlocked, if_pos rfl] at hacquire
    exact ⟨u, hnotes, Or.inl ⟨rfl, (Run.bind_of_ok rfl).trans (Run.bind_of_error hacquire)⟩⟩
  | false =>
    rw [hlock, hlocked, if_neg Bool.false_ne_true] at hacquire
    exact ⟨_, (s.notes_setLock _ _).trans hnotes, Or.inr ⟨rfl, s.lock_setLock _ _,
      RuntimeLock.hold_apply _ hacquire⟩⟩

/-! ## Regions of the lock -/

theorem Fair.suspendedIf {body : Run σ α} (flag : Bool)
    (hbody : Fair s thread halting (station thread flag) body) :
    Fair s thread halting (.heldBy thread) ((s.token thread).suspendedIf flag body) := by
  cases flag with
  | false => exact hbody
  | true =>
    intro t
    obtain ⟨released, u, hsuspend, hnotes, hgiven⟩ := suspend_token s thread t
    have hrun : (s.token thread).suspendedIf true body t =
        body.guarded (Suspension.mk (s.token thread) released).drop u := Run.bind_of_ok hsuspend
    obtain ⟨notes, hadds, hgoes⟩ := hbody.guarded
      (quiet_drop_suspension released) u
    rw [hrun]
    refine ⟨notes, (Scene.adds_nil hnotes).trans hadds, fun hlock => ?_⟩
    obtain ⟨rfl, hfree⟩ := hgiven hlock
    exact hgoes _ leads_drop_suspension hfree

theorem Fair.heldIf {body : Run σ α} (flag : Bool)
    (hbody : Fair s thread halting (.heldBy thread) body) :
    Fair s thread halting (station thread flag) ((s.token thread).heldIf flag body) := by
  cases flag with
  | false => exact hbody
  | true =>
    intro t
    obtain ⟨u, hnotes, ⟨hlocked, hhold⟩ | ⟨-, hheld, hhold⟩⟩ := hold_token s thread t
    · have hrun : (s.token thread).heldIf true body t = (.error .blocked, u) :=
        Run.bind_of_error hhold
      rw [hrun]
      refine ⟨[], Scene.adds_nil hnotes, fun hlock => ?_⟩
      rw [hlock] at hlocked
      cases hlocked
    · have hrun : (s.token thread).heldIf true body t =
          body.guarded (Hold.mk (s.token thread)).drop u := Run.bind_of_ok hhold
      obtain ⟨notes, hadds, hgoes⟩ := hbody.guarded quiet_drop_hold u
      rw [hrun]
      exact ⟨notes, (Scene.adds_nil hnotes).trans hadds, fun _ => hgoes _ leads_drop_hold hheld⟩

/-- Who holds the lock and would take it waits for ever. -/
theorem Fails.heldIf_true {body : Run σ α} (hbody : Fair s thread halting (.heldBy thread) body) :
    Fails s thread (.heldBy thread) ((s.token thread).heldIf true body) := by
  intro t
  by_cases hlock : s.lock t.world = .heldBy thread
  · obtain ⟨u, hnotes, ⟨-, hhold⟩ | ⟨hfree, -⟩⟩ := hold_token s thread t
    · have hrun : (s.token thread).heldIf true body t = (.error .blocked, u) :=
        Run.bind_of_error hhold
      rw [hrun]
      exact ⟨[], Scene.adds_nil hnotes, fun _ => Or.inl rfl⟩
    · rw [hlock] at hfree
      cases hfree
  · obtain ⟨notes, hadds, -⟩ := hbody.heldIf true t
    exact ⟨notes, hadds, fun heq => (hlock heq).elim⟩

theorem Fair.quiet {x : Run σ Unit} (hquiet : Quiet s x) (hleads : Leads s l l x) :
    Fair s thread halting l x := by
  intro t
  refine ⟨[], hquiet.adds t, fun hlock => Or.inl ?_⟩
  obtain ⟨u, hrun, hsame⟩ := hleads t hlock
  rw [hrun]
  exact ⟨fun _ hn => (by cases hn), fun _ heq => (by cases heq), Or.inr hsame⟩

theorem Fair.log (level : Level) (message : String) (fields : List (String × FieldValue)) :
    Fair s thread halting l (Run.log level message fields) :=
  .quiet (quiet_log _ _ _) fun t hlock =>
    ⟨t.logged level message fields, rfl, (s.lock_record _ _).trans hlock⟩

theorem Fair.dispatch {callee : Run σ β} (h : Fair s thread halting l callee) (p : Prepared) :
    Fair s thread halting l (dispatch p callee) := by
  have hset : Fair s thread halting l (Run.setErrno 0) :=
    .quiet (fun _ => rfl) fun t hlock => ⟨{ t with errno := 0 }, rfl, hlock⟩
  have hget : Fair s thread halting l Run.getErrno := fun t => (Fair.pure t.errno) t
  unfold CallBridge.dispatch
  split
  · exact hset.bind fun _ => h.bind fun result => hget.bind fun code => .pure (result, code)
  · exact h.bind fun result => .pure (result, 0)

theorem Fair.transact (name : String) (p : Prepared) (size : Nat) {callee : Run σ β}
    (hcallee : Fair s thread halting (station thread p.context.releaseLock) callee)
    {read : β → Run σ (Except Error α)}
    (hread : ∀ result, Fair s thread halting (.heldBy thread) (read result)) :
    Fair s thread halting (.heldBy thread)
      (transact name p (s.token thread) size callee read) := by
  refine (Fair.log _ _ _).bind fun _ => ?_
  refine ((hcallee.dispatch p).suspendedIf p.context.releaseLock).bind fun (result, code) => ?_
  show Fair s thread halting (.heldBy thread) (if code ≠ 0 then _ else read result)
  split
  · exact (Fair.log _ _ _).bind fun _ => .pure _
  · exact hread result

/-! ## Firings -/

theorem Shows.shielded {x : Run σ Bytes} {t : Thread σ} (hshows : Shows thread notes (x t))
    (c : Closure σ κ) : Shows thread notes (c.shielded (.ok <$> x) t) := by
  rcases c.shielded_cases x t with ⟨p, message, fields, hpanic, hrun⟩ | ⟨-, hrun⟩
  · exact Or.inr (hshows.resolve_left fun hblocked => by rw [hpanic] at hblocked; cases hblocked)
  · rwa [hrun]

theorem Kept.shielded {x : Run σ Bytes} {t : Thread σ} (hkept : Kept s thread halting l notes (x t))
    (c : Closure σ κ) : Kept s thread halting l notes (c.shielded (.ok <$> x) t) := by
  rcases c.shielded_cases x t with ⟨p, message, fields, hpanic, hrun⟩ | ⟨-, hrun⟩
  · rw [hrun]
    refine ⟨hkept.right, fun h heq => ?_, Or.inl rfl⟩
    cases heq
    exact ⟨(hkept.stop _ hpanic).1, Or.inl rfl⟩
  · rwa [hrun]

theorem Scene.Adds.shielded {x : Run σ Bytes} {t : Thread σ} (hadds : s.Adds t (x t).2 notes)
    (c : Closure σ κ) : s.Adds t (c.shielded (.ok <$> x) t).2 notes := by
  rcases c.shielded_cases x t with ⟨p, message, fields, hpanic, hrun⟩ | ⟨-, hrun⟩
  · rw [hrun]
    exact (s.notes_record _ _).trans hadds
  · rwa [hrun]

theorem Fair.shielded {x : Run σ Bytes} (hx : Fair s thread halting l x) (c : Closure σ κ) :
    Fair s thread halting l (c.shielded (.ok <$> x)) := by
  intro t
  obtain ⟨notes, hadds, hgoes⟩ := hx t
  refine ⟨notes, hadds.shielded c, fun hlock => ?_⟩
  rcases hgoes hlock with hkept | ⟨hmismatch, hshows⟩
  · exact Or.inl (hkept.shielded c)
  · exact Or.inr ⟨hmismatch, hshows.shielded c⟩

theorem Fails.shielded {x : Run σ Bytes} (hx : Fails s thread l x) (c : Closure σ κ) :
    Fails s thread l (c.shielded (.ok <$> x)) := by
  intro t
  obtain ⟨notes, hadds, hshows⟩ := hx t
  exact ⟨notes, hadds.shielded c, fun hlock => (hshows hlock).shielded c⟩

/-- A computation goes well under a lock that is free, or held, as `free` says, and wrong under
the other. -/
structure Strict (s : Scene σ) (thread : ThreadId) (halting : Prop) (free : Bool) (x : Run σ α) :
    Prop where
  fair : Fair s thread halting (station thread free) x
  fails : Fails s thread (station thread !free) x

section

variable (site : FireSite)

/-- Under the wrong lock the thread waits for itself, or its managed code runs without the lock. -/
theorem FireSite.strict_firing {call : Run σ RawBuffer}
    (hcall : Fair s thread halting (.heldBy thread) call) (hunheld : Fails s thread .free call)
    (found : Option (ManagedFunction σ κ)) (onExpired : ExpiredHook σ) :
    Strict s thread halting site.holds (site.firing (s.token thread) found onExpired call) where
  fair := (((hcall.map RawBuffer.bytes).heldIf site.holds).shielded _).map _
  fails := by
    refine Fails.map (Fails.shielded ?_ _) _
    cases site.holds with
    | true => exact Fails.heldIf_true (hcall.map RawBuffer.bytes)
    | false => exact hunheld.map RawBuffer.bytes

theorem FireSite.strict_expired {onExpired : ExpiredHook σ}
    (hhook : Fair s thread halting (.heldBy thread) (onExpired site.key))
    (hunheld : Fails s thread .free (onExpired site.key)) (sent : List Bytes) :
    Strict s thread halting site.holds
      ((site.closure (κ := κ) (s.token thread) none onExpired).nativeOver site.area sent) := by
  obtain ⟨zeros, hfire⟩ := site.nativeOver_of_none (κ := κ) (s.token thread) onExpired sent
  have hzeros (u : Unit) : Fair s thread halting (.heldBy thread)
      ((fun _ => pure zeros : Unit → Run σ RawBuffer) u) := .pure zeros
  rw [hfire]
  exact site.strict_firing (hhook.bind hzeros) (hunheld.bind hzeros) none onExpired

theorem FireSite.strict_live {f : ManagedFunction σ κ} (harity : f.arity = site.spec.arity)
    (hcall : ∀ arguments result, Fair s thread halting (.heldBy thread) (f.call arguments result))
    (hunheld : ∀ arguments result, Fails s thread .free (f.call arguments result))
    (onExpired : ExpiredHook σ) (sent : site.Sent) :
    Strict s thread halting site.holds
      ((site.closure (s.token thread) (some f) onExpired).nativeOver site.area sent) := by
  obtain ⟨arguments, result, -, hfire⟩ :=
    site.nativeOver_of_some (s.token thread) harity onExpired sent
  rw [hfire]
  exact site.strict_firing (hcall arguments result) (hunheld arguments result) (some f) onExpired

end

theorem Fair.applyFrom {f : ManagedFunction σ κ}
    (h : ∀ call index argument, Fair s thread halting l (f.apply call index argument))
    (arguments : List RawBuffer) (call : κ) (index : Nat) :
    Fair s thread halting l (f.applyFrom call index arguments) := by
  induction arguments generalizing call index with
  | nil => exact .pure call
  | cons argument rest ih => exact (h call index argument).bind fun call => ih call (index + 1)

/-! ## Trees

By induction on the tree.  What carries it is the lock that each kind of node is begun with: managed
code holds it, and native code has it as the call around it says. -/

mutual

theorem Call.fair : ∀ c : Call (s.watch halting) κ α,
    Fair s thread halting (.heldBy thread) (c.run (s.token thread))
  | .missing site write read => .pure _
  | .unwritten site callee write read => by
    rw [Call.run, site.invoke_of_error]
    exact ((write _).fair rfl).map _
  | .made site write callee read => by
    rw [Call.run, site.invoke_of_ok]
    exact ((write _).fair rfl).bind fun written =>
      Fair.transact _ _ _ (callee.fair _) fun result => (read _).fair rfl

theorem Native.fair {flag : Bool} :
    ∀ (c : Native (s.watch halting) κ α flag) (received : List Bytes),
      Fair s thread halting (station thread flag) (c.run (s.token thread) received)
  | .finish work, received => (work received).fair rfl
  | .fire before site arguments target use rest, received => by
    have hrest (stored : Bytes) : Fair s thread halting (station thread flag)
        ((use stored).run >>= fun _ => rest.run (s.token thread) received) :=
      ((use stored).fair rfl).bind fun _ => rest.fair received
    refine ((before received).fair rfl).bind fun _ => ?_
    by_cases hmatched : site.holds = flag
    · refine ((arguments received).fair hmatched).bind fun sent => Fair.bind ?_ hrest
      exact hmatched ▸ (target.strict site sent).fair
    -- the mismatch is noted before the firing, which then goes wrong
    · refine Work.fair_mismatch hmatched (arguments received) fun sent => Fails.bind ?_ hrest
      exact Bool.eq_not_of_ne (Ne.symm hmatched) ▸ (target.strict site sent).fails

theorem Target.strict : ∀ (c : Target (s.watch halting) κ α) (site : FireSite) (sent : site.Sent),
    Strict s thread halting site.holds
      ((site.closure (s.token thread) (c.function? (s.token thread) site.spec.arity)
        c.hook).nativeOver site.area sent)
  | .expired hook, site, sent =>
    site.strict_expired ((hook site.key).fair rfl) ((hook site.key).fails trivial rfl) sent
  | .live start starting apply applying finishing finish keeps, site, sent => by
    have hstarted (call : κ) : Fair s thread halting (.heldBy thread)
        (starting.run (s.token thread) >>= fun _ => pure call) :=
      starting.fair.bind fun _ => .pure call
    have happly (call : κ) (index : Nat) (argument : RawBuffer) : Fair s thread halting
        (.heldBy thread) ((apply call index argument).run >>= fun call =>
          (applying index).run (s.token thread) >>= fun _ => pure call) :=
      ((apply call index argument).fair rfl).bind fun call =>
        (applying index).fair.bind fun _ => .pure call
    have hfinish (call : κ) (result : RawBuffer) : Fair s thread halting (.heldBy thread)
        (finishing.run (s.token thread) >>= fun _ => (finish call result).run) :=
      finishing.fair.bind fun _ => (finish call result).fair rfl
    rw [Target.function?]
    refine site.strict_live rfl (fun arguments result => ?_) (fun arguments result => ?_) _ sent
    · exact ((start.fair rfl).bind hstarted).bind fun call =>
        (Fair.applyFrom happly arguments call 0).bind fun call => hfinish call result
    · exact ((start.fails trivial rfl).bind hstarted).bind fun call =>
        (Fair.applyFrom happly arguments call 0).bind fun call => hfinish call result

theorem Calls.fair : ∀ c : Calls (s.watch halting) κ α,
    Fair s thread halting (.heldBy thread) (c.run (s.token thread))
  | .nil => .pure ()
  | .cons before call use rest =>
    (before.fair rfl).bind fun _ => call.fair.bind fun result =>
      ((use result).fair rfl).bind fun _ => rest.fair

end

namespace Note.Right

variable {n : Note}

theorem held (h : n.Right thread) (hmanaged : n.role.Managed) : n.lock.isHeldBy thread = true := by
  obtain ⟨role, lock⟩ := n
  cases role with
  | native | firing => cases hmanaged
  | _ =>
    cases h
    exact GlobalLock.isHeldBy_heldBy thread

theorem matched (h : n.Right thread) : n.role.Matched := by
  obtain ⟨role, lock⟩ := n
  cases role with
  | firing => exact h
  | _ => trivial

theorem free (h : n.Right thread) (hrole : n.role = .native true) : n.lock = .free := by
  obtain ⟨role, lock⟩ := n
  cases hrole
  exact h

end Note.Right

/-- Begun by a thread that holds the lock, a tree of calls is not stopped by the lock and does all
managed work with the lock held just if every firing is matched.  Native code that the lock was
given up for then runs with the lock free, and at the end the thread holds the lock, whatever the
call came to.  The functions in a tree have their trampolines' arities: with any other a firing ends
the process before managed code runs (`FireSite.nativeOver_of_mismatch`). -/
theorem held_iff_matched (c : Call (s.watch halting) κ α) (t : Thread σ)
    (hheld : s.lock t.world = .heldBy thread) :
    let outcome := c.run (s.token thread) t
    ∃ notes, s.Adds t outcome.2 notes ∧
      ((outcome.1 ≠ .error .blocked ∧
          ∀ n ∈ notes, n.role.Managed → n.lock.isHeldBy thread = true) ↔
        ∀ n ∈ notes, n.role.Matched) ∧
      ((∀ n ∈ notes, n.role.Matched) →
        (∀ n ∈ notes, n.role = .native true → n.lock = .free) ∧
        (∀ h, outcome.1 = .error h → Stop halting h) ∧
        (outcome.1 = .error .abort ∨ s.lock outcome.2.world = .heldBy thread)) := by
  have hfair : Fair s thread halting (.heldBy thread) (c.run (s.token thread)) := c.fair
  obtain ⟨notes, hadds, hgoes⟩ := hfair t
  refine ⟨notes, hadds, ?_⟩
  rcases hgoes hheld with hkept | ⟨⟨n, hn, hmismatch⟩, hshows⟩
  · have hmatched : ∀ n ∈ notes, n.role.Matched := fun n hn => (hkept.right n hn).matched
    have hunblocked : (c.run (s.token thread) t).1 ≠ .error .blocked := by
      intro hblocked
      obtain ⟨-, habort | ⟨p, hpanic⟩⟩ := hkept.stop .blocked hblocked
      · cases habort
      · cases hpanic
    refine ⟨⟨fun _ => hmatched, fun _ => ⟨hunblocked, fun n hn => (hkept.right n hn).held⟩⟩, ?_⟩
    exact fun _ => ⟨fun n hn => (hkept.right n hn).free, hkept.stop, hkept.lock_eq⟩
  · refine ⟨⟨fun hgood => ?_, fun hmatched => ?_⟩, fun hmatched => ?_⟩
    · rcases hshows with hblocked | ⟨m, hm, hmanaged, hunheld⟩
      · exact (hgood.1 hblocked).elim
      · rw [hgood.2 m hm hmanaged] at hunheld
        cases hunheld
    · exact (hmismatch (hmatched n hn)).elim
    · exact (hmismatch (hmatched n hn)).elim

instance : Journal (GlobalLock × List Note) := ⟨fun _ w => w⟩

/-- A world that is nothing but a lock and the notes. -/
def bare : Scene (GlobalLock × List Note) where
  lock := Prod.fst
  setLock l w := (l, w.2)
  notes := Prod.snd
  lock_setLock _ _ := rfl
  notes_setLock _ _ := rfl
  lock_record _ _ := rfl
  notes_record _ _ := rfl

def jot (role : Role) (w : GlobalLock × List Note) : GlobalLock × List Note :=
  (w.1, w.2 ++ [⟨role, w.1⟩])

def jotting : Call (bare.watch False) Unit Unit := nested jot fun _ _ => rfl

/-- What becomes of the tree if thread 1 begins it. -/
def jotted : Except Halt (Except Error Unit) × Thread (GlobalLock × List Note) :=
  jotting.run (bare.token 1) ⟨0, .heldBy 1, []⟩

theorem held_iff_matched_nested :
    jotted.1 ≠ .error .blocked ∧ bare.lock jotted.2.world = .heldBy 1 ∧
      ∀ n ∈ bare.notes jotted.2.world, n.role.Managed → n.lock.isHeldBy 1 = true := by
  have hmatched : ∀ n ∈ bare.notes jotted.2.world, n.role.Matched := by decide +kernel
  -- the computed state must stay folded from here on
  unfold jotted at hmatched ⊢
  obtain ⟨notes, hadds, hiff, hgood⟩ := held_iff_matched jotting ⟨0, .heldBy 1, []⟩ rfl
  have hempty : bare.notes (GlobalLock.heldBy 1, []) = [] := rfl
  rw [hadds, hempty, List.nil_append] at hmatched ⊢
  obtain ⟨hunblocked, hheld⟩ := hiff.mpr hmatched
  obtain ⟨-, hstop, hback⟩ := hgood hmatched
  exact ⟨hunblocked, hback.resolve_left fun habort => (hstop .abort habort).1, hheld⟩

end Nesting

end CallBridge
