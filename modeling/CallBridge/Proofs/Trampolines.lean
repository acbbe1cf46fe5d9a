/-
Trampolines over a registry.

A trampoline keeps a key and no function.  `trampoline_never_stale` says that, whatever is
done to the registry and by whom, a firing calls the function that its key has at that moment,
or none.  `live_firing_drives` takes such a call apart into the requests of a drive.
-/
import CallBridge.Proofs.Driving
import CallBridge.Proofs.Firing
import CallBridge.Proofs.Keys

namespace CallBridge

namespace Registry

/-- A registry in the world, and the log of all that is done to it.  Nothing that runs reads
the log. -/
structure Ledger (σ φ : Type) where
  registry : σ → Registry φ
  log : σ → List (Event φ)
  operate : Operation φ → σ → σ
  registry_operate : ∀ op w, registry (operate op w) = ((registry w).perform op).2
  log_operate : ∀ op w, log (operate op w) = log w ++ [((registry w).perform op).1]

variable {σ φ α β : Type}

namespace Ledger

/-- The registry came about by its log. -/
def Kept (l : Ledger σ φ) (w : σ) : Prop := History (l.log w) (l.registry w)

/-- A world that came after another with no operation lost. -/
def Later (l : Ledger σ φ) (w w' : σ) : Prop := l.Kept w → l.Kept w' ∧ l.log w <+: l.log w'

theorem Later.refl (l : Ledger σ φ) (w : σ) : l.Later w w := fun h => ⟨h, List.prefix_rfl⟩

theorem Later.trans {l : Ledger σ φ} {w w' w'' : σ} (h : l.Later w w') (h' : l.Later w' w'') :
    l.Later w w'' := by
  intro hkept
  obtain ⟨hkept', hprefix⟩ := h hkept
  obtain ⟨hkept'', hprefix'⟩ := h' hkept'
  exact ⟨hkept'', hprefix.trans hprefix'⟩

theorem later_operate (l : Ledger σ φ) (op : Operation φ) (w : σ) : l.Later w (l.operate op w) := by
  intro hkept
  rw [Kept, l.registry_operate, l.log_operate]
  exact ⟨hkept.step op, List.prefix_append _ _⟩

/-! ## Computations -/

/-- A computation does nothing to the registry that is not in the log. -/
def Tracks (l : Ledger σ φ) (x : Run σ α) : Prop := ∀ t, l.Later t.world (x t).2.world

variable {l : Ledger σ φ}

theorem tracks_of_world {x : Run σ α} (h : ∀ t, (x t).2.world = t.world) : l.Tracks x := by
  intro t
  rw [h t]
  exact Later.refl l _

theorem tracks_pure (a : α) : l.Tracks (pure a : Run σ α) := tracks_of_world fun _ => rfl

theorem tracks_halt (h : Halt) : l.Tracks (Run.halt h : Run σ α) := tracks_of_world fun _ => rfl

theorem Tracks.bind {x : Run σ α} {f : α → Run σ β} (hx : l.Tracks x) (hf : ∀ a, l.Tracks (f a)) :
    l.Tracks (x >>= f) := by
  intro t
  have hfirst := hx t
  rw [Run.bind_apply]
  generalize x t = outcome at hfirst ⊢
  rcases outcome with ⟨_ | a, u⟩
  · exact hfirst
  · exact hfirst.trans (hf a u)

theorem Tracks.map {x : Run σ α} (hx : l.Tracks x) (g : α → β) : l.Tracks (g <$> x) := by
  rw [map_eq_pure_bind]
  exact hx.bind fun a => tracks_pure (g a)

theorem Tracks.catchPanic {x : Run σ α} (hx : l.Tracks x) : l.Tracks x.catchPanic := by
  intro t
  have hfirst := hx t
  rw [Run.catchPanic]
  generalize x t = outcome at hfirst ⊢
  rcases outcome with ⟨h | a, u⟩
  · cases h <;> exact hfirst
  · exact hfirst

theorem Tracks.guarded {body : Run σ α} {cleanup : Run σ Unit} (hbody : l.Tracks body)
    (hcleanup : l.Tracks cleanup) : l.Tracks (body.guarded cleanup) := by
  intro t
  have hfirst := hbody t
  rw [Run.guarded]
  generalize body t = outcome at hfirst ⊢
  rcases outcome with ⟨h | a, u⟩
  · cases h with
    | panic p => exact hfirst.trans (hcleanup.bind (fun _ => tracks_halt (.panic p)) u)
    | _ => exact hfirst
  · exact hfirst.trans (hcleanup.bind (fun _ => tracks_pure a) u)

end Ledger

end Registry

open Registry

/-! ## Runtimes -/

variable {σ κ φ : Type} [Journal σ]

/-- A runtime whose trampolines find their functions in a registry of the world.  Its
journal, its lock, its hook and its functions may do anything to the world, but to the registry
only what can be done to a registry. -/
structure Tracked (l : Ledger σ φ) (function : φ → ManagedFunction σ κ)
    (factory : ClosureFactory σ κ) : Prop where
  resolve_eq : factory.resolve? = Registry.resolver l.registry function
  journal : ∀ record w, l.Later w (Journal.record record w)
  acquire : l.Tracks factory.lock.acquire
  release : l.Tracks factory.lock.release
  hook : ∀ key, l.Tracks (factory.onExpired key)
  start : ∀ f, l.Tracks (function f).start
  apply : ∀ f call index argument, l.Tracks ((function f).apply call index argument)
  finish : ∀ f call result, l.Tracks ((function f).finish call result)

namespace Tracked

variable {l : Ledger σ φ} {function : φ → ManagedFunction σ κ} {factory : ClosureFactory σ κ}

theorem tracks_log (h : Tracked l function factory) (level : Level) (message : String)
    (fields : List (String × FieldValue)) :
    l.Tracks (Run.log level message fields : Run σ Unit) := fun t => h.journal _ t.world

theorem tracks_applyFrom (h : Tracked l function factory) (f : φ) (call : κ) (index : Nat)
    (arguments : List RawBuffer) : l.Tracks ((function f).applyFrom call index arguments) := by
  induction arguments generalizing call index with
  | nil => exact Ledger.tracks_pure call
  | cons argument rest ih =>
    exact (h.apply f call index argument).bind fun call => ih call (index + 1)

theorem tracks_drive (h : Tracked l function factory) (f : φ) (arguments : List RawBuffer)
    (result : RawBuffer) : l.Tracks (drive (function f) arguments result) := by
  have hcall : l.Tracks ((function f).call arguments result) :=
    (h.start f).bind fun call => (h.tracks_applyFrom f call 0 arguments).bind fun call =>
      h.finish f call result
  unfold drive
  split
  · exact Ledger.tracks_pure _
  · exact hcall.bind fun made => Ledger.tracks_pure _

theorem tracks_answer (h : Tracked l function factory) (p : Prepared) (key : FunctionKey)
    (arguments : List RawBuffer) (result : RawBuffer) :
    l.Tracks ((factory.closure p key).answer arguments result) := by
  show l.Tracks (factory.resolve? key >>= _)
  rw [h.resolve_eq]
  show l.Tracks ((Run.getWorld >>= fun w =>
    pure (((l.registry w).resolve? key).map function)) >>= _)
  rw [bind_assoc]
  refine Ledger.Tracks.bind (Ledger.tracks_of_world fun _ => rfl) fun w => ?_
  rw [pure_bind]
  cases (l.registry w).resolve? key with
  | none => exact (h.hook key).bind fun _ => Ledger.tracks_pure _
  | some f => exact h.tracks_drive f arguments result

theorem tracks_heldIf {α : Type} (h : Tracked l function factory) (flag : Bool) {body : Run σ α}
    (hbody : l.Tracks body) : l.Tracks (factory.lock.heldIf flag body) := by
  have hdrop : l.Tracks (Hold.mk factory.lock).drop :=
    (h.tracks_log _ _ _).bind fun _ => h.release.bind fun _ => Ledger.tracks_pure ()
  cases flag with
  | false => exact hbody
  | true =>
    show l.Tracks ((Run.log _ _ _ >>= fun _ => factory.lock.acquire >>= fun _ =>
      pure (Hold.mk factory.lock)) >>= fun guard => body.guarded guard.drop)
    rw [bind_assoc]
    refine (h.tracks_log _ _ _).bind fun _ => ?_
    rw [bind_assoc]
    refine h.acquire.bind fun _ => ?_
    rw [pure_bind]
    exact hbody.guarded hdrop

/-- A firing, its function's own operations included. -/
theorem tracks_nativeOver (h : Tracked l function factory) (p : Prepared) (key : FunctionKey)
    (area : Bytes) (arguments : List Bytes) :
    l.Tracks ((factory.closure p key).nativeOver area arguments) := by
  have hdying (reason : String) : l.Tracks ((Run.log .error s!"{reason}; aborting"
      [("key", .text (toString key))] >>= fun _ => Run.halt .abort : Run σ Bytes)) :=
    (h.tracks_log _ _ _).bind fun _ => Ledger.tracks_halt .abort
  have hanswer := (h.tracks_answer p key ((factory.closure p key).buffers arguments)
    ((factory.closure p key).resultBuffer area)).map (Except.map RawBuffer.bytes)
  rw [Closure.nativeOver_eq]
  refine Ledger.Tracks.map ((h.tracks_heldIf _ hanswer).catchPanic.bind fun outcome => ?_) _
  match outcome with
  | .ok (.ok stored) => exact Ledger.tracks_pure stored
  | .ok (.error mismatch) => exact hdying mismatch.message
  | .error p => exact hdying "managed callback panicked"

end Tracked

/-! ## Runs -/

/-- What a host does: operations of the registry, new trampolines, and calls of trampolines by
native code. -/
inductive Act (φ : Type) where
  | operate (op : Operation φ)
  | make (p : Prepared) (key : FunctionKey)
  | fire (p : Prepared) (key : FunctionKey) (arguments : List Bytes) (area : Bytes)

def Act.run (l : Ledger σ φ) (factory : ClosureFactory σ κ) : Act φ → Run σ Unit
  | operate op => Run.modifyWorld (l.operate op)
  | make p key => do
    let _ ← factory.make p key
  | fire p key arguments area => do
    let _ ← (factory.closure p key).nativeOver area arguments

def runActs (l : Ledger σ φ) (factory : ClosureFactory σ κ) : List (Act φ) → Run σ Unit
  | [] => return ()
  | a :: rest => do
    a.run l factory
    runActs l factory rest

namespace Tracked

variable {l : Ledger σ φ} {function : φ → ManagedFunction σ κ} {factory : ClosureFactory σ κ}

theorem tracks_act (h : Tracked l function factory) (a : Act φ) : l.Tracks (a.run l factory) := by
  cases a with
  | operate op => exact fun t => l.later_operate op t.world
  | make p key =>
    have hmake : l.Tracks (factory.make p key) :=
      (h.tracks_log _ _ _).bind fun _ => Ledger.tracks_pure _
    exact hmake.bind fun _ => Ledger.tracks_pure ()
  | fire p key arguments area =>
    exact (h.tracks_nativeOver p key area arguments).bind fun _ => Ledger.tracks_pure ()

theorem tracks_runActs (h : Tracked l function factory) (acts : List (Act φ)) :
    l.Tracks (runActs l factory acts) := by
  induction acts with
  | nil => exact Ledger.tracks_pure ()
  | cons a rest ih => exact (h.tracks_act a).bind fun _ => ih

end Tracked

/-! ## Firings -/

namespace Tracked

variable {l : Ledger σ φ} {function : φ → ManagedFunction σ κ} {factory : ClosureFactory σ κ}

theorem resolve_apply (h : Tracked l function factory) (key : FunctionKey) (u : Thread σ) :
    factory.resolve? key u = (.ok (((l.registry u.world).resolve? key).map function), u) := by
  rw [h.resolve_eq]
  rfl

/-- The function that the key has at `u` gets as many arguments as it takes, and is called. -/
theorem nativeOver_of_live (h : Tracked l function factory) {t u : Thread σ}
    (horderly : Orderly (l.log u.world) (l.registry u.world)) {p : Prepared} {key : FunctionKey}
    {leave : Run σ Unit} (henter : (factory.closure p key).enter t = (.ok leave, u))
    {arguments : List Bytes} (harity : arguments.length = p.arity) {f : φ}
    (hlive : Live (l.log u.world) key f) (hmatches : (function f).arity = p.arity) (area : Bytes) :
    let c := factory.closure p key
    (function f).arity = (c.buffers arguments).length ∧
      c.nativeOver area arguments t =
        (c.handed <$>
          c.within leave ((function f).call (c.buffers arguments) (c.resultBuffer area))) u := by
  intro c
  have hfound : c.resolve? key u = (.ok (some (function f)), u) := by
    refine (h.resolve_apply key u).trans ?_
    rw [(horderly.resolve_iff key f).mpr hlive]
    rfl
  have hbuffers : (function f).arity = (c.buffers arguments).length :=
    hmatches.trans (c.length_buffers harity).symm
  refine ⟨hbuffers, ?_⟩
  rw [c.nativeOver_eq]
  exact Run.map_congr _ (Closure.serve_of_live henter hfound hbuffers _)

end Tracked

/-- What a firing does that starts at `t` and has entered at `u`, when the registry has come
about by `log`. -/
structure FiresBy (log : List (Event φ)) (function : φ → ManagedFunction σ κ) (c : Closure σ κ)
    (arguments : List Bytes) (area : Bytes) (leave : Run σ Unit) (t u : Thread σ) : Prop where
  /-- One call of the function that the key has, and of no other. -/
  live : ∀ {f}, Live log c.key f → (function f).arity = c.spec.arity →
    c.nativeOver area arguments t =
      (c.handed <$>
        c.within leave ((function f).call (c.buffers arguments) (c.resultBuffer area))) u
  /-- One call of the hook and of no function. -/
  expired : (∀ f, ¬Live log c.key f) →
    c.nativeOver area arguments t =
      (c.handed <$>
        c.within leave (c.onExpired c.key >>= fun _ => return (c.resultBuffer area).zero)) u
  /-- If the hook returns, and the lock is given back, native code is left with zeros. -/
  zeros : (∀ f, ¬Live log c.key f) → ∀ {v v'}, c.onExpired c.key u = (.ok (), v) →
    leave v = (.ok (), v') →
    c.nativeOver area arguments t =
      (.ok (if c.spec.returnType.isVoid then [] else Bytes.zeros c.storedSize), v')

/-- Whatever a host does, its registry came about by its log, which only grows; and at any
moment, also while functions run, a firing is by what the log says of its key. -/
theorem trampoline_never_stale {l : Ledger σ φ} {function : φ → ManagedFunction σ κ}
    {factory : ClosureFactory σ κ} (hruntime : Tracked l function factory) :
    (∀ acts, l.Tracks (runActs l factory acts)) ∧
    ∀ u : Thread σ, l.Kept u.world → registrations (l.log u.world) < keyLimit →
      Orderly (l.log u.world) (l.registry u.world) ∧
      ∀ p key t leave arguments area, (factory.closure p key).enter t = (.ok leave, u) →
        arguments.length = p.arity → p.returnType.size ≤ area.length →
        FiresBy (l.log u.world) function (factory.closure p key) arguments area leave t u := by
  refine ⟨hruntime.tracks_runActs, fun u hkept hcount => ?_⟩
  have horderly := History.orderly hkept hcount
  refine ⟨horderly, fun p key t leave arguments area henter harity harea => ?_⟩
  let c := factory.closure p key
  have hdead : (∀ f, ¬Live (l.log u.world) key f) → c.resolve? key u = (.ok none, u) := by
    intro hnot
    refine (hruntime.resolve_apply key u).trans ?_
    cases hfound : (l.registry u.world).resolve? key with
    | none => rfl
    | some f => exact absurd ((horderly.resolve_iff key f).mp hfound) (hnot f)
  have hexpired : (∀ f, ¬Live (l.log u.world) key f) → c.nativeOver area arguments t =
      (c.handed <$>
        c.within leave (c.onExpired key >>= fun _ => return (c.resultBuffer area).zero)) u := by
    intro hnot
    rw [c.nativeOver_eq]
    exact Run.map_congr _ (Closure.serve_of_expired henter (hdead hnot) _ _)
  refine ⟨fun {f} hlive hmatches => ?_, hexpired, fun hnot {v v'} hhook hleave => ?_⟩
  · exact (hruntime.nativeOver_of_live horderly henter harity hlive hmatches area).2
  · have hzero : (c.resultBuffer area).zero.bytes = Bytes.zeros p.returnType.size :=
      congrArg Bytes.zeros (c.size_resultBuffer harea)
    have hwithin :
        c.within leave (c.onExpired key >>= fun _ => return (c.resultBuffer area).zero) u =
          (.ok (c.resultBuffer area).zero.bytes, v') :=
      Closure.within_of_ok (Run.bind_of_ok hhook) hleave
    rw [hexpired hnot, Run.map_apply, hwithin, hzero]
    show (Except.ok (if _ then [] else c.stored (Bytes.zeros c.spec.returnType.size)), v') = _
    rw [c.stored_zeros]

/-- A firing at a key that has a function drives this function, once and by the rules, and goes on
from where the drive ends. -/
theorem live_firing_drives {l : Ledger σ φ} {function : φ → ManagedFunction σ κ}
    {factory : ClosureFactory σ κ} (hruntime : Tracked l function factory) {t u : Thread σ}
    (hkept : l.Kept u.world) (hcount : registrations (l.log u.world) < keyLimit) {p : Prepared}
    {key : FunctionKey} {leave : Run σ Unit}
    (henter : (factory.closure p key).enter t = (.ok leave, u)) {arguments : List Bytes}
    (harity : arguments.length = p.arity) {f : φ} (hlive : Live (l.log u.world) key f)
    (hmatches : (function f).arity = p.arity) (area : Bytes) :
    let c := factory.closure p key
    ∃ requests outcome v,
      (function f).Drives (c.buffers arguments) (c.resultBuffer area) u requests
        (outcome.map .ok) v ∧
      c.nativeOver area arguments t = (c.handed <$> c.within leave fun _ => (outcome, v)) u := by
  intro c
  obtain ⟨hbuffers, hfires⟩ := hruntime.nativeOver_of_live (History.orderly hkept hcount) henter
    harity hlive hmatches area
  obtain ⟨requests, outcome, v, hdrives⟩ :=
    (function f).exists_drives (c.buffers arguments) (c.resultBuffer area) u
  have hdrive := hdrives.drive_eq
  rw [ManagedFunction.drive_of_arity hbuffers, Run.map_apply] at hdrive
  refine ⟨requests, ?_⟩
  rcases hcall : (function f).call (c.buffers arguments) (c.resultBuffer area) u with ⟨made, w⟩
  have hends : c.nativeOver area arguments t =
      (c.handed <$> c.within leave fun _ => (made, w)) u :=
    hfires.trans (Run.map_congr _ (c.shielded_congr (Run.guarded_congr
      (Run.map_congr _ hcall) leave)))
  rw [hcall] at hdrive
  cases made with
  | error h =>
    cases hdrive
    exact ⟨.error h, _, hdrives, hends⟩
  | ok result =>
    cases hdrive
    exact ⟨.ok result, _, hdrives, hends⟩

/-! ## A function that revokes itself -/

/-- A world that is nothing but a registry of keys and its log. -/
structure Diary where
  registry : Registry FunctionKey
  log : List (Event FunctionKey)

instance : Journal Diary := ⟨fun _ w => w⟩

def diary : Ledger Diary FunctionKey where
  registry := Diary.registry
  log := Diary.log
  operate := fun op w => ⟨(w.registry.perform op).2, w.log ++ [(w.registry.perform op).1]⟩
  registry_operate := fun _ _ => rfl
  log_operate := fun _ _ => rfl

/-- While it is called, the function revokes the key it was made of. -/
def revoking (key : FunctionKey) : ManagedFunction Diary Unit where
  arity := 0
  start := Run.modifyWorld (diary.operate (.revoke key))
  apply := fun _ _ _ => return ()
  finish := fun _ result => return result
  finish_keepsSize := fun _ result made t t' h => by
    cases h
    rfl

def revokingFactory : ClosureFactory Diary Unit where
  lock := .none
  resolve? := Registry.resolver Diary.registry revoking
  onExpired := ExpiryPolicy.ignore.hook

theorem revoking_tracked : Tracked diary revoking revokingFactory where
  resolve_eq := rfl
  journal := fun _ w => Ledger.Later.refl diary w
  acquire := Ledger.tracks_pure ()
  release := Ledger.tracks_pure true
  hook := fun _ => Ledger.tracks_of_world fun _ => rfl
  start := fun key t => diary.later_operate (.revoke key) t.world
  apply := fun _ _ _ _ => Ledger.tracks_pure ()
  finish := fun _ _ result => Ledger.tracks_pure result

/-- The first firing of its trampoline calls it, and the second leaves zeros. -/
theorem trampoline_never_stale_revoking :
    ∃ p : Prepared, (Builder.empty ⟨true, true⟩).prepare .default .uint64 = .ok (.ok p) ∧
      let c := revokingFactory.closure p 1
      let area := List.replicate 8 255
      let t : Thread Diary := ⟨0, diary.operate (.register 1) ⟨.empty, []⟩⟩
      c.nativeOver area [] t = (c.handed <$> c.within
        (Hold.mk RuntimeLock.none).drop ((revoking 1).call [] (c.resultBuffer area))) t ∧
      (c.nativeOver area [] (c.nativeOver area [] t).2).1 = .ok (Bytes.zeros 8) := by
  let p : Prepared := ⟨[], .uint64, 16, 0, 0, ⟨true, true⟩, .default⟩
  let c := revokingFactory.closure p 1
  let t : Thread Diary := ⟨0, diary.operate (.register 1) ⟨.empty, []⟩⟩
  let t' : Thread Diary := ⟨0, diary.operate (.revoke 1) t.world⟩
  have hfirst : diary.Kept t.world := (diary.later_operate (.register 1) ⟨.empty, []⟩ .empty).1
  have hsecond : diary.Kept t'.world := (diary.later_operate (.revoke 1) t.world hfirst).1
  obtain ⟨-, hmoment⟩ := trampoline_never_stale revoking_tracked
  refine ⟨p, rfl, ?_, ?_⟩
  · obtain ⟨-, hfires⟩ := hmoment t hfirst (by decide)
    have hlive : Live (diary.log t.world) c.key (1 : FunctionKey) :=
      ⟨[], [], rfl, fun _ h => by cases h⟩
    exact (hfires p 1 t _ [] (List.replicate 8 255) rfl rfl (by decide)).live hlive rfl
  · obtain ⟨horderly, hfires⟩ := hmoment t' hsecond (by decide)
    have hnot : ∀ f, ¬Live (diary.log t'.world) c.key f := by
      intro f hlive
      cases (horderly.resolve_iff 1 f).mpr hlive
    show (c.nativeOver (List.replicate 8 255) [] t').1 = _
    rw [(hfires p 1 t' _ [] (List.replicate 8 255) rfl rfl (by decide)).zeros hnot rfl rfl]
    rfl

end CallBridge
