/-
Work on one thread.

A `Run` is a computation that sees the thread's errno and a world of the host's making,
and either returns or halts.  The state it reached is kept in both cases.  The engine
writes log records into the world through `Journal`; they never touch errno.
-/
import CallBridge.Halt

namespace CallBridge

/-- What a computation on a thread sees: errno, and the host's world. -/
structure Thread (σ : Type) where
  errno : Int
  world : σ

def Run (σ α : Type) : Type := Thread σ → Except Halt α × Thread σ

namespace Run

variable {σ α β : Type}

def pure (a : α) : Run σ α := fun t => (.ok a, t)

def bind (x : Run σ α) (f : α → Run σ β) : Run σ β := fun t =>
  match x t with
  | (.ok a, t') => f a t'
  | (.error h, t') => (.error h, t')

instance : Monad (Run σ) where
  pure := Run.pure
  bind := Run.bind

@[simp] theorem pure_apply (a : α) (t : Thread σ) : (Pure.pure a : Run σ α) t = (.ok a, t) := rfl

theorem bind_apply (x : Run σ α) (f : α → Run σ β) (t : Thread σ) :
    (x >>= f) t = match x t with
      | (.ok a, t') => f a t'
      | (.error h, t') => (.error h, t') := rfl

theorem bind_of_ok {x : Run σ α} {f : α → Run σ β} {t t' : Thread σ} {a : α}
    (h : x t = (.ok a, t')) : (x >>= f) t = f a t' := by
  rw [bind_apply, h]

theorem bind_of_error {x : Run σ α} {f : α → Run σ β} {t t' : Thread σ} {h : Halt}
    (hx : x t = (.error h, t')) : (x >>= f) t = (.error h, t') := by
  rw [bind_apply, hx]

/-- A computation of two steps returns only if both do. -/
theorem bind_eq_ok {x : Run σ α} {f : α → Run σ β} {t t' : Thread σ} {b : β}
    (h : (x >>= f) t = (.ok b, t')) : ∃ a u, x t = (.ok a, u) ∧ f a u = (.ok b, t') := by
  rw [bind_apply] at h
  rcases hx : x t with ⟨_ | a, u⟩
  · rw [hx] at h
    cases h
  · rw [hx] at h
    exact ⟨a, u, rfl, h⟩

theorem map_id (x : Run σ α) : id <$> x = x := by
  funext t
  show (match x t with | (.ok a, t') => _ | (.error h, t') => _) = x t
  rcases x t with ⟨_ | _, _⟩ <;> rfl

theorem bind_assoc {γ : Type} (x : Run σ α) (f : α → Run σ β) (g : β → Run σ γ) :
    x >>= f >>= g = x >>= fun a => f a >>= g := by
  funext t
  rw [bind_apply, bind_apply, bind_apply]
  rcases x t with ⟨_ | _, _⟩ <;> rfl

instance : LawfulMonad (Run σ) := LawfulMonad.mk' (Run σ) map_id (fun _ _ => rfl) bind_assoc

def halt (h : Halt) : Run σ α := fun t => (.error h, t)

def panic (p : Panic) : Run σ α := halt (.panic p)

/-- Go on with the value of a computation that may have panicked. -/
def ofPanic : Except Panic α → Run σ α
  | .ok a => Pure.pure a
  | .error p => panic p

def getWorld : Run σ σ := fun t => (.ok t.world, t)

def modifyWorld (f : σ → σ) : Run σ Unit := fun t => (.ok (), { t with world := f t.world })

def setWorld (w : σ) : Run σ Unit := modifyWorld fun _ => w

def getErrno : Run σ Int := fun t => (.ok t.errno, t)

def setErrno (code : Int) : Run σ Unit := fun t => (.ok (), { t with errno := code })

/-- Run `body`, and `cleanup` after it when it returns or panics.  A thread that was
aborted or blocked cleans up nothing. -/
def guarded (body : Run σ α) (cleanup : Run σ Unit) : Run σ α := fun t =>
  match body t with
  | (.ok a, t') => (cleanup >>= fun _ => Pure.pure a) t'
  | (.error (.panic p), t') => (cleanup >>= fun _ => panic p) t'
  | (.error h, t') => (.error h, t')

theorem map_apply (g : α → β) (x : Run σ α) (t : Thread σ) :
    (g <$> x) t = match x t with
      | (.ok a, t') => (.ok (g a), t')
      | (.error h, t') => (.error h, t') := rfl

theorem map_congr {x y : Run σ α} {t u : Thread σ} (g : α → β) (h : x t = y u) :
    (g <$> x) t = (g <$> y) u := by
  rw [map_apply, map_apply, h]

/-- What is made of a value may be made of it after the cleanup. -/
theorem guarded_map (g : α → β) (body : Run σ α) (cleanup : Run σ Unit) :
    (g <$> body).guarded cleanup = g <$> body.guarded cleanup := by
  funext t
  rw [guarded, map_apply, map_apply, guarded]
  rcases body t with ⟨h | a, t'⟩
  · cases h with
    | panic p =>
      show (cleanup >>= fun _ => panic p) t' = (g <$> (cleanup >>= fun _ => panic p)) t'
      rw [map_apply, bind_apply, bind_apply]
      rcases cleanup t' with ⟨_ | _, _⟩ <;> rfl
    | _ => rfl
  · show (cleanup >>= fun _ => Pure.pure (g a)) t' = (g <$> (cleanup >>= fun _ => Pure.pure a)) t'
    rw [map_apply, bind_apply, bind_apply]
    rcases cleanup t' with ⟨_ | _, _⟩ <;> rfl

theorem guarded_pure (body : Run σ α) : body.guarded (Pure.pure ()) = body := by
  funext t
  rw [guarded]
  rcases body t with ⟨h | a, t'⟩
  · cases h <;> rfl
  · rfl

theorem guarded_congr {x y : Run σ α} {t u : Thread σ} (h : x t = y u) (cleanup : Run σ Unit) :
    x.guarded cleanup t = y.guarded cleanup u := by
  rw [guarded, guarded, h]

/-- A guarded computation returns only if it and its cleanup do. -/
theorem guarded_eq_ok {body : Run σ α} {cleanup : Run σ Unit} {t t' : Thread σ} {a : α}
    (h : body.guarded cleanup t = (.ok a, t')) :
    ∃ u, body t = (.ok a, u) ∧ cleanup u = (.ok (), t') := by
  unfold guarded at h
  split at h
  · rename_i b u hbody
    obtain ⟨_, v, hcleanup, h⟩ := bind_eq_ok h
    cases h
    exact ⟨u, hbody, hcleanup⟩
  · obtain ⟨_, _, _, h⟩ := bind_eq_ok h
    cases h
  · cases h

theorem guarded_of_ok {body : Run σ α} {cleanup : Run σ Unit} {t u v : Thread σ} {a : α}
    (hbody : body t = (.ok a, u)) (hcleanup : cleanup u = (.ok (), v)) :
    body.guarded cleanup t = (.ok a, v) := by
  rw [guarded, hbody]
  exact bind_of_ok hcleanup

/-- End as something else did. -/
def ending (outcome : Except Halt α) : Run σ α := fun t => (outcome, t)

/-- A computation that halted for good is left as it is.  After any other the cleanup runs, and
then the outcome is what it was. -/
theorem guarded_cases (body : Run σ α) (cleanup : Run σ Unit) (t : Thread σ) :
    (∃ h, (∀ p, h ≠ .panic p) ∧ (body t).1 = .error h ∧ body.guarded cleanup t = body t) ∨
      (∀ h, (∀ p, h ≠ .panic p) → (body t).1 ≠ .error h) ∧
        body.guarded cleanup t = (cleanup >>= fun _ => ending (body t).1) (body t).2 := by
  rw [guarded]
  rcases body t with ⟨h | a, u⟩
  · by_cases hpanic : ∃ p, h = .panic p
    · obtain ⟨p, rfl⟩ := hpanic
      exact Or.inr ⟨fun h' hne heq => hne p (Except.error.inj heq).symm, rfl⟩
    · refine Or.inl ⟨h, fun p heq => hpanic ⟨p, heq⟩, rfl, ?_⟩
      cases h with
      | panic p => exact (hpanic ⟨p, rfl⟩).elim
      | _ => rfl
  · exact Or.inr ⟨fun _ _ heq => (by cases heq), rfl⟩

theorem map_eq_ok {g : α → β} {x : Run σ α} {t t' : Thread σ} {b : β}
    (h : (g <$> x) t = (.ok b, t')) : ∃ a, x t = (.ok a, t') ∧ g a = b := by
  rw [map_apply] at h
  split at h
  · rename_i a u hx
    cases h
    exact ⟨a, hx, rfl⟩
  · cases h

def catchPanic (body : Run σ α) : Run σ (Except Panic α) := fun t =>
  match body t with
  | (.ok a, t') => (.ok (.ok a), t')
  | (.error (.panic p), t') => (.ok (.error p), t')
  | (.error h, t') => (.error h, t')

theorem catchPanic_eq_ok {body : Run σ α} {t t' : Thread σ} {a : α}
    (h : body.catchPanic t = (.ok (.ok a), t')) : body t = (.ok a, t') := by
  unfold catchPanic at h
  split at h
  · rename_i b u hbody
    cases h
    exact hbody
  · cases h
  · cases h

end Run

inductive Level where
  | trace | debug | warn | error
deriving DecidableEq, Repr

/-- One value of a log record: a number or a text. -/
inductive FieldValue where
  | number (n : Int)
  | text (s : String)
deriving DecidableEq, Repr

structure LogRecord where
  level : Level
  message : String
  fields : List (String × FieldValue)
deriving DecidableEq, Repr

/-- A world that keeps, or drops, log records. -/
class Journal (σ : Type) where
  record : LogRecord → σ → σ

/-- A world that is nothing but its journal. -/
instance : Journal (List LogRecord) := ⟨fun record kept => kept ++ [record]⟩

/-- The thread after a log record. -/
def Thread.logged {σ : Type} [Journal σ] (t : Thread σ) (level : Level) (message : String)
    (fields : List (String × FieldValue)) : Thread σ :=
  { t with world := Journal.record ⟨level, message, fields⟩ t.world }

namespace Run

variable {σ : Type} [Journal σ]

def log (level : Level) (message : String) (fields : List (String × FieldValue)) : Run σ Unit :=
  modifyWorld (Journal.record ⟨level, message, fields⟩)

end Run

end CallBridge
