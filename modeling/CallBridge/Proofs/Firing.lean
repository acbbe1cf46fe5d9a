/-
One firing of a trampoline.

A firing makes the result buffer, has the key answered under the lock and hands the result
to native code.  `nativeOver_eq` says that the two ways of doing so, the direct one and the
one over a word of its own, differ only in that buffer and in `handed`.
-/
import CallBridge.Trampoline

namespace CallBridge

/-! ## Words -/

theorem length_extended (signed : Bool) (number : Bytes) : (extended signed number).length = 8 := by
  cases signed
  · exact Bytes.length_ofNat 8 _
  · exact Bytes.length_ofNat 8 _

/-- An extended number still starts with its own bytes. -/
theorem take_extended (signed : Bool) {number : Bytes} (h : number.length ≤ 8) :
    (extended signed number).take number.length = number := by
  cases signed
  · exact Bytes.take_ofNat_toNat h
  · exact Bytes.take_ofInt_toInt h

/-- A word is a narrow result extended, or it is used as it is. -/
theorem widen_cases (t : TypeToken) (cell : Bytes) :
    (t.size ≤ 4 ∧ widen t cell = extended t.isSigned (cell.take t.size)) ∨ widen t cell = cell := by
  unfold widen
  split
  · rename_i hsize
    exact Or.inl ⟨by omega, by rw [hsize]⟩
  · rename_i hsize
    exact Or.inl ⟨by omega, by rw [hsize]⟩
  · rename_i hsize
    exact Or.inl ⟨by omega, by rw [hsize]⟩
  · exact Or.inr rfl

theorem length_widen (t : TypeToken) {cell : Bytes} (hcell : cell.length = 8) :
    (widen t cell).length = 8 := by
  rcases widen_cases t cell with ⟨-, h⟩ | h
  · rw [h, length_extended]
  · rw [h, hcell]

theorem take_widen (t : TypeToken) {cell : Bytes} (hcell : cell.length = 8) :
    (widen t cell).take t.size = cell.take t.size := by
  rcases widen_cases t cell with ⟨hsize, h⟩ | h
  · have hlength : (cell.take t.size).length = t.size := by
      rw [List.length_take]
      omega
    have htake := @take_extended t.isSigned (cell.take t.size) (by omega)
    rw [hlength] at htake
    rw [h, htake]
  · rw [h]

theorem widen_zeros (t : TypeToken) : widen t (Bytes.zeros 8) = Bytes.zeros 8 := by
  unfold widen
  split
  · cases t.isSigned <;> rfl
  · cases t.isSigned <;> rfl
  · cases t.isSigned <;> rfl
  · rfl

namespace Closure

variable {σ κ : Type}

/-- The result buffer as the managed function finds it, if native code returns into
`area`. -/
def resultBuffer (c : Closure σ κ) (area : Bytes) : RawBuffer :=
  if c.spec.returnType.isNarrowInteger then ⟨Bytes.zeros c.spec.returnType.size⟩
  else ⟨area.take c.spec.returnType.size⟩

/-- What a firing stores in the native return area, if `left` is left in the result
buffer. -/
def stored (c : Closure σ κ) (left : Bytes) : Bytes :=
  if c.spec.returnType.isNarrowInteger then
    widen c.spec.returnType (left.overlay (Bytes.zeros 8))
  else left

/-- How many bytes those are. -/
def storedSize (c : Closure σ κ) : Nat :=
  if c.spec.returnType.isNarrowInteger then 8 else c.spec.returnType.size

/-- What native code has of it. -/
def handed (c : Closure σ κ) (left : Bytes) : Bytes :=
  if c.spec.returnType.isVoid then [] else c.stored left

theorem body_eq (c : Closure σ κ) (arguments : List Bytes) (area : Bytes) :
    c.body arguments area = Except.map c.stored <$> Except.map RawBuffer.bytes <$>
      c.answer (c.buffers arguments) (c.resultBuffer area) := by
  by_cases hnarrow : c.spec.returnType.isNarrowInteger = true
  · have hstored : c.stored = fun left => widen c.spec.returnType (left.overlay (Bytes.zeros 8)) :=
      funext fun left => if_pos hnarrow
    rw [body, if_pos hnarrow, resultBuffer, if_pos hnarrow, hstored, ← run]
    funext t
    rw [Run.bind_apply, Run.map_apply, Run.map_apply]
    rcases c.run arguments _ t with ⟨_ | ⟨_ | _⟩, _⟩ <;> rfl
  · have hstored : c.stored = id := funext fun left => if_neg hnarrow
    rw [body, if_neg hnarrow, resultBuffer, if_neg hnarrow, hstored, ← run]
    funext t
    rw [Run.bind_apply, Run.map_apply, Run.map_apply]
    rcases c.run arguments _ t with ⟨_ | ⟨_ | _⟩, _⟩ <;> rfl

variable [Journal σ]

/-- A firing up to what is left in the result buffer. -/
def serve (c : Closure σ κ) (arguments : List RawBuffer) (result : RawBuffer) : Run σ Bytes :=
  c.shielded (c.lock.heldIf c.spec.context.releaseLock
    (Except.map RawBuffer.bytes <$> c.answer arguments result))

theorem shielded_map (c : Closure σ κ) (g : Bytes → Bytes)
    (firing : Run σ (Except ArityMismatch Bytes)) :
    c.shielded (Except.map g <$> firing) = g <$> c.shielded firing := by
  funext t
  unfold shielded
  rw [Run.bind_apply, Run.map_apply, Run.bind_apply, Run.catchPanic, Run.catchPanic, Run.map_apply]
  rcases firing t with ⟨h | ⟨mismatch | left⟩, t'⟩
  · cases h <;> rfl
  · rfl
  · rfl

theorem nativeOver_eq (c : Closure σ κ) (area : Bytes) (arguments : List Bytes) :
    c.nativeOver area arguments =
      c.handed <$> c.serve (c.buffers arguments) (c.resultBuffer area) := by
  have hfire : c.fire arguments area =
      c.stored <$> c.serve (c.buffers arguments) (c.resultBuffer area) := by
    rw [fire, body_eq, RuntimeLock.heldIf_map, shielded_map]
    rfl
  show (fun stored => if c.spec.returnType.isVoid then [] else stored) <$> c.fire arguments area = _
  rw [hfire, ← comp_map]
  rfl

end Closure

/-! ## Sizes -/

namespace Closure

variable {σ κ : Type}

theorem size_le_storedSize (c : Closure σ κ) : c.spec.returnType.size ≤ c.storedSize := by
  unfold storedSize
  split
  · rename_i hnarrow
    exact Nat.le_of_lt (TypeToken.size_of_narrow hnarrow)
  · exact Nat.le_refl _

theorem storedSize_le (c : Closure σ κ) : c.storedSize ≤ max 8 c.spec.returnType.size := by
  unfold storedSize
  split
  · exact Nat.le_max_left _ _
  · exact Nat.le_max_right _ _

theorem length_stored (c : Closure σ κ) {left : Bytes} (h : left.length = c.spec.returnType.size) :
    (c.stored left).length = c.storedSize := by
  unfold stored storedSize
  split
  · rename_i hnarrow
    have hsize := TypeToken.size_of_narrow hnarrow
    refine length_widen _ (Bytes.length_overlay ?_)
    simp only [Bytes.length_zeros]
    omega
  · exact h

/-- Whatever is stored starts with what was left in the result buffer. -/
theorem take_stored (c : Closure σ κ) {left : Bytes} (h : left.length = c.spec.returnType.size) :
    (c.stored left).take c.spec.returnType.size = left := by
  unfold stored
  split
  · rename_i hnarrow
    have hsize := TypeToken.size_of_narrow hnarrow
    have hcell : (left.overlay (Bytes.zeros 8)).length = 8 := by
      refine Bytes.length_overlay ?_
      rw [Bytes.length_zeros]
      omega
    rw [take_widen _ hcell, ← h]
    exact List.take_left
  · exact List.take_of_length_le (Nat.le_of_eq h)

theorem stored_zeros (c : Closure σ κ) :
    c.stored (Bytes.zeros c.spec.returnType.size) = Bytes.zeros c.storedSize := by
  unfold stored storedSize
  split
  · rename_i hnarrow
    have hsize := TypeToken.size_of_narrow hnarrow
    have hcell : (Bytes.zeros c.spec.returnType.size).overlay (Bytes.zeros 8) = Bytes.zeros 8 := by
      rw [Bytes.overlay, Bytes.length_zeros, Bytes.zeros, Bytes.zeros, List.drop_replicate,
        List.replicate_append_replicate, Nat.add_sub_cancel' (Nat.le_of_lt hsize)]
    rw [hcell, widen_zeros]
  · rfl

theorem length_buffers (c : Closure σ κ) {arguments : List Bytes}
    (h : arguments.length = c.spec.arity) : (c.buffers arguments).length = c.spec.arity := by
  rw [buffers, List.length_map, List.length_zip, h]
  exact Nat.min_self _

theorem size_resultBuffer (c : Closure σ κ) {area : Bytes}
    (harea : c.spec.returnType.size ≤ area.length) :
    (c.resultBuffer area).size = c.spec.returnType.size := by
  unfold resultBuffer
  split
  · exact Bytes.length_zeros _
  · exact (List.length_take ..).trans (Nat.min_eq_left harea)

theorem answer_size {c : Closure σ κ} {arguments : List RawBuffer} {result made : RawBuffer}
    {t t' : Thread σ} (h : c.answer arguments result t = (.ok (.ok made), t')) :
    made.size = result.size := by
  obtain ⟨found, u, -, h⟩ := Run.bind_eq_ok h
  cases found with
  | none =>
    obtain ⟨_, _, -, h⟩ := Run.bind_eq_ok h
    cases h
    exact result.size_zero
  | some f => exact drive_size h

variable [Journal σ]

/-- A firing that returns came to its end. -/
theorem shielded_eq_ok {c : Closure σ κ} {firing : Run σ (Except ArityMismatch Bytes)}
    {t t' : Thread σ} {left : Bytes} (h : c.shielded firing t = (.ok left, t')) :
    firing t = (.ok (.ok left), t') := by
  obtain ⟨outcome, u, hcatch, h⟩ := Run.bind_eq_ok h
  match outcome with
  | .ok (.ok stored) =>
    cases h
    exact Run.catchPanic_eq_ok hcatch
  | .ok (.error mismatch) => cases h
  | .error p => cases h

/-- A firing of the right arity that panics aborts, and any other ends as it ends. -/
theorem shielded_cases (c : Closure σ κ) (x : Run σ Bytes) (t : Thread σ) :
    (∃ p message fields, (x t).1 = .error (.panic p) ∧
      c.shielded (.ok <$> x) t = (.error .abort, (x t).2.logged .error message fields)) ∨
      (∀ p, (x t).1 ≠ .error (.panic p)) ∧ c.shielded (.ok <$> x) t = x t := by
  rw [shielded, Run.bind_apply, Run.catchPanic, Run.map_apply]
  rcases x t with ⟨h | left, u⟩
  · cases h with
    | panic p => exact Or.inl ⟨p, _, _, rfl, rfl⟩
    | _ => exact Or.inr ⟨fun _ heq => (by cases heq), rfl⟩
  · exact Or.inr ⟨fun _ heq => (by cases heq), rfl⟩

theorem serve_length {c : Closure σ κ} {arguments : List RawBuffer} {result : RawBuffer}
    {t t' : Thread σ} {left : Bytes} (h : c.serve arguments result t = (.ok left, t')) :
    left.length = result.size := by
  obtain ⟨u, u', h⟩ := RuntimeLock.heldIf_eq_ok (shielded_eq_ok h)
  obtain ⟨outcome, hanswer, houtcome⟩ := Run.map_eq_ok h
  cases outcome with
  | error => cases houtcome
  | ok made =>
    cases houtcome
    exact answer_size hanswer

/-! ## Moments

A firing takes the lock first.  What it does then is decided by what its key is at that
moment. -/

/-- Take the lock if the specification says so; the answer gives it back. -/
def enter (c : Closure σ κ) : Run σ (Run σ Unit) := do
  if c.spec.context.releaseLock then
    let guard ← c.lock.hold
    return guard.drop
  else return pure ()

/-- The rest of a firing that has entered, if `call` is what it does. -/
def within (c : Closure σ κ) (leave : Run σ Unit) (call : Run σ RawBuffer) : Run σ Bytes :=
  c.shielded (((fun made => .ok made.bytes) <$> call).guarded leave)

theorem shielded_congr (c : Closure σ κ) {x y : Run σ (Except ArityMismatch Bytes)}
    {t u : Thread σ} (h : x t = y u) : c.shielded x t = c.shielded y u := by
  unfold shielded
  rw [Run.bind_apply, Run.bind_apply, Run.catchPanic, Run.catchPanic, h]

theorem heldIf_of_enter {α : Type} {c : Closure σ κ} {t u : Thread σ} {leave : Run σ Unit}
    (h : c.enter t = (.ok leave, u)) (body : Run σ α) :
    c.lock.heldIf c.spec.context.releaseLock body t = body.guarded leave u := by
  unfold enter at h
  split at h
  · rename_i hflag
    obtain ⟨guard, v, hhold, h⟩ := Run.bind_eq_ok h
    cases h
    rw [RuntimeLock.heldIf, if_pos hflag]
    exact Run.bind_of_ok hhold
  · rename_i hflag
    cases h
    rw [RuntimeLock.heldIf, if_neg hflag, Run.guarded_pure]

/-- What a key is answered with is what a firing does. -/
theorem serve_of_answer {c : Closure σ κ} {t u v : Thread σ} {leave : Run σ Unit}
    (henter : c.enter t = (.ok leave, u)) {arguments : List RawBuffer} {result : RawBuffer}
    {call : Run σ RawBuffer} (hanswer : c.answer arguments result u = (Except.ok <$> call) v) :
    c.serve arguments result t = c.within leave call v := by
  refine c.shielded_congr ((heldIf_of_enter henter _).trans (Run.guarded_congr ?_ leave))
  rw [Run.map_congr _ hanswer, ← comp_map]
  rfl

/-- At a moment when the key has a function of this arity, a firing is a call of it. -/
theorem serve_of_live {c : Closure σ κ} {t u v : Thread σ} {leave : Run σ Unit}
    (henter : c.enter t = (.ok leave, u)) {f : ManagedFunction σ κ}
    (hlive : c.resolve? c.key u = (.ok (some f), v)) {arguments : List RawBuffer}
    (harity : f.arity = arguments.length) (result : RawBuffer) :
    c.serve arguments result t = c.within leave (f.call arguments result) v := by
  refine serve_of_answer henter ((Run.bind_of_ok hlive).trans ?_)
  show drive f arguments result v = _
  rw [drive, if_neg fun hne => hne harity]
  rfl

/-- At any other moment no function is called: the hook is, and zeros are left. -/
theorem serve_of_expired {c : Closure σ κ} {t u v : Thread σ} {leave : Run σ Unit}
    (henter : c.enter t = (.ok leave, u)) (hexpired : c.resolve? c.key u = (.ok none, v))
    (arguments : List RawBuffer) (result : RawBuffer) :
    c.serve arguments result t =
      c.within leave (c.onExpired c.key >>= fun _ => return result.zero) v := by
  refine serve_of_answer henter ((Run.bind_of_ok hexpired).trans ?_)
  rw [map_bind]
  rfl

/-- A call that returns, and a lock that is given back, end the firing. -/
theorem within_of_ok {c : Closure σ κ} {leave : Run σ Unit} {call : Run σ RawBuffer}
    {u v v' : Thread σ} {made : RawBuffer} (hcall : call u = (.ok made, v))
    (hleave : leave v = (.ok (), v')) : c.within leave call u = (.ok made.bytes, v') := by
  have hguarded : (((fun made => .ok made.bytes) <$> call).guarded leave :
      Run σ (Except ArityMismatch Bytes)) u = (.ok (.ok made.bytes), v') := by
    rw [Run.guarded, Run.map_apply, hcall]
    exact Run.bind_of_ok hleave
  rw [within, shielded, Run.bind_apply, Run.catchPanic, hguarded]
  rfl

end Closure

end CallBridge
