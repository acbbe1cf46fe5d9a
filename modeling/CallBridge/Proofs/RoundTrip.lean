/-
A managed function called through its own trampoline.

Values of the built-in types cross the engine twice, out through the call buffer and in
through the trampoline, and a result crosses it twice on its way back.
`trampoline_round_trip` says that neither of the four ways changes a byte.
-/
import CallBridge.Proofs.Delivery
import CallBridge.Proofs.Firing

namespace CallBridge

open ArgumentWriter

/-! ## Built-in types -/

/-- The types that need no descriptor of the type layer. -/
def TypeToken.builtins : List TypeToken :=
  [.void, .uint8, .sint8, .uint16, .sint16, .uint32, .sint32, .uint64, .sint64, .float, .double,
    .pointer]

theorem TypeToken.size_of_builtin {t : TypeToken} (h : t ∈ builtins) : t.size ≤ pointerSize := by
  revert t
  decide

/-- A built-in value is one word, and one that loses what stands beside a lone float has
nothing there. -/
theorem Passing.words_of_builtin {t : TypeToken} (h : t ∈ TypeToken.builtins) :
    ∃ w, words? t = some [w] ∧ (w = .loneFloat → t.size = 4) := by
  have hwords : words? t = some [.general] ∨ words? t = some [.vector] ∨
      (words? t = some [.loneFloat] ∧ t.size = 4) := by
    revert t
    decide
  rcases hwords with hw | hw | ⟨hw, hsize⟩
  · exact ⟨.general, hw, fun hc => by cases hc⟩
  · exact ⟨.vector, hw, fun hc => by cases hc⟩
  · exact ⟨.loneFloat, hw, fun _ => hsize⟩

theorem Passing.arrivedAll_of_builtin {t : TypeToken} (h : t ∈ TypeToken.builtins)
    {words : List Word} (hwords : words? t = some words) {bs : Bytes} (hbs : bs.length = t.size) :
    arrivedAll words bs = bs := by
  obtain ⟨w, hw, hfloat⟩ := words_of_builtin h
  cases hw.symm.trans hwords
  have hsize : t.size ≤ 8 := TypeToken.size_of_builtin h
  rw [arrivedAll, arrivedAll, List.take_of_length_le (by omega), List.drop_of_length_le (by omega),
    List.append_nil, arrived]
  split
  · rename_i hlone
    have hfour := hfloat hlone
    rw [List.take_of_length_le (by omega), hbs, hfour]
    exact List.append_nil bs
  · rfl

/-- Built-in values arrive as they were sent, in whatever registers. -/
theorem Passing.carryAll_of_builtin {types : List TypeToken} {sent : List Bytes}
    (hbuiltin : ∀ t ∈ types, t ∈ TypeToken.builtins)
    (hsizes : sent.map List.length = types.map TypeToken.size) (general vector : Nat) :
    carryAll general vector (types.zip sent) = sent := by
  induction types generalizing sent general vector with
  | nil => exact (List.map_eq_nil_iff.mp hsizes).symm
  | cons t types ih =>
    cases sent with
    | nil => cases hsizes
    | cons bs sent =>
      obtain ⟨hbs, hsizes⟩ := List.cons.inj hsizes
      have ht := hbuiltin t List.mem_cons_self
      have hrest : ∀ u ∈ types, u ∈ TypeToken.builtins := fun u hu =>
        hbuiltin u (List.mem_cons_of_mem t hu)
      rw [List.zip_cons_cons, carryAll]
      split
      · rw [ih hrest hsizes]
      · rename_i words hwords
        simp only
        split
        · rw [ih hrest hsizes, arrivedAll_of_builtin ht hwords hbs]
        · rw [ih hrest hsizes]

theorem Passing.carry_of_builtin {p : Prepared} {sent : List Bytes}
    (hbuiltin : ∀ t ∈ p.arguments, t ∈ TypeToken.builtins)
    (hsizes : sent.map List.length = p.arguments.map TypeToken.size) : carry p sent = sent := by
  unfold carry
  split
  · exact carryAll_of_builtin hbuiltin hsizes _ _
  · rfl

/-! ## Out and in again -/

theorem ArgumentWriter.length_sentValue (requests : List Request) (index : Nat) {t : TypeToken}
    (h : t.size ≤ pointerSize) : (sentValue requests index t).length = t.size := by
  unfold sentValue
  split
  · simp only [List.length_take, Bytes.length_ofNat]
    omega
  · exact length_storedValue requests index t.size

/-- Built-in values are received by their declared sizes. -/
theorem CallFrame.received_sizes {p : Prepared} {a : Arena} {requests : List Request}
    {w : ArgumentWriter} {base : Nat} (h : Filled p a requests w) (hbase : p.FitsAt base)
    (hbuiltin : ∀ t ∈ p.arguments, t ∈ TypeToken.builtins) :
    ((ofWriter base w).received p.arguments).map List.length = p.arguments.map TypeToken.size := by
  refine List.ext_getElem? fun i => ?_
  rw [List.getElem?_map, List.getElem?_map]
  cases hi : p.arguments[i]? with
  | none =>
    rw [received, List.getElem?_map, List.getElem?_zipIdx, hi]
    rfl
  | some t =>
    have hsize := TypeToken.size_of_builtin (hbuiltin t (List.mem_of_getElem? hi))
    rw [received_getElem? h hbase hi fun _ _ => hsize]
    exact congrArg some (length_sentValue requests i hsize)

/-- Values of the declared sizes are seen as they are. -/
theorem Closure.buffers_of_sizes {σ κ : Type} (c : Closure σ κ) {values : List Bytes}
    (hsizes : values.map List.length = c.spec.arguments.map TypeToken.size) :
    c.buffers values = values.map RawBuffer.mk := by
  rw [buffers]
  generalize c.spec.arguments = types at hsizes
  induction types generalizing values with
  | nil =>
    rw [List.map_eq_nil_iff.mp hsizes]
    rfl
  | cons t types ih =>
    cases values with
    | nil => cases hsizes
    | cons bs values =>
      obtain ⟨hbs, hsizes⟩ := List.cons.inj hsizes
      have htake : bs.take t.size = bs := List.take_of_length_le (Nat.le_of_eq hbs)
      rw [List.zip_cons_cons, List.map_cons, List.map_cons, ih hsizes]
      exact congrArg (RawBuffer.mk · :: values.map RawBuffer.mk) htake

/-! ## Back -/

/-- A reader finds the first bytes of what was stored, as long as it fits into the return
slot or the word that may stand in its place. -/
theorem ReturnSlot.bytes_storeResult {a : Arena} (h : a.Spaced) {result : Bytes}
    (hsize : a.returnSlot.size ≤ result.length)
    (hroom : result.length ≤ max pointerSize a.returnSlot.size) :
    (ReturnSlot.mk (a.storeResult result)).bytes = .ok (result.take a.returnSlot.size) := by
  have hreturn := h.return_le
  have hword := h.word_le
  have harray := h.size_eq
  unfold Slot.past at hreturn
  have hfits : result.length ≤ a.pointerArray - a.returnSlot.offset := by omega
  have hbytes : a.returnSlot.offset + result.length ≤ a.bytes.length := by
    unfold Arena.size at harray
    omega
  have hstored : (a.storeResult result).bytes = a.bytes.splice a.returnSlot.offset result := by
    rw [Arena.storeResult, List.take_of_length_le hfits]
  have hin : a.returnSlot.past ≤ (a.storeResult result).size := by
    rw [Arena.size, hstored, Bytes.length_splice hbytes]
    unfold Slot.past
    omega
  refine (Arena.read_eq_ok hin).trans ?_
  rw [hstored]
  have hslice : (a.bytes.splice a.returnSlot.offset result).slice (a.returnSlot.offset + 0)
      a.returnSlot.size = result.slice 0 a.returnSlot.size :=
    Bytes.slice_splice_within hbytes (by omega)
  exact congrArg Except.ok hslice

/-- What was left in the result buffer comes back from the return slot. -/
theorem Closure.bytes_handed {σ κ : Type} (c : Closure σ κ)
    (hvoid : c.spec.returnType.isVoid = false) {a : Arena} (h : a.Spaced)
    (hsize : a.returnSlot.size = c.spec.returnType.size) {left : Bytes}
    (hleft : left.length = c.spec.returnType.size) :
    (ReturnSlot.mk (a.storeResult (c.handed left))).bytes = .ok left := by
  have hstored := c.length_stored hleft
  have hlower := c.size_le_storedSize
  have hupper : c.storedSize ≤ max pointerSize c.spec.returnType.size := c.storedSize_le
  rw [handed, hvoid, if_neg Bool.false_ne_true,
    ReturnSlot.bytes_storeResult h (by omega) (by omega), hsize, c.take_stored hleft]

/-! ## Round trip -/

variable {σ κ α : Type} [Journal σ]

/-- What a call of a trampoline through the engine comes to: `values` is what the managed
function sees, and `slot left` is what the reader has if `left` is what the function leaves in
its result buffer. -/
structure RoundTrip (c : Closure σ κ) (area : Bytes) (requests : List Request)
    (values : List Bytes) (slot : Bytes → ReturnSlot) : Prop where
  delivered : Delivered requests c.spec.arguments values
  sizes_eq : values.map List.length = c.spec.arguments.map TypeToken.size
  /-- A live key's function is called on these values and nothing else. -/
  called : ∀ {t u v : Thread σ} {leave : Run σ Unit} {f : ManagedFunction σ κ},
    c.enter t = (.ok leave, u) → c.resolve? c.key u = (.ok (some f), v) →
    f.arity = c.spec.arity →
    c.serve (values.map RawBuffer.mk) (c.resultBuffer area) t =
      c.within leave (f.call (values.map RawBuffer.mk) (c.resultBuffer area)) v
  returned : ∀ {t t' : Thread σ} {left : Bytes},
    c.serve (values.map RawBuffer.mk) (c.resultBuffer area) t = (.ok left, t') →
    left.length = c.spec.returnType.size ∧ (slot left).bytes = .ok left

/-- A call of a trampoline through the engine is a firing of it on the values that were
written, read as it was left, on either return path. -/
theorem trampoline_round_trip {p : Prepared} (hp : p.Made)
    (hbuiltin : ∀ t ∈ p.returnType :: p.arguments, t ∈ TypeToken.builtins)
    (hvoid : p.returnType.isVoid = false) {base : Nat} (hbase : p.FitsAt base)
    (factory : ClosureFactory σ κ) (key : FunctionKey) {area : Bytes}
    (harea : max 8 p.returnType.size ≤ area.length) (requests : List Request) :
    ∃ values slot size, RoundTrip (factory.closure p key) area requests values slot ∧
      ∀ (name : String) (lock : RuntimeLock σ) (write : WriteArguments σ) (read : ReadReturn σ α)
        (t t' : Thread σ), write.Performs p requests t t' →
        invoke name (some ((factory.closure p key).entryOver area)) p lock base write read t =
          transact name p lock size
            ((factory.closure p key).serve (values.map RawBuffer.mk)
              ((factory.closure p key).resultBuffer area))
            (fun left => read (slot left)) t' := by
  obtain ⟨a, ha, hfilled⟩ := hp.filled hbase requests
  have harguments : ∀ t ∈ p.arguments, t ∈ TypeToken.builtins := fun t ht =>
    hbuiltin t (List.mem_cons_of_mem _ ht)
  let frame := CallFrame.ofWriter base ((ArgumentWriter.ofArena a).perform requests)
  let c := factory.closure p key
  have hsizes : (frame.received p.arguments).map List.length = p.arguments.map TypeToken.size :=
    CallFrame.received_sizes hfilled hbase harguments
  have hbuffers := c.buffers_of_sizes hsizes
  have hdelivered : Delivered requests p.arguments (frame.received p.arguments) :=
    CallFrame.delivered hfilled hbase
  refine ⟨frame.received p.arguments, fun left => ⟨frame.arena.storeResult (c.handed left)⟩, a.size,
    ⟨hdelivered, hsizes, ?_, ?_⟩, ?_⟩
  · intro t u v leave f henter hlive harity
    refine Closure.serve_of_live henter hlive ?_ _
    rw [harity, List.length_map, hdelivered.length_eq]
    rfl
  · intro t t' left hserve
    have hlength : left.length = p.returnType.size :=
      (Closure.serve_length hserve).trans
        (c.size_resultBuffer (Nat.le_trans (Nat.le_max_right _ _) harea))
    exact ⟨hlength, c.bytes_handed hvoid (CallFrame.spaced_ofWriter hfilled)
      (congrArg Slot.size hfilled.returnSlot_eq) hlength⟩
  · intro name lock write read t t' hwrite
    have hentry : c.entryOver area (frame.received p.arguments) =
        c.handed <$>
          c.serve ((frame.received p.arguments).map RawBuffer.mk) (c.resultBuffer area) := by
      show c.nativeOver area (Passing.carry p _) = _
      rw [Passing.carry_of_builtin harguments hsizes, c.nativeOver_eq, hbuffers]
    rw [invoke_of_performs ha hwrite]
    show transact name p lock a.size (c.entryOver area _) _ t' = _
    rw [hentry, transact_map]

/-- Answer with the arguments, one after the other, if there is room. -/
def parrot (arguments : List RawBuffer) (result : RawBuffer) : Run (List LogRecord) RawBuffer :=
  match result.write (arguments.map RawBuffer.bytes).flatten with
  | .ok made => return made
  | .error _ => return result

theorem parrot_keepsSize (arguments : List RawBuffer) : RawBuffer.KeepsSize (parrot arguments) := by
  intro result made t t' h
  unfold parrot at h
  cases hwrite : result.write (arguments.map RawBuffer.bytes).flatten with
  | ok written =>
    rw [hwrite] at h
    cases h
    exact RawBuffer.size_write hwrite
  | error e =>
    rw [hwrite] at h
    cases h
    rfl

/-- The trampolines of a runtime whose only function is `parrot`, under the key 1. -/
def parrotFactory : ClosureFactory (List LogRecord) (List RawBuffer) where
  lock := .none
  resolve? := fun key =>
    return if key = 1 then some (.collecting 1 parrot parrot_keepsSize) else none
  onExpired := ExpiryPolicy.ignore.hook

/-- A negative byte goes out, in, back as a whole word, and is read as that byte. -/
theorem trampoline_round_trip_negative :
    ∃ p : Prepared, ((Builder.empty ⟨true, true⟩).offerAll [.sint8]).2.prepare .default .sint8 =
        .ok (.ok p) ∧
      (invoke "parrot" (some ((parrotFactory.closure p 1).entryOver (Bytes.zeros 8))) p .none 4096
        (fun w => return .ok (w.perform [.write 0 [200]])) (fun r => return r.bytes) ⟨5, []⟩).1 =
        .ok (.ok [200]) := by
  let p : Prepared := ⟨[.sint8], .sint8, 16, 1, 1, ⟨true, true⟩, .default⟩
  have hp : ((Builder.empty ⟨true, true⟩).offerAll [.sint8]).2.prepare .default .sint8 =
      .ok (.ok p) := rfl
  have hbase : p.FitsAt 4096 := by
    unfold Prepared.FitsAt
    decide
  obtain ⟨values, slot, size, htrip, hrun⟩ :=
    @trampoline_round_trip _ _ Bytes _ p ⟨_, _, _, _, hp⟩ (by decide) rfl 4096 hbase parrotFactory 1
      (Bytes.zeros 8) (by decide) [.write 0 [200]]
  have hvalues : values = [[200]] := by
    have hlength : values.length = 1 := htrip.delivered.length_eq
    refine List.ext_getElem? fun i => ?_
    match i with
    | 0 => exact (htrip.delivered.stored (i := 0) (t := .sint8) rfl rfl).1
    | i + 1 => rw [List.getElem?_eq_none (by omega)]; rfl
  subst hvalues
  refine ⟨p, hp, ?_⟩
  rw [hrun _ _ _ _ _ _ fun _ _ => rfl]
  let firing := (parrotFactory.closure p 1).serve [⟨[200]⟩] ⟨[0]⟩
  have hserve : firing ⟨0, []⟩ = (.ok [200], (firing ⟨0, []⟩).2) := rfl
  rw [← (htrip.returned hserve).2]
  rfl

end CallBridge
