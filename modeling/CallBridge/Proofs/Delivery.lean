/-
What a callee receives.

`invoke_delivers` follows what the writer wrote through the call buffer, the pointer array
and the cells of external addresses to the argument values of the callee.  `invoke_eq_ok_iff`
adds that such a call returns by way of the callee, to which control goes once.
-/
import CallBridge.Proofs.CallOrder
import CallBridge.Proofs.Writing

namespace CallBridge

namespace ArgumentWriter

theorem length_storedValue (requests : List Request) (index size : Nat) :
    (storedValue requests index size).length = size := by
  have hkeeps : ∀ held : Bytes,
      (requests.foldl (fun held r => r.apply index held) held).length = held.length := by
    induction requests with
    | nil => exact fun _ => rfl
    | cons r rest ih => exact fun held => (ih _).trans (r.length_apply index held)
  exact (hkeeps _).trans (Bytes.length_zeros size)

/-- What an argument of type `t` is after the requests: the first bytes of the last address
attached to it, or else what stands in its slot. -/
def sentValue (requests : List Request) (index : Nat) (t : TypeToken) : Bytes :=
  match lastAttached? requests index with
  | some e => (Bytes.ofNat pointerSize e.address).take t.size
  | none => storedValue requests index t.size

namespace Filled

variable {p : Prepared} {a : Arena} {requests : List Request} {w : ArgumentWriter}

theorem arity_eq (h : Filled p a requests w) : w.arena.arity = p.arity := by
  have hlength := congrArg List.length h.shapes_eq
  rw [List.length_map, List.length_map] at hlength
  rw [Arena.arity, h.arguments_eq, hlength]
  rfl

theorem arena_size_eq (h : Filled p a requests w) :
    w.arena.size = p.bytes + p.arity * pointerSize := by
  rw [h.spaced.size_eq, h.pointerArray_eq, h.arity_eq]

theorem slot (h : Filled p a requests w) {i : Nat} {t : TypeToken} (hi : p.arguments[i]? = some t) :
    ∃ slot, w.arena.arguments[i]? = some slot ∧ slot.size = t.size := by
  have hshape := congrArg (fun l => l[i]?) h.shapes_eq
  simp only [List.getElem?_map, hi] at hshape
  rw [h.arguments_eq]
  cases hslot : a.arguments[i]? with
  | none =>
    rw [hslot] at hshape
    cases hshape
  | some slot =>
    rw [hslot] at hshape
    exact ⟨slot, rfl, congrArg Prod.fst (Option.some.inj hshape)⟩

theorem external_getElem? (h : Filled p a requests w) {i : Nat} (hi : i < p.arity) :
    w.external[i]? = some (lastAttached? requests i) := by
  rw [h.external_eq, List.getElem?_map, List.getElem?_range hi]
  rfl

end Filled

end ArgumentWriter

/-- The memory of a call, buffer and cells, lies in the address space. -/
def Prepared.FitsAt (p : Prepared) (base : Nat) : Prop :=
  base + p.bytes + 2 * (p.arity * pointerSize) ≤ wordLimit

open ArgumentWriter

theorem Arena.length_pointers (a : Arena) (base : Nat) (redirects : List (Option Nat)) :
    (a.pointers base redirects).length = a.arity * pointerSize := by
  refine (Bytes.length_flatten fun _ => Bytes.length_of_mem_ofNat).trans ?_
  rw [List.length_map, List.length_zipIdx]
  rfl

/-- Entry `i` of the pointer array as it is stored. -/
theorem Arena.slice_pointers {a : Arena} {i : Nat} {slot : Slot} (hi : a.arguments[i]? = some slot)
    (base : Nat) (redirects : List (Option Nat)) :
    (a.pointers base redirects).slice (i * pointerSize) pointerSize =
      Bytes.ofNat pointerSize (argumentAddress base slot (redirects[i]?.join)) := by
  refine Bytes.slice_flatten (fun _ => Bytes.length_of_mem_ofNat) ?_
  rw [List.getElem?_map, List.getElem?_zipIdx, hi, Nat.zero_add]
  rfl

namespace CallFrame

variable {p : Prepared} {a : Arena} {requests : List Request} {w : ArgumentWriter} {base : Nat}

/-- Where argument `i` is found: in its cell if something is attached to it, or else in its
slot. -/
theorem pointer_ofWriter (h : Filled p a requests w) (hbase : p.FitsAt base) {i : Nat} {slot : Slot}
    (hslot : w.arena.arguments[i]? = some slot) :
    (ofWriter base w).pointer i =
      ((lastAttached? requests i).map fun _ => base + w.arena.size + i * pointerSize).getD
        (base + slot.offset) := by
  obtain ⟨hlt, -⟩ := List.getElem?_eq_some_iff.mp hslot
  have hi : i < p.arity := by
    rw [← h.arity_eq]
    exact hlt
  have hsize := h.arena_size_eq
  have hpointer : 0 < pointerSize := by decide
  have hpast := h.spaced.past_le_size (List.mem_of_getElem? hslot)
  have hlast : (i + 1) * pointerSize ≤ p.arity * pointerSize := Nat.mul_le_mul_right _ hi
  rw [Nat.succ_mul] at hlast
  unfold Prepared.FitsAt at hbase
  rw [pointer, ofWriter]
  simp only [Arena.bind]
  rw [Bytes.slice_splice_within, Arena.slice_pointers hslot, List.getElem?_map,
    List.getElem?_zipIdx, h.external_getElem? hi, Nat.zero_add, Bytes.toNat_ofNat]
  · refine (Nat.mod_eq_of_lt ?_).trans ?_
    · show _ < wordLimit
      cases lastAttached? requests i with
      | none =>
        show base + slot.offset < wordLimit
        unfold Slot.past at hpast
        omega
      | some e =>
        show base + w.arena.size + i * pointerSize < wordLimit
        omega
    · cases lastAttached? requests i <;> rfl
  · rw [Arena.length_pointers, h.arity_eq, h.pointerArray_eq]
    exact Nat.le_of_eq h.arena_size_eq.symm
  · rw [Arena.length_pointers, h.arity_eq]
    exact hlast

theorem size_ofWriter (h : Filled p a requests w) :
    (ofWriter base w).arena.size = w.arena.size := by
  refine Bytes.length_splice ?_
  rw [Arena.length_pointers]
  exact Nat.le_of_eq h.spaced.size_eq.symm

theorem cellsBase_ofWriter (h : Filled p a requests w) :
    (ofWriter base w).cellsBase = base + w.arena.size := congrArg (base + ·) (size_ofWriter h)

theorem spaced_ofWriter (h : Filled p a requests w) : (ofWriter base w).arena.Spaced :=
  h.spaced.of_bytes (size_ofWriter h)

/-- An argument to which nothing is attached is read from its slot, which the pointer array
does not touch. -/
theorem load_of_stored (h : Filled p a requests w) (hbase : p.FitsAt base) {i : Nat} {slot : Slot}
    (hslot : w.arena.arguments[i]? = some slot) (hnone : lastAttached? requests i = none) :
    (ofWriter base w).load ((ofWriter base w).pointer i) slot.size =
      storedValue requests i slot.size := by
  have hpast := h.spaced.past_le (List.mem_of_getElem? hslot)
  have hword := h.spaced.word_le
  have hsize := h.spaced.size_eq
  have hpointer : 0 < pointerSize := by decide
  rw [pointer_ofWriter h hbase hslot, hnone]
  show (ofWriter base w).load (base + slot.offset) slot.size = _
  unfold Slot.past at hpast
  rw [load, cellsBase_ofWriter h, if_pos (by omega)]
  show ((ofWriter base w).arena.bytes).slice (base + slot.offset - base) slot.size = _
  rw [Nat.add_sub_cancel_left]
  refine (Bytes.slice_splice_of_disjoint ?_ ?_).trans (h.stored_eq (h.arguments_eq ▸ hslot))
  · rw [Arena.length_pointers]
    exact Nat.le_of_eq h.spaced.size_eq.symm
  · exact Or.inl (by omega)

/-- An argument to which an address is attached is read from its cell. -/
theorem load_of_attached (h : Filled p a requests w) (hbase : p.FitsAt base) {i : Nat} {slot : Slot}
    (hslot : w.arena.arguments[i]? = some slot) {e : ExternalArgument}
    (hsome : lastAttached? requests i = some e) {count : Nat} (hcount : count ≤ pointerSize) :
    (ofWriter base w).load ((ofWriter base w).pointer i) count =
      (Bytes.ofNat pointerSize e.address).take count := by
  have hi : i < p.arity := by
    rw [← h.arity_eq]
    exact (List.getElem?_eq_some_iff.mp hslot).1
  rw [pointer_ofWriter h hbase hslot, hsome]
  show (ofWriter base w).load (base + w.arena.size + i * pointerSize) count = _
  rw [load, cellsBase_ofWriter h, if_neg (by omega), Nat.add_sub_cancel_left,
    ← Bytes.take_slice hcount]
  congr 1
  refine Bytes.slice_flatten (fun _ => Bytes.length_of_mem_ofNat) ?_
  rw [List.getElem?_map, h.external_getElem? hi, hsome]
  rfl

theorem received_getElem? (h : Filled p a requests w) (hbase : p.FitsAt base) {i : Nat}
    {t : TypeToken} (hi : p.arguments[i]? = some t)
    (hwidth : ∀ e, lastAttached? requests i = some e → t.size ≤ pointerSize) :
    ((ofWriter base w).received p.arguments)[i]? = some (sentValue requests i t) := by
  obtain ⟨slot, hslot, hsize⟩ := h.slot hi
  rw [received, List.getElem?_map, List.getElem?_zipIdx, hi, Nat.zero_add]
  show some ((ofWriter base w).load _ t.size) = _
  rw [sentValue]
  cases hlast : lastAttached? requests i with
  | none => rw [← hsize, load_of_stored h hbase hslot hlast]
  | some e => rw [load_of_attached h hbase hslot hlast (hwidth e hlast)]

end CallFrame

/-! ## Calls -/

/-- The argument values that a callee receives after some requests to the writer. -/
structure Delivered (requests : List Request) (types : List TypeToken) (values : List Bytes) :
    Prop where
  length_eq : values.length = types.length
  /-- A pointer argument is the last address attached to it, whatever else was asked for. -/
  attached : ∀ {i t e}, types[i]? = some t → t.size = pointerSize →
    lastAttached? requests i = some e → values[i]? = some (Bytes.ofNat pointerSize e.address)
  /-- Without one, an argument is what its own requests made of a slot of zeros. -/
  stored : ∀ {i t}, types[i]? = some t → lastAttached? requests i = none →
    values[i]? = some (storedValue requests i t.size) ∧
      (storedValue requests i t.size).length = t.size

theorem CallFrame.delivered {p : Prepared} {a : Arena} {requests : List Request}
    {w : ArgumentWriter} {base : Nat} (h : Filled p a requests w) (hbase : p.FitsAt base) :
    Delivered requests p.arguments ((ofWriter base w).received p.arguments) where
  length_eq := by simp [received]
  attached := fun {i t e} hi hsize hlast => by
    rw [received_getElem? h hbase hi fun _ _ => Nat.le_of_eq hsize, sentValue, hlast, hsize]
    exact congrArg some (List.take_of_length_le (Nat.le_of_eq (Bytes.length_ofNat _ _)))
  stored := fun {i t} hi hlast => by
    have hwidth : ∀ e, lastAttached? requests i = some e → t.size ≤ pointerSize := by
      intro e he
      cases hlast.symm.trans he
    rw [received_getElem? h hbase hi hwidth, sentValue, hlast]
    exact ⟨rfl, length_storedValue requests i t.size⟩

/-- Started at `t`, a writer makes these requests, passes over those that fail and ends at
`t'`. -/
def WriteArguments.Performs {σ : Type} (write : WriteArguments σ) (p : Prepared)
    (requests : List Request) (t t' : Thread σ) : Prop :=
  ∀ a, Arena.forSpec p = .ok a →
    write (.ofArena a) t = (.ok (.ok ((ArgumentWriter.ofArena a).perform requests)), t')

theorem Prepared.FitsAt.room {p : Prepared} {base : Nat} (h : p.FitsAt base)
    (hlt : p.bytes < wordLimit) : p.bytes + p.arity * pointerSize < wordLimit := by
  unfold FitsAt at h
  omega

/-- A buffer can be laid out for the specification, and the requests fill it. -/
theorem Prepared.Made.filled {p : Prepared} (hp : p.Made) {base : Nat} (hbase : p.FitsAt base)
    (requests : List Request) :
    ∃ a, Arena.forSpec p = .ok a ∧
      Filled p a requests ((ArgumentWriter.ofArena a).perform requests) := by
  obtain ⟨slots, hplaced⟩ := hp.placed
  have ha := hplaced.forSpec (hbase.room hplaced.bytes_lt)
  exact ⟨_, ha, ArgumentWriter.filled hplaced ha requests⟩

section

variable {σ α : Type} [Journal σ]

/-- A call, once its arguments are written. -/
theorem invoke_of_performs {p : Prepared} {a : Arena} (ha : Arena.forSpec p = .ok a)
    {write : WriteArguments σ} {requests : List Request} {t t' : Thread σ}
    (hwrite : write.Performs p requests t t') (name : String) (callee : NativeFunction σ)
    (lock : RuntimeLock σ) (base : Nat) (read : ReadReturn σ α) :
    invoke name (some callee) p lock base write read t =
      let frame := CallFrame.ofWriter base ((ArgumentWriter.ofArena a).perform requests)
      transact name p lock a.size (callee (frame.received p.arguments))
        (fun result => read ⟨frame.arena.storeResult result⟩) t' := by
  rw [invoke, ha]
  exact Run.bind_of_ok (hwrite a ha)

/-- Whatever a writer does, in whatever state the call starts and whoever is called, the
callee is run on the values that were asked for last. -/
theorem invoke_delivers {p : Prepared} (hp : p.Made) {base : Nat} (hbase : p.FitsAt base)
    (requests : List Request) :
    ∃ values left size, Delivered requests p.arguments values ∧
      ∀ (name : String) (callee : NativeFunction σ) (lock : RuntimeLock σ)
        (write : WriteArguments σ) (read : ReadReturn σ α) (t t' : Thread σ),
        write.Performs p requests t t' →
          invoke name (some callee) p lock base write read t =
            transact name p lock size (callee values)
              (fun result => read ⟨Arena.storeResult left result⟩) t' := by
  obtain ⟨a, ha, hfilled⟩ := hp.filled hbase requests
  let frame := CallFrame.ofWriter base ((ArgumentWriter.ofArena a).perform requests)
  refine ⟨frame.received p.arguments, frame.arena, a.size, CallFrame.delivered hfilled hbase, ?_⟩
  intro name callee lock write read t t' hwrite
  exact invoke_of_performs ha hwrite name callee lock base read

/-- Such a call returns just if control goes to the callee with these values, once, and comes
back; then the code that was left is reported, or the result is read. -/
theorem invoke_eq_ok_iff {p : Prepared} (hp : p.Made) {base : Nat} (hbase : p.FitsAt base)
    (requests : List Request) :
    ∃ values left, ∃ size : Nat, Delivered requests p.arguments values ∧
      ∀ (name : String) (callee : NativeFunction σ) (lock : RuntimeLock σ)
        (write : WriteArguments σ) (read : ReadReturn σ α) (t u : Thread σ),
        write.Performs p requests t u → ∀ (r : Except Error α) (t' : Thread σ),
          (invoke name (some callee) p lock base write read t = (.ok r, t') ↔
            ∃ result code v, Transfer p lock (callee values)
                (u.logged .trace "dispatching foreign call" [("function", .text name),
                  ("arity", .number p.arity), ("bytes", .number size)]) result code v ∧
              (code ≠ 0 ∧ r = .error (.system name code) ∧
                  t' = v.logged .debug "foreign call reported errno"
                    [("function", .text name), ("code", .number code)] ∨
                code = 0 ∧ read ⟨Arena.storeResult left result⟩ v = (.ok r, t'))) := by
  obtain ⟨a, ha, hfilled⟩ := hp.filled hbase requests
  let frame := CallFrame.ofWriter base ((ArgumentWriter.ofArena a).perform requests)
  refine ⟨frame.received p.arguments, frame.arena, a.size, CallFrame.delivered hfilled hbase, ?_⟩
  intro name callee lock write read t u hwrite r t'
  rw [invoke_of_performs ha hwrite name callee lock base read]
  exact transact_eq_ok_iff

/-- A write too long and an address past the end of its text are passed over, and a write
beside an attached address is not seen. -/
theorem invoke_delivers_pointer_and_int :
    ∃ p size left, ((Builder.empty ⟨false, true⟩).offerAll [.pointer, .sint32]).2.prepare
        .default .sint32 = .ok (.ok p) ∧
      ∀ callee : NativeFunction (List LogRecord),
        invoke "f" (some callee) p .none 4096
          (fun w => return .ok (w.perform
            [.external 0 ⟨4352, [65, 66]⟩ 1, .write 1 [1, 2, 3, 4, 5], .write 1 [6, 7],
              .external 0 ⟨4352, [65, 66]⟩ 3, .write 0 [8], .write 1 [9]]))
          (fun r => return r.bytes) ⟨0, []⟩ =
        transact "f" p .none size (callee [[1, 17, 0, 0, 0, 0, 0, 0], [9, 7, 0, 0]])
          (fun result => return (ReturnSlot.mk (Arena.storeResult left result)).bytes) ⟨0, []⟩ := by
  let p : Prepared := ⟨[.pointer, .sint32], .sint32, 24, 12, 8, ⟨false, true⟩, .default⟩
  have hp : ((Builder.empty ⟨false, true⟩).offerAll [.pointer, .sint32]).2.prepare
      .default .sint32 = .ok (.ok p) := rfl
  have hbase : p.FitsAt 4096 := by
    unfold Prepared.FitsAt
    decide
  obtain ⟨values, left, size, hdelivered, hrun⟩ :=
    @invoke_delivers (List LogRecord) Bytes _ p ⟨_, _, _, _, hp⟩ 4096 hbase
      [.external 0 ⟨4352, [65, 66]⟩ 1, .write 1 [1, 2, 3, 4, 5], .write 1 [6, 7],
        .external 0 ⟨4352, [65, 66]⟩ 3, .write 0 [8], .write 1 [9]]
  have hvalues : values = [[1, 17, 0, 0, 0, 0, 0, 0], [9, 7, 0, 0]] := by
    have hlength : values.length = 2 := hdelivered.length_eq
    refine List.ext_getElem? fun i => ?_
    match i with
    | 0 => exact hdelivered.attached (t := .pointer) (e := ⟨⟨4352, [65, 66]⟩, 1⟩) rfl rfl rfl
    | 1 => exact (hdelivered.stored (i := 1) (t := .sint32) rfl rfl).1
    | i + 2 => rw [List.getElem?_eq_none (by omega)]; rfl
  subst hvalues
  exact ⟨p, size, left, hp, fun callee => hrun _ _ _ _ _ _ _ fun _ _ => rfl⟩

end

end CallBridge
