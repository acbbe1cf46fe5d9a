/-
Which bytes of a call buffer change.

A request to a writer writes to the start of one slot, or it writes nothing.  So whatever is
asked for, the bytes outside all slots, which are the padding, the return slot and the spare
word, stay zero, and filling the pointer array changes the pointer array alone.
`writes_stay_inside` says so byte by byte.
-/
import CallBridge.Proofs.Delivery

namespace CallBridge

namespace Bytes

/-- A splice, byte by byte. -/
theorem getElem?_splice {base data : Bytes} {start : Nat}
    (h : start + data.length ≤ base.length) (n : Nat) :
    (splice base start data)[n]? =
      if start ≤ n ∧ n < start + data.length then data[n - start]? else base[n]? := by
  have hstart : (base.take start).length = start := by
    rw [List.length_take]
    omega
  rw [splice, overlay]
  by_cases hbefore : n < start
  · rw [if_neg (by omega), List.getElem?_append_left (by omega), List.getElem?_take_of_lt hbefore]
  · rw [List.getElem?_append_right (by omega), hstart]
    by_cases hwithin : n < start + data.length
    · rw [if_pos (by omega), List.getElem?_append_left (by omega)]
    · have hn : start + (data.length + (n - start - data.length)) = n := by omega
      rw [if_neg (by omega), List.getElem?_append_right (by omega), List.getElem?_drop,
        List.getElem?_drop, hn]

end Bytes

namespace Arena

variable {a : Arena} {n : Nat}

/-- Byte `n` lies in no argument slot. -/
def Apart (a : Arena) (n : Nat) : Prop := ∀ s ∈ a.arguments, n < s.offset ∨ s.past ≤ n

/-- Whatever lies past the arguments is apart from them. -/
theorem Spaced.apart (h : a.Spaced) (hn : a.returnSlot.offset ≤ n) : a.Apart n :=
  fun _ hs => Or.inr (Nat.le_trans (h.past_le hs) hn)

theorem bind_length (h : a.Spaced) (base : Nat) (redirects : List (Option Nat)) :
    a.pointerArray + (a.pointers base redirects).length = a.size := by
  rw [a.length_pointers]
  exact h.size_eq.symm

theorem size_bind (h : a.Spaced) (base : Nat) (redirects : List (Option Nat)) :
    (a.bind base redirects).1.size = a.size :=
  Bytes.length_splice (Nat.le_of_eq (bind_length h base redirects))

theorem getElem?_bind (h : a.Spaced) (base : Nat) (redirects : List (Option Nat))
    (hn : n < a.pointerArray) : (a.bind base redirects).1.bytes[n]? = a.bytes[n]? := by
  rw [bind, Bytes.getElem?_splice (Nat.le_of_eq (bind_length h base redirects)), if_neg (by omega)]

theorem slice_bind (h : a.Spaced) (base : Nat) (redirects : List (Option Nat)) {i : Nat} {slot : Slot}
    (hslot : a.arguments[i]? = some slot) :
    (a.bind base redirects).1.bytes.slice (a.pointerArray + i * pointerSize) pointerSize =
      Bytes.ofNat pointerSize (argumentAddress base slot (redirects[i]?.join)) := by
  have hi : i < a.arguments.length := (List.getElem?_eq_some_iff.mp hslot).1
  have hlast : (i + 1) * pointerSize ≤ a.arity * pointerSize := Nat.mul_le_mul_right _ hi
  rw [Nat.succ_mul] at hlast
  rw [bind, Bytes.slice_splice_within (Nat.le_of_eq (bind_length h base redirects)),
    slice_pointers hslot]
  rw [length_pointers]
  exact hlast

end Arena

namespace ArgumentWriter

/-- Why a request cannot be served: there is no such argument, the data is longer than its slot,
or the offset is past the end of the text. -/
def Request.Unfit (a : Arena) : Request → Prop
  | .write i data => a.arity ≤ i ∨ ∃ slot, a.arguments[i]? = some slot ∧ slot.size < data.length
  | .edit i _ _ => a.arity ≤ i
  | .external i text offset => a.arity ≤ i ∨ text.text.length < offset

/-- The errors of a writer. -/
inductive Refusal : Error → Prop
  | index (index arity : Nat) : Refusal (.argumentIndex index arity)
  | bounds (needed available : Nat) : Refusal (.outOfBounds needed available)

/-- A writer over a buffer whose parts lie apart, with an entry for each argument. -/
structure Sound (w : ArgumentWriter) : Prop where
  spaced : w.arena.Spaced
  entries : w.external.length = w.arity

variable {w w' : ArgumentWriter}

theorem run_write (h : w.Sound) (i : Nat) (data : Bytes) :
    (∃ e, (Request.write i data).run w = .error e ∧ Refusal e ∧
      (Request.write i data).Unfit w.arena) ∨
    ∃ slot, w.arena.arguments[i]? = some slot ∧ data.length ≤ slot.size ∧
      (Request.write i data).run w = .ok (w.splice slot.offset data) := by
  cases hslot : w.arena.arguments[i]? with
  | none =>
    have hindex := List.getElem?_eq_none_iff.mp hslot
    exact Or.inl ⟨_, write_of_none hslot, .index .., Or.inl hindex⟩
  | some slot =>
    have hin := h.spaced.past_le_size (List.mem_of_getElem? hslot)
    by_cases hfit : data.length ≤ slot.size
    · exact Or.inr ⟨slot, rfl, hfit, write_eq_ok hslot hin hfit⟩
    · have hlong : slot.size < data.length := by omega
      exact Or.inl ⟨_, write_of_long hslot hin hlong, .bounds .., Or.inr ⟨slot, hslot, hlong⟩⟩

theorem run_edit (h : w.Sound) (i : Nat) (change : Bytes → Bytes)
    (keeps : ∀ held, (change held).length = held.length) :
    (∃ e, (Request.edit i change keeps).run w = .error e ∧ Refusal e ∧
      (Request.edit i change keeps).Unfit w.arena) ∨
    ∃ slot, w.arena.arguments[i]? = some slot ∧
      (change (w.arena.bytes.slice slot.offset slot.size)).length = slot.size ∧
      (Request.edit i change keeps).run w =
        .ok (w.splice slot.offset (change (w.arena.bytes.slice slot.offset slot.size))) := by
  cases hslot : w.arena.arguments[i]? with
  | none =>
    exact Or.inl ⟨_, modify_of_none hslot change, .index .., List.getElem?_eq_none_iff.mp hslot⟩
  | some slot =>
    have hin := h.spaced.past_le_size (List.mem_of_getElem? hslot)
    have hlength : (change (w.arena.bytes.slice slot.offset slot.size)).length = slot.size :=
      (keeps _).trans (Bytes.length_slice _ hin)
    have hrun := modify_eq_ok hslot hin change
    rw [List.take_of_length_le (Nat.le_of_eq hlength)] at hrun
    exact Or.inr ⟨slot, rfl, hlength, hrun⟩

theorem run_external (h : w.Sound) (i : Nat) (text : ExternalText) (offset : Nat) :
    (∃ e, (Request.external i text offset).run w = .error e ∧ Refusal e ∧
      (Request.external i text offset).Unfit w.arena) ∨
    (i < w.arity ∧ offset ≤ text.text.length ∧
      (Request.external i text offset).run w =
        .ok { w with external := w.external.set i (some ⟨text, offset⟩) }) := by
  by_cases hoffset : offset > text.text.length
  · exact Or.inl ⟨_, if_pos hoffset, .bounds .., Or.inr hoffset⟩
  · by_cases hi : i < w.external.length
    · refine Or.inr ⟨h.entries ▸ hi, Nat.le_of_not_lt hoffset, ?_⟩
      exact (if_neg hoffset).trans (if_pos hi)
    · have hrun : w.passExternal i text offset = .error (.argumentIndex i w.arity) :=
        (if_neg hoffset).trans (if_neg hi)
      have harity : w.arity ≤ i := h.entries ▸ Nat.le_of_not_lt hi
      exact Or.inl ⟨_, hrun, .index .., Or.inl harity⟩

/-- A request fails exactly if it is unfit, with an error of the writer. -/
theorem run_eq_error (h : w.Sound) (r : Request) :
    ((∃ e, r.run w = .error e) ↔ r.Unfit w.arena) ∧ ∀ e, r.run w = .error e → Refusal e := by
  -- A request that was served is not unfit, so that one case is enough for both halves.
  have hserved : ∀ w', r.run w = .ok w' → ¬ r.Unfit w.arena →
      ((∃ e, r.run w = .error e) ↔ r.Unfit w.arena) ∧ ∀ e, r.run w = .error e → Refusal e := by
    intro w' hrun hfit
    refine ⟨⟨?_, fun hunfit => absurd hunfit hfit⟩, ?_⟩
    · rintro ⟨e, he⟩
      cases hrun.symm.trans he
    · intro e he
      cases hrun.symm.trans he
  have hrefused : ∀ e, r.run w = .error e → Refusal e → r.Unfit w.arena →
      ((∃ e, r.run w = .error e) ↔ r.Unfit w.arena) ∧ ∀ e, r.run w = .error e → Refusal e := by
    intro e hrun hrefusal hunfit
    refine ⟨⟨fun _ => hunfit, fun _ => ⟨e, hrun⟩⟩, fun e' he' => ?_⟩
    cases hrun.symm.trans he'
    exact hrefusal
  cases r with
  | write i data =>
    rcases run_write h i data with ⟨e, hrun, hrefusal, hunfit⟩ | ⟨slot, hslot, hfit, hrun⟩
    · exact hrefused e hrun hrefusal hunfit
    · have hi := (List.getElem?_eq_some_iff.mp hslot).1
      refine hserved _ hrun ?_
      rintro (harity | ⟨slot', hslot', hlong⟩)
      · exact absurd hi (Nat.not_lt.mpr harity)
      · cases hslot.symm.trans hslot'
        omega
  | edit i change keeps =>
    rcases run_edit h i change keeps with ⟨e, hrun, hrefusal, hunfit⟩ | ⟨slot, hslot, -, hrun⟩
    · exact hrefused e hrun hrefusal hunfit
    · have hi := (List.getElem?_eq_some_iff.mp hslot).1
      exact hserved _ hrun (Nat.not_le.mpr hi)
  | external i text offset =>
    rcases run_external h i text offset with ⟨e, hrun, hrefusal, hunfit⟩ | ⟨hi, hoffset, hrun⟩
    · exact hrefused e hrun hrefusal hunfit
    · refine hserved _ hrun ?_
      rintro (harity | hpast)
      · exact absurd hi (Nat.not_lt.mpr harity)
      · omega

/-! ## What stays -/

/-- What any requests leave as it was. -/
structure Keeps (w w' : ArgumentWriter) : Prop where
  sound : w'.Sound
  arguments_eq : w'.arena.arguments = w.arena.arguments
  returnSlot_eq : w'.arena.returnSlot = w.arena.returnSlot
  pointerArray_eq : w'.arena.pointerArray = w.arena.pointerArray
  size_eq : w'.arena.size = w.arena.size
  apart_eq : ∀ n, w.arena.Apart n → w'.arena.bytes[n]? = w.arena.bytes[n]?

theorem Keeps.refl (h : w.Sound) : w.Keeps w := ⟨h, rfl, rfl, rfl, rfl, fun _ _ => rfl⟩

theorem Keeps.trans {w'' : ArgumentWriter} (h : w.Keeps w') (h' : w'.Keeps w'') : w.Keeps w'' where
  sound := h'.sound
  arguments_eq := h'.arguments_eq.trans h.arguments_eq
  returnSlot_eq := h'.returnSlot_eq.trans h.returnSlot_eq
  pointerArray_eq := h'.pointerArray_eq.trans h.pointerArray_eq
  size_eq := h'.size_eq.trans h.size_eq
  apart_eq := fun n hn => by
    have hn' : w'.arena.Apart n := by
      unfold Arena.Apart
      rw [h.arguments_eq]
      exact hn
    rw [h'.apart_eq n hn', h.apart_eq n hn]

theorem getElem?_bytes_splice {slot : Slot} {data : Bytes} (h : w.Sound)
    (hslot : slot ∈ w.arena.arguments) (hfit : data.length ≤ slot.size) (n : Nat) :
    (w.splice slot.offset data).arena.bytes[n]? =
      if slot.offset ≤ n ∧ n < slot.offset + data.length then data[n - slot.offset]?
      else w.arena.bytes[n]? := by
  have hin := h.spaced.past_le_size hslot
  unfold Slot.past Arena.size at hin
  exact Bytes.getElem?_splice (by omega) n

theorem keeps_splice {slot : Slot} {data : Bytes} (h : w.Sound) (hslot : slot ∈ w.arena.arguments)
    (hfit : data.length ≤ slot.size) : w.Keeps (w.splice slot.offset data) := by
  have hin := h.spaced.past_le_size hslot
  have hlength : (w.arena.bytes.splice slot.offset data).length = w.arena.size := by
    unfold Slot.past Arena.size at hin
    exact Bytes.length_splice (by omega)
  refine ⟨⟨h.spaced.of_bytes hlength, h.entries⟩, rfl, rfl, rfl, hlength, fun n hn => ?_⟩
  have hout := hn slot hslot
  unfold Slot.past at hout
  rw [getElem?_bytes_splice h hslot hfit, if_neg (by omega)]

theorem keeps_attempt (h : w.Sound) (r : Request) : w.Keeps (w.attempt r) := by
  cases hrun : r.run w with
  | error e =>
    rw [attempt_of_error r hrun]
    exact Keeps.refl h
  | ok w' =>
    rw [attempt_of_ok r hrun]
    cases r with
    | write i data =>
      rcases run_write h i data with ⟨e, he, -⟩ | ⟨slot, hslot, hfit, hok⟩
      · cases hrun.symm.trans he
      · cases hrun.symm.trans hok
        exact keeps_splice h (List.mem_of_getElem? hslot) hfit
    | edit i change keeps =>
      rcases run_edit h i change keeps with ⟨e, he, -⟩ | ⟨slot, hslot, hlength, hok⟩
      · cases hrun.symm.trans he
      · cases hrun.symm.trans hok
        exact keeps_splice h (List.mem_of_getElem? hslot) (Nat.le_of_eq hlength)
    | external i text offset =>
      rcases run_external h i text offset with ⟨e, he, -⟩ | ⟨-, -, hok⟩
      · cases hrun.symm.trans he
      · cases hrun.symm.trans hok
        exact ⟨⟨h.spaced, by rw [List.length_set]; exact h.entries⟩, rfl, rfl, rfl, rfl,
          fun _ _ => rfl⟩

theorem keeps_perform (h : w.Sound) (requests : List Request) : w.Keeps (w.perform requests) := by
  induction requests generalizing w with
  | nil => exact Keeps.refl h
  | cons r rest ih =>
    have hfirst := keeps_attempt h r
    exact hfirst.trans (ih hfirst.sound)

end ArgumentWriter

open ArgumentWriter

/-! ## Whole buffers -/

/-- What one request does to the writer `w`, byte by byte. -/
structure ArgumentWriter.Request.Touches (r : Request) (w : ArgumentWriter) : Prop where
  fails_iff : (∃ e, r.run w = .error e) ↔ r.Unfit w.arena
  refusal : ∀ e, r.run w = .error e → Refusal e ∧ w.attempt r = w
  /-- A write changes as many bytes at the start of its slot as it has data. -/
  written : ∀ i data w', r = .write i data → r.run w = .ok w' →
    ∃ slot, w.arena.arguments[i]? = some slot ∧
      w' = { w with arena := { w.arena with bytes := w'.arena.bytes } } ∧
      ∀ n, w'.arena.bytes[n]? =
        if slot.offset ≤ n ∧ n < slot.offset + data.length then data[n - slot.offset]?
        else w.arena.bytes[n]?
  /-- An edit in place changes the bytes of its slot. -/
  edited : ∀ i change keeps w', r = .edit i change keeps → r.run w = .ok w' →
    ∃ slot, w.arena.arguments[i]? = some slot ∧
      w' = { w with arena := { w.arena with bytes := w'.arena.bytes } } ∧
      ∀ n, n < slot.offset ∨ slot.past ≤ n → w'.arena.bytes[n]? = w.arena.bytes[n]?
  /-- An address changes no byte, and no entry but its own. -/
  attached : ∀ i text offset w', r = .external i text offset → r.run w = .ok w' →
    w' = { w with external := w.external.set i (some ⟨text, offset⟩) }

theorem ArgumentWriter.Sound.touches {w : ArgumentWriter} (h : w.Sound) (r : Request) :
    r.Touches w := by
  obtain ⟨hfails, hrefusal⟩ := run_eq_error h r
  refine ⟨hfails, fun e he => ⟨hrefusal e he, attempt_of_error r he⟩, ?_, ?_, ?_⟩
  · rintro i data w' rfl hrun
    rcases run_write h i data with ⟨e, he, -⟩ | ⟨slot, hslot, hfit, hok⟩
    · cases hrun.symm.trans he
    · cases hrun.symm.trans hok
      exact ⟨slot, hslot, rfl, getElem?_bytes_splice h (List.mem_of_getElem? hslot) hfit⟩
  · rintro i change keeps w' rfl hrun
    rcases run_edit h i change keeps with ⟨e, he, -⟩ | ⟨slot, hslot, hlength, hok⟩
    · cases hrun.symm.trans he
    · cases hrun.symm.trans hok
      refine ⟨slot, hslot, rfl, fun n hn => ?_⟩
      unfold Slot.past at hn
      rw [getElem?_bytes_splice h (List.mem_of_getElem? hslot) (Nat.le_of_eq hlength),
        if_neg (by omega)]
  · rintro i text offset w' rfl hrun
    rcases run_external h i text offset with ⟨e, he, -⟩ | ⟨-, -, hok⟩
    · cases hrun.symm.trans he
    · cases hrun.symm.trans hok
      rfl

/-- The buffer `a` of a specification, left as `w` by some requests and then bound. -/
structure StaysInside (p : Prepared) (a : Arena) (requests : List Request) (base : Nat)
    (redirects : List (Option Nat)) (w : ArgumentWriter) (bound : Arena × Arena.Binding) : Prop where
  slots_eq : a.arguments.map Slot.shape = p.arguments.map TypeToken.shape
  step : ∀ before r after, requests = before ++ r :: after →
    ((ofArena a).perform before).arena.arguments = a.arguments ∧
      r.Touches ((ofArena a).perform before)
  /-- Up to the pointer array, what is in no slot is zero, also once the buffer is bound. -/
  apart_zero : ∀ n, n < p.bytes → a.Apart n → w.arena.bytes[n]? = some 0 ∧ bound.1.bytes[n]? = some 0
  /-- The return slot and the spare word are in no slot. -/
  result_apart : ∀ n, p.returnOffset ≤ n → a.Apart n
  result_le : p.returnOffset + p.returnType.size ≤ p.bytes ∧ p.returnOffset + pointerSize ≤ p.bytes
  bound_eq : bound.1 = { w.arena with bytes := bound.1.bytes }
  bound_frame : ∀ n, n < p.bytes → bound.1.bytes[n]? = w.arena.bytes[n]?
  bound_entry : ∀ i slot, a.arguments[i]? = some slot →
    bound.1.bytes.slice (p.bytes + i * pointerSize) pointerSize = Bytes.ofNat pointerSize
      (match redirects[i]? with
      | some (some address) => address
      | _ => base + slot.offset)
  /-- The pointer array is all that follows. -/
  bound_size : bound.1.size = p.bytes + p.arity * pointerSize
  addresses_eq : bound.2 = ⟨base + p.returnOffset, base + p.bytes⟩

theorem argumentAddress_eq (base : Nat) (slot : Slot) (redirects : List (Option Nat)) (i : Nat) :
    Arena.argumentAddress base slot (redirects[i]?.join) =
      match redirects[i]? with
      | some (some address) => address
      | _ => base + slot.offset := by
  cases redirects[i]? with
  | none => rfl
  | some redirect => cases redirect <;> rfl

/-- Any requests to the writer of a new call buffer, and then binding it to any address with any
redirects. -/
theorem writes_stay_inside {p : Prepared} (hp : p.Made) {a : Arena} (ha : Arena.forSpec p = .ok a)
    (requests : List Request) (base : Nat) (redirects : List (Option Nat)) :
    StaysInside p a requests base redirects ((ofArena a).perform requests)
      (((ofArena a).perform requests).arena.bind base redirects) := by
  obtain ⟨slots, hplaced⟩ := hp.placed
  have hspaced := hplaced.spaced ha
  have hsound : (ofArena a).Sound := ⟨hspaced, List.length_replicate⟩
  have hresult := hplaced.return_le
  rw [hplaced.forSpec (hplaced.room ha)] at ha
  obtain rfl := Except.ok.inj ha
  have hkeeps := keeps_perform hsound requests
  have hbound := hkeeps.sound.spaced
  have hframe : ∀ n, n < p.bytes →
      (Arena.bind _ base redirects).1.bytes[n]? = ((ofArena _).perform requests).arena.bytes[n]? :=
    fun n hn => Arena.getElem?_bind hbound base redirects
      (Nat.lt_of_lt_of_eq hn hkeeps.pointerArray_eq.symm)
  refine {
    slots_eq := (placeFrom_eq_ok hplaced.layout_eq).2, step := ?_, apart_zero := ?_
    result_apart := fun n hn => hspaced.apart hn, result_le := ⟨by omega, by omega⟩
    bound_eq := rfl, bound_frame := hframe, bound_entry := ?_, bound_size := ?_
    addresses_eq := ?_ }
  · intro before r after hrequests
    have hbefore := keeps_perform hsound before
    exact ⟨hbefore.arguments_eq, hbefore.sound.touches r⟩
  · intro n hn hapart
    have hzero : (Bytes.zeros (p.bytes + p.arity * pointerSize))[n]? = some 0 := by
      rw [Bytes.zeros, List.getElem?_replicate, if_pos (by omega)]
    have hheld := (hkeeps.apart_eq n hapart).trans hzero
    exact ⟨hheld, (hframe n hn).trans hheld⟩
  · intro i slot hslot
    have hentry := Arena.slice_bind hbound base redirects (hkeeps.arguments_eq ▸ hslot)
    rw [hkeeps.pointerArray_eq, argumentAddress_eq] at hentry
    exact hentry
  · rw [Arena.size_bind hbound, hkeeps.size_eq]
    exact Bytes.length_zeros _
  · rw [Arena.bind, hkeeps.returnSlot_eq, hkeeps.pointerArray_eq]
    rfl

/-- Writes that fit, in and out of order, and with each way to fail between them. -/
def mixedRequests : List Request :=
  [.write 1 [1, 2, 3], .write 0 [4, 5], .write 0 [6], .write 3 [7], .external 2 ⟨8192, [8, 9]⟩ 3,
    .external 4 ⟨8192, [8, 9]⟩ 0, .external 2 ⟨8192, [8, 9]⟩ 2]

theorem writes_stay_inside_mixed :
    ∃ p a, ((Builder.empty ⟨false, false⟩).offerAll [.uint8, .sint64, .pointer]).2.prepare
        .default .sint32 = .ok (.ok p) ∧
      Arena.forSpec p = .ok a ∧
      ((ofArena a).perform mixedRequests).arena.bytes.take 16 =
        [6, 0, 0, 0, 0, 0, 0, 0, 1, 2, 3, 0, 0, 0, 0, 0] ∧
      StaysInside p a mixedRequests 4096 [none, none, some 12288] ((ofArena a).perform mixedRequests)
        (((ofArena a).perform mixedRequests).arena.bind 4096 [none, none, some 12288]) := by
  let p : Prepared :=
    ⟨[.uint8, .sint64, .pointer], .sint32, 40, 24, 8, ⟨false, false⟩, .default⟩
  have hp : ((Builder.empty ⟨false, false⟩).offerAll [.uint8, .sint64, .pointer]).2.prepare
      .default .sint32 = .ok (.ok p) := rfl
  let a : Arena := ⟨Bytes.zeros 64, [⟨0, 1, 1⟩, ⟨8, 8, 8⟩, ⟨16, 8, 8⟩], ⟨24, 4, 4⟩, 40⟩
  have ha : Arena.forSpec p = .ok a := by decide
  exact ⟨p, a, hp, ha, by decide, writes_stay_inside ⟨_, _, _, _, hp⟩ ha mixedRequests 4096 _⟩

end CallBridge
