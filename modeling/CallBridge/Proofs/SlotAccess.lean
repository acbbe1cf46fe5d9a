/-
Access to a call buffer through any descriptor.

A descriptor is checked by where it ends, and the end is a sum of words like any other.
`slot_access_checked` says that the end alone decides: within the buffer the bytes of the
descriptor are handed out and no others, past the buffer the access is refused, and past the
words there is no end to compare, so that the access panics.  No descriptor of a layout or of a
call buffer ends there; one made by hand can.
-/
import CallBridge.Proofs.WriteFrame

namespace CallBridge

/-! ## Where a descriptor ends -/

/-- What an access through `s` to `size` bytes comes to, if `value` is what it gives where `s` lies
within them. -/
structure Slot.Gated {α : Type} (s : Slot) (size : Nat) (value : α)
    (answer : Except Panic (Except Error α)) : Prop where
  served_iff : ∀ v, answer = .ok (.ok v) ↔ s.past ≤ size ∧ v = value
  refused_iff : ∀ e, answer = .ok (.error e) ↔
    (size < s.past ∧ s.past < wordLimit) ∧ e = .outOfBounds s.past size
  panics_iff : ∀ p, answer = .error p ↔ wordLimit ≤ s.past ∧ p = .overflow

namespace Slot

variable {α : Type} {s : Slot} {size : Nat}

theorem gated_of_within (hsize : size < wordLimit) (hin : s.past ≤ size) (value : α) :
    s.Gated size value (.ok (.ok value)) := by
  have hout : ¬ size < s.past := by omega
  have hend : ¬ wordLimit ≤ s.past := by omega
  refine ⟨fun v => ?_, fun e => ?_, fun p => ?_⟩
  · simp [hin, eq_comm]
  · simp [hout]
  · simp [hend]

theorem gated_of_outside (hout : size < s.past) (hend : s.past < wordLimit) (value : α) :
    s.Gated size value (.ok (.error (.outOfBounds s.past size))) := by
  have hin : ¬ s.past ≤ size := by omega
  have hword : ¬ wordLimit ≤ s.past := by omega
  refine ⟨fun v => ?_, fun e => ?_, fun p => ?_⟩
  · simp [hin]
  · simp [hout, hend, eq_comm]
  · simp [hword]

theorem gated_of_overflow (hsize : size < wordLimit) (hend : wordLimit ≤ s.past) (value : α) :
    s.Gated size value (.error .overflow) := by
  have hin : ¬ s.past ≤ size := by omega
  have hword : ¬ s.past < wordLimit := by omega
  refine ⟨fun v => ?_, fun e => ?_, fun p => ?_⟩
  · simp [hin]
  · simp [hword]
  · simp [hend, eq_comm]

theorem stop_of_word (hend : s.past < wordLimit) : s.stop = .ok s.past := checkedAdd_of_lt hend

theorem stop_of_overflow (hend : wordLimit ≤ s.past) : s.stop = .error .overflow :=
  if_neg (Nat.not_lt.mpr hend)

/-- The end is added up first and compared then. -/
theorem gated_stop (hsize : size < wordLimit) (value : α) :
    s.Gated size value (s.stop >>= fun _ =>
      .ok (if s.past ≤ size then .ok value else .error (.outOfBounds s.past size))) := by
  by_cases hend : s.past < wordLimit
  · rw [stop_of_word hend]
    show s.Gated size value (.ok (if _ then _ else _))
    by_cases hin : s.past ≤ size
    · rw [if_pos hin]
      exact gated_of_within hsize hin value
    · rw [if_neg hin]
      exact gated_of_outside (Nat.lt_of_not_le hin) hend value
  · have hover : wordLimit ≤ s.past := Nat.le_of_not_lt hend
    rw [stop_of_overflow hover]
    exact gated_of_overflow hsize hover value

end Slot

/-! ## Which bytes -/

namespace Bytes

theorem getElem?_slice {bs : Bytes} {start count n : Nat} (hn : n < count) :
    (bs.slice start count)[n]? = bs[start + n]? := by
  rw [slice, List.getElem?_take_of_lt hn, List.getElem?_drop]

theorem slice_congr {bs bs' : Bytes} {start count : Nat}
    (h : ∀ n, start ≤ n → n < start + count → bs'[n]? = bs[n]?) :
    bs'.slice start count = bs.slice start count := by
  refine List.ext_getElem? fun n => ?_
  by_cases hn : n < count
  · rw [getElem?_slice hn, getElem?_slice hn]
    exact h (start + n) (by omega) (by omega)
  · rw [slice, slice, List.getElem?_take_eq_none (by omega), List.getElem?_take_eq_none (by omega)]

end Bytes

namespace Arena

variable {a b : Arena} {s : Slot}

theorem gated_slotBytes (hsize : a.size < wordLimit) (s : Slot) :
    s.Gated a.size (a.bytes.slice s.offset s.size) (a.slotBytes s) := Slot.gated_stop hsize _

theorem gated_fillSlot (hsize : a.size < wordLimit) (s : Slot) (data : Bytes) :
    s.Gated a.size { a with bytes := a.bytes.splice s.offset (data.take s.size) }
      (a.fillSlot s data) := Slot.gated_stop hsize _

theorem slotBytes_of_word (hend : s.past < wordLimit) : a.slotBytes s = .ok (a.read s) := by
  rw [slotBytes, Slot.stop_of_word hend]
  rfl

theorem fillSlot_of_word (hend : s.past < wordLimit) (data : Bytes) :
    a.fillSlot s data = .ok (a.fill s data) := by
  rw [fillSlot, Slot.stop_of_word hend]
  rfl

theorem slotBytes_congr (hsize : b.size = a.size)
    (h : ∀ n, s.offset ≤ n → n < s.past → b.bytes[n]? = a.bytes[n]?) :
    b.slotBytes s = a.slotBytes s := by
  rw [slotBytes, slotBytes, read, read, hsize, Bytes.slice_congr h]

/-- As much of the data as the descriptor holds stays within it. -/
theorem length_taken (hin : s.past ≤ a.size) (data : Bytes) :
    s.offset + (data.take s.size).length ≤ a.bytes.length := by
  have htake := List.length_take_le s.size data
  unfold Slot.past size at hin
  omega

/-! ## Buffers in use -/

/-- What may be done to a call buffer. -/
inductive Step : Arena → Arena → Prop
  | fill {a a' : Arena} {s : Slot} {data : Bytes} (h : a.fillSlot s data = .ok (.ok a')) : Step a a'
  | write (a : Arena) (requests : List ArgumentWriter.Request) :
      Step a ((ArgumentWriter.ofArena a).perform requests).arena
  | bind (a : Arena) (base : Nat) (redirects : List (Option Nat)) : Step a (a.bind base redirects).1
  | store (a : Arena) (result : Bytes) : Step a (a.storeResult result)

/-- The call buffer of a specification, whatever has been done to it. -/
inductive InUse : Arena → Prop
  | made {p : Prepared} {a : Arena} (hp : p.Made) (ha : forSpec p = .ok a) : InUse a
  | step {a a' : Arena} (ha : InUse a) (h : Step a a') : InUse a'

theorem size_fillSlot {a' : Arena} {data : Bytes} (h : a.fillSlot s data = .ok (.ok a')) :
    a' = { a with bytes := a'.bytes } ∧ a'.size = a.size := by
  obtain ⟨_, -, hfill⟩ := bind_eq_ok h
  have hfill : a.fill s data = .ok a' := Except.ok.inj hfill
  by_cases hin : s.past ≤ a.size
  · rw [fill_eq_ok hin] at hfill
    cases hfill
    exact ⟨rfl, Bytes.length_splice (length_taken hin data)⟩
  · cases (if_neg hin).symm.trans hfill

theorem size_storeResult (h : a.Spaced) (result : Bytes) :
    (a.storeResult result).size = a.size := by
  have hword := h.word_le
  have hsize := h.size_eq
  have htake := List.length_take_le (a.pointerArray - a.returnSlot.offset) result
  refine Bytes.length_splice ?_
  unfold size at hsize
  omega

theorem Step.keeps {a' : Arena} (h : a.Spaced) (hstep : Step a a') :
    a'.Spaced ∧ a'.size = a.size := by
  cases hstep with
  | fill hfill =>
    obtain ⟨hsame, hsize⟩ := size_fillSlot hfill
    rw [hsame]
    exact ⟨h.of_bytes hsize, hsize⟩
  | write requests =>
    have heffect := ArgumentWriter.perform_effect (w := .ofArena a) h requests
    exact ⟨heffect.spaced, heffect.size_eq⟩
  | bind base redirects =>
    have hsize := size_bind h base redirects
    exact ⟨h.of_bytes hsize, hsize⟩
  | store result =>
    have hsize := size_storeResult h result
    exact ⟨h.of_bytes hsize, hsize⟩

namespace InUse

theorem keeps (ha : a.InUse) : a.Spaced ∧ a.size < wordLimit := by
  induction ha with
  | made hp ha =>
    obtain ⟨slots, hplaced⟩ := hp.placed
    have hroom := hplaced.room ha
    refine ⟨hplaced.spaced ha, ?_⟩
    rw [hplaced.forSpec hroom] at ha
    cases ha
    rw [size, Bytes.length_zeros]
    exact hroom
  | step _ hstep ih =>
    obtain ⟨hspaced, hsize⟩ := hstep.keeps ih.1
    exact ⟨hspaced, hsize ▸ ih.2⟩

theorem past_le_size (ha : a.InUse) (hs : s ∈ a.returnSlot :: a.arguments) : s.past ≤ a.size := by
  have hspaced := ha.keeps.1
  rcases List.mem_cons.mp hs with rfl | hs
  · have hreturn := hspaced.return_le
    have hsize := hspaced.size_eq
    omega
  · exact hspaced.past_le_size hs

end InUse

end Arena

/-! ## Descriptors that the program makes -/

/-- The slots of layouts, and those that call buffers have for themselves. -/
inductive Slot.Issued (s : Slot) : Prop
  | placed {shapes : List (Nat × Nat)} {slots : List Slot} (h : layout shapes = .ok slots)
      (hs : s ∈ slots)
  | own {a : Arena} (ha : a.InUse) (hs : s ∈ a.returnSlot :: a.arguments)

theorem Slot.Issued.past_lt {s : Slot} (h : s.Issued) : s.past < wordLimit := by
  cases h with
  | placed h hs => exact past_lt_of_placeFrom h hs
  | own ha hs => exact Nat.lt_of_le_of_lt (ha.past_le_size hs) ha.keeps.2

/-! ## Access -/

namespace Arena

/-- What access to the buffer `a` through the descriptor `s` comes to. -/
structure Access (a : Arena) (s : Slot) : Prop where
  reads : s.Gated a.size (a.bytes.slice s.offset s.size) (a.slotBytes s)
  fills : ∀ data, s.Gated a.size { a with bytes := a.bytes.splice s.offset (data.take s.size) }
    (a.fillSlot s data)
  /-- The bytes handed out, one by one. -/
  held : ∀ bs, a.slotBytes s = .ok (.ok bs) →
    bs.length = s.size ∧ ∀ n < s.size, bs[n]? = a.bytes[s.offset + n]?
  /-- They depend on no other byte of the buffer. -/
  unseen : ∀ b : Arena, b.size = a.size →
    (∀ n, s.offset ≤ n → n < s.past → b.bytes[n]? = a.bytes[n]?) → b.slotBytes s = a.slotBytes s
  /-- No other byte is changed, and what was put there is found, with the rest of what stood there
  behind it. -/
  changed : ∀ data a', a.fillSlot s data = .ok (.ok a') →
    a' = { a with bytes := a'.bytes } ∧ a'.size = a.size ∧
      (∀ n, n < s.offset ∨ s.past ≤ n → a'.bytes[n]? = a.bytes[n]?) ∧
      a'.slotBytes s =
        .ok (.ok (Bytes.overlay (data.take s.size) (a.bytes.slice s.offset s.size)))
  /-- For a descriptor that the program made there is an end to compare. -/
  issued : s.Issued →
    a.slotBytes s = .ok (a.read s) ∧ ∀ data, a.fillSlot s data = .ok (a.fill s data)
  /-- The slots of the buffer lie within it. -/
  own : s ∈ a.returnSlot :: a.arguments → s.past ≤ a.size

variable {a : Arena} {s : Slot}

theorem held_of_slotBytes (hsize : a.size < wordLimit) {bs : Bytes}
    (h : a.slotBytes s = .ok (.ok bs)) :
    bs.length = s.size ∧ ∀ n < s.size, bs[n]? = a.bytes[s.offset + n]? := by
  obtain ⟨hin, rfl⟩ := ((gated_slotBytes hsize s).served_iff bs).mp h
  exact ⟨Bytes.length_slice _ hin, fun n hn => Bytes.getElem?_slice hn⟩

theorem changed_of_fillSlot (hsize : a.size < wordLimit) {data : Bytes} {a' : Arena}
    (h : a.fillSlot s data = .ok (.ok a')) :
    (∀ n, n < s.offset ∨ s.past ≤ n → a'.bytes[n]? = a.bytes[n]?) ∧
      a'.slotBytes s =
        .ok (.ok (Bytes.overlay (data.take s.size) (a.bytes.slice s.offset s.size))) := by
  obtain ⟨-, hkept⟩ := size_fillSlot h
  obtain ⟨hin, hfilled⟩ := ((gated_fillSlot hsize s data).served_iff a').mp h
  have htaken := length_taken hin data
  have htake := List.length_take_le s.size data
  have hbytes : a'.bytes = a.bytes.splice s.offset (data.take s.size) := by rw [hfilled]
  constructor
  · intro n hn
    unfold Slot.past at hn
    rw [hbytes, Bytes.getElem?_splice htaken, if_neg (by omega)]
  · have hread := gated_slotBytes (hkept ▸ hsize) s
    refine (hread.served_iff _).mpr ⟨hkept ▸ hin, ?_⟩
    rw [hbytes, Bytes.slice_splice htake hin]

/-- Any descriptor and any call buffer, whatever has been done to it. -/
theorem slot_access_checked (ha : a.InUse) (s : Slot) : a.Access s where
  reads := gated_slotBytes ha.keeps.2 s
  fills := gated_fillSlot ha.keeps.2 s
  held := fun _ h => held_of_slotBytes ha.keeps.2 h
  unseen := fun _ hsize hbytes => slotBytes_congr hsize hbytes
  changed := fun _ _ h =>
    ⟨(size_fillSlot h).1, (size_fillSlot h).2, changed_of_fillSlot ha.keeps.2 h⟩
  issued := fun h => ⟨slotBytes_of_word h.past_lt, fillSlot_of_word h.past_lt⟩
  own := ha.past_le_size

/-- A byte and a word, with a word as the result. -/
def byteAndWord : Prepared :=
  ⟨[.uint8, .sint32], .sint32, 24, 8, 4, ⟨false, false⟩, .default⟩

def byteAndWordBuffer : Arena := ⟨Bytes.zeros 40, [⟨0, 1, 1⟩, ⟨4, 4, 4⟩], ⟨8, 4, 4⟩, 24⟩

theorem inUse_byteAndWordBuffer : byteAndWordBuffer.InUse :=
  have hp : byteAndWord.Made := ⟨⟨false, false⟩, [.uint8, .sint32], .default, .sint32, rfl⟩
  have ha : forSpec byteAndWord = .ok byteAndWordBuffer := rfl
  .made hp ha

/-- The last bytes of a buffer are filled with more than there is room for, and read back with those
before them.  Past the end even a descriptor without bytes is refused. -/
theorem slot_access_checked_at_end :
    ∃ a, byteAndWordBuffer.fillSlot ⟨38, 2, 1⟩ [1, 2, 3] = .ok (.ok a) ∧ a.InUse ∧
      a.Access ⟨36, 4, 1⟩ ∧ a.slotBytes ⟨36, 4, 1⟩ = .ok (.ok [0, 0, 1, 2]) ∧
      a.slotBytes ⟨40, 0, 1⟩ = .ok (.ok []) ∧
      a.slotBytes ⟨41, 0, 1⟩ = .ok (.error (.outOfBounds 41 40)) := by
  have hfill : byteAndWordBuffer.fillSlot ⟨38, 2, 1⟩ [1, 2, 3] =
      .ok (.ok { byteAndWordBuffer with bytes := Bytes.zeros 38 ++ [1, 2] }) := by decide
  have huse := inUse_byteAndWordBuffer.step (.fill hfill)
  have hlast := slot_access_checked huse ⟨36, 4, 1⟩
  have hempty := slot_access_checked huse ⟨40, 0, 1⟩
  have hpast := slot_access_checked huse ⟨41, 0, 1⟩
  exact ⟨_, hfill, huse, hlast, (hlast.reads.served_iff _).mpr (by decide),
    (hempty.reads.served_iff _).mpr (by decide), (hpast.reads.refused_iff _).mpr (by decide)⟩

/-- One byte at the last offset there is: it ends at the first number that is no word.  Without the
byte the access is refused. -/
theorem end_past_words_panics :
    let s : Slot := ⟨0xffffffffffffffff, 1, 1⟩
    byteAndWordBuffer.InUse ∧
      (s.offset < wordLimit ∧ s.size < wordLimit ∧ s.alignment < wordLimit) ∧
      byteAndWordBuffer.size < s.past ∧
      byteAndWordBuffer.slotBytes s = .error .overflow ∧
      (∀ data, byteAndWordBuffer.fillSlot s data = .error .overflow) ∧
      (¬ ∃ needed available, byteAndWordBuffer.slotBytes s =
        .ok (.error (.outOfBounds needed available))) ∧
      byteAndWordBuffer.slotBytes { s with size := 0 } =
        .ok (.error (.outOfBounds 0xffffffffffffffff 40)) := by
  refine ⟨inUse_byteAndWordBuffer, by decide, by decide, rfl, fun _ => rfl, ?_, rfl⟩
  rintro ⟨needed, available, hrefused⟩
  cases hrefused

end Arena

end CallBridge
