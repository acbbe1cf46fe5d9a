/-
Where values are placed.

A slot starts at the least multiple of its alignment that is not below the end of the slot
before it.  `Packed` says so of a list of slots, and `placeFrom_eq_ok` says that placing
shapes makes such a list and no other.
-/
import Mathlib.Order.Bounds.Basic
import CallBridge.Layout

namespace CallBridge

/-- A computation of two steps has a value only if both do. -/
theorem bind_eq_ok {ε α β : Type} {x : Except ε α} {f : α → Except ε β} {b : β}
    (h : (x >>= f) = .ok b) : ∃ a, x = .ok a ∧ f a = .ok b := by
  cases x with
  | error e => cases h
  | ok a => exact ⟨a, rfl, h⟩

/-! ## Rounding up -/

/-- `offset` is the least multiple of `alignment` that is not below `start`. -/
def NextMultiple (start alignment offset : Nat) : Prop :=
  IsLeast {n | start ≤ n ∧ alignment ∣ n} offset

namespace NextMultiple

variable {start alignment offset : Nat}

theorem start_le (h : NextMultiple start alignment offset) : start ≤ offset := h.1.1

theorem dvd (h : NextMultiple start alignment offset) : alignment ∣ offset := h.1.2

end NextMultiple

/-- Past the multiple below `offset` there is no multiple before the next one. -/
theorem multiple_gap {offset alignment n : Nat} (hn : offset ≤ n) (hd : alignment ∣ n)
    (hr : offset % alignment ≠ 0) :
    offset - offset % alignment + alignment ≤ n := by
  obtain ⟨k, rfl⟩ := hd
  have hdiv := Nat.div_add_mod offset alignment
  have hlt : alignment * (offset / alignment) < alignment * k := by omega
  have hk : offset / alignment + 1 ≤ k := Nat.lt_of_mul_lt_mul_left hlt
  have hmul := Nat.mul_le_mul_left alignment hk
  rw [Nat.mul_add, Nat.mul_one] at hmul
  omega

theorem nextMultiple_of_alignUp {offset alignment result : Nat}
    (h : alignUp offset alignment = .ok result) : NextMultiple offset alignment result := by
  unfold alignUp at h
  split at h
  · cases h
  · rename_i ha
    split at h
    · rename_i hr
      cases h
      exact ⟨⟨Nat.le_refl _, Nat.dvd_of_mod_eq_zero hr⟩, fun n hn => hn.1⟩
    · rename_i hr
      have hpos : 0 < alignment := Nat.pos_of_ne_zero ha
      have hlt := Nat.mod_lt offset hpos
      have hle := Nat.mod_le offset alignment
      obtain ⟨rfl, -⟩ := checkedAdd_eq_ok.mp h
      refine ⟨⟨by omega, ?_⟩, fun n hn => multiple_gap hn.1 hn.2 hr⟩
      exact Nat.dvd_add (Nat.dvd_sub_mod offset) (Nat.dvd_refl alignment)

theorem alignUp_of_dvd {offset alignment : Nat} (ha : 0 < alignment) (hd : alignment ∣ offset) :
    alignUp offset alignment = .ok offset := by
  rw [alignUp, if_neg (by omega), if_pos (Nat.mod_eq_zero_of_dvd hd)]

theorem checkedAdd_of_lt {a b : Nat} (h : a + b < wordLimit) : checkedAdd a b = .ok (a + b) :=
  checkedAdd_eq_ok.mpr ⟨rfl, h⟩

/-! ## Sums that fit -/

/-- The least multiple of `alignment` from `offset` on, however large. -/
def roundUp (offset alignment : Nat) : Nat := offset + (alignment - offset % alignment) % alignment

theorem le_roundUp (offset alignment : Nat) : offset ≤ roundUp offset alignment :=
  Nat.le_add_right ..

theorem roundUp_of_dvd {offset alignment : Nat} (h : alignment ∣ offset) :
    roundUp offset alignment = offset := by
  rw [roundUp, Nat.mod_eq_zero_of_dvd h, Nat.sub_zero, Nat.mod_self, Nat.add_zero]

theorem roundUp_of_mod_ne {offset alignment : Nat} (ha : 0 < alignment)
    (h : offset % alignment ≠ 0) :
    roundUp offset alignment = offset - offset % alignment + alignment := by
  have hle := Nat.mod_le offset alignment
  have hlt := Nat.mod_lt offset ha
  rw [roundUp, Nat.mod_eq_of_lt (by omega)]
  omega

theorem nextMultiple_roundUp {offset alignment : Nat} (ha : 0 < alignment) :
    NextMultiple offset alignment (roundUp offset alignment) := by
  by_cases hr : offset % alignment = 0
  · rw [roundUp_of_dvd (Nat.dvd_of_mod_eq_zero hr)]
    exact ⟨⟨Nat.le_refl _, Nat.dvd_of_mod_eq_zero hr⟩, fun n hn => hn.1⟩
  · have hle := Nat.mod_le offset alignment
    have hlt := Nat.mod_lt offset ha
    rw [roundUp_of_mod_ne ha hr]
    refine ⟨⟨by omega, ?_⟩, fun n hn => multiple_gap hn.1 hn.2 hr⟩
    exact Nat.dvd_add (Nat.dvd_sub_mod offset) (Nat.dvd_refl alignment)

/-- A number as a word, or a panic where it is none. -/
def asWord (n : Nat) : Except Panic Nat := if n < wordLimit then .ok n else .error .overflow

theorem checkedAdd_eq_asWord (a b : Nat) : checkedAdd a b = asWord (a + b) := rfl

theorem alignUp_eq_asWord {offset alignment : Nat} (ha : 0 < alignment) (ho : offset < wordLimit) :
    alignUp offset alignment = asWord (roundUp offset alignment) := by
  rw [alignUp, if_neg (by omega)]
  by_cases hr : offset % alignment = 0
  · rw [if_pos hr, roundUp_of_dvd (Nat.dvd_of_mod_eq_zero hr), asWord, if_pos ho]
  · rw [if_neg hr, roundUp_of_mod_ne ha hr]
    rfl

/-- What is computed from a number that is no word panics with it, if it would be no smaller. -/
theorem asWord_bind {α : Type} {n m : Nat} (hle : n ≤ m) {f : Nat → Except Panic α}
    {g : Nat → α} (hf : n < wordLimit → f n = (asWord m).map g) :
    (asWord n >>= f) = (asWord m).map g := by
  by_cases hn : n < wordLimit
  · rw [← hf hn]
    exact congrArg (· >>= f) (if_pos hn)
  · have hm : ¬ m < wordLimit := by omega
    rw [asWord, if_neg hn, asWord, if_neg hm]
    rfl

/-! ## Slots in a row -/

namespace Slot

/-- The first byte past a slot, however large. -/
def past (s : Slot) : Nat := s.offset + s.size

def shape (s : Slot) : Nat × Nat := (s.size, s.alignment)

end Slot

/-- Slots that follow one another from `start` on, each at the next multiple of its
alignment. -/
def Packed (start : Nat) : List Slot → Prop
  | [] => True
  | s :: rest => NextMultiple start s.alignment s.offset ∧ Packed s.past rest

/-- Where slots that begin at `start` end. -/
def lastEnd (start : Nat) : List Slot → Nat
  | [] => start
  | s :: rest => lastEnd s.past rest

theorem lastEnd_concat (start : Nat) (slots : List Slot) (s : Slot) :
    lastEnd start (slots ++ [s]) = s.past := by
  induction slots generalizing start with
  | nil => rfl
  | cons head rest ih => exact ih head.past

namespace Packed

theorem start_le_lastEnd {start : Nat} {slots : List Slot} (h : Packed start slots) :
    start ≤ lastEnd start slots := by
  induction slots generalizing start with
  | nil => exact Nat.le_refl start
  | cons s rest ih =>
    have hs := h.1.start_le
    have hrest := ih h.2
    rw [lastEnd]
    unfold Slot.past at *
    omega

theorem start_le {start : Nat} {slots : List Slot} (h : Packed start slots) {s : Slot}
    (hs : s ∈ slots) : start ≤ s.offset := by
  induction slots generalizing start with
  | nil => cases hs
  | cons head rest ih =>
    have hhead := h.1.start_le
    rcases List.mem_cons.mp hs with rfl | hs
    · exact hhead
    · have hrest := ih h.2 hs
      unfold Slot.past at hrest
      omega

theorem past_le_lastEnd {start : Nat} {slots : List Slot} (h : Packed start slots) {s : Slot}
    (hs : s ∈ slots) : s.past ≤ lastEnd start slots := by
  induction slots generalizing start with
  | nil => cases hs
  | cons head rest ih =>
    rcases List.mem_cons.mp hs with rfl | hs
    · exact h.2.start_le_lastEnd
    · exact ih h.2 hs

/-- No two slots share a byte, and they stand in order. -/
theorem pairwise {start : Nat} {slots : List Slot} (h : Packed start slots) :
    slots.Pairwise fun s s' => s.past ≤ s'.offset := by
  induction slots generalizing start with
  | nil => exact List.Pairwise.nil
  | cons head rest ih => exact List.Pairwise.cons (fun s hs => h.2.start_le hs) (ih h.2)

theorem dvd {start : Nat} {slots : List Slot} (h : Packed start slots) {s : Slot}
    (hs : s ∈ slots) : s.alignment ∣ s.offset := by
  induction slots generalizing start with
  | nil => cases hs
  | cons head rest ih =>
    rcases List.mem_cons.mp hs with rfl | hs
    · exact h.1.dvd
    · exact ih h.2 hs

end Packed

/-! ## Placing shapes -/

theorem Slot.stop_eq_ok {s : Slot} {n : Nat} (h : s.stop = .ok n) : n = s.past ∧ n < wordLimit := by
  obtain ⟨rfl, hlt⟩ := checkedAdd_eq_ok.mp h
  exact ⟨rfl, hlt⟩

/-- What placing makes of shapes: a packed list of slots of these shapes. -/
theorem placeFrom_eq_ok {start : Nat} {shapes : List (Nat × Nat)} {slots : List Slot}
    (h : placeFrom start shapes = .ok slots) :
    Packed start slots ∧ slots.map Slot.shape = shapes := by
  induction shapes generalizing start slots with
  | nil =>
    cases h
    exact ⟨trivial, rfl⟩
  | cons shape rest ih =>
    obtain ⟨size, alignment⟩ := shape
    rw [placeFrom] at h
    obtain ⟨offset, hoffset, h⟩ := bind_eq_ok h
    obtain ⟨next, hnext, h⟩ := bind_eq_ok h
    obtain ⟨tail, htail, h⟩ := bind_eq_ok h
    cases h
    obtain ⟨rfl, -⟩ := Slot.stop_eq_ok hnext
    obtain ⟨hpacked, hshapes⟩ := ih htail
    exact ⟨⟨nextMultiple_of_alignUp hoffset, hpacked⟩, by rw [List.map_cons, hshapes]; rfl⟩

/-- A slot that was placed ends at a word. -/
theorem past_lt_of_placeFrom {start : Nat} {shapes : List (Nat × Nat)} {slots : List Slot}
    (h : placeFrom start shapes = .ok slots) {s : Slot} (hs : s ∈ slots) : s.past < wordLimit := by
  induction shapes generalizing start slots with
  | nil =>
    cases h
    cases hs
  | cons shape rest ih =>
    obtain ⟨size, alignment⟩ := shape
    rw [placeFrom] at h
    obtain ⟨offset, -, h⟩ := bind_eq_ok h
    obtain ⟨next, hnext, h⟩ := bind_eq_ok h
    obtain ⟨tail, htail, h⟩ := bind_eq_ok h
    cases h
    obtain ⟨rfl, hlt⟩ := Slot.stop_eq_ok hnext
    rcases List.mem_cons.mp hs with rfl | hs
    · exact hlt
    · exact ih htail hs

/-- One more shape at the end is placed after all others. -/
theorem placeFrom_concat {start offset size alignment next : Nat} {shapes : List (Nat × Nat)}
    {slots : List Slot} (h : placeFrom start shapes = .ok slots)
    (hoffset : alignUp (lastEnd start slots) alignment = .ok offset)
    (hnext : checkedAdd offset size = .ok next) :
    placeFrom start (shapes ++ [(size, alignment)]) = .ok (slots ++ [⟨offset, size, alignment⟩]) := by
  induction shapes generalizing start slots with
  | nil =>
    cases h
    rw [List.nil_append, placeFrom]
    rw [show alignUp start alignment = .ok offset from hoffset]
    show (checkedAdd offset size >>= fun _ => _) = _
    rw [hnext]
    rfl
  | cons shape rest ih =>
    obtain ⟨headSize, headAlignment⟩ := shape
    rw [placeFrom] at h
    obtain ⟨headOffset, hhead, h⟩ := bind_eq_ok h
    obtain ⟨headNext, hstop, h⟩ := bind_eq_ok h
    obtain ⟨tail, htail, h⟩ := bind_eq_ok h
    cases h
    obtain ⟨rfl, -⟩ := Slot.stop_eq_ok hstop
    have hrest := ih htail hoffset
    rw [List.cons_append, placeFrom, hhead]
    show (Slot.stop _ >>= fun _ => _) = _
    rw [hstop]
    show (placeFrom _ (rest ++ _) >>= fun _ => _) = _
    rw [hrest]
    rfl

end CallBridge
