/-
What a writer leaves in a call buffer.

A request to a writer touches at most the slot, or the external entry, of its own argument.
`attempt_effect` says so of one request, failed or not, and `perform_effect` of any number
of them: what stands in a slot is what its own requests make of what stood there before.
-/
import CallBridge.Buffer.Writer
import CallBridge.Proofs.CallLayout

namespace CallBridge

namespace Arena.Spaced

variable {a : Arena}

theorem past_le (h : a.Spaced) {s : Slot} (hs : s ∈ a.arguments) :
    s.past ≤ a.returnSlot.offset :=
  Nat.le_trans (h.packed.past_le_lastEnd hs) h.arguments_le

theorem past_le_size (h : a.Spaced) {s : Slot} (hs : s ∈ a.arguments) : s.past ≤ a.size := by
  have hpast := h.past_le hs
  have hword := h.word_le
  have hsize := h.size_eq
  omega

/-- Bytes may change, as long as there are as many of them. -/
theorem of_bytes (h : a.Spaced) {bytes : Bytes} (hb : bytes.length = a.size) :
    Arena.Spaced { a with bytes } where
  packed := h.packed
  arguments_le := h.arguments_le
  return_le := h.return_le
  word_le := h.word_le
  size_eq := hb.trans h.size_eq

end Arena.Spaced

theorem Arena.read_eq_ok {a : Arena} {slot : Slot} (hin : slot.past ≤ a.size) :
    a.read slot = .ok (a.bytes.slice slot.offset slot.size) := if_pos hin

theorem Arena.fill_eq_ok {a : Arena} {slot : Slot} (hin : slot.past ≤ a.size) (data : Bytes) :
    a.fill slot data =
      .ok { a with bytes := a.bytes.splice slot.offset (data.take slot.size) } := if_pos hin

namespace ArgumentWriter

/-- The writer with some bytes of its buffer written. -/
def splice (w : ArgumentWriter) (start : Nat) (data : Bytes) : ArgumentWriter :=
  { w with arena := { w.arena with bytes := w.arena.bytes.splice start data } }

variable {w : ArgumentWriter} {index : Nat} {slot : Slot} {data : Bytes}

theorem argumentSlot_eq_ok (h : w.arena.arguments[index]? = some slot) :
    w.arena.argumentSlot index = .ok slot := by
  rw [Arena.argumentSlot, h]

theorem argumentSlot_of_none (h : w.arena.arguments[index]? = none) :
    w.arena.argumentSlot index = .error (.argumentIndex index w.arity) := by
  rw [Arena.argumentSlot, h]
  rfl

theorem get_eq_ok (h : w.arena.arguments[index]? = some slot) (hin : slot.past ≤ w.arena.size) :
    w.get index = .ok (w.arena.bytes.slice slot.offset slot.size) := by
  rw [get, argumentSlot_eq_ok h]
  exact Arena.read_eq_ok hin

theorem modify_eq_ok (h : w.arena.arguments[index]? = some slot) (hin : slot.past ≤ w.arena.size)
    (edit : Bytes → Bytes) :
    w.modify index edit = .ok (w.splice slot.offset
      ((edit (w.arena.bytes.slice slot.offset slot.size)).take slot.size)) := by
  rw [modify, argumentSlot_eq_ok h]
  show (w.arena.read slot >>= fun _ => _) = _
  rw [Arena.read_eq_ok hin]
  show (w.arena.fill slot _ >>= fun _ => _) = _
  rw [Arena.fill_eq_ok hin]
  rfl

theorem modify_of_none (h : w.arena.arguments[index]? = none) (edit : Bytes → Bytes) :
    w.modify index edit = .error (.argumentIndex index w.arity) := by
  rw [modify, argumentSlot_of_none h]
  rfl

/-- A write that fits puts its data at the start of the slot. -/
theorem write_eq_ok (h : w.arena.arguments[index]? = some slot) (hin : slot.past ≤ w.arena.size)
    (hfit : data.length ≤ slot.size) : w.write index data = .ok (w.splice slot.offset data) := by
  have hlength := Bytes.length_slice w.arena.bytes hin
  rw [write, get_eq_ok h hin]
  show (if _ then _ else _) = _
  rw [if_neg (by omega), modify_eq_ok h hin, List.take_of_length_le hfit]

theorem write_of_long (h : w.arena.arguments[index]? = some slot) (hin : slot.past ≤ w.arena.size)
    (hlong : slot.size < data.length) :
    w.write index data = .error (.outOfBounds data.length slot.size) := by
  have hlength := Bytes.length_slice w.arena.bytes hin
  rw [write, get_eq_ok h hin]
  show (if _ then _ else _) = _
  rw [if_pos (by omega), hlength]

theorem write_of_none (h : w.arena.arguments[index]? = none) :
    w.write index data = .error (.argumentIndex index w.arity) := by
  rw [write, get, argumentSlot_of_none h]
  rfl

/-! ## Requests -/

/-- One thing that a writer is asked for. -/
inductive Request where
  | write (index : Nat) (data : Bytes)
  /-- An edit in place.  It sees the bytes of the argument and cannot change their number. -/
  | edit (index : Nat) (change : Bytes → Bytes)
      (keeps : ∀ held, (change held).length = held.length)
  | external (index : Nat) (text : ExternalText) (offset : Nat)

namespace Request

def run (w : ArgumentWriter) : Request → Except Error ArgumentWriter
  | write index data => w.write index data
  | edit index change _ => w.modify index change
  | external index text offset => w.passExternal index text offset

/-- What a request makes of the bytes that argument `index` holds. -/
def apply (index : Nat) (held : Bytes) : Request → Bytes
  | write i data => if i = index ∧ data.length ≤ held.length then data.overlay held else held
  | edit i change _ => if i = index then change held else held
  | external .. => held

/-- The external bytes that a request attaches to argument `index`. -/
def attached? (index : Nat) : Request → Option ExternalArgument
  | external i text offset =>
    if i = index ∧ offset ≤ text.text.length then some ⟨text, offset⟩ else none
  | _ => none

theorem length_apply (index : Nat) (held : Bytes) (r : Request) :
    (r.apply index held).length = held.length := by
  cases r with
  | write i data =>
    rw [apply]
    split
    · rename_i h
      exact Bytes.length_overlay h.2
    · rfl
  | edit i change keeps =>
    rw [apply]
    split
    · exact keeps held
    · rfl
  | external => rfl

end Request

/-- Go on with what a request leaves; one that fails leaves everything as it was. -/
def attempt (w : ArgumentWriter) (r : Request) : ArgumentWriter :=
  match r.run w with
  | .ok changed => changed
  | .error _ => w

def perform (w : ArgumentWriter) (requests : List Request) : ArgumentWriter :=
  requests.foldl attempt w

/-- The bytes that requests put into the slot of argument `index`, from all zeros on. -/
def storedValue (requests : List Request) (index size : Nat) : Bytes :=
  requests.foldl (fun held r => r.apply index held) (Bytes.zeros size)

/-- The last external bytes that requests attach to argument `index`. -/
def lastAttached? (requests : List Request) (index : Nat) : Option ExternalArgument :=
  (requests.filterMap (Request.attached? index)).getLast?

/-! ## Effects -/

/-- What `w'` still has, and what it has anew, after requests to `w`: `value` is the change
to the bytes of an argument and `entry` the one to its external entry. -/
structure Effect (w w' : ArgumentWriter) (value : Nat → Bytes → Bytes)
    (entry : Nat → Option ExternalArgument) : Prop where
  spaced : w'.arena.Spaced
  arguments_eq : w'.arena.arguments = w.arena.arguments
  returnSlot_eq : w'.arena.returnSlot = w.arena.returnSlot
  pointerArray_eq : w'.arena.pointerArray = w.arena.pointerArray
  size_eq : w'.arena.size = w.arena.size
  value_eq : ∀ {i slot}, w.arena.arguments[i]? = some slot →
    w'.arena.bytes.slice slot.offset slot.size =
      value i (w.arena.bytes.slice slot.offset slot.size)
  external_eq : ∀ i, w'.external[i]? = (w.external[i]?).map fun e => (entry i).or e

theorem Effect.refl (h : w.arena.Spaced) : Effect w w (fun _ held => held) fun _ => none where
  spaced := h
  arguments_eq := rfl
  returnSlot_eq := rfl
  pointerArray_eq := rfl
  size_eq := rfl
  value_eq := fun _ => rfl
  external_eq := fun i => by cases w.external[i]? <;> rfl

theorem slots_disjoint {a : Arena} (h : a.Spaced) {i j : Nat} {s s' : Slot} (hij : i ≠ j)
    (hi : a.arguments[i]? = some s) (hj : a.arguments[j]? = some s') :
    s.past ≤ s'.offset ∨ s'.past ≤ s.offset := by
  obtain ⟨hilt, rfl⟩ := List.getElem?_eq_some_iff.mp hi
  obtain ⟨hjlt, rfl⟩ := List.getElem?_eq_some_iff.mp hj
  have hpair := List.pairwise_iff_getElem.mp h.packed.pairwise
  rcases Nat.lt_or_gt_of_ne hij with hlt | hgt
  · exact Or.inl (hpair i j hilt hjlt hlt)
  · exact Or.inr (hpair j i hjlt hilt hgt)

/-- Bytes laid over the start of one slot change that slot and no other. -/
theorem effect_splice (h : w.arena.Spaced) (hslot : w.arena.arguments[index]? = some slot)
    (hfit : data.length ≤ slot.size) :
    Effect w (w.splice slot.offset data)
      (fun i held => if index = i then data.overlay held else held) fun _ => none := by
  have hin := h.past_le_size (List.mem_of_getElem? hslot)
  have hin' : slot.offset + data.length ≤ w.arena.bytes.length := by
    unfold Slot.past Arena.size at hin
    omega
  refine {
    spaced := h.of_bytes (Bytes.length_splice hin'), arguments_eq := rfl, returnSlot_eq := rfl
    pointerArray_eq := rfl, size_eq := Bytes.length_splice hin', value_eq := ?_
    external_eq := fun i => by cases h : w.external[i]? <;> exact h }
  intro i other hother
  by_cases hi : index = i
  · subst hi
    cases hslot.symm.trans hother
    rw [if_pos rfl]
    exact Bytes.slice_splice hfit hin
  · rw [if_neg hi]
    refine Bytes.slice_splice_of_disjoint hin' ?_
    have hdisjoint := slots_disjoint h hi hslot hother
    unfold Slot.past at hdisjoint
    omega

theorem Effect.trans {w' w'' : ArgumentWriter} {value value' : Nat → Bytes → Bytes}
    {entry entry' : Nat → Option ExternalArgument} (h : Effect w w' value entry)
    (h' : Effect w' w'' value' entry') :
    Effect w w'' (fun i held => value' i (value i held)) fun i => (entry' i).or (entry i) := by
  refine {
    spaced := h'.spaced, arguments_eq := h'.arguments_eq.trans h.arguments_eq
    returnSlot_eq := h'.returnSlot_eq.trans h.returnSlot_eq
    pointerArray_eq := h'.pointerArray_eq.trans h.pointerArray_eq
    size_eq := h'.size_eq.trans h.size_eq, value_eq := ?_, external_eq := ?_ }
  · intro i slot hslot
    have hslot' : w'.arena.arguments[i]? = some slot := by rw [h.arguments_eq, hslot]
    rw [h'.value_eq hslot', h.value_eq hslot]
  · intro i
    rw [h'.external_eq, h.external_eq, Option.map_map]
    congr 1
    funext e
    exact Option.or_assoc.symm

theorem Effect.congr {w' : ArgumentWriter} {value value' : Nat → Bytes → Bytes}
    {entry : Nat → Option ExternalArgument} (h : Effect w w' value entry)
    (hvalue : ∀ {i slot}, w.arena.arguments[i]? = some slot →
      value i (w.arena.bytes.slice slot.offset slot.size) =
        value' i (w.arena.bytes.slice slot.offset slot.size)) : Effect w w' value' entry :=
  { h with value_eq := fun hslot => (h.value_eq hslot).trans (hvalue hslot) }

theorem ne_of_no_slot {i j : Nat} (hi : w.arena.arguments[i]? = none)
    (hj : w.arena.arguments[j]? = some slot) : i ≠ j := by
  rintro rfl
  cases hi.symm.trans hj

theorem attempt_of_ok (r : Request) {w' : ArgumentWriter} (h : r.run w = .ok w') :
    w.attempt r = w' := by
  rw [attempt, h]

theorem attempt_of_error (r : Request) {e : Error} (h : r.run w = .error e) :
    w.attempt r = w := by
  rw [attempt, h]

theorem attempt_write_effect (h : w.arena.Spaced) (index : Nat) (data : Bytes) :
    Effect w (w.attempt (.write index data))
      (fun i held => (Request.write index data).apply i held) fun _ => none := by
  cases hslot : w.arena.arguments[index]? with
  | none =>
    rw [attempt_of_error (.write index data) (write_of_none hslot)]
    refine (Effect.refl h).congr fun {i other} hother => ?_
    have hi : index ≠ i := ne_of_no_slot hslot hother
    rw [Request.apply, if_neg fun hc => hi hc.1]
  | some slot =>
    have hin := h.past_le_size (List.mem_of_getElem? hslot)
    have hheld : (w.arena.bytes.slice slot.offset slot.size).length = slot.size :=
      Bytes.length_slice _ hin
    by_cases hfit : data.length ≤ slot.size
    · rw [attempt_of_ok (.write index data) (write_eq_ok hslot hin hfit)]
      refine (effect_splice h hslot hfit).congr fun {i other} hother => ?_
      by_cases hi : index = i
      · subst hi
        cases hslot.symm.trans hother
        rw [Request.apply, if_pos rfl, if_pos ⟨rfl, by omega⟩]
      · rw [Request.apply, if_neg hi, if_neg fun hc => hi hc.1]
    · rw [attempt_of_error (.write index data) (write_of_long hslot hin (by omega))]
      refine (Effect.refl h).congr fun {i other} hother => ?_
      by_cases hi : index = i
      · subst hi
        cases hslot.symm.trans hother
        rw [Request.apply, if_neg fun hc => hfit (by omega)]
      · rw [Request.apply, if_neg fun hc => hi hc.1]

theorem attempt_edit_effect (h : w.arena.Spaced) (index : Nat) (change : Bytes → Bytes)
    (keeps : ∀ held, (change held).length = held.length) :
    Effect w (w.attempt (.edit index change keeps))
      (fun i held => (Request.edit index change keeps).apply i held) fun _ => none := by
  cases hslot : w.arena.arguments[index]? with
  | none =>
    rw [attempt_of_error (.edit index change keeps) (modify_of_none hslot change)]
    refine (Effect.refl h).congr fun {i other} hother => ?_
    have hi : index ≠ i := ne_of_no_slot hslot hother
    rw [Request.apply, if_neg hi]
  | some slot =>
    have hin := h.past_le_size (List.mem_of_getElem? hslot)
    have hlength : (change (w.arena.bytes.slice slot.offset slot.size)).length = slot.size :=
      (keeps _).trans (Bytes.length_slice _ hin)
    have hedited := modify_eq_ok hslot hin change
    rw [List.take_of_length_le (by omega)] at hedited
    rw [attempt_of_ok (.edit index change keeps) hedited]
    refine (effect_splice h hslot (by omega)).congr fun {i other} hother => ?_
    by_cases hi : index = i
    · subst hi
      cases hslot.symm.trans hother
      rw [Request.apply, if_pos rfl, if_pos rfl, Bytes.overlay, keeps,
        List.drop_of_length_le (Nat.le_refl _), List.append_nil]
    · rw [Request.apply, if_neg hi, if_neg hi]

theorem attempt_external_effect (h : w.arena.Spaced) (index : Nat) (text : ExternalText)
    (offset : Nat) :
    Effect w (w.attempt (.external index text offset)) (fun _ held => held) fun i =>
      (Request.external index text offset).attached? i := by
  have hrefl := Effect.refl h
  by_cases hoffset : offset > text.text.length
  · have hrun : w.passExternal index text offset = .error (.outOfBounds offset text.text.length) :=
      if_pos hoffset
    rw [attempt_of_error (.external index text offset) hrun]
    refine { hrefl with external_eq := fun i => ?_ }
    rw [Request.attached?, if_neg fun hc => Nat.not_lt.mpr hc.2 hoffset]
    exact hrefl.external_eq i
  · by_cases hindex : index < w.external.length
    · have hrun : w.passExternal index text offset =
          .ok { w with external := w.external.set index (some ⟨text, offset⟩) } := by
        rw [passExternal, if_neg hoffset, if_pos hindex]
      rw [attempt_of_ok (.external index text offset) hrun]
      refine { hrefl with external_eq := fun i => ?_ }
      by_cases hi : index = i
      · subst hi
        rw [Request.attached?, if_pos ⟨rfl, Nat.le_of_not_lt hoffset⟩]
        rw [List.getElem?_set_self hindex, List.getElem?_eq_getElem hindex]
        rfl
      · rw [Request.attached?, if_neg fun hc => hi hc.1, List.getElem?_set_ne hi]
        exact hrefl.external_eq i
    · have hrun : w.passExternal index text offset = .error (.argumentIndex index w.arity) := by
        rw [passExternal, if_neg hoffset, if_neg hindex]
      rw [attempt_of_error (.external index text offset) hrun]
      refine { hrefl with external_eq := fun i => ?_ }
      by_cases hi : index = i
      · subst hi
        rw [List.getElem?_eq_none (Nat.le_of_not_lt hindex)]
        rfl
      · rw [Request.attached?, if_neg fun hc => hi hc.1]
        exact hrefl.external_eq i

/-- One request, failed or not. -/
theorem attempt_effect (h : w.arena.Spaced) (r : Request) :
    Effect w (w.attempt r) (fun i held => r.apply i held) fun i => r.attached? i := by
  cases r with
  | write index data => exact attempt_write_effect h index data
  | edit index change keeps => exact attempt_edit_effect h index change keeps
  | external index text offset => exact attempt_external_effect h index text offset

theorem lastAttached?_cons (r : Request) (rest : List Request) (index : Nat) :
    lastAttached? (r :: rest) index = (lastAttached? rest index).or (r.attached? index) := by
  rw [lastAttached?, List.filterMap_cons]
  cases r.attached? index with
  | none => exact Option.or_none.symm
  | some e =>
    show (e :: _).getLast? = _
    rw [List.getLast?_cons, lastAttached?]
    cases (rest.filterMap (Request.attached? index)).getLast? <;> rfl

/-- Any requests, each of them failed or not. -/
theorem perform_effect (h : w.arena.Spaced) (requests : List Request) :
    Effect w (w.perform requests)
      (fun i held => requests.foldl (fun held r => r.apply i held) held)
      fun i => lastAttached? requests i := by
  induction requests generalizing w with
  | nil => exact Effect.refl h
  | cons r rest ih =>
    have hfirst := attempt_effect h r
    have hboth := hfirst.trans (ih hfirst.spaced)
    refine { hboth with external_eq := fun i => ?_ }
    rw [lastAttached?_cons]
    exact hboth.external_eq i

/-! ## Fresh writers -/

/-- What requests to the writer of a new call buffer leave in it. -/
structure Filled (p : Prepared) (a : Arena) (requests : List Request) (w : ArgumentWriter) :
    Prop where
  spaced : w.arena.Spaced
  arguments_eq : w.arena.arguments = a.arguments
  shapes_eq : a.arguments.map Slot.shape = p.arguments.map TypeToken.shape
  returnSlot_eq : w.arena.returnSlot = ⟨p.returnOffset, p.returnType.size, p.returnType.alignment⟩
  pointerArray_eq : w.arena.pointerArray = p.bytes
  size_eq : w.arena.size = a.size
  stored_eq : ∀ {i slot}, a.arguments[i]? = some slot →
    w.arena.bytes.slice slot.offset slot.size = storedValue requests i slot.size
  external_eq : w.external = (List.range p.arity).map (lastAttached? requests)

theorem filled {p : Prepared} {slots : List Slot} (h : p.Placed slots) {a : Arena}
    (ha : Arena.forSpec p = .ok a) (requests : List Request) :
    Filled p a requests ((ofArena a).perform requests) := by
  have hspaced := h.spaced ha
  have heffect := perform_effect (w := ofArena a) hspaced requests
  rw [h.forSpec (h.room ha)] at ha
  cases ha
  refine {
    spaced := heffect.spaced, arguments_eq := heffect.arguments_eq
    shapes_eq := (placeFrom_eq_ok h.layout_eq).2, returnSlot_eq := heffect.returnSlot_eq
    pointerArray_eq := heffect.pointerArray_eq, size_eq := heffect.size_eq
    stored_eq := ?_, external_eq := ?_ }
  · intro i slot hslot
    have hin : slot.past ≤ (Bytes.zeros (p.bytes + p.arity * pointerSize)).length :=
      hspaced.past_le_size (List.mem_of_getElem? hslot)
    rw [Bytes.length_zeros] at hin
    rw [heffect.value_eq hslot]
    show requests.foldl _ ((Bytes.zeros _).slice slot.offset slot.size) = _
    rw [Bytes.slice_zeros hin]
    rfl
  · refine List.ext_getElem? fun i => ?_
    rw [heffect.external_eq]
    show ((List.replicate slots.length none)[i]?).map _ = _
    rw [h.arity_eq, List.getElem?_map, List.getElem?_replicate]
    by_cases hi : i < p.arity
    · rw [if_pos hi, List.getElem?_range hi]
      exact congrArg some Option.or_none
    · rw [if_neg hi, List.getElem?_eq_none (by rw [List.length_range]; omega)]
      rfl

end ArgumentWriter

end CallBridge
