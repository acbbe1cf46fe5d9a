/-
Call buffers and the builders they come from.

A builder places each argument as it is appended, a call buffer places all of them at
once, and the return slot, the spare word and the pointer array follow.
`call_layout_agrees` says that the two walks give the same slots and that nothing in the
buffer overlaps.
-/
import CallBridge.Buffer.Arena
import CallBridge.Proofs.Layout

namespace CallBridge

namespace Builder

/-- Offer types one after the other: the answers, and the builder that is left. -/
def offerAll (b : Builder) : List TypeToken → List (Except Panic (Except Error Nat)) × Builder
  | [] => ([], b)
  | t :: rest =>
    let others := (b.offer t).2.offerAll rest
    ((b.offer t).1 :: others.1, others.2)

/-- The offset that an answer tells, if the type was taken. -/
def offset? : Except Panic (Except Error Nat) → Option Nat
  | .ok (.ok offset) => some offset
  | _ => none

/-- The types that were taken, by the answers to their offers. -/
def taken (types : List TypeToken) (answers : List (Except Panic (Except Error Nat))) :
    List TypeToken :=
  ((types.zip answers).filter fun e => (offset? e.2).isSome).map Prod.fst

/-- A builder has placed its arguments where placing all of them at once puts them. -/
structure Placed (b : Builder) (slots : List Slot) : Prop where
  layout_eq : layout (b.arguments.map TypeToken.shape) = .ok slots
  bytes_eq : b.bytes = lastEnd 0 slots
  maxAlignment_eq : b.maxAlignment = (b.arguments.map TypeToken.alignment).foldl max 0

theorem placed_empty (context : CallContext) : (empty context).Placed [] := ⟨rfl, rfl, rfl⟩

theorem append_eq_ok {b grown : Builder} {t : TypeToken} {offset : Nat}
    (h : b.append t = .ok (.ok (offset, grown))) :
    alignUp b.bytes t.alignment = .ok offset ∧ checkedAdd offset t.size = .ok grown.bytes ∧
      grown.arguments = b.arguments ++ [t] ∧
      grown.maxAlignment = max b.maxAlignment t.alignment := by
  unfold append at h
  split at h
  · cases h
  · obtain ⟨offset', hoffset, h⟩ := bind_eq_ok h
    obtain ⟨bytes, hbytes, h⟩ := bind_eq_ok h
    cases h
    exact ⟨hoffset, hbytes, rfl, rfl⟩

/-- An offer is taken by an append, or it changes nothing. -/
theorem offer_cases (b : Builder) (t : TypeToken) :
    (∃ offset grown, b.append t = .ok (.ok (offset, grown)) ∧
      b.offer t = (.ok (.ok offset), grown)) ∨
    (offset? (b.offer t).1 = none ∧ (b.offer t).2 = b) := by
  unfold offer
  split
  · rename_i offset grown h
    exact Or.inl ⟨offset, grown, h, rfl⟩
  · exact Or.inr ⟨rfl, rfl⟩
  · exact Or.inr ⟨rfl, rfl⟩

theorem Placed.append {b grown : Builder} {slots : List Slot} {t : TypeToken} {offset : Nat}
    (hb : b.Placed slots) (h : b.append t = .ok (.ok (offset, grown))) :
    grown.Placed (slots ++ [⟨offset, t.size, t.alignment⟩]) := by
  obtain ⟨hoffset, hbytes, harguments, hmax⟩ := append_eq_ok h
  rw [hb.bytes_eq] at hoffset
  constructor
  · rw [harguments, List.map_append]
    exact placeFrom_concat hb.layout_eq hoffset hbytes
  · rw [lastEnd_concat]
    exact (checkedAdd_eq_ok.mp hbytes).1
  · rw [hmax, harguments, hb.maxAlignment_eq, List.map_append, List.foldl_append]
    rfl

/-- A run of offers places exactly the types that were taken, at the offsets that the
answers tell. -/
theorem Placed.offerAll {b : Builder} {slots : List Slot} (hb : b.Placed slots)
    (types : List TypeToken) :
    ∃ more, (b.offerAll types).2.Placed (slots ++ more) ∧
      more.map Slot.offset = (b.offerAll types).1.filterMap offset? ∧
      (b.offerAll types).2.arguments = b.arguments ++ taken types (b.offerAll types).1 := by
  induction types generalizing b slots with
  | nil => exact ⟨[], by rwa [List.append_nil], rfl, (List.append_nil _).symm⟩
  | cons t rest ih =>
    rw [Builder.offerAll]
    rcases offer_cases b t with ⟨offset, grown, happend, hoffer⟩ | ⟨hnone, hsame⟩
    · obtain ⟨-, -, harguments, -⟩ := append_eq_ok happend
      obtain ⟨more, hplaced, hoffsets, htaken⟩ := ih (hb.append happend)
      refine ⟨⟨offset, t.size, t.alignment⟩ :: more, ?_, ?_, ?_⟩
      · rw [hoffer]
        rwa [List.append_assoc] at hplaced
      · rw [hoffer, List.map_cons, hoffsets]
        rfl
      · rw [hoffer, htaken, harguments, List.append_assoc]
        rfl
    · obtain ⟨more, hplaced, hoffsets, htaken⟩ := ih hb
      refine ⟨more, ?_, ?_, ?_⟩
      · rwa [hsame]
      · rw [hsame, hoffsets, List.filterMap_cons, hnone]
      · rw [hsame, htaken, taken, taken, List.zip_cons_cons, List.filter_cons_of_neg]
        rw [hnone]
        exact Bool.false_ne_true

theorem prepare_eq_ok {b : Builder} {abi : Abi} {returnType : TypeToken} {p : Prepared}
    (h : b.prepare abi returnType = .ok (.ok p)) :
    ∃ used padded, alignUp b.bytes returnType.alignment = .ok p.returnOffset ∧
      checkedAdd p.returnOffset returnType.size = .ok used ∧
      alignUp used pointerSize = .ok padded ∧ checkedAdd padded pointerSize = .ok p.bytes ∧
      acceptSignature abi b.arguments returnType = .ok () ∧
      p.arguments = b.arguments ∧ p.returnType = returnType ∧
      p.maxAlignment = b.maxAlignment := by
  unfold prepare at h
  split at h
  · cases h
  · obtain ⟨⟨returnOffset, bytes⟩, hplace, h⟩ := bind_eq_ok h
    obtain ⟨offset', hoffset, hplace⟩ := bind_eq_ok hplace
    obtain ⟨used, hused, hplace⟩ := bind_eq_ok hplace
    obtain ⟨padded, hpadded, hplace⟩ := bind_eq_ok hplace
    obtain ⟨bytes', hbytes, hplace⟩ := bind_eq_ok hplace
    cases hplace
    obtain ⟨_, hsignature, hp⟩ := bind_eq_ok (Except.ok.inj h)
    cases hp
    exact ⟨used, padded, hoffset, hused, hpadded, hbytes, hsignature, rfl, rfl, rfl⟩

end Builder

/-! ## Specifications and their buffers -/

/-- What preparing a builder says of the specification it makes. -/
structure Prepared.Placed (p : Prepared) (slots : List Slot) : Prop where
  layout_eq : layout (p.arguments.map TypeToken.shape) = .ok slots
  return_next : NextMultiple (lastEnd 0 slots) p.returnType.alignment p.returnOffset
  return_le : p.returnOffset + p.returnType.size + pointerSize ≤ p.bytes
  bytes_dvd : pointerSize ∣ p.bytes
  bytes_lt : p.bytes < wordLimit

theorem Builder.Placed.prepare {b : Builder} {slots : List Slot} (hb : b.Placed slots)
    {abi : Abi} {returnType : TypeToken} {p : Prepared}
    (h : b.prepare abi returnType = .ok (.ok p)) : p.Placed slots := by
  obtain ⟨used, padded, hoffset, hused, hpadded, hbytes, -, harguments, hreturn, -⟩ :=
    prepare_eq_ok h
  obtain ⟨rfl, -⟩ := checkedAdd_eq_ok.mp hused
  obtain ⟨hbytes, hlt⟩ := checkedAdd_eq_ok.mp hbytes
  have hnext := nextMultiple_of_alignUp hpadded
  constructor
  · rw [harguments]
    exact hb.layout_eq
  · rw [hreturn, ← hb.bytes_eq]
    exact nextMultiple_of_alignUp hoffset
  · have hle := hnext.start_le
    rw [hreturn, hbytes]
    omega
  · rw [hbytes]
    exact Nat.dvd_add hnext.dvd (Nat.dvd_refl pointerSize)
  · omega

/-- A specification that came out of a builder. -/
def Prepared.Made (p : Prepared) : Prop :=
  ∃ context types abi returnType,
    ((Builder.empty context).offerAll types).2.prepare abi returnType = .ok (.ok p)

theorem Prepared.Made.placed {p : Prepared} (h : p.Made) : ∃ slots, p.Placed slots := by
  obtain ⟨context, types, abi, returnType, hp⟩ := h
  obtain ⟨slots, hb, -, -⟩ := (Builder.placed_empty context).offerAll types
  exact ⟨_, hb.prepare hp⟩

/-- What a call buffer keeps apart: arguments, return value, spare word and pointer array
follow one another. -/
structure Arena.Spaced (a : Arena) : Prop where
  packed : Packed 0 a.arguments
  arguments_le : lastEnd 0 a.arguments ≤ a.returnSlot.offset
  return_le : a.returnSlot.past ≤ a.pointerArray
  word_le : a.returnSlot.offset + pointerSize ≤ a.pointerArray
  size_eq : a.size = a.pointerArray + a.arity * pointerSize

/-- The buffer that `forSpec` makes, field by field. -/
theorem Prepared.Placed.forSpec {p : Prepared} {slots : List Slot} (h : p.Placed slots)
    (hroom : p.bytes + p.arity * pointerSize < wordLimit) :
    Arena.forSpec p = .ok {
      bytes := Bytes.zeros (p.bytes + p.arity * pointerSize), arguments := slots,
      pointerArray := p.bytes,
      returnSlot := ⟨p.returnOffset, p.returnType.size, p.returnType.alignment⟩ } := by
  rw [Arena.forSpec, alignUp_of_dvd (by decide) h.bytes_dvd]
  show (checkedAdd p.bytes (p.arity * pointerSize) >>= fun _ => _) = _
  rw [checkedAdd_of_lt hroom]
  show (layout (p.arguments.map TypeToken.shape) >>= fun _ => _) = _
  rw [h.layout_eq]
  rfl

/-- A buffer is made only where its true size is a word. -/
theorem Prepared.Placed.room {p : Prepared} {slots : List Slot} (h : p.Placed slots) {a : Arena}
    (ha : Arena.forSpec p = .ok a) : p.bytes + p.arity * pointerSize < wordLimit := by
  rw [Arena.forSpec, alignUp_of_dvd (by decide) h.bytes_dvd] at ha
  obtain ⟨_, hpointer, ha⟩ := bind_eq_ok ha
  cases hpointer
  obtain ⟨_, hlength, -⟩ := bind_eq_ok ha
  exact (checkedAdd_eq_ok.mp hlength).2

theorem Prepared.Placed.arity_eq {p : Prepared} {slots : List Slot} (h : p.Placed slots) :
    slots.length = p.arity := by
  have hshapes := (placeFrom_eq_ok h.layout_eq).2
  rw [← List.length_map Slot.shape, hshapes, List.length_map]
  rfl

theorem Prepared.Placed.spaced {p : Prepared} {slots : List Slot} (h : p.Placed slots) {a : Arena}
    (ha : Arena.forSpec p = .ok a) : a.Spaced := by
  have hroom := h.room ha
  rw [h.forSpec hroom] at ha
  cases ha
  have hreturn := h.return_le
  refine ⟨(placeFrom_eq_ok h.layout_eq).1, h.return_next.start_le, ?_, ?_, ?_⟩
  · show p.returnOffset + p.returnType.size ≤ p.bytes
    omega
  · show p.returnOffset + pointerSize ≤ p.bytes
    omega
  · show (Bytes.zeros _).length = p.bytes + slots.length * pointerSize
    rw [Bytes.length_zeros, h.arity_eq]

/-! ## Agreement -/

/-- How the offsets told while arguments were appended, the specification made of them and
its call buffer fit together. -/
structure LaidOut (offsets : List Nat) (types : List TypeToken) (p : Prepared) (a : Arena) :
    Prop where
  arguments_eq : p.arguments = types
  layout_eq : layout (types.map TypeToken.shape) = .ok a.arguments
  offsets_eq : a.arguments.map Slot.offset = offsets
  shapes_eq : a.arguments.map Slot.shape = types.map TypeToken.shape
  /-- Each slot starts at the least multiple of its alignment past the one before. -/
  packed : Packed 0 a.arguments
  disjoint : a.arguments.Pairwise fun s s' => s.past ≤ s'.offset
  maxAlignment_eq : p.maxAlignment = (types.map TypeToken.alignment).foldl max 0
  returnSlot_eq : a.returnSlot = ⟨p.returnOffset, p.returnType.size, p.returnType.alignment⟩
  return_next : NextMultiple (lastEnd 0 a.arguments) p.returnType.alignment p.returnOffset
  return_le : p.returnOffset + p.returnType.size ≤ a.pointerArray
  /-- The word that may be stored in place of a narrow result fits too. -/
  word_le : p.returnOffset + pointerSize ≤ a.pointerArray
  pointerArray_eq : a.pointerArray = p.bytes
  bytes_dvd : pointerSize ∣ p.bytes
  size_eq : a.pointerArray + p.arity * pointerSize = a.size
  /-- In memory that starts at a multiple of `maxAlignment`, a value whose alignment divides
  `maxAlignment` is aligned. -/
  aligned : ∀ base, maxAlignment ∣ base → ∀ s ∈ a.returnSlot :: a.arguments,
    s.alignment ∣ maxAlignment → s.alignment ∣ base + s.offset

/-- A builder that is offered any types, whether it takes them or not, tells the offsets at
which `layout` and the call buffer place those it took, and nothing in the buffer
overlaps. -/
theorem call_layout_agrees {context : CallContext} {types : List TypeToken} {abi : Abi}
    {returnType : TypeToken} {p : Prepared} {a : Arena}
    (hp : ((Builder.empty context).offerAll types).2.prepare abi returnType = .ok (.ok p))
    (ha : Arena.forSpec p = .ok a) :
    LaidOut (((Builder.empty context).offerAll types).1.filterMap Builder.offset?)
      (Builder.taken types ((Builder.empty context).offerAll types).1) p a := by
  obtain ⟨slots, hb, hoffsets, htaken⟩ := (Builder.placed_empty context).offerAll types
  have hplaced := hb.prepare hp
  have hspaced := hplaced.spaced ha
  obtain ⟨-, -, -, -, -, -, -, harguments, -, hmax⟩ := Builder.prepare_eq_ok hp
  rw [hplaced.forSpec (hplaced.room ha)] at ha
  cases ha
  have htypes := harguments.trans htaken
  have hlayout := hplaced.layout_eq
  rw [htypes] at hlayout
  refine {
    arguments_eq := htypes, layout_eq := hlayout, offsets_eq := hoffsets
    shapes_eq := (placeFrom_eq_ok hlayout).2, packed := hspaced.packed
    disjoint := hspaced.packed.pairwise, maxAlignment_eq := ?_, returnSlot_eq := rfl
    return_next := hplaced.return_next, return_le := hspaced.return_le
    word_le := hspaced.word_le, pointerArray_eq := rfl, bytes_dvd := hplaced.bytes_dvd
    size_eq := ?_, aligned := ?_ }
  · rw [hmax, hb.maxAlignment_eq, htaken]
    rfl
  · exact (Bytes.length_zeros _).symm
  · intro base hbase s hs hdvd
    refine Nat.dvd_add (Nat.dvd_trans hdvd hbase) ?_
    rcases List.mem_cons.mp hs with rfl | hs
    · exact hplaced.return_next.dvd
    · exact hspaced.packed.dvd hs

/-- A type that no call buffer can align. -/
def overaligned : TypeToken := .standing 32 32 13 (by decide)

/-- Between two types that are taken one is passed over. -/
theorem call_layout_agrees_passing_over :
    ∃ p a, ((Builder.empty ⟨false, true⟩).offerAll [.sint32, overaligned, .double]).2.prepare
        .default .uint8 = .ok (.ok p) ∧
      Arena.forSpec p = .ok a ∧ LaidOut [0, 8] [.sint32, .double] p a := by
  refine ⟨⟨[.sint32, .double], .uint8, 32, 16, 8, ⟨false, true⟩, .default⟩,
    ⟨Bytes.zeros 48, [⟨0, 4, 4⟩, ⟨8, 8, 8⟩], ⟨16, 1, 1⟩, 32⟩, rfl, rfl, ?_⟩
  exact @call_layout_agrees ⟨false, true⟩ [.sint32, overaligned, .double] .default .uint8 _ _
    rfl rfl

end CallBridge
