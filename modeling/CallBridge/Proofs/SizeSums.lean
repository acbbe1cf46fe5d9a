/-
Sums of sizes, in words and without bound.

Every sum of a layout is checked on its own, and rounding up subtracts before it adds.  The true
layout is computed here in natural numbers, and `exact_sums_of_appended` says that nothing else
decides: for a builder, the specification it makes and the call buffer of that, a computation
panics exactly if its true size is no word, and has the true result if it is one.
-/
import CallBridge.Proofs.HandlePhases

namespace CallBridge

/-! ## Computations that fit -/

/-- What a computation comes to whose true size is `size`: a panic at a sum exactly if that is no
word, and otherwise the value. -/
structure Fits {α : Type} (x : Except Panic α) (size : Nat) (value : α) : Prop where
  panics_iff : (∃ p, x = .error p) ↔ wordLimit ≤ size
  panic_eq : ∀ p, x = .error p → p = .overflow
  value_eq : ∀ a, x = .ok a → a = value

theorem fits_of_asWord {α : Type} {x : Except Panic α} {size : Nat} {value : α}
    (h : x = (asWord size).map fun _ => value) : Fits x size value := by
  subst h
  unfold asWord
  by_cases hsize : size < wordLimit
  · rw [if_pos hsize]
    refine ⟨⟨?_, fun hle => absurd hsize (Nat.not_lt.mpr hle)⟩, ?_, ?_⟩
    · rintro ⟨p, hp⟩
      cases hp
    · intro p hp
      cases hp
    · intro a ha
      exact (Except.ok.inj ha).symm
  · rw [if_neg hsize]
    refine ⟨⟨fun _ => Nat.not_lt.mp hsize, fun _ => ⟨.overflow, rfl⟩⟩, ?_, ?_⟩
    · intro p hp
      exact (Except.error.inj hp).symm
    · intro a ha
      cases ha

/-! ## The true layout -/

/-- Slots for shapes from `start` on, however large. -/
def slotsFrom (start : Nat) : List (Nat × Nat) → List Slot
  | [] => []
  | (size, alignment) :: rest =>
    let slot : Slot := ⟨roundUp start alignment, size, alignment⟩
    slot :: slotsFrom slot.past rest

theorem packed_slotsFrom {shapes : List (Nat × Nat)} (hpos : ∀ s ∈ shapes, 0 < s.2) (start : Nat) :
    Packed start (slotsFrom start shapes) := by
  induction shapes generalizing start with
  | nil => trivial
  | cons shape rest ih =>
    exact ⟨nextMultiple_roundUp (hpos shape List.mem_cons_self),
      ih (fun s hs => hpos s (List.mem_cons_of_mem shape hs)) _⟩

theorem slotsFrom_concat (start : Nat) (shapes : List (Nat × Nat)) (size alignment : Nat) :
    slotsFrom start (shapes ++ [(size, alignment)]) = slotsFrom start shapes ++
      [⟨roundUp (lastEnd start (slotsFrom start shapes)) alignment, size, alignment⟩] := by
  induction shapes generalizing start with
  | nil => rfl
  | cons shape rest ih => exact congrArg (_ :: ·) (ih _)

/-- Placing shapes panics exactly if the last of them would end past the words.  Induction on the
shapes: no slot ends before it starts, so a sum that does not fit is no smaller than the one before
it. -/
theorem placeFrom_eq {shapes : List (Nat × Nat)} (hpos : ∀ s ∈ shapes, 0 < s.2) {start : Nat}
    (hstart : start < wordLimit) :
    placeFrom start shapes =
      (asWord (lastEnd start (slotsFrom start shapes))).map fun _ => slotsFrom start shapes := by
  induction shapes generalizing start with
  | nil =>
    show .ok [] = (asWord start).map _
    rw [asWord, if_pos hstart]
    rfl
  | cons shape rest ih =>
    obtain ⟨size, alignment⟩ := shape
    have hrest : ∀ s ∈ rest, 0 < s.2 := fun s hs => hpos s (List.mem_cons_of_mem _ hs)
    let slot : Slot := ⟨roundUp start alignment, size, alignment⟩
    have hpast : slot.past ≤ lastEnd slot.past (slotsFrom slot.past rest) :=
      (packed_slotsFrom hrest slot.past).start_le_lastEnd
    have hoffset : slot.offset ≤ slot.past := Nat.le_add_right ..
    rw [placeFrom, alignUp_eq_asWord (hpos _ List.mem_cons_self) hstart]
    refine asWord_bind (Nat.le_trans hoffset hpast) fun _ => ?_
    show (asWord slot.past >>= fun next => placeFrom next rest >>= fun slots =>
      pure (slot :: slots)) = _
    refine asWord_bind hpast fun hfits => ?_
    rw [ih hrest hfits]
    cases asWord (lastEnd slot.past (slotsFrom slot.past rest)) <;> rfl

/-- Where arguments of the given types end. -/
def argumentsEnd (types : List TypeToken) : Nat :=
  lastEnd 0 (slotsFrom 0 (types.map TypeToken.shape))

theorem argumentsEnd_concat (types : List TypeToken) (t : TypeToken) :
    argumentsEnd (types ++ [t]) = roundUp (argumentsEnd types) t.alignment + t.size := by
  unfold argumentsEnd
  rw [List.map_append, List.map_singleton, TypeToken.shape, slotsFrom_concat, lastEnd_concat]
  rfl

/-- Where a return value after them goes. -/
def returnStart (types : List TypeToken) (returnType : TypeToken) : Nat :=
  roundUp (argumentsEnd types) returnType.alignment

/-- What arguments, return value and spare word need. -/
def preparedSize (types : List TypeToken) (returnType : TypeToken) : Nat :=
  roundUp (returnStart types returnType + returnType.size) pointerSize + pointerSize

/-- What the call buffer needs, pointer array included. -/
def bufferSize (types : List TypeToken) (returnType : TypeToken) : Nat :=
  preparedSize types returnType + types.length * pointerSize

namespace Builder

/-! ## Builders -/

/-- A builder has summed up the sizes of exactly these types. -/
structure Sums (types : List TypeToken) (b : Builder) : Prop where
  arguments_eq : b.arguments = types
  bytes_eq : b.bytes = argumentsEnd types
  bytes_lt : b.bytes < wordLimit

/-- The builder with one more argument, however large. -/
def grown (b : Builder) (types : List TypeToken) (t : TypeToken) : Builder where
  arguments := types ++ [t]
  bytes := argumentsEnd (types ++ [t])
  maxAlignment := max b.maxAlignment t.alignment
  context := b.context

variable {b : Builder} {types : List TypeToken}

theorem Sums.append_eq (h : Sums types b) {t : TypeToken}
    (haligned : t.alignment ≤ CallBridge.maxAlignment) :
    b.append t = (asWord (argumentsEnd (types ++ [t]))).map fun _ =>
      .ok (roundUp (argumentsEnd types) t.alignment, b.grown types t) := by
  have hcheck : checkAlignment t = .ok () := if_neg (Nat.not_lt.mpr haligned)
  have hlt := h.bytes_lt
  rw [append, hcheck]
  show (alignUp b.bytes t.alignment >>= fun _ => _) = _
  rw [alignUp_eq_asWord t.alignment_pos hlt, h.bytes_eq]
  refine asWord_bind (argumentsEnd_concat types t ▸ Nat.le_add_right ..) fun _ => ?_
  rw [checkedAdd_eq_asWord, ← argumentsEnd_concat, asWord, h.arguments_eq]
  split <;> rfl

theorem Sums.append (h : Sums types b) {t : TypeToken} {offset : Nat} {next : Builder}
    (happend : b.append t = .ok (.ok (offset, next))) : Sums (types ++ [t]) next := by
  obtain ⟨hoffset, hbytes, harguments, -⟩ := append_eq_ok happend
  obtain ⟨hbytes, hlt⟩ := checkedAdd_eq_ok.mp hbytes
  have hround : offset = roundUp b.bytes t.alignment :=
    (nextMultiple_of_alignUp hoffset).unique (nextMultiple_roundUp t.alignment_pos)
  refine ⟨by rw [harguments, h.arguments_eq], ?_, by omega⟩
  rw [hbytes, hround, h.bytes_eq, argumentsEnd_concat]

theorem Sums.appendAll (h : Sums types b) {more : List TypeToken} {last : Builder}
    (hall : b.appendAll more = .ok (.ok last)) : Sums (types ++ more) last := by
  induction more generalizing b types with
  | nil =>
    cases hall
    rwa [List.append_nil]
  | cons t rest ih =>
    rw [Builder.appendAll] at hall
    split at hall
    · rename_i offset next happend
      have hrest := ih (h.append happend) hall
      rwa [List.append_assoc] at hrest
    · cases hall
    · cases hall

theorem sums_empty (context : CallContext) : Sums [] (empty context) :=
  ⟨rfl, rfl, Nat.zero_lt_succ _⟩

/-- The specification that a builder makes, however large. -/
def prepared (b : Builder) (types : List TypeToken) (abi : Abi) (returnType : TypeToken) :
    Prepared where
  arguments := types
  returnType := returnType
  bytes := preparedSize types returnType
  returnOffset := returnStart types returnType
  maxAlignment := b.maxAlignment
  context := b.context
  abi := abi

theorem Sums.prepare (h : Sums types b) (abi : Abi) {returnType : TypeToken}
    (haligned : returnType.alignment ≤ CallBridge.maxAlignment) :
    b.prepare abi returnType = (asWord (preparedSize types returnType)).map fun _ =>
      (acceptSignature abi types returnType).map fun _ => b.prepared types abi returnType := by
  have hcheck : checkAlignment returnType = .ok () := if_neg (Nat.not_lt.mpr haligned)
  have hoffset : b.trueReturnOffset returnType = returnStart types returnType := by
    rw [trueReturnOffset, h.bytes_eq, returnStart]
  have hsize : b.trueSize returnType = preparedSize types returnType := by
    rw [trueSize, hoffset, preparedSize]
  rw [Builder.prepare, hcheck]
  show (b.returnPlacement returnType >>= fun _ => _) = _
  rw [returnPlacement_eq h.bytes_lt, hoffset, hsize, h.arguments_eq]
  unfold asWord
  split
  · show Except.ok (acceptSignature abi types returnType >>= fun _ => _) = _
    cases acceptSignature abi types returnType <;> rfl
  · rfl

/-- A type that no buffer can align is refused before anything is summed. -/
theorem refuses_overaligned (b : Builder) {t : TypeToken}
    (h : CallBridge.maxAlignment < t.alignment) :
    b.append t = .ok (.error (.unsupportedAlignment t.alignment CallBridge.maxAlignment)) ∧
      ∀ abi, b.prepare abi t =
        .ok (.error (.unsupportedAlignment t.alignment CallBridge.maxAlignment)) := by
  have hcheck : checkAlignment t =
      .error (.unsupportedAlignment t.alignment CallBridge.maxAlignment) := if_pos h
  exact ⟨by rw [append, hcheck], fun abi => by rw [prepare, hcheck]⟩

/-- A prepare that succeeds makes that specification, and its size is a word. -/
theorem Sums.prepared_eq (h : Sums types b) {abi : Abi} {returnType : TypeToken} {p : Prepared}
    (hp : b.prepare abi returnType = .ok (.ok p)) :
    p = b.prepared types abi returnType ∧ preparedSize types returnType < wordLimit := by
  by_cases haligned : returnType.alignment ≤ CallBridge.maxAlignment
  · rw [h.prepare abi haligned, asWord] at hp
    split at hp
    · rename_i hlt
      have hmade := Except.ok.inj hp
      cases hsignature : acceptSignature abi types returnType with
      | error e =>
        rw [hsignature] at hmade
        cases hmade
      | ok _ =>
        rw [hsignature] at hmade
        exact ⟨(Except.ok.inj hmade).symm, hlt⟩
    · cases hp
  · rw [(b.refuses_overaligned (Nat.not_le.mp haligned)).2] at hp
    cases hp

end Builder

/-! ## Call buffers -/

/-- The call buffer of a specification for `types`, however large. -/
def zeroedArena (types : List TypeToken) (returnType : TypeToken) : Arena where
  bytes := Bytes.zeros (bufferSize types returnType)
  arguments := slotsFrom 0 (types.map TypeToken.shape)
  returnSlot := ⟨returnStart types returnType, returnType.size, returnType.alignment⟩
  pointerArray := preparedSize types returnType

theorem dvd_preparedSize (types : List TypeToken) (returnType : TypeToken) :
    pointerSize ∣ preparedSize types returnType :=
  Nat.dvd_add (nextMultiple_roundUp (by decide)).dvd (Nat.dvd_refl pointerSize)

theorem layout_of_sums {types : List TypeToken} (h : argumentsEnd types < wordLimit) :
    layout (types.map TypeToken.shape) = .ok (slotsFrom 0 (types.map TypeToken.shape)) := by
  have hpos : ∀ s ∈ types.map TypeToken.shape, 0 < s.2 := by
    intro s hs
    obtain ⟨t, -, rfl⟩ := List.mem_map.mp hs
    exact t.alignment_pos
  have hfits : asWord (lastEnd 0 (slotsFrom 0 (types.map TypeToken.shape))) = .ok _ := if_pos h
  rw [layout, placeFrom_eq hpos (Nat.zero_lt_succ _), hfits]
  rfl

theorem Builder.Sums.forSpec {b : Builder} {types : List TypeToken} (h : b.Sums types) {abi : Abi}
    {returnType : TypeToken} {p : Prepared} (hp : b.prepare abi returnType = .ok (.ok p)) :
    Arena.forSpec p = (asWord (bufferSize types returnType)).map fun _ =>
      zeroedArena types returnType := by
  obtain ⟨rfl, hlt⟩ := h.prepared_eq hp
  have hlayout := layout_of_sums (h.bytes_eq ▸ h.bytes_lt)
  rw [Arena.forSpec]
  show (alignUp (preparedSize types returnType) pointerSize >>= fun _ => _) = _
  rw [alignUp_of_dvd (by decide) (dvd_preparedSize types returnType)]
  show (asWord (bufferSize types returnType) >>= fun _ =>
    layout (types.map TypeToken.shape) >>= fun _ => _) = _
  rw [hlayout]
  cases hsize : asWord (bufferSize types returnType) with
  | error p => rfl
  | ok n =>
    unfold asWord at hsize
    split at hsize
    · cases hsize
      rfl
    · cases hsize

/-! ## No sum decides too early or too late -/

/-- What becomes of a builder that holds `types`: whatever is asked of it fits exactly if its true
size is a word. -/
structure Builder.ExactSums (types : List TypeToken) (b : Builder) : Prop where
  holds : b.arguments = types ∧ b.bytes = argumentsEnd types
  append_fits : ∀ t, t.alignment ≤ CallBridge.maxAlignment →
    Fits (b.append t) (argumentsEnd (types ++ [t]))
      (.ok (roundUp (argumentsEnd types) t.alignment, b.grown types t))
  /-- An argument that does not fit leaves the builder. -/
  append_kept : ∀ t p, b.append t = .error p → b.offer t = (.error p, b)
  prepare_fits : ∀ abi r, r.alignment ≤ CallBridge.maxAlignment →
    Fits (b.prepare abi r) (preparedSize types r)
      ((acceptSignature abi types r).map fun _ => b.prepared types abi r)
  overaligned : ∀ t, CallBridge.maxAlignment < t.alignment →
    b.append t = .ok (.error (.unsupportedAlignment t.alignment CallBridge.maxAlignment)) ∧
      ∀ abi, b.prepare abi t =
        .ok (.error (.unsupportedAlignment t.alignment CallBridge.maxAlignment))
  forSpec_fits : ∀ abi r p, b.prepare abi r = .ok (.ok p) →
    Fits (Arena.forSpec p) (bufferSize types r) (zeroedArena types r)

namespace Builder

/-- Whatever a builder has accepted, appending to it, preparing it and making the call buffer
panic exactly if the true size is no word, and have the true result otherwise. -/
theorem exact_sums_of_appended {context : CallContext} {types : List TypeToken} {b : Builder}
    (h : (empty context).appendAll types = .ok (.ok b)) : b.ExactSums types := by
  have hsums : b.Sums types := (sums_empty context).appendAll h
  exact {
    holds := ⟨hsums.arguments_eq, hsums.bytes_eq⟩
    append_fits := fun t ht => fits_of_asWord (hsums.append_eq ht)
    append_kept := fun t p hp => by rw [offer, hp]
    prepare_fits := fun abi r hr => fits_of_asWord (hsums.prepare abi hr)
    overaligned := fun t ht => b.refuses_overaligned ht
    forSpec_fits := fun abi r p hp => fits_of_asWord (hsums.forSpec hp) }

/-- All but the last 24 of the bytes there are. -/
def nearlyAll : TypeToken :=
  .standing 0xffffffffffffffe8 1 TypeToken.structKind Handle.byte_aligned

/-- 22 bytes at a multiple of three. -/
def thirds : TypeToken := .standing 22 3 TypeToken.structKind (by decide)

/-- Beside such an argument there is room for a byte as the result and for the spare word, but not
for a pointer; and rounding up to a multiple of three takes the two bytes that `thirds` would
need. -/
theorem exact_sums_of_appended_nearly_all :
    ∃ b p, (empty ⟨false, false⟩).appendAll [nearlyAll] = .ok (.ok b) ∧
      b.ExactSums [nearlyAll] ∧ b.append thirds = .error .overflow ∧
      b.prepare .default .uint8 = .ok (.ok p) ∧ p.bytes + pointerSize = wordLimit ∧
      Arena.forSpec p = .error .overflow := by
  have happended : (empty ⟨false, false⟩).appendAll [nearlyAll] =
      .ok (.ok ⟨[nearlyAll], 0xffffffffffffffe8, 1, ⟨false, false⟩⟩) := rfl
  have hexact := exact_sums_of_appended happended
  have hprepared : prepare ⟨[nearlyAll], 0xffffffffffffffe8, 1, ⟨false, false⟩⟩ .default .uint8 =
      .ok (.ok _) := rfl
  obtain ⟨p, hp⟩ := (hexact.append_fits thirds (by decide)).panics_iff.mpr (by decide)
  obtain ⟨q, hq⟩ := (hexact.forSpec_fits _ _ _ hprepared).panics_iff.mpr (by decide)
  obtain rfl := (hexact.append_fits thirds (by decide)).panic_eq p hp
  obtain rfl := (hexact.forSpec_fits _ _ _ hprepared).panic_eq q hq
  exact ⟨_, _, happended, hexact, hp, hprepared, rfl, hq⟩

end Builder

end CallBridge
