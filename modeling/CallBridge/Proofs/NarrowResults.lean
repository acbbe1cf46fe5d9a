/-
Narrow results as native code finds them.

A managed function writes an integer result narrower than a word into a cell of zeros, in as many
pieces as it likes, and native code is handed a full word.  `narrow_results_extended` says which:
the number that the writes have left, with the sign that the return type gives it, whatever the
native return area held before.
-/
import CallBridge.Proofs.Firing

namespace CallBridge

/-! ## Bytes as numbers -/

namespace Bytes

theorem span_eq (n : Nat) : span n = Nat.pow 2 (8 * n) := by
  induction n with
  | zero => rfl
  | succ n ih =>
    rw [span, ih, Nat.mul_succ]
    exact (Nat.mul_comm ..).trans (Nat.pow_add 2 (8 * n) 8).symm

theorem toNat_lt (bs : Bytes) : toNat bs < span bs.length := by
  induction bs with
  | nil => exact Nat.one_pos
  | cons b rest ih =>
    have hb := b.toNat_lt
    rw [toNat, List.length_cons, span]
    omega

/-- The bytes as a vector of bits, the first byte lowest. -/
def toBits (bs : Bytes) : BitVec (8 * bs.length) := BitVec.ofNat _ bs.toNat

theorem toNat_toBits (bs : Bytes) : bs.toBits.toNat = bs.toNat := by
  have hlt := toNat_lt bs
  rw [span_eq] at hlt
  rw [toBits, BitVec.toNat_ofNat]
  exact Nat.mod_eq_of_lt hlt

theorem toInt_toBits (bs : Bytes) : bs.toBits.toInt = bs.toInt := by
  have hspan := span_eq bs.length
  rw [BitVec.toInt_eq_toNat_cond, toNat_toBits, toInt, hspan]
  rfl

end Bytes

/-- The number that bytes stand for as a value of a type: two's complement if it is signed. -/
def TypeToken.numberOf (t : TypeToken) (bs : Bytes) : Int :=
  if t.isSigned then bs.toBits.toInt else bs.toBits.toNat

theorem toNat_extended (t : TypeToken) (number : Bytes) :
    ((extended t.isSigned number).toNat : Int) = t.numberOf number % UInt64.size := by
  have hspan : (UInt64.size : Int) = Bytes.span 8 := rfl
  unfold extended TypeToken.numberOf
  rw [hspan]
  cases t.isSigned with
  | true =>
    have hnonneg : 0 ≤ Bytes.toInt number % Bytes.span 8 := Int.emod_nonneg _ (by decide)
    simp only [if_true]
    rw [Bytes.ofInt, Bytes.toNat_ofNat, Int.natCast_emod, Int.toNat_of_nonneg hnonneg,
      Int.emod_emod, Bytes.toInt_toBits]
  | false =>
    simp only [Bool.false_eq_true, if_false]
    rw [Bytes.toNat_ofNat, Int.natCast_emod, Bytes.toNat_toBits]

/-! ## Writes in a row -/

/-- What is left of writes over zeros: at each place the byte of the last one that reaches so
far. -/
def Bytes.overlaid (size : Nat) (writes : List Bytes) : Bytes :=
  (List.range size).map fun i => (writes.filterMap fun data => data[i]?).getLast?.getD 0

theorem Bytes.getElem?_overlay (data base : Bytes) (i : Nat) :
    (overlay data base)[i]? = data[i]?.or base[i]? := by
  unfold overlay
  by_cases hi : i < data.length
  · rw [List.getElem?_append_left hi, List.getElem?_eq_getElem hi]
    rfl
  · rw [List.getElem?_append_right (Nat.not_lt.mp hi), List.getElem?_drop,
      List.getElem?_eq_none (Nat.not_lt.mp hi), Nat.add_sub_cancel' (Nat.not_lt.mp hi)]
    rfl

namespace RawBuffer

def zeroed (size : Nat) : RawBuffer := ⟨Bytes.zeros size⟩

/-- Write one after the other: the answers, and the buffer that is left.  A write that is refused
leaves it as it is. -/
def writeAll (b : RawBuffer) : List Bytes → List (Except Error Unit) × RawBuffer
  | [] => ([], b)
  | data :: rest =>
    match b.write data with
    | .ok written => (.ok () :: (written.writeAll rest).1, (written.writeAll rest).2)
    | .error e => (.error e :: (b.writeAll rest).1, (b.writeAll rest).2)

/-- The answer to a write into a buffer of `size` bytes. -/
def answer (size : Nat) (data : Bytes) : Except Error Unit :=
  if data.length ≤ size then .ok () else .error (.outOfBounds data.length size)

variable {b : RawBuffer} {data : Bytes}

theorem write_of_le (h : data.length ≤ b.size) : b.write data = .ok ⟨data.overlay b.bytes⟩ :=
  if_neg (Nat.not_lt.mpr h)

theorem write_of_lt (h : b.size < data.length) :
    b.write data = .error (.outOfBounds data.length b.size) := if_pos h

theorem writeAll_cons_of_le (h : data.length ≤ b.size) (rest : List Bytes) :
    b.writeAll (data :: rest) =
      (.ok () :: (writeAll ⟨data.overlay b.bytes⟩ rest).1,
        (writeAll ⟨data.overlay b.bytes⟩ rest).2) := by
  rw [writeAll, write_of_le h]

theorem writeAll_cons_of_lt (h : b.size < data.length) (rest : List Bytes) :
    b.writeAll (data :: rest) =
      (.error (.outOfBounds data.length b.size) :: (b.writeAll rest).1, (b.writeAll rest).2) := by
  rw [writeAll, write_of_lt h]

theorem size_overlay (h : data.length ≤ b.size) : size ⟨data.overlay b.bytes⟩ = b.size :=
  Bytes.length_overlay h

/-- Each write is answered by its own length, whatever came before. -/
theorem answers_writeAll (b : RawBuffer) (writes : List Bytes) :
    (b.writeAll writes).1 = writes.map (answer b.size) := by
  induction writes generalizing b with
  | nil => rfl
  | cons data rest ih =>
    rw [List.map_cons, answer]
    by_cases hfits : data.length ≤ b.size
    · rw [if_pos hfits, writeAll_cons_of_le hfits, ih, size_overlay hfits]
    · rw [if_neg hfits, writeAll_cons_of_lt (Nat.not_le.mp hfits), ih]

theorem size_writeAll (b : RawBuffer) (writes : List Bytes) :
    (b.writeAll writes).2.size = b.size := by
  induction writes generalizing b with
  | nil => rfl
  | cons data rest ih =>
    by_cases hfits : data.length ≤ b.size
    · rw [writeAll_cons_of_le hfits, ih, size_overlay hfits]
    · rw [writeAll_cons_of_lt (Nat.not_le.mp hfits), ih]

/-- A byte is that of the last write that was taken and reaches so far, or the byte that was
there. -/
theorem getElem?_writeAll (b : RawBuffer) (writes : List Bytes) (i : Nat) :
    (b.writeAll writes).2.bytes[i]? = b.bytes[i]?.map fun held =>
      ((writes.filter fun data => data.length ≤ b.size).filterMap
        fun data => data[i]?).getLast?.getD held := by
  induction writes generalizing b with
  | nil => cases h : b.bytes[i]? <;> exact h
  | cons data rest ih =>
    by_cases hfits : data.length ≤ b.size
    · rw [writeAll_cons_of_le hfits, ih, size_overlay hfits, Bytes.getElem?_overlay,
        List.filter_cons_of_pos (by simpa using hfits)]
      cases hdata : data[i]? with
      | none => simp only [Option.none_or, List.filterMap_cons, hdata]
      | some byte =>
        have hi : i < b.bytes.length :=
          Nat.lt_of_lt_of_le (List.getElem?_eq_some_iff.mp hdata).1 hfits
        simp only [Option.some_or, List.filterMap_cons, hdata, List.getElem?_eq_getElem hi,
          Option.map_some, List.getLast?_cons, Option.getD_some]
    · rw [writeAll_cons_of_lt (Nat.not_le.mp hfits), ih,
        List.filter_cons_of_neg (by simpa using hfits)]

theorem bytes_writeAll_zeroed (size : Nat) (writes : List Bytes) :
    ((zeroed size).writeAll writes).2.bytes =
      Bytes.overlaid size (writes.filter fun data => data.length ≤ size) := by
  have hsize : (zeroed size).size = size := Bytes.length_zeros size
  refine List.ext_getElem? fun i => ?_
  rw [getElem?_writeAll, hsize, Bytes.overlaid, List.getElem?_map]
  by_cases hi : i < size
  · rw [List.getElem?_range hi, zeroed, Bytes.zeros, List.getElem?_replicate, if_pos hi]
    rfl
  · rw [List.getElem?_eq_none (by simpa [zeroed] using hi),
      List.getElem?_eq_none (by simpa using hi)]
    rfl

/-- Whatever a buffer of zeros has become, one write would have done. -/
theorem exists_writes {size : Nat} {made : RawBuffer} (h : made.bytes.length = size) :
    ∃ writes, ((zeroed size).writeAll writes).2 = made := by
  have hfits : made.bytes.length ≤ (zeroed size).size :=
    Nat.le_of_eq (h.trans (Bytes.length_zeros size).symm)
  have hrest : (Bytes.zeros size).drop made.bytes.length = [] :=
    List.drop_of_length_le (Nat.le_of_eq ((Bytes.length_zeros size).trans h.symm))
  refine ⟨[made.bytes], ?_⟩
  rw [writeAll_cons_of_le hfits, zeroed, Bytes.overlay, hrest, List.append_nil]
  rfl

end RawBuffer

/-! ## The word -/

/-- A word holds what writes into a cell of zeros have left of a value: too long a write is refused
and leaves nothing, and the rest is extended to the word by the type. -/
structure TypeToken.Extends (t : TypeToken) (writes : List Bytes) (word : Bytes) : Prop where
  answers_eq : ((RawBuffer.zeroed t.size).writeAll writes).1 = writes.map fun data =>
    if data.length ≤ t.size then .ok () else .error (.outOfBounds data.length t.size)
  length_eq : word.length = 8
  toNat_eq : (word.toNat : Int) = t.numberOf
    (Bytes.overlaid t.size (writes.filter fun data => data.length ≤ t.size)) % UInt64.size
  low_eq : word.take t.size =
    Bytes.overlaid t.size (writes.filter fun data => data.length ≤ t.size)

theorem widen_of_size {t : TypeToken} (hsize : t.size = 1 ∨ t.size = 2 ∨ t.size = 4)
    (cell : Bytes) : widen t cell = extended t.isSigned (cell.take t.size) := by
  unfold widen
  rcases hsize with h | h | h <;> simp only [h]

theorem TypeToken.isVoid_of_narrow {t : TypeToken} (h : t.isNarrowInteger = true) :
    t.isVoid = false := by
  have hkind := (Bool.and_eq_true_iff.mp h).1
  refine beq_eq_false_iff_ne.mpr fun hzero => ?_
  rw [hzero] at hkind
  exact absurd hkind (by decide)

namespace Closure

variable {σ κ : Type} {c : Closure σ κ}

/-- A narrow result is handed to native code as its number. -/
theorem handed_of_narrow (hnarrow : c.spec.returnType.isNarrowInteger = true)
    (hsize : c.spec.returnType.size = 1 ∨ c.spec.returnType.size = 2 ∨ c.spec.returnType.size = 4)
    {left : Bytes} (hleft : left.length = c.spec.returnType.size) :
    c.handed left = extended c.spec.returnType.isSigned left := by
  rw [handed, TypeToken.isVoid_of_narrow hnarrow, if_neg Bool.false_ne_true, stored,
    if_pos hnarrow, widen_of_size hsize, ← hleft]
  congr 1
  exact List.take_left

theorem resultBuffer_of_narrow (hnarrow : c.spec.returnType.isNarrowInteger = true)
    (area : Bytes) : c.resultBuffer area = RawBuffer.zeroed c.spec.returnType.size :=
  if_pos hnarrow

variable [Journal σ]

theorem nativeOver_of_narrow (hnarrow : c.spec.returnType.isNarrowInteger = true)
    {t u v w t' : Thread σ} {leave : Run σ Unit} {f : ManagedFunction σ κ} {arguments : List Bytes}
    {made : RawBuffer} (henter : c.enter t = (.ok leave, u))
    (hlive : c.resolve? c.key u = (.ok (some f), v))
    (harity : f.arity = (c.buffers arguments).length)
    (hcall : f.call (c.buffers arguments) (.zeroed c.spec.returnType.size) v = (.ok made, w))
    (hleave : leave w = (.ok (), t')) (area : Bytes) :
    c.nativeOver area arguments t = (.ok (c.handed made.bytes), t') := by
  rw [nativeOver_eq, Run.map_apply, resultBuffer_of_narrow hnarrow,
    serve_of_live henter hlive harity, within_of_ok hcall hleave]

/-- A live function of the right arity, whatever it writes into its result buffer: native code gets
one word, whatever its return area held, and that word is the number that the writes have left. -/
theorem narrow_results_extended (hnarrow : c.spec.returnType.isNarrowInteger = true)
    (hsize : c.spec.returnType.size = 1 ∨ c.spec.returnType.size = 2 ∨ c.spec.returnType.size = 4)
    {t u v w t' : Thread σ} {leave : Run σ Unit} {f : ManagedFunction σ κ} {arguments : List Bytes}
    {made : RawBuffer} (henter : c.enter t = (.ok leave, u))
    (hlive : c.resolve? c.key u = (.ok (some f), v))
    (harity : f.arity = (c.buffers arguments).length)
    (hcall : f.call (c.buffers arguments) (.zeroed c.spec.returnType.size) v = (.ok made, w))
    (hleave : leave w = (.ok (), t')) :
    (∃ writes, ((RawBuffer.zeroed c.spec.returnType.size).writeAll writes).2 = made) ∧
      ∃ word, (∀ area, c.nativeOver area arguments t = (.ok word, t')) ∧
        ∀ writes, ((RawBuffer.zeroed c.spec.returnType.size).writeAll writes).2 = made →
          c.spec.returnType.Extends writes word := by
  have hlength : made.bytes.length = c.spec.returnType.size :=
    (ManagedFunction.call_size hcall).trans (Bytes.length_zeros _)
  have hword := handed_of_narrow hnarrow hsize hlength
  have hsmall : made.bytes.length ≤ 8 := by
    rw [hlength]
    exact Nat.le_of_lt (TypeToken.size_of_narrow hnarrow)
  refine ⟨RawBuffer.exists_writes hlength, c.handed made.bytes, fun area => ?_,
    fun writes hwrites => ?_⟩
  · exact nativeOver_of_narrow hnarrow henter hlive harity hcall hleave area
  · have hbytes := RawBuffer.bytes_writeAll_zeroed c.spec.returnType.size writes
    rw [hwrites] at hbytes
    rw [hword]
    refine ⟨?_, length_extended _ _, ?_, ?_⟩
    · rw [RawBuffer.answers_writeAll, RawBuffer.zeroed, RawBuffer.size, Bytes.length_zeros]
      rfl
    · rw [toNat_extended, hbytes]
    · rw [← hbytes, ← hlength]
      exact take_extended _ hsmall

/-- A function without arguments that makes these writes. -/
def writing (writes : List Bytes) : ManagedFunction (List LogRecord) Unit where
  arity := 0
  start := return ()
  apply := fun _ _ _ => return ()
  finish := fun _ result => return (result.writeAll writes).2
  finish_keepsSize := fun _ result made t t' h => by
    cases h
    exact result.size_writeAll writes

/-- A whole number, three bytes that have no room, and a byte over the low one. -/
def pieces : List Bytes := [[0xfe, 0xff], [1, 2, 3], [0x80]]

def writingFactory : ClosureFactory (List LogRecord) Unit where
  lock := .none
  resolve? := fun _ => return some (writing pieces)
  onExpired := ExpiryPolicy.ignore.hook

/-- Two of three writes leave -128 in two bytes, and the word is -128 too. -/
theorem narrow_results_extended_negative :
    ∃ p : Prepared, (Builder.empty ⟨true, false⟩).prepare .default .sint16 = .ok (.ok p) ∧
      ∃ word, (∀ area, ((writingFactory.closure p 1).nativeOver area [] ⟨5, []⟩).1 = .ok word) ∧
        TypeToken.sint16.Extends pieces word ∧ (word.toNat : Int) = -128 % UInt64.size := by
  let p : Prepared := ⟨[], .sint16, 16, 0, 0, ⟨true, false⟩, .default⟩
  obtain ⟨-, word, hword, hextends⟩ := @narrow_results_extended _ _ (writingFactory.closure p 1) _
    rfl (Or.inr (Or.inl rfl)) ⟨5, []⟩ ⟨5, []⟩ ⟨5, []⟩ ⟨5, []⟩ ⟨5, []⟩ (pure ()) (writing pieces) []
    ⟨[0x80, 0xff]⟩ rfl rfl rfl rfl rfl
  have hpieces : TypeToken.sint16.Extends pieces word := hextends pieces rfl
  have hnumber : TypeToken.sint16.numberOf
      (Bytes.overlaid 2 (pieces.filter fun data => data.length ≤ 2)) = -128 := by decide
  have hvalue := hpieces.toNat_eq
  exact ⟨p, rfl, word, fun area => congrArg Prod.fst (hword area), hpieces, hnumber ▸ hvalue⟩

end Closure

end CallBridge
