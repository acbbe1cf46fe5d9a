/-
Byte strings in memory order.

Numbers are little-endian.  `overlay` is the effect of a write at the start of a
region and `splice` the effect of one inside it; both keep the length when the data
fits, which is what every caller checks first.
-/

namespace CallBridge

abbrev Bytes := List UInt8

namespace Bytes

def zeros (n : Nat) : Bytes := List.replicate n 0

/-- The low `n` bytes of `v`, least significant first. -/
def ofNat : Nat → Nat → Bytes
  | 0, _ => []
  | n + 1, v => UInt8.ofNat v :: ofNat n (v / 256)

def toNat : Bytes → Nat
  | [] => 0
  | b :: rest => b.toNat + 256 * toNat rest

def span : Nat → Nat
  | 0 => 1
  | n + 1 => 256 * span n

/-- Two's complement in `n` bytes. -/
def ofInt (n : Nat) (v : Int) : Bytes := ofNat n (v % span n).toNat

/-- The bytes read as a two's complement number. -/
def toInt (bs : Bytes) : Int :=
  if 2 * toNat bs < span bs.length then toNat bs else (toNat bs : Int) - span bs.length

def slice (bs : Bytes) (start count : Nat) : Bytes := (bs.drop start).take count

/-- `data` laid over the first bytes of `base`. -/
def overlay (data base : Bytes) : Bytes := data ++ base.drop data.length

/-- `data` laid over `base` from byte `start` on. -/
def splice (base : Bytes) (start : Nat) (data : Bytes) : Bytes :=
  base.take start ++ overlay data (base.drop start)

@[simp] theorem length_zeros (n : Nat) : (zeros n).length = n := List.length_replicate

@[simp] theorem length_ofNat (n v : Nat) : (ofNat n v).length = n := by
  induction n generalizing v with
  | zero => rfl
  | succ n ih => simp [ofNat, ih]

theorem length_of_mem_ofNat {α : Type} {values : List α} {number : α → Nat} {n : Nat}
    {piece : Bytes} (h : piece ∈ values.map fun a => ofNat n (number a)) : piece.length = n := by
  obtain ⟨a, -, rfl⟩ := List.mem_map.mp h
  exact length_ofNat n (number a)

theorem length_overlay {data base : Bytes} (h : data.length ≤ base.length) :
    (overlay data base).length = base.length := by
  simp [overlay]; omega

theorem length_splice {base data : Bytes} {start : Nat} (h : start + data.length ≤ base.length) :
    (splice base start data).length = base.length := by
  simp [splice, overlay]; omega

theorem length_slice (bs : Bytes) {start count : Nat} (h : start + count ≤ bs.length) :
    (slice bs start count).length = count := by
  simp only [slice, List.length_take, List.length_drop]
  omega

theorem slice_zeros {n start count : Nat} (h : start + count ≤ n) :
    slice (zeros n) start count = zeros count := by
  have hmin : min count (n - start) = count := by omega
  simp [slice, zeros, hmin]

theorem slice_splice {base data : Bytes} {start count : Nat} (hd : data.length ≤ count)
    (hb : start + count ≤ base.length) :
    slice (splice base start data) start count = overlay data (slice base start count) := by
  have hstart : (base.take start).length = start := by rw [List.length_take]; omega
  rw [slice, splice, List.drop_append_of_le_length (by omega), List.drop_of_length_le (by omega),
    List.nil_append, overlay, overlay, slice, List.take_append, List.take_of_length_le hd,
    List.drop_take]

theorem slice_splice_of_disjoint {base data : Bytes} {start other count : Nat}
    (hb : start + data.length ≤ base.length)
    (h : other + count ≤ start ∨ start + data.length ≤ other) :
    slice (splice base start data) other count = slice base other count := by
  have hstart : (base.take start).length = start := by rw [List.length_take]; omega
  rw [slice, splice]
  rcases h with h | h
  · rw [List.drop_append_of_le_length (by omega), List.take_append_of_le_length
      (by rw [List.length_drop]; omega), List.drop_take, List.take_take,
      Nat.min_eq_left (by omega)]
    rfl
  · rw [overlay, ← List.append_assoc, List.drop_append, List.drop_of_length_le
      (by rw [List.length_append]; omega), List.nil_append, List.drop_drop, List.drop_drop,
      List.length_append, hstart]
    rw [show start + (data.length + (other - (start + data.length))) = other by omega]
    rfl

theorem slice_splice_within {base data : Bytes} {start other count : Nat}
    (hb : start + data.length ≤ base.length) (h : other + count ≤ data.length) :
    slice (splice base start data) (start + other) count = slice data other count := by
  have hstart : (base.take start).length = start := by rw [List.length_take]; omega
  rw [slice, splice, overlay, List.drop_append, List.drop_of_length_le (by omega),
    List.nil_append, hstart, Nat.add_sub_cancel_left, List.drop_append_of_le_length (by omega),
    List.take_append_of_le_length (by rw [List.length_drop]; omega)]
  rfl

theorem take_slice {bs : Bytes} {start count n : Nat} (h : n ≤ count) :
    (slice bs start count).take n = slice bs start n := by
  simp [slice, List.take_take, Nat.min_eq_left h]

theorem length_flatten {pieces : List Bytes} {n : Nat} (h : ∀ p ∈ pieces, p.length = n) :
    pieces.flatten.length = pieces.length * n := by
  induction pieces with
  | nil => exact (Nat.zero_mul n).symm
  | cons p rest ih =>
    rw [List.flatten_cons, List.length_append, h p List.mem_cons_self,
      ih fun q hq => h q (List.mem_cons_of_mem p hq), List.length_cons, Nat.succ_mul, Nat.add_comm]

/-- The pieces of a list of equally long ones, one by one. -/
theorem slice_flatten {pieces : List Bytes} {n i : Nat} {piece : Bytes}
    (hn : ∀ p ∈ pieces, p.length = n) (hi : pieces[i]? = some piece) :
    slice pieces.flatten (i * n) n = piece := by
  induction pieces generalizing i with
  | nil => cases hi
  | cons p rest ih =>
    have hp : p.length = n := hn p List.mem_cons_self
    have hrest : ∀ q ∈ rest, q.length = n := fun q hq => hn q (List.mem_cons_of_mem p hq)
    rw [List.flatten_cons, slice]
    cases i with
    | zero =>
      cases hi
      rw [Nat.zero_mul, List.drop_zero, List.take_append_of_le_length (by omega),
        List.take_of_length_le (by omega)]
    | succ i =>
      rw [Nat.succ_mul, List.drop_append, List.drop_of_length_le (by omega), List.nil_append,
        show i * n + n - p.length = i * n by omega]
      exact ih hrest hi

/-! ## Numbers -/

theorem span_pos (n : Nat) : 0 < span n := by
  induction n with
  | zero => exact Nat.one_pos
  | succ n ih => exact Nat.mul_pos (by decide) ih

theorem span_dvd {m n : Nat} (h : m ≤ n) : span m ∣ span n := by
  induction m generalizing n with
  | zero => exact Nat.one_dvd _
  | succ m ih =>
    cases n with
    | zero => omega
    | succ n => exact Nat.mul_dvd_mul_left 256 (ih (by omega))

/-- Writing the low bytes and reading them back gives the number modulo their range. -/
theorem toNat_ofNat (n v : Nat) : toNat (ofNat n v) = v % span n := by
  induction n generalizing v with
  | zero => exact (Nat.mod_one v).symm
  | succ n ih =>
    rw [ofNat, toNat, ih, UInt8.toNat_ofNat']
    exact Nat.mod_mul.symm

theorem take_ofNat {m n : Nat} (h : m ≤ n) (v : Nat) : (ofNat n v).take m = ofNat m v := by
  induction m generalizing n v with
  | zero => rfl
  | succ m ih =>
    cases n with
    | zero => omega
    | succ n => rw [ofNat, ofNat, List.take_succ_cons, ih (by omega)]

theorem ofNat_mod {m n : Nat} (h : m ≤ n) (v : Nat) : ofNat m (v % span n) = ofNat m v := by
  induction m generalizing n v with
  | zero => rfl
  | succ m ih =>
    cases n with
    | zero => omega
    | succ n =>
      have hhead : UInt8.ofNat (v % (256 * span n)) = UInt8.ofNat v := by
        refine UInt8.toNat_inj.mp ?_
        rw [UInt8.toNat_ofNat', UInt8.toNat_ofNat']
        exact Nat.mod_mod_of_dvd v (Nat.dvd_mul_right 256 _)
      have htail : v % (256 * span n) / 256 = v / 256 % span n := Nat.mod_mul_right_div_self v 256 _
      rw [span, ofNat, ofNat, hhead, htail, ih (by omega)]

theorem ofNat_toNat (bs : Bytes) : ofNat bs.length (toNat bs) = bs := by
  induction bs with
  | nil => rfl
  | cons b rest ih =>
    have hlt := b.toNat_lt
    have hhead : UInt8.ofNat (b.toNat + 256 * toNat rest) = b := by
      refine UInt8.toNat_inj.mp ?_
      rw [UInt8.toNat_ofNat']
      omega
    have htail : (b.toNat + 256 * toNat rest) / 256 = toNat rest := by omega
    rw [List.length_cons, ofNat, toNat, hhead, htail, ih]

theorem toInt_emod (bs : Bytes) :
    toInt bs % span bs.length = (toNat bs : Int) % span bs.length := by
  unfold toInt
  split
  · rfl
  · exact Int.sub_emod_right _ _

/-- A number extended to more bytes, with or without its sign, starts with its own bytes. -/
theorem take_ofNat_toNat {bs : Bytes} {n : Nat} (h : bs.length ≤ n) :
    (ofNat n (toNat bs)).take bs.length = bs := by
  rw [take_ofNat h, ofNat_toNat]

theorem take_ofInt_toInt {bs : Bytes} {n : Nat} (h : bs.length ≤ n) :
    (ofInt n (toInt bs)).take bs.length = bs := by
  have hdvd : (span bs.length : Int) ∣ (span n : Int) := Int.natCast_dvd_natCast.mpr (span_dvd h)
  have hspan : (span n : Int) ≠ 0 := by
    have hpos := span_pos n
    omega
  have hmod : (toInt bs % span n).toNat % span bs.length = toNat bs % span bs.length := by
    refine Int.ofNat_inj.mp ?_
    rw [Int.natCast_emod, Int.natCast_emod, Int.toNat_of_nonneg (Int.emod_nonneg _ hspan),
      Int.emod_emod_of_dvd _ hdvd, toInt_emod]
  rw [ofInt, take_ofNat h, ← ofNat_mod (Nat.le_refl _), hmod, ofNat_mod (Nat.le_refl _),
    ofNat_toNat]

end Bytes

end CallBridge
