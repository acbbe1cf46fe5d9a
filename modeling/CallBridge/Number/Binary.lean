/-
Binary floating-point numbers, by their bits.

A format is a count of fraction bits and of exponent bits.  Finite values are exact
dyadic numbers, arithmetic is done on those without loss, and `Format.round` brings the
result back to the nearest value, ties to even.
-/

namespace CallBridge

namespace Binary

structure Format where
  fractionBits : Nat
  exponentBits : Nat
deriving DecidableEq, Repr

/-- A number as `± significand * 2 ^ exponent`, or one of the special values.  What tells
one not-a-number from another is its payload. -/
inductive Decoded where
  | nan (sign : Bool) (payload : Nat)
  | infinite (sign : Bool)
  | finite (sign : Bool) (significand : Nat) (exponent : Int)
deriving DecidableEq, Repr

namespace Format

def single : Format := ⟨23, 8⟩

def double : Format := ⟨52, 11⟩

def width (f : Format) : Nat := 1 + f.exponentBits + f.fractionBits

/-- The exponent of the last place of the smallest values. -/
def minExponent (f : Format) : Int := 2 - (Nat.pow 2 (f.exponentBits - 1) : Nat) - f.fractionBits

/-- The bits of positive infinity; larger ones, the sign apart, are not numbers. -/
def infinityBits (f : Format) : Nat := (Nat.pow 2 f.exponentBits - 1) * Nat.pow 2 f.fractionBits

def signBit (f : Format) (sign : Bool) : Nat :=
  if sign then Nat.pow 2 (f.exponentBits + f.fractionBits) else 0

def decode (f : Format) (bits : Nat) : Decoded :=
  let sign := bits.testBit (f.exponentBits + f.fractionBits)
  let field := bits / Nat.pow 2 f.fractionBits % Nat.pow 2 f.exponentBits
  let fraction := bits % Nat.pow 2 f.fractionBits
  if field = Nat.pow 2 f.exponentBits - 1 then
    if fraction = 0 then .infinite sign else .nan sign fraction
  else if field = 0 then .finite sign fraction f.minExponent
  else .finite sign (fraction + Nat.pow 2 f.fractionBits) (f.minExponent + (field - 1 : Nat))

def isNaN (f : Format) (bits : Nat) : Bool :=
  match f.decode bits with
  | .nan _ _ => true
  | _ => false

/-- `m / 2 ^ k` to the nearest whole number, a half to the even neighbour. -/
def shiftRounded (m k : Nat) : Nat :=
  let quotient := m / Nat.pow 2 k
  let twice := 2 * (m % Nat.pow 2 k)
  if twice > Nat.pow 2 k || (twice = Nat.pow 2 k && quotient % 2 = 1) then quotient + 1
  else quotient

/-- The bits of the value nearest to `± m * 2 ^ e`. -/
def round (f : Format) (sign : Bool) (m : Nat) (e : Int) : Nat :=
  if m = 0 then f.signBit sign
  else
    let last := max (e + m.log2 - f.fractionBits) f.minExponent
    let significand := if last ≤ e then m * Nat.pow 2 (e - last).toNat
      else shiftRounded m (last - e).toNat
    let bits := (last - f.minExponent).toNat * Nat.pow 2 f.fractionBits + significand
    f.signBit sign + min bits f.infinityBits

def quiet (f : Format) (sign : Bool) (payload : Nat) : Nat :=
  f.signBit sign + f.infinityBits + (payload ||| Nat.pow 2 (f.fractionBits - 1))

def invalid (f : Format) : Nat := f.quiet true 0

/-- A number in a format, wherever it came from. -/
def encode (f : Format) : Decoded → Nat
  | .nan sign payload => f.quiet sign payload
  | .infinite sign => f.signBit sign + f.infinityBits
  | .finite sign m e => f.round sign m e

def addFinite (f : Format) (s : Bool) (m : Nat) (e : Int) (s' : Bool) (m' : Nat) (e' : Int) : Nat :=
  let low := min e e'
  let signed (s : Bool) (m : Nat) (e : Int) : Int :=
    let whole : Int := (m * Nat.pow 2 (e - low).toNat : Nat)
    if s then -whole else whole
  let total := signed s m e + signed s' m' e'
  if total = 0 then f.signBit (s && s') else f.round (total < 0) total.natAbs low

def add (f : Format) (a b : Nat) : Nat :=
  match f.decode a, f.decode b with
  | .nan s p, _ => f.quiet s p
  | _, .nan s p => f.quiet s p
  | .infinite s, .infinite s' => if s = s' then f.encode (.infinite s) else f.invalid
  | .infinite s, _ => f.encode (.infinite s)
  | _, .infinite s => f.encode (.infinite s)
  | .finite s m e, .finite s' m' e' => f.addFinite s m e s' m' e'

def mul (f : Format) (a b : Nat) : Nat :=
  match f.decode a, f.decode b with
  | .nan s p, _ => f.quiet s p
  | _, .nan s p => f.quiet s p
  | .infinite s, .infinite s' => f.encode (.infinite (s != s'))
  | .infinite s, .finite s' m _ => if m = 0 then f.invalid else f.encode (.infinite (s != s'))
  | .finite s m _, .infinite s' => if m = 0 then f.invalid else f.encode (.infinite (s != s'))
  | .finite s m e, .finite s' m' e' => f.round (s != s') (m * m') (e + e')

def ofInt (f : Format) (n : Int) : Nat := f.round (n < 0) n.natAbs 0

def widen (bits : Nat) : Nat :=
  match single.decode bits with
  | .nan sign payload =>
    double.quiet sign (payload * Nat.pow 2 (double.fractionBits - single.fractionBits))
  | other => double.encode other

/-- The value nearest to `± digits * 10 ^ exponent`.  Exponents far outside the range of
doubles are answered without forming the power. -/
def ofDecimal (f : Format) (sign : Bool) (digits : Nat) (exponent : Int) : Nat :=
  let magnitude := exponent + (Nat.toDigits 10 digits).length
  if digits = 0 || magnitude < -400 then f.signBit sign
  else if magnitude > 400 then f.signBit sign + f.infinityBits
  else if 0 ≤ exponent then f.round sign (digits * Nat.pow 10 exponent.toNat) 0
  else
    let divisor := Nat.pow 10 (-exponent).toNat
    let shift := divisor.log2 + 2 * f.fractionBits
    let scaled := digits * Nat.pow 2 shift
    let sticky := if scaled % divisor = 0 then 0 else 1
    f.round sign (2 * (scaled / divisor) + sticky) (-(shift : Int) - 1)

end Format

end Binary

end CallBridge
