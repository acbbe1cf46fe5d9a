/-
The shortest decimal text that reads back as a given double.

The reals that round to the double form an interval.  For one digit, two digits and so
on, the two neighbours of the value on the grid of that many digits are tried; the first
grid with a neighbour in the interval wins, and of two the nearer.
-/
import CallBridge.Number.Binary

namespace CallBridge

namespace Decimal

/-- A positive number and its rounding interval over one common denominator. -/
structure Interval where
  value : Nat
  low : Nat
  high : Nat
  denominator : Nat
  /-- Whether the ends round to the value too. -/
  closed : Bool

namespace Interval

def ofDouble (m : Nat) (e : Int) : Interval :=
  let f := Binary.Format.double
  let narrow := m == Nat.pow 2 f.fractionBits && e != f.minExponent
  let up := Nat.pow 2 (e - 2).toNat
  ⟨4 * m * up, (4 * m - (if narrow then 1 else 2)) * up, (4 * m + 2) * up, Nat.pow 2 (2 - e).toNat,
    m % 2 == 0⟩

def contains (i : Interval) (c : Nat) (g : Int) : Bool :=
  let point := c * Nat.pow 10 g.toNat * i.denominator
  let scale := Nat.pow 10 (-g).toNat
  if i.closed then i.low * scale ≤ point && point ≤ i.high * scale
  else i.low * scale < point && point < i.high * scale

/-- The largest `c` with `c * 10 ^ g` not above the value, and whether the value is
nearer to the next one. -/
def below (i : Interval) (g : Int) : Nat × Bool :=
  let top := i.value * Nat.pow 10 (-g).toNat
  let unit := i.denominator * Nat.pow 10 g.toNat
  (top / unit, 2 * (top % unit) > unit)

/-- The best number on the grid of `10 ^ g`, if one reads back. -/
def onGrid? (i : Interval) (g : Int) : Option Nat :=
  let (c, upper) := i.below g
  let inside := i.contains c g && c != 0
  let next := i.contains (c + 1) g
  if inside && next then some (if upper then c + 1 else c)
  else if inside then some c
  else if next then some (c + 1)
  else none

/-- Search from the coarsest grid down.  Seventeen digits always suffice. -/
def search (i : Interval) : Nat → Int → Nat × Int
  | 0, g => ((i.below g).1, g)
  | n + 1, g =>
    match i.onGrid? g with
    | some c => (c, g)
    | none => i.search n (g - 1)

end Interval

def shortest (m : Nat) (e : Int) : Nat × Int :=
  let i := Interval.ofDouble m e
  let size : Int := (Nat.toDigits 10 (i.value / i.denominator)).length
  let fine : Int := (Nat.toDigits 10 (i.denominator / i.value)).length
  i.search 20 (if i.denominator ≤ i.value then size else 1 - fine)

/-- `digits * 10 ^ exponent` without exponent notation. -/
def positional (digits : Nat) (exponent : Int) : String :=
  let text := Nat.toDigits 10 digits
  if 0 ≤ exponent then String.ofList (text ++ List.replicate exponent.toNat '0')
  else
    let places := (-exponent).toNat
    let padded := List.replicate (places + 1 - text.length) '0' ++ text
    String.ofList (padded.take (padded.length - places) ++ '.' :: padded.drop (padded.length - places))

/-- A double as messages show it: never with an exponent, always with a point. -/
def message (bits : Nat) : String :=
  match Binary.Format.double.decode bits with
  | .nan _ _ => "NaN"
  | .infinite sign => if sign then "-inf" else "inf"
  | .finite sign m e =>
    let sign := if sign then "-" else ""
    if m = 0 then sign ++ "0.0"
    else
      let (digits, exponent) := shortest m e
      let text := positional digits exponent
      sign ++ text ++ (if 0 ≤ exponent then ".0" else "")

end Decimal

end CallBridge
