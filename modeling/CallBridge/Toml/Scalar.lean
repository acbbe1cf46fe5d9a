/-
Numbers, booleans and date-times of TOML.
-/
import CallBridge.Number.Binary
import CallBridge.Toml.Lexeme

namespace CallBridge

namespace Toml

/-- Digits of one kind with single underscores between them. -/
def digitsOf (isDigit : Char → Bool) : Reader (List Char) := fun cs =>
  match cs with
  | [] => none
  | c :: rest => if isDigit c then some (go c rest) else none
where
  /-- What follows the digit `c`.  An underscore with no digit after it is left over. -/
  go (c : Char) : List Char → List Char × List Char
    | '_' :: d :: rest =>
      if isDigit d then let (ds, rest) := go d rest; (c :: ds, rest) else ([c], '_' :: d :: rest)
    | d :: rest => if isDigit d then let (ds, rest) := go d rest; (c :: ds, rest) else ([c], d :: rest)
    | [] => ([c], [])

def digits : Reader (List Char) := digitsOf Char.isDigit

def sign : Reader Bool := fun cs =>
  match cs with
  | '-' :: rest => some (true, rest)
  | '+' :: rest => some (false, rest)
  | cs => some (false, cs)

def decimalDigits : Reader (List Char) := fun cs =>
  match cs with
  | '0' :: rest => some (['0'], rest)
  | cs => digits cs

def digitsValue (base : Nat) (ds : List Char) : Nat :=
  ds.foldl (fun n c => base * n + (hexValue? c).getD 0) 0

/-- A number as an integer value, if it is a signed 64-bit one. -/
def integerValue (n : Int) : Option Value :=
  if Int64.minValue.toInt ≤ n && n ≤ Int64.maxValue.toInt then some (.integer n) else none

def basedInteger (base : Nat) (isDigit : Char → Bool) : Reader Value := fun cs => do
  let (ds, rest) ← digitsOf isDigit cs
  return (← integerValue (digitsValue base ds), rest)

def integer : Reader Value := fun cs =>
  match cs with
  | '0' :: 'x' :: rest => basedInteger 16 (fun c => (hexValue? c).isSome) rest
  | '0' :: 'o' :: rest => basedInteger 8 (fun c => '0' ≤ c && c ≤ '7') rest
  | '0' :: 'b' :: rest => basedInteger 2 (fun c => c == '0' || c == '1') rest
  | cs => do
    let (negative, rest) ← sign cs
    let (ds, rest) ← decimalDigits rest
    let n : Int := digitsValue 10 ds
    return (← integerValue (if negative then -n else n), rest)

def fraction? : Reader (Option (List Char)) := fun cs =>
  match cs with
  | '.' :: rest => (digits rest).map fun (ds, rest) => (some ds, rest)
  | cs => some (none, cs)

def exponent? : Reader (Option Int) := fun cs =>
  match cs with
  | c :: rest =>
    if c == 'e' || c == 'E' then do
      let (negative, rest) ← sign rest
      let (ds, rest) ← digits rest
      let n : Int := digitsValue 10 ds
      return (some (if negative then -n else n), rest)
    else some (none, c :: rest)
  | [] => some (none, [])

def word (text : List Char) : Reader Unit := fun cs =>
  if text.isPrefixOf cs then some ((), cs.drop text.length) else none

def specialFloat : Reader Value := fun cs => do
  let (negative, rest) ← sign cs
  let f := Binary.Format.double
  match rest with
  | 'i' :: 'n' :: 'f' :: rest => some (.float (f.encode (.infinite negative)), rest)
  | 'n' :: 'a' :: 'n' :: rest => some (.float (f.quiet negative 0), rest)
  | _ => none

/-- A number with a fraction or an exponent.  One too large for a double is refused. -/
def float : Reader Value := fun cs => do
  let (negative, rest) ← sign cs
  let (whole, rest) ← decimalDigits rest
  let (part, rest) ← fraction? rest
  let (power, rest) ← exponent? rest
  if part.isNone && power.isNone then none
  else
    let places := part.getD []
    let f := Binary.Format.double
    let bits := f.ofDecimal negative (digitsValue 10 (whole ++ places))
      (power.getD 0 - places.length)
    if bits = f.infinityBits then none else some (.float bits, rest)

/-- Exactly `n` digits, as a number in the given range. -/
def fixedDigits (n low high : Nat) : Reader Nat := fun cs =>
  let ds := cs.take n
  if ds.length = n && ds.all Char.isDigit then
    let v := digitsValue 10 ds
    if low ≤ v && v ≤ high then some (v, cs.drop n) else none
  else none

def char (c : Char) : Reader Unit := word [c]

def daysIn (year month : Nat) : Nat :=
  if month = 2 then
    if year % 4 = 0 && (year % 100 != 0 || year % 400 == 0) then 29 else 28
  else if [4, 6, 9, 11].contains month then 30
  else 31

def date : Reader Unit := fun cs => do
  let (year, rest) ← fixedDigits 4 0 9999 cs
  let ((), rest) ← char '-' rest
  let (month, rest) ← fixedDigits 2 1 12 rest
  let ((), rest) ← char '-' rest
  let (_, rest) ← fixedDigits 2 1 (daysIn year month) rest
  return ((), rest)

def time : Reader Unit := fun cs => do
  let (_, rest) ← fixedDigits 2 0 23 cs
  let ((), rest) ← char ':' rest
  let (_, rest) ← fixedDigits 2 0 59 rest
  let ((), rest) ← char ':' rest
  let (_, rest) ← fixedDigits 2 0 60 rest
  match rest with
  | '.' :: more =>
    match more.takeWhile Char.isDigit with
    | [] => return ((), rest)
    | _ => return ((), more.dropWhile Char.isDigit)
  | rest => return ((), rest)

def timeOffset : Reader Unit := fun cs =>
  match cs with
  | 'Z' :: rest | 'z' :: rest => some ((), rest)
  | '+' :: rest | '-' :: rest => do
    let (_, rest) ← fixedDigits 2 0 23 rest
    let ((), rest) ← char ':' rest
    let (_, rest) ← fixedDigits 2 0 59 rest
    return ((), rest)
  | _ => none

/-- Skip what `r` reads, if it reads anything. -/
def optional (r : Reader Unit) (cs : List Char) : List Char := ((r cs).map Prod.snd).getD cs

def timeAfterDate : Reader Unit := fun cs =>
  match cs with
  | c :: rest =>
    if c == 'T' || c == 't' || c == ' ' then do
      let ((), rest) ← time rest
      return ((), optional timeOffset rest)
    else none
  | [] => none

def datetime : Reader Value := fun cs =>
  match date cs with
  | some ((), rest) => some (.datetime, optional timeAfterDate rest)
  | none => (time cs).map fun ((), rest) => (.datetime, rest)

/-- The first reader that reads wins. -/
def firstOf {α : Type} (readers : List (Reader α)) : Reader α := fun cs =>
  readers.findSome? fun r => r cs

def scalar : Reader Value := fun cs =>
  match cs with
  | '"' :: _ | '\'' :: _ => (string? cs).map fun (text, rest) => (.string (String.ofList text), rest)
  | 't' :: 'r' :: 'u' :: 'e' :: rest => some (.boolean true, rest)
  | 'f' :: 'a' :: 'l' :: 's' :: 'e' :: rest => some (.boolean false, rest)
  | cs => firstOf [datetime, float, specialFloat, integer] cs

end Toml

end CallBridge
