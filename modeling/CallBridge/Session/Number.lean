/-
Numbers as scripts write and read them.

A number is held as an integer: a float by its bits.  Its bytes are little-endian.
-/
import CallBridge.Bytes
import CallBridge.Number.Binary
import CallBridge.TypeToken

namespace CallBridge

namespace Session

inductive NumberType where
  | u8 | i8 | u16 | i16 | u32 | i32 | u64 | i64 | f32 | f64
deriving DecidableEq, Repr

namespace NumberType

def token : NumberType → TypeToken
  | u8 => .uint8
  | i8 => .sint8
  | u16 => .uint16
  | i16 => .sint16
  | u32 => .uint32
  | i32 => .sint32
  | u64 => .uint64
  | i64 => .sint64
  | f32 => .float
  | f64 => .double

def size : NumberType → Nat
  | u8 | i8 => 1
  | u16 | i16 => 2
  | u32 | i32 | f32 => 4
  | u64 | i64 | f64 => 8

def isSigned : NumberType → Bool
  | i8 | i16 | i32 | i64 => true
  | _ => false

def format? : NumberType → Option Binary.Format
  | f32 => some .single
  | f64 => some .double
  | _ => none

def encode (t : NumberType) (v : Int) : Bytes := Bytes.ofInt t.size v

def decode (t : NumberType) (bs : Bytes) : Int := if t.isSigned then Bytes.toInt bs else Bytes.toNat bs

/-- The sum of two numbers: integers wrap around. -/
def add (t : NumberType) (a b : Int) : Int :=
  match t.format? with
  | some f => f.add a.toNat b.toNat
  | none => t.decode (t.encode (a + b))

end NumberType

/-- What a reader made of some bytes. -/
inductive Reading where
  | number (type : NumberType) (value : Int)
  | bytes (bs : Bytes)
  | count (n : Nat)
  | missing
deriving DecidableEq, Repr

end Session

end CallBridge
