/-
The native functions that scripts can call.

A function answers with its result as a whole word where it is a narrow integer.
-/
import CallBridge.Session.Function

namespace CallBridge

namespace Session

structure Native where
  arguments : List NumberType
  /-- Nothing for a function without a result. -/
  result : Option NumberType
  run : List Int → Run World Int

namespace Native

def argumentTypes (n : Native) : List TypeToken := n.arguments.map NumberType.token

def returnType (n : Native) : TypeToken := n.result.elim .void NumberType.token

def function (n : Native) : NativeFunction World := fun received => do
  let v ← n.run ((n.arguments.zip received).map fun (t, bs) => t.decode bs)
  return match n.result with
    | none => []
    | some t =>
      let exact := t.encode v
      if t.format?.isSome then exact else Bytes.ofInt 8 (t.decode exact)

def computing (arguments : List NumberType) (result : NumberType) (f : List Int → Int) : Native :=
  ⟨arguments, some result, fun values => return f values⟩

def doubleSum (bits : List Nat) : Int :=
  match bits with
  | [] => 0
  | first :: rest => (rest.foldl Binary.Format.double.add first : Nat)

def add : Native := computing [.i32, .i32] .i32 fun values => values.foldl (· + ·) 0

def mix : Native := computing [.u8, .i64, .u16, .f32, .f64] .f64 fun values =>
  match values with
  | [a, b, c, d, e] =>
    let ofInt := Binary.Format.double.ofInt
    doubleSum [ofInt a, ofInt b, ofInt c, Binary.Format.widen d.toNat, e.toNat]
  | _ => 0

def scale : Native := computing [.f64, .i32] .f64 fun values =>
  match values with
  | [a, b] => Binary.Format.double.mul a.toNat (Binary.Format.double.ofInt b)
  | _ => 0

def failWith : Native := ⟨[.i32], some .i32, fun values => do
  Run.setErrno (values.headD 0)
  return -1⟩

def answer : Native := computing [] .u8 fun _ => 42

def noop : Native := ⟨[], none, fun _ => return 0⟩

def negate : Native := computing [.i8] .i8 fun values => -values.headD 0

def flip : Native := computing [.u16] .u16 fun values => -1 - values.headD 0

/-- One if the lock of the last call is locked, plus two if this thread holds it. -/
def lockBits : Native := ⟨[], some .i32, fun _ => do
  let w ← Run.getWorld
  return match w.view w.lastLock with
    | none => -1
    | some v => (if v.locked then 1 else 0) + (if v.held then 2 else 0)⟩

/-- The length of a text.  Its argument is a pointer, which travels like a word. -/
def textLength : Native := ⟨[.u64], some .u64, fun values => do
  return ((← Run.getWorld).memory.text (values.headD 0).toNat).length⟩

end Native

/-- A native function by name, with the types of its arguments. -/
def native? : String → Option (Native × List TypeToken)
  | "add" => some (.add, Native.add.argumentTypes)
  | "mix" => some (.mix, Native.mix.argumentTypes)
  | "scale" => some (.scale, Native.scale.argumentTypes)
  | "fail_with" => some (.failWith, Native.failWith.argumentTypes)
  | "answer" => some (.answer, [])
  | "noop" => some (.noop, [])
  | "negate" => some (.negate, Native.negate.argumentTypes)
  | "flip" => some (.flip, Native.flip.argumentTypes)
  | "lock_bits" => some (.lockBits, [])
  | "strlen" => some (.textLength, [.pointer])
  | _ => none

end Session

end CallBridge
