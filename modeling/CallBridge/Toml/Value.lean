/-
Values of a TOML document.

Tables keep their entries in document order.  A date-time is kept by name only: no
setting has one as its value.
-/

namespace CallBridge

namespace Toml

inductive Value where
  | string (text : String)
  | integer (n : Int)
  | float (bits : Nat)
  | boolean (b : Bool)
  | datetime
  | array (items : List Value)
  | table (entries : List (String × Value))
deriving Repr

/-- A dotted key: the parts that lead to it, and its own name. -/
structure Key where
  path : List String
  name : String
deriving DecidableEq, Repr

structure Entry where
  key : Key
  value : Value
deriving Repr

structure Header where
  key : Key
  repeated : Bool
deriving DecidableEq, Repr

/-- One line of a document that says something. -/
inductive Statement where
  | entry (e : Entry)
  | header (h : Header)
deriving Repr

/-- Dotted keys and nested values stay below this depth. -/
def depthLimit : Nat := 80

end Toml

end CallBridge
