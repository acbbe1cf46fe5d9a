/-
Texts between double quotes, for messages and logs.

What a reader could not see or would misread is escaped: quotes, backslashes, controls,
and characters that show nothing or attach to their neighbour.
-/
import CallBridge.Text.Printable

namespace CallBridge

namespace Text

/-- Lower-case hexadecimal digits without leading zeros. -/
def hexDigits (n : Nat) : List Char := Nat.toDigits 16 n

/-- One character as it stands between double quotes. -/
def escaped (c : Char) : List Char :=
  match c with
  | '\x00' => ['\\', '0']
  | '\t' => ['\\', 't']
  | '\n' => ['\\', 'n']
  | '\r' => ['\\', 'r']
  | '"' => ['\\', '"']
  | '\\' => ['\\', '\\']
  | c =>
    if isPlain c then [c]
    else ['\\', 'u', '{'] ++ hexDigits c.toNat ++ ['}']

def quoted (text : String) : String :=
  String.ofList ('"' :: text.toList.flatMap escaped ++ ['"'])

/-- The text as a quoted path, in which a single quote is escaped too. -/
def quotedPath (text : String) : String :=
  let escape (c : Char) : List Char := if c = '\'' then ['\\', '\''] else escaped c
  String.ofList ('"' :: text.toList.flatMap escape ++ ['"'])

def bracketed (items : List String) : String := "[" ++ ", ".intercalate items ++ "]"

end Text

end CallBridge
