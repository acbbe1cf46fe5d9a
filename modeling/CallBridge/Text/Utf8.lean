/-
Text from bytes that need not be text.

Each maximal part that starts like a character and does not end like one becomes one
replacement character.
-/
import CallBridge.Bytes

namespace CallBridge

namespace Text

/-- The bytes that may follow a first byte, one range for each. -/
def followers (first : UInt8) : Option (List (UInt8 × UInt8)) :=
  let any : UInt8 × UInt8 := (0x80, 0xBF)
  if first < 0x80 then some []
  else if first < 0xC2 then none
  else if first < 0xE0 then some [any]
  else if first = 0xE0 then some [(0xA0, 0xBF), any]
  else if first = 0xED then some [(0x80, 0x9F), any]
  else if first < 0xF0 then some [any, any]
  else if first = 0xF0 then some [(0x90, 0xBF), any, any]
  else if first < 0xF4 then some [any, any, any]
  else if first = 0xF4 then some [(0x80, 0x8F), any, any]
  else none

/-- Read the bytes still due for a character with the value `n` so far.  The answer
tells the character, if it was complete, from the bytes left. -/
def complete (n : Nat) : List (UInt8 × UInt8) → Bytes → Char × Bytes
  | [], rest => (Char.ofNat n, rest)
  | (low, high) :: due, b :: rest =>
    if low ≤ b && b ≤ high then complete (64 * n + b.toNat % 64) due rest else ('\ufffd', b :: rest)
  | _ :: _, [] => ('\ufffd', [])

/-- The part of a first byte that belongs to the value. -/
def firstValue (first : UInt8) : Nat :=
  if first < 0x80 then first.toNat
  else if first < 0xE0 then first.toNat % 32
  else if first < 0xF0 then first.toNat % 16
  else first.toNat % 8

theorem length_complete (n : Nat) (due : List (UInt8 × UInt8)) (bs : Bytes) :
    (complete n due bs).2.length ≤ bs.length := by
  induction due generalizing n bs with
  | nil => simp [complete]
  | cons range due ih =>
    cases bs with
    | nil => simp [complete]
    | cons b rest =>
      rw [complete]
      split
      · exact Nat.le_succ_of_le (ih _ rest)
      · simp

def lossyChars : Bytes → List Char
  | [] => []
  | b :: rest =>
    match followers b with
    | none => '\ufffd' :: lossyChars rest
    | some due =>
      let made := complete (firstValue b) due rest
      made.1 :: lossyChars made.2
termination_by bs => bs.length
decreasing_by
  · simp
  · have := length_complete (firstValue b) due rest
    simp; omega

def decodeLossy (bs : Bytes) : String := String.ofList (lossyChars bs)

end Text

end CallBridge
