/-
Characters, strings and keys of TOML.

A reader takes the characters ahead and answers what it read with the characters left,
or nothing where the text does not fit.  Every reader recurses on the text itself.
-/
import CallBridge.Toml.Value

namespace CallBridge

namespace Toml

abbrev Reader (α : Type) := List Char → Option (α × List Char)

def isBlank (c : Char) : Bool := c == ' ' || c == '\t'

/-- What may stand in a comment: anything but controls, the tab apart. -/
def isCommentChar (c : Char) : Bool := c == '\t' || (0x20 ≤ c.toNat && c.toNat != 0x7F)

/-- What may stand for itself between double quotes. -/
def isBasicChar (c : Char) : Bool := isCommentChar c && c != '"' && c != '\\'

/-- What may stand between single quotes. -/
def isLiteralChar (c : Char) : Bool := isCommentChar c && c != '\''

def isBareKeyChar (c : Char) : Bool := c.isAlphanum || c == '-' || c == '_'

def hexValue? (c : Char) : Option Nat :=
  if c.isDigit then some (c.toNat - 48)
  else if 'a' ≤ c && c ≤ 'f' then some (c.toNat - 87)
  else if 'A' ≤ c && c ≤ 'F' then some (c.toNat - 55)
  else none

/-- The character of a code point in hexadecimal; surrogates are none. -/
def codePoint? (digits : List Char) : Option Char := do
  let values ← digits.mapM hexValue?
  let n := values.foldl (fun n d => 16 * n + d) 0
  if n.isValidChar then some (Char.ofNat n) else none

def skipBlanks (cs : List Char) : List Char := cs.dropWhile isBlank

/-- A line feed, or a carriage return with one. -/
def newline? : List Char → Option (List Char)
  | '\n' :: rest => some rest
  | '\r' :: '\n' :: rest => some rest
  | _ => none

/-- A line ends with a newline or the text. -/
def lineEnd? : List Char → Option (List Char)
  | [] => some []
  | cs => newline? cs

/-- Past blanks, newlines and comments.  A comment that no newline ends is left at the
character that spoils it. -/
def skipLayout (inComment : Bool) : List Char → List Char
  | [] => []
  | '\n' :: rest => skipLayout false rest
  | '\r' :: '\n' :: rest => skipLayout false rest
  | c :: rest =>
    if inComment then if isCommentChar c then skipLayout true rest else c :: rest
    else if isBlank c then skipLayout false rest
    else if c == '#' then skipLayout true rest
    else c :: rest

/-- Blanks and a comment up to the end of the line. -/
def lineTrailing? (cs : List Char) : Option (List Char) :=
  match skipBlanks cs with
  | '#' :: rest => lineEnd? (rest.dropWhile isCommentChar)
  | rest => lineEnd? rest

/-- The character that a one-letter escape stands for. -/
def simpleEscape? : Char → Option Char
  | 'b' => some '\x08'
  | 't' => some '\t'
  | 'n' => some '\n'
  | 'f' => some '\x0c'
  | 'r' => some '\r'
  | '"' => some '"'
  | '\\' => some '\\'
  | _ => none

def push {α : Type} (c : Char) : Option (List Char × α) → Option (List Char × α) :=
  Option.map fun (text, rest) => (c :: text, rest)

/-- A string on one line, after its opening double quote. -/
def basicString : List Char → Option (List Char × List Char)
  | '"' :: rest => some ([], rest)
  | '\\' :: 'u' :: a :: b :: c :: d :: rest => do
    push (← codePoint? [a, b, c, d]) (basicString rest)
  | '\\' :: 'U' :: a :: b :: c :: d :: e :: f :: g :: h :: rest => do
    push (← codePoint? [a, b, c, d, e, f, g, h]) (basicString rest)
  | '\\' :: c :: rest => do push (← simpleEscape? c) (basicString rest)
  | c :: rest => if isBasicChar c then push c (basicString rest) else none
  | [] => none

theorem basicString_escape {e c : Char} (he : simpleEscape? e = some c) (rest : List Char) :
    basicString ('\\' :: e :: rest) = push c (basicString rest) := by
  unfold simpleEscape? at he
  split at he <;> cases he <;> simp [basicString, simpleEscape?]

theorem basicString_unicode {x y z w c : Char} (h : codePoint? [x, y, z, w] = some c)
    (rest : List Char) :
    basicString ('\\' :: 'u' :: x :: y :: z :: w :: rest) = push c (basicString rest) := by
  simp [basicString, h]

theorem basicString_plain {c : Char} (h : isBasicChar c = true) (rest : List Char) :
    basicString (c :: rest) = push c (basicString rest) := by
  rw [basicString.eq_def]
  split <;> simp_all [isBasicChar]

/-- A string on one line, after its opening single quote. -/
def literalString : List Char → Option (List Char × List Char)
  | '\'' :: rest => some ([], rest)
  | c :: rest => if isLiteralChar c then push c (literalString rest) else none
  | [] => none

theorem literalString_plain {cs : List Char} (h : ∀ c ∈ cs, isLiteralChar c = true)
    (rest : List Char) : literalString (cs ++ '\'' :: rest) = some (cs, rest) := by
  induction cs with
  | nil => simp [literalString]
  | cons c cs ih =>
    have hc := h c List.mem_cons_self
    have hquote : c ≠ '\'' := by
      rintro rfl
      cases hc
    rw [List.cons_append, literalString, if_pos hc, ih fun d hd => h d (List.mem_cons_of_mem c hd)]
    · rfl
    · exact hquote

/-- Whether only blanks stand before the end of the line. -/
def blankToNewline (cs : List Char) : Bool := (newline? (skipBlanks cs)).isSome

/-- A string over lines, after its opening quotes.  After a backslash at the end of a
line the reader is `skipping`: blanks and newlines count for nothing.  Up to two quotes
may stand right before the closing three. -/
def mlBasicString (skipping : Bool) : List Char → Option (List Char × List Char)
  | '"' :: '"' :: '"' :: '"' :: '"' :: rest => some (['"', '"'], rest)
  | '"' :: '"' :: '"' :: '"' :: rest => some (['"'], rest)
  | '"' :: '"' :: '"' :: rest => some ([], rest)
  | '\\' :: 'u' :: a :: b :: c :: d :: rest => do
    push (← codePoint? [a, b, c, d]) (mlBasicString false rest)
  | '\\' :: 'U' :: a :: b :: c :: d :: e :: f :: g :: h :: rest => do
    push (← codePoint? [a, b, c, d, e, f, g, h]) (mlBasicString false rest)
  | '\\' :: c :: rest =>
    match simpleEscape? c with
    | some image => push image (mlBasicString false rest)
    | none => if blankToNewline (c :: rest) then mlBasicString true (c :: rest) else none
  | '\r' :: '\n' :: rest =>
    if skipping then mlBasicString true rest else push '\n' (mlBasicString false rest)
  | '\n' :: rest =>
    if skipping then mlBasicString true rest else push '\n' (mlBasicString false rest)
  | c :: rest =>
    if skipping && isBlank c then mlBasicString true rest
    else if c == '"' || isBasicChar c then push c (mlBasicString false rest)
    else none
  | [] => none

theorem mlBasicString_escape {e c : Char} (he : simpleEscape? e = some c) (rest : List Char) :
    mlBasicString false ('\\' :: e :: rest) = push c (mlBasicString false rest) := by
  unfold simpleEscape? at he
  split at he <;> cases he <;> simp [mlBasicString, simpleEscape?]

theorem mlBasicString_unicode {x y z w c : Char} (h : codePoint? [x, y, z, w] = some c)
    (rest : List Char) :
    mlBasicString false ('\\' :: 'u' :: x :: y :: z :: w :: rest) =
      push c (mlBasicString false rest) := by
  simp [mlBasicString, h]

theorem mlBasicString_plain {c : Char} (h : isBasicChar c = true) (hreturn : c ≠ '\r')
    (rest : List Char) : mlBasicString false (c :: rest) = push c (mlBasicString false rest) := by
  rw [mlBasicString.eq_def]
  split <;> simp_all [isBasicChar]

theorem mlBasicString_newline (rest : List Char) :
    mlBasicString false ('\n' :: rest) = push '\n' (mlBasicString false rest) := by
  simp [mlBasicString]

/-- A quote that does not start three of them stands for itself. -/
theorem mlBasicString_quote {rest : List Char} (h : ∀ more, rest ≠ '"' :: '"' :: more) :
    mlBasicString false ('"' :: rest) = push '"' (mlBasicString false rest) := by
  rw [mlBasicString.eq_def]
  split <;> simp_all
  rename_i hsame
  simp [← hsame.1]

/-- What is written after three quotes: up to two more quotes, and the fence. -/
theorem mlBasicString_fence {quotes : Nat} (hquotes : quotes ≤ 2) {rest : List Char}
    (hrest : rest.head? ≠ some '"') :
    mlBasicString false (List.replicate quotes '"' ++ '"' :: '"' :: '"' :: rest) =
      some (List.replicate quotes '"', rest) := by
  have hne : ∀ more, rest ≠ '"' :: more := by
    rintro more rfl
    exact hrest rfl
  match quotes, hquotes with
  | 0, _ => simp [mlBasicString, hne]
  | 1, _ => simp [mlBasicString]
  | 2, _ => simp [mlBasicString]

/-- A literal string over lines, after its opening quotes. -/
def mlLiteralString : List Char → Option (List Char × List Char)
  | '\'' :: '\'' :: '\'' :: '\'' :: '\'' :: rest => some (['\'', '\''], rest)
  | '\'' :: '\'' :: '\'' :: '\'' :: rest => some (['\''], rest)
  | '\'' :: '\'' :: '\'' :: rest => some ([], rest)
  | '\r' :: '\n' :: rest => push '\n' (mlLiteralString rest)
  | c :: rest =>
    if c == '\n' || c == '\'' || isLiteralChar c then push c (mlLiteralString rest) else none
  | [] => none

theorem mlLiteralString_quote {rest : List Char} (h : ∀ more, rest ≠ '\'' :: '\'' :: more) :
    mlLiteralString ('\'' :: rest) = push '\'' (mlLiteralString rest) := by
  rw [mlLiteralString.eq_def]
  split <;> simp_all
  rename_i hsame
  simp [← hsame.1]

theorem mlLiteralString_fence {quotes : Nat} (hquotes : quotes ≤ 2) {rest : List Char}
    (hrest : rest.head? ≠ some '\'') :
    mlLiteralString (List.replicate quotes '\'' ++ '\'' :: '\'' :: '\'' :: rest) =
      some (List.replicate quotes '\'', rest) := by
  have hne : ∀ more, rest ≠ '\'' :: more := by
    rintro more rfl
    exact hrest rfl
  match quotes, hquotes with
  | 0, _ => simp [mlLiteralString, hne]
  | 1, _ => simp [mlLiteralString]
  | 2, _ => simp [mlLiteralString]

/-- A newline right after the opening quotes is not part of the string. -/
def dropNewline (cs : List Char) : List Char := (newline? cs).getD cs

def string? (cs : List Char) : Option (List Char × List Char) :=
  match cs with
  | '"' :: '"' :: '"' :: rest => mlBasicString false (dropNewline rest)
  | '"' :: rest => basicString rest
  | '\'' :: '\'' :: '\'' :: rest => mlLiteralString (dropNewline rest)
  | '\'' :: rest => literalString rest
  | _ => none

def simpleKey : Reader String := fun cs =>
  match cs with
  | '"' :: rest => (basicString rest).map fun (text, rest) => (String.ofList text, rest)
  | '\'' :: rest => (literalString rest).map fun (text, rest) => (String.ofList text, rest)
  | cs =>
    match cs.takeWhile isBareKeyChar with
    | [] => none
    | name => some (String.ofList name, cs.dropWhile isBareKeyChar)

/-- The parts of a key after the first; `fuel` bounds their number. -/
def keyRest : Nat → Reader (List String)
  | 0, _ => none
  | fuel + 1, cs =>
    match cs with
    | '.' :: rest => do
      let (part, rest) ← simpleKey (skipBlanks rest)
      let (parts, rest) ← keyRest fuel (skipBlanks rest)
      return (part :: parts, rest)
    | cs => some ([], cs)

/-- A dotted key, with blanks around each part. -/
def key : Reader Key := fun cs => do
  let (first, rest) ← simpleKey (skipBlanks cs)
  let (others, rest) ← keyRest (depthLimit - 1) (skipBlanks rest)
  let parts := first :: others
  return (⟨parts.dropLast, parts.getLastD first⟩, rest)

end Toml

end CallBridge
