/-
Writing TOML strings.

A text takes the first of six forms that shows it best: between double quotes if nothing
needs an escape, between single quotes if that avoids escapes, then the forms with three
quotes, and an escaped form if no other holds it.
-/
import CallBridge.Toml.Lexeme

namespace CallBridge

namespace Toml

/-- The longest run of `c` in a text; `run` is the run that reaches its start. -/
def longestRun (c : Char) (run : Nat) : List Char → Nat
  | [] => run
  | d :: rest => if d = c then longestRun c (run + 1) rest else max run (longestRun c 0 rest)

/-- A control that only an escape can show: all but the tab and the line feed. -/
def needsEscape (c : Char) : Bool := c != '\t' && c != '\n' && (c.toNat < 0x20 || c.toNat == 0x7F)

def hex4 (n : Nat) : List Char :=
  let ds := (Nat.toDigits 16 n).map Char.toUpper
  List.replicate (4 - ds.length) '0' ++ ds

/-- A character between double quotes.  In a text over lines a line feed stands for
itself. -/
def basicChar (lines : Bool) (c : Char) : List Char :=
  match c with
  | '\x08' => ['\\', 'b']
  | '\t' => ['\\', 't']
  | '\n' => if lines then ['\n'] else ['\\', 'n']
  | '\x0c' => ['\\', 'f']
  | '\r' => ['\\', 'r']
  | '"' => ['\\', '"']
  | '\\' => ['\\', '\\']
  | c => if needsEscape c then '\\' :: 'u' :: hex4 c.toNat else [c]

def basicBody (cs : List Char) : List Char := cs.flatMap (basicChar false)

/-- A text over lines after `quotes` double quotes: two stand for themselves, a third
one is escaped. -/
def linesBody (quotes : Nat) : List Char → List Char
  | [] => []
  | '"' :: rest =>
    if quotes < 2 then '"' :: linesBody (quotes + 1) rest else '\\' :: '"' :: linesBody 0 rest
  | c :: rest => basicChar true c ++ linesBody 0 rest

/-- Three quotes on each side.  A text with line feeds starts on a line of its own. -/
def tripleQuoted (quote : Char) (cs body : List Char) : List Char :=
  let fence := List.replicate 3 quote
  fence ++ (if cs.contains '\n' then ['\n'] else []) ++ body ++ fence

def stringForm (cs : List Char) : List Char :=
  let lines := cs.contains '\n'
  let controls := cs.any needsEscape
  let backslash := cs.contains '\\'
  let doubles := longestRun '"' 0 cs
  let singles := longestRun '\'' 0 cs
  if !controls && !backslash && doubles == 0 && !lines then ['"'] ++ basicBody cs ++ ['"']
  else if !controls && singles == 0 && !lines then ['\''] ++ cs ++ ['\'']
  else if !controls && !backslash && doubles ≤ 2 then tripleQuoted '"' cs (linesBody 0 cs)
  else if !controls && singles ≤ 2 then tripleQuoted '\'' cs cs
  else if lines then tripleQuoted '"' cs (linesBody 0 cs)
  else ['"'] ++ basicBody cs ++ ['"']

def renderString (text : String) : String := String.ofList (stringForm text.toList)

def renderBoolean (b : Bool) : String := if b then "true" else "false"

def renderStrings (texts : List String) : String :=
  "[" ++ ", ".intercalate (texts.map renderString) ++ "]"

def renderEntry (key value : String) : String := s!"{key} = {value}\n"

def renderTable (name : String) (entries : List String) : String :=
  s!"[{name}]\n" ++ String.join entries

def renderTables (tables : List String) : String := "\n".intercalate tables

end Toml

end CallBridge
