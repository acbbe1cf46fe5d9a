/-
A tree of files, and how paths are looked up in it.

A place is the list of names that leads to it from the root.  A path is followed one
segment after the other, and every segment but the last must lead to a directory.
-/
import CallBridge.Bytes
import CallBridge.Config.Error
import CallBridge.Files.Path

namespace CallBridge

/-- What a shared library offers: its functions without arguments, by their answers. -/
structure Library where
  answers : List (String × Int)
deriving DecidableEq, Repr

inductive Node where
  | file (content : Bytes)
  | library (l : Library)
  | directory (entries : List (String × Node))
deriving Repr

namespace Node

def emptyDirectory : Node := .directory []

def isDirectory : Node → Bool
  | .directory _ => true
  | _ => false

def at? : Node → List String → Option Node
  | n, [] => some n
  | .directory entries, name :: rest => do at? (← entries.lookup name) rest
  | _, _ :: _ => none

def put (entries : List (String × Node)) (name : String) (n : Node) : List (String × Node) :=
  entries.filter (fun e => e.1 != name) ++ [(name, n)]

/-- Put a node at a place, making directories on the way. -/
def insert (n : Node) : List String → Node → Node
  | [], new => new
  | name :: rest, new =>
    let entries := match n with
      | .directory entries => entries
      | _ => []
    .directory (put entries name (((entries.lookup name).getD emptyDirectory).insert rest new))
termination_by structural path => path

def remove : Node → List String → Node
  | .directory entries, [name] => .directory (entries.filter fun e => e.1 != name)
  | .directory entries, name :: rest =>
    match entries.lookup name with
    | some child => .directory (put entries name (child.remove rest))
    | none => .directory entries
  | n, _ => n
termination_by structural _ path => path

end Node

/-- A tree of files with the place where relative paths start. -/
structure Files where
  root : Node
  workingPlace : List String

namespace Files

/-- Longest name of a directory entry and shortest path that is refused, in bytes. -/
def nameLimit : Nat := 255
def pathLimit : Nat := 4096

def noEntry : Int := 2
def notDirectory : Int := 20
def isDirectory : Int := 21
def nameTooLong : Int := 36

/-- Follow segments from a place; an error is an operating-system code. -/
def follow (root : Node) (place : List String) : List String → Except Int (List String)
  | [] => .ok place
  | s :: rest =>
    match root.at? place with
    | some (.directory _) =>
      if s = "" || s = "." then follow root place rest
      else if s = ".." then follow root place.dropLast rest
      else if s.utf8ByteSize > nameLimit then .error nameTooLong
      else if (root.at? (place ++ [s])).isSome then follow root (place ++ [s]) rest
      else .error noEntry
    | _ => .error notDirectory

def locate (f : Files) (path : String) : Except Config.ReadError (List String) :=
  if path.toList.contains '\x00' then .error .nulInName
  else if path.isEmpty then .error (.system noEntry)
  else if path.utf8ByteSize ≥ pathLimit then .error (.system nameTooLong)
  else
    let start := if Path.isAbsolute path then [] else f.workingPlace
    match follow f.root start ((Path.segments path.toList).map String.ofList) with
    | .ok place => .ok place
    | .error code => .error (.system code)

def find? (f : Files) (path : String) : Option Node :=
  match f.locate path with
  | .ok place => f.root.at? place
  | .error _ => none

def has (f : Files) (path : String) : Bool := (f.find? path).isSome

/-- The text in the file that a path names.  A library is no text. -/
def readText (f : Files) (path : String) : Except Config.ReadError String := do
  let place ← f.locate path
  match f.root.at? place with
  | some (.file content) =>
    match String.fromUTF8? ⟨content.toArray⟩ with
    | some text => .ok text
    | none => .error .notUnicode
  | some (.library _) => .error .notUnicode
  | some (.directory _) => .error (.system isDirectory)
  | none => .error (.system noEntry)

def workingDirectory (f : Files) : String := "/" ++ "/".intercalate f.workingPlace

end Files

end CallBridge
