/-
Paths as texts.

Nothing is normalised: joining and taking the parent work on the text as it is written.
Only comparison looks at the parts, where repeated separators and inner `.` parts count
for nothing.
-/

namespace CallBridge

namespace Path

/-- The stretches between separators; there is always at least one. -/
def segments : List Char → List (List Char)
  | [] => [[]]
  | c :: cs =>
    if c = '/' then [] :: segments cs
    else match segments cs with
      | [] => [[c]]
      | s :: rest => (c :: s) :: rest

def ofSegments (segments : List (List Char)) : List Char := ['/'].intercalate segments

/-- A segment that names nothing. -/
def isIdle (segment : List Char) : Bool := segment == [] || segment == ['.']

def trimIdle (segments : List (List Char)) : List (List Char) :=
  (segments.reverse.dropWhile isIdle).reverse

/-- The part of a path that its segments hang on: the root, a leading `.` component, or
nothing. -/
def splitLead : List Char → List Char × List Char
  | '/' :: rest => (['/'], rest)
  | ['.'] => (['.'], [])
  | '.' :: '/' :: rest => (['.'], '/' :: rest)
  | cs => ([], cs)

def isAbsolute (path : String) : Bool := path.toList.head? == some '/'

def join (base path : String) : String :=
  if isAbsolute path then path
  else if base.isEmpty || base.toList.getLast? == some '/' then base ++ path
  else base ++ "/" ++ path

def parentChars? (cs : List Char) : Option (List Char) :=
  let (lead, body) := splitLead cs
  match trimIdle (segments body) with
  | [] => if lead = ['.'] then some [] else none
  | named => some (lead ++ ofSegments (trimIdle named.dropLast))

def parent? (path : String) : Option String := (parentChars? path.toList).map String.ofList

/-- Characters of the path and of its parents, nearest first; `fuel` bounds their
number. -/
def chain : Nat → List Char → List (List Char)
  | 0, _ => []
  | fuel + 1, cs => cs :: (parentChars? cs).elim [] (chain fuel)

def ancestors (path : String) : List String :=
  (chain (path.length + 1) path.toList).map String.ofList

/-- What paths are compared by: the lead and the segments that name something. -/
def components (path : String) : List Char × List (List Char) :=
  let (lead, body) := splitLead path.toList
  (lead, (segments body).filter fun s => !isIdle s)

def same (p q : String) : Bool := components p == components q

end Path

end CallBridge
