/-
Libraries and the functions in them.

A name is resolved to a path afresh on every use; a library that was opened at a path
stays the one at that path, whatever becomes of the file.
-/
import CallBridge.Error
import CallBridge.Files.Tree
import CallBridge.Run

namespace CallBridge

/-- The directories searched after all others. -/
def platformDirectories : List String :=
  ["/usr/lib", "/usr/local/lib", "/lib", "/usr/lib64", "/lib64"]

/-- The name of a function as the dynamic linker takes it: one NUL at the end is left
out, and one elsewhere is no name. -/
def symbolName? (symbol : String) : Option String :=
  let cs := symbol.toList
  let name := if cs.getLast? == some '\x00' then cs.dropLast else cs
  if name.isEmpty || name.contains '\x00' then none else some (String.ofList name)

namespace Library

def function? (l : Library) (symbol : String) : Option Int := do
  l.answers.lookup (← symbolName? symbol)

end Library

/-- Files, and what the dynamic linker has under names without a separator: the libraries in its own
directories, and those of that name that the process already uses. -/
structure Machine where
  files : Files
  systemLibraries : List (String × Library) := []

/-- A machine whose linker has no library of its own. -/
instance : Coe Files Machine := ⟨fun files => { files }⟩

structure SymbolLoader where
  /-- Open libraries by the paths they were opened at. -/
  opened : List (String × Library)
  searchPaths : List String

namespace SymbolLoader

/-- A loader that searches `paths`, then the working directory, then the platform's. -/
def withSearchPaths (workingDirectory : String) (paths : List String) : SymbolLoader :=
  ⟨[], paths ++ workingDirectory :: platformDirectories⟩

def new (workingDirectory : String) : SymbolLoader := withSearchPaths workingDirectory []

def addSearchPath (l : SymbolLoader) (path : String) : SymbolLoader :=
  { l with searchPaths := path :: l.searchPaths }

def loadedCount (l : SymbolLoader) : Nat := l.opened.length

/-- File names for a short library name, most likely first. -/
def candidateNames (name : String) : List String := [s!"lib{name}.so", s!"{name}.so"]

/-- The paths to try for a name that is no absolute path. -/
def candidates (l : SymbolLoader) (name : String) : List String :=
  l.searchPaths.flatMap fun directory => (candidateNames name).map (Path.join directory)

def resolve? (l : SymbolLoader) (files : Files) (name : String) : Option String :=
  if Path.isAbsolute name then if files.has name then some name else none
  else (l.candidates name).find? files.has

def cached? (l : SymbolLoader) (path : String) : Option Library :=
  (l.opened.find? fun o => Path.same o.1 path).map Prod.snd

/-- Open a path as the dynamic linker does: as the file it leads to if it has a separator, and
else as the name of a library that the linker looks for on its own. -/
def openLibrary? (machine : Machine) (path : String) : Option Library :=
  if path.toList.contains '/' then
    match machine.files.find? path with
    | some (.library l) => some l
    | _ => none
  else machine.systemLibraries.lookup path

/-- Load a library by name or path.  The answer tells the path where it had to be
opened. -/
def load (l : SymbolLoader) (machine : Machine) (name : String) :
    Except LoadError (Library × Option String) × SymbolLoader :=
  match l.resolve? machine.files name with
  | none => (.error (.libraryNotFound name), l)
  | some path =>
    match l.cached? path with
    | some library => (.ok (library, none), l)
    | none =>
      match openLibrary? machine path with
      | none => (.error (.loadFailed name), l)
      | some library =>
        (.ok (library, some path), { l with opened := l.opened ++ [(path, library)] })

def symbol (library symbol : String) (l : Library) : Except LoadError Int :=
  match l.function? symbol with
  | some answer => .ok answer
  | none => .error (.symbolNotFound library symbol)

section Logged

variable {σ : Type} [Journal σ]

def loadLogged (l : SymbolLoader) (machine : Machine) (name : String) :
    Run σ (Except LoadError Library × SymbolLoader) := do
  match l.load machine name with
  | (.error e, l) => return (.error e, l)
  | (.ok (library, none), l) => return (.ok library, l)
  | (.ok (library, some path), l) =>
    Run.log .debug "library loaded" [("library", .text name), ("path", .text path)]
    return (.ok library, l)

/-- The answer of a function of a library, which is loaded if it is not yet. -/
def function (l : SymbolLoader) (machine : Machine) (library name : String) :
    Run σ (Except LoadError Int × SymbolLoader) := do
  let (loaded, l) ← l.loadLogged machine library
  return (loaded.bind (symbol library name), l)

end Logged

end SymbolLoader

/-- Whether the process itself has a function, among the names in `known`. -/
def processFunction (known : List String) (symbol : String) : Except LoadError Unit :=
  match symbolName? symbol with
  | some name => if known.contains name then .ok () else .error (.symbolNotFound "<process>" symbol)
  | none => .error (.symbolNotFound "<process>" symbol)

end CallBridge
