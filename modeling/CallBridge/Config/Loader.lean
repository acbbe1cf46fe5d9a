/-
Finding, reading and merging configuration files.

A load has three stages in a fixed order: the project file, the global file, and the
environment.  The first one that fails decides the error.  A loader remembers nothing
but the path of its global file.
-/
import CallBridge.Config.Environment
import CallBridge.Config.Merged
import CallBridge.Config.Schema
import CallBridge.Files.Tree

namespace CallBridge

namespace Config

def projectFile : String := "ligature.toml"

def globalDirectory (env : Environment) : Except Error String :=
  match env.home? with
  | some home => .ok (Path.join home ".ligature")
  | none => .error .homeNotFound

def Settings.read (files : Files) (path : String) : Except Error Settings :=
  match files.readText path with
  | .ok text => parse path text
  | .error reason =>
    if reason = .system Files.noEntry then .error (.notFound path) else .error (.unreadable reason)

structure Loader where
  /-- The path of the global file, once it is known. -/
  globalPath : Option String
  readsEnvironment : Bool
deriving DecidableEq, Repr

namespace Loader

def new : Loader := ⟨none, true⟩

def withGlobalPath (path : String) : Loader := ⟨some path, true⟩

def withoutEnvironment (l : Loader) : Loader := { l with readsEnvironment := false }

/-- The nearest directory, upwards from `start`, that has a project file. -/
def projectDirectory? (files : Files) (start : String) : Option String :=
  (Path.ancestors start).find? fun directory => files.has (Path.join directory projectFile)

/-- The project found from `start` upwards.  Without one the settings are empty. -/
def findProject (files : Files) (start : String) : Except Error (Option String × Settings) :=
  match projectDirectory? files start with
  | none => .ok (none, .empty)
  | some directory => do
    let settings ← Settings.read files (Path.join directory projectFile)
    return (some directory, settings)

/-- Fix the path of the global file if a home directory is known. -/
def resolveGlobal (l : Loader) (env : Environment) : Loader :=
  match l.globalPath, globalDirectory env with
  | none, .ok directory => { l with globalPath := some (Path.join directory "config.toml") }
  | _, _ => l

/-- The global settings; a file that does not exist has none. -/
def readGlobal (l : Loader) (files : Files) : Except Error Settings :=
  match l.globalPath with
  | some path => if files.has path then Settings.read files path else .ok .empty
  | none => .ok .empty

/-- Settings with what a variable makes of them, if the variable is set. -/
def override (env : Environment) (name : String) (put : String → Settings → Except Error Settings)
    (s : Settings) : Except Error Settings :=
  match env.get? name with
  | some text => put text s
  | none => .ok s

def putCheckErrno (text : String) (s : Settings) : Except Error Settings :=
  .ok (s.modifyCall fun c => { c with checkErrno := some (Environment.isOn text) })

def putReleaseLock (text : String) (s : Settings) : Except Error Settings :=
  .ok (s.modifyCall fun c => { c with releaseLock := some (Environment.isOn text) })

def putAbi (text : String) (s : Settings) : Except Error Settings := do
  checkAbi "LIGATURE_ABI" text
  return s.modifyCall fun c => { c with abi := some text }

def putOnExpired (text : String) (s : Settings) : Except Error Settings := do
  let policy := Text.lowercase text
  checkPolicy "LIGATURE_ON_EXPIRED" policy
  return s.modifyCallbacks fun c => { c with onExpired := some policy }

/-- Settings with the environment's values in place of their own. -/
def applyEnvironment (env : Environment) (s : Settings) : Except Error Settings := do
  let s ← override env "LIGATURE_CHECK_ERRNO" putCheckErrno s
  let s ← override env "LIGATURE_RELEASE_LOCK" putReleaseLock s
  let s ← override env "LIGATURE_ABI" putAbi s
  override env "LIGATURE_ON_EXPIRED" putOnExpired s

/-- The stages after the project file. -/
def merge (l : Loader) (files : Files) (env : Environment) (root : Option String)
    (project : Settings) : Except Error Merged := do
  let global ← l.readGlobal files
  let project ← if l.readsEnvironment then applyEnvironment env project else pure project
  return ⟨project, global, root⟩

/-- Load for a project stage that has been made: only one that succeeded lets the loader
look for its global file. -/
def finish (l : Loader) (files : Files) (env : Environment) :
    Except Error (Option String × Settings) → Except Error Merged × Loader
  | .error e => (.error e, l)
  | .ok (root, project) =>
    let l := l.resolveGlobal env
    (l.merge files env root project, l)

def loadDirectory (l : Loader) (files : Files) (env : Environment) (start : String) :
    Except Error Merged × Loader :=
  l.finish files env (findProject files start)

def loadFile (l : Loader) (files : Files) (env : Environment) (path : String) :
    Except Error Merged × Loader :=
  l.finish files env (do return (Path.parent? path, ← Settings.read files path))

end Loader

end Config

end CallBridge
