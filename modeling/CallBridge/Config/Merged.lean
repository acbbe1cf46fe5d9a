/-
Settings of a project together with the global ones.

Each key is decided by itself: the project's value if it has one, else the global one,
else the built-in one.
-/
import CallBridge.Config.Settings
import CallBridge.Files.Path

namespace CallBridge

namespace Config

structure Merged where
  /-- Settings of the project, with what the environment overrides. -/
  project : Settings
  global : Settings
  projectRoot : Option String
deriving DecidableEq, Repr

namespace Merged

def checkErrno (m : Merged) : Bool :=
  (m.project.checkErrno <|> m.global.checkErrno).getD false

def releaseLock (m : Merged) : Bool :=
  (m.project.releaseLock <|> m.global.releaseLock).getD false

def abi (m : Merged) : String := (m.project.abi <|> m.global.abi).getD "default"

def onExpired (m : Merged) : String := (m.project.onExpired <|> m.global.onExpired).getD "abort"

/-- Search paths, those of the project first and seen from its root. -/
def searchPaths (m : Merged) : List String :=
  let fromRoot (path : String) : String :=
    match m.projectRoot with
    | some root => Path.join root path
    | none => path
  m.project.searchPaths.map fromRoot ++ m.global.searchPaths

def isProject (m : Merged) : Bool := m.projectRoot.isSome

end Merged

end Config

end CallBridge
