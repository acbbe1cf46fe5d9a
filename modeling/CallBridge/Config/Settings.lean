/-
The settings of one configuration file.

Each section and each key may be absent, and a section that is present but empty is not
an absent one.  The same settings are used for project files and for the global file.
-/
import CallBridge.Abi

namespace CallBridge

namespace Config

structure CallSettings where
  checkErrno : Option Bool
  releaseLock : Option Bool
  abi : Option String
deriving DecidableEq, Repr

structure CallbackSettings where
  onExpired : Option String
deriving DecidableEq, Repr

structure LoaderSettings where
  searchPaths : Option (List String)
deriving DecidableEq, Repr

structure Settings where
  call : Option CallSettings
  callbacks : Option CallbackSettings
  loader : Option LoaderSettings
deriving DecidableEq, Repr

def CallSettings.empty : CallSettings := ⟨none, none, none⟩

def CallbackSettings.empty : CallbackSettings := ⟨none⟩

def LoaderSettings.empty : LoaderSettings := ⟨none⟩

/-- A word of the configuration language for a calling convention. -/
def isAbiSpelling (text : String) : Bool := text == "default" || (decimal? UInt32.size text).isSome

/-- A word of the configuration language for the treatment of expired closures. -/
def isPolicySpelling (text : String) : Bool := text == "abort" || text == "ignore"

/-- Refuse a wrong calling convention, naming where it was written. -/
def checkAbi (field text : String) : Except Error Unit :=
  if isAbiSpelling text then .ok ()
  else .error (.invalidValue field s!"must be 'default' or an ABI number, got '{text}'")

/-- Refuse a wrong policy, naming where it was written. -/
def checkPolicy (field text : String) : Except Error Unit :=
  if isPolicySpelling text then .ok ()
  else .error (.invalidValue field s!"must be 'abort' or 'ignore', got '{text}'")

namespace Settings

def empty : Settings := ⟨none, none, none⟩

def checkErrno (s : Settings) : Option Bool := s.call.bind CallSettings.checkErrno

def releaseLock (s : Settings) : Option Bool := s.call.bind CallSettings.releaseLock

def abi (s : Settings) : Option String := s.call.bind CallSettings.abi

def onExpired (s : Settings) : Option String := s.callbacks.bind CallbackSettings.onExpired

def searchPaths (s : Settings) : List String :=
  (s.loader.bind LoaderSettings.searchPaths).getD []

def validate (s : Settings) : Except Error Unit := do
  s.abi.forM (checkAbi "call.abi")
  s.onExpired.forM (checkPolicy "callbacks.on_expired")

/-- Change the call section, which is made if it is absent. -/
def modifyCall (s : Settings) (f : CallSettings → CallSettings) : Settings :=
  { s with call := some (f (s.call.getD .empty)) }

def modifyCallbacks (s : Settings) (f : CallbackSettings → CallbackSettings) : Settings :=
  { s with callbacks := some (f (s.callbacks.getD .empty)) }

end Settings

end Config

end CallBridge
