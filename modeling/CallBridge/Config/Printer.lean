/-
Settings as text.

Absent sections and keys are left out; an empty section still shows its header.
-/
import CallBridge.Config.Schema
import CallBridge.Toml.Printer

namespace CallBridge

namespace Config

open Toml (renderEntry renderString renderStrings renderBoolean renderTable renderTables)

def CallSettings.entries (s : CallSettings) : List String :=
  (s.checkErrno.map fun b => renderEntry "check_errno" (renderBoolean b)).toList
    ++ (s.releaseLock.map fun b => renderEntry "release_lock" (renderBoolean b)).toList
    ++ (s.abi.map fun text => renderEntry "abi" (renderString text)).toList

def CallbackSettings.entries (s : CallbackSettings) : List String :=
  (s.onExpired.map fun text => renderEntry "on_expired" (renderString text)).toList

def LoaderSettings.entries (s : LoaderSettings) : List String :=
  (s.searchPaths.map fun texts => renderEntry "search_paths" (renderStrings texts)).toList

def Settings.render (s : Settings) : String :=
  renderTables
    ((s.call.map fun c => renderTable "call" c.entries).toList
      ++ (s.callbacks.map fun c => renderTable "callbacks" c.entries).toList
      ++ (s.loader.map fun l => renderTable "loader" l.entries).toList)

end Config

end CallBridge
