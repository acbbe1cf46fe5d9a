/-
What a configuration means for the engine.
-/
import CallBridge.Abi
import CallBridge.Config.Loader
import CallBridge.Expiry
import CallBridge.Signature.Builder
import CallBridge.Symbols

namespace CallBridge

/-- Defaults of specifications, trampolines and library lookup. -/
structure EngineDefaults where
  context : CallContext
  abi : Abi
  expiry : ExpiryPolicy
  searchPaths : List String
deriving DecidableEq

namespace EngineDefaults

def builtin : EngineDefaults := ⟨⟨false, false⟩, .default, .abort, []⟩

/-- Interpret the effective settings, the calling convention first. -/
def ofMerged (m : Config.Merged) : Except Error EngineDefaults := do
  let abi ← Abi.ofName m.abi
  let expiry ← ExpiryPolicy.ofName m.onExpired
  return ⟨⟨m.checkErrno, m.releaseLock⟩, abi, expiry, m.searchPaths⟩

def discover (loader : Config.Loader) (files : Files) (env : Config.Environment)
    (directory : String) : Except Error EngineDefaults × Config.Loader :=
  match loader.loadDirectory files env directory with
  | (.error e, loader) => (.error (.config e), loader)
  | (.ok merged, loader) => (ofMerged merged, loader)

def builder (d : EngineDefaults) : Builder := .empty d.context

def symbolLoader (d : EngineDefaults) (workingDirectory : String) : SymbolLoader :=
  .withSearchPaths workingDirectory d.searchPaths

def debugText (d : EngineDefaults) : String :=
  let paths := Text.bracketed (d.searchPaths.map Text.quotedPath)
  let context := d.context.debugText
  let abi := d.abi.debugText
  let expiry := d.expiry.debugText
  s!"EngineDefaults \x7b context: {context}, abi: {abi}, expiry: {expiry}, search_paths: {paths} \x7d"

def announced {σ : Type} [Journal σ] (result : Except Error EngineDefaults) : Run σ Unit :=
  match result with
  | .ok d => Run.log .debug "engine defaults loaded" [("defaults", .text d.debugText)]
  | .error _ => pure ()

end EngineDefaults

end CallBridge
