/-
How work ends when it does not return.

A `Panic` is a broken assumption of the calling code.  It unwinds, so guards along
the way still clean up.  A `Halt` is any of the ways a run can stop short.
-/

namespace CallBridge

/-- A broken assumption, noticed while computing. -/
inductive Panic where
  | overflow
  | zeroAlignment
  /-- Raised by managed code, with its own words. -/
  | raised (text : String)
deriving DecidableEq, Repr

namespace Panic

def message : Panic → String
  | overflow => "attempt to add with overflow"
  | zeroAlignment => "alignment must be positive"
  | raised text => text

end Panic

/-- The ways a run stops short.  Only a panic unwinds; an aborted or blocked thread
runs nothing more, and `exhausted` is the bound on nested callbacks. -/
inductive Halt where
  | panic (p : Panic)
  | abort
  | blocked
  | exhausted
deriving DecidableEq, Repr

end CallBridge
