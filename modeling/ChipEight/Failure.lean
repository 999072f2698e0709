import ChipEight.Fault

namespace ChipEight

/-!
What can make the command fail.
-/

/-- Why the command failed. -/
inductive Failure where
  /-- The machine was stopped by a fault. -/
  | machine (fault : Fault)
  /-- A file or a device of the host could not be used. -/
  | host (cause : String)
  | keyMap (cause : String)
  /-- The log had been set up before. -/
  | log
deriving DecidableEq, Repr

namespace Failure

def logText : String :=
  "attempted to set a logger after the logging system was already initialized"

/-- What went wrong, without saying where. -/
def detail : Failure -> String
  | machine fault => fault.message
  | host cause => cause
  | keyMap cause => "keymap: " ++ cause
  | log => logText

def message (failure : Failure) : String :=
  "application error: " ++ failure.detail

/-- The messages of what caused a failure, the outermost first. -/
def causes : Failure -> List String
  | machine fault => fault.chain
  | host cause => [cause]
  | keyMap cause => [cause]
  | log => [logText]

/-- The messages of a failure and of what caused it, the outermost first. -/
def chain (failure : Failure) : List String :=
  failure.message :: failure.causes

end Failure
end ChipEight
