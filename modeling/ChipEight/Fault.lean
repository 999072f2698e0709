namespace ChipEight

/-!
What can stop the loop that drives a machine.

Instructions never fail.  A fault comes from a device, or from a rate that no clock can keep.  A
fault that a device raised carries the device's own message, and shows it as its cause.
-/

/-- The two schedules of the loop. -/
inductive Cadence where
  | cpu
  | display
deriving DecidableEq, Repr

def Cadence.text : Cadence -> String
  | cpu => "cpu"
  | display => "display"

/-- Why a run stopped early. -/
inductive Fault where
  /-- The screen device of a named front end failed. -/
  | render (frontEnd cause : String)
  | sound (cause : String)
  /-- The front end failed while it looked for input. -/
  | input (cause : String)
  | invalidRate (cadence : Cadence)
  | format
deriving DecidableEq, Repr

namespace Fault

def formatText : String :=
  "an error occurred when formatting an argument"

def message : Fault -> String
  | render frontEnd cause => "render (" ++ frontEnd ++ "): " ++ cause
  | sound cause => "sound error: " ++ cause
  | input cause => "input error: " ++ cause
  | invalidRate cadence => cadence.text ++ " rate must be greater than zero"
  | format => formatText

/-- The message of what caused a fault, if anything did. -/
def cause? : Fault -> Option String
  | render _ cause | sound cause | input cause => some cause
  | invalidRate _ => none
  | format => some formatText

/-- The messages of a fault and of what caused it, the outermost first. -/
def chain (fault : Fault) : List String :=
  fault.message :: fault.cause?.toList

end Fault
end ChipEight
