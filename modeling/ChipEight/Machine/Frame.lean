import ChipEight.Device
import ChipEight.Fault
import ChipEight.Machine

namespace ChipEight

/-!
One refresh of the screen.

A frame counts both timers down, shows the screen, and sounds the buzzer if the sound timer ran
when the frame began, so that a sound timer of one is still heard.  Whatever the devices answer,
nothing else in the machine changes.
-/

namespace Machine

variable {G : Type}

def countDown (machine : Machine G) : Machine G :=
  { machine with cpu := machine.cpu.tickTimers }

/-- Show the screen, and name the front end if that fails. -/
def show? (screen : Screen) : DeviceDialogue (Except Fault Unit) := do
  match ← askDevice (.render screen) with
  | .ok () => return .ok ()
  | .error cause => return .error (.render (← askDevice .name) cause)

def buzz? (due : Bool) : DeviceDialogue (Except Fault Unit) := do
  if due then
    match ← askDevice .buzz with
    | .ok () => return .ok ()
    | .error cause => return .error (.sound cause)
  else return .ok ()

/-- Refresh the screen once; a failing screen keeps the buzzer silent. -/
def frame (machine : Machine G) : DeviceDialogue (Except Fault Unit × Machine G) := do
  let after := machine.countDown
  match ← show? machine.screen with
  | .error fault => return (.error fault, after)
  | .ok () => return (← buzz? machine.shouldBuzz, after)

end Machine
end ChipEight
