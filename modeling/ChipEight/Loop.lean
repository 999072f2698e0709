import ChipEight.Clock
import ChipEight.Machine.Frame
import ChipEight.Machine.Tick

namespace ChipEight

/-!
The loop that drives a machine in time.

Instructions and frames have a clock each.  A pass of the loop reads the time once, executes the
instructions that are owed then, refreshes the screen if a frame is owed, and rests for a moment
if neither was.  The front end is asked for news before every instruction, and may stop the loop
there.  A burst of owed instructions is cut short as soon as a frame is due, and never makes up
for more than the time of one frame.

One pass is a finite conversation.  How often it is repeated is for the caller to say.
-/

/-- The longest rest between two passes, in nanoseconds. -/
def longestRest : Nat := 250000

/-- A machine that is being driven, with its two clocks. -/
structure Loop (G : Type) where
  machine : Machine G
  cpuClock : Clock
  displayClock : Clock

/-- How far a run has come. -/
inductive Progress (G : Type) where
  | running (loop : Loop G)
  /-- The front end has stopped the loop, or something has failed. -/
  | ended (result : Except Fault Unit) (machine : Machine G)

namespace Loop

variable {G : Type}

/-- Execute one instruction with the present keys, and report what there is to tell. -/
def instruction [Generator G] (loop : Loop G) : DeviceDialogue (Loop G) := do
  let step := loop.machine.tick (← askDevice .keys)
  reportAll step.events
  return { loop with machine := step.machine }

/-- Execute a number of owed instructions, unless a frame falls due or the run ends before. -/
def burst [Generator G] : Nat -> Loop G -> DeviceDialogue (Progress G)
  | 0, loop => return .running loop
  | owed + 1, loop => do
      let loop := { loop with cpuClock := loop.cpuClock.advance }
      match ← askDevice .update with
      | .error cause => return .ended (.error (.input cause)) loop.machine
      | .ok .interrupt =>
          askDevice (.report (.interrupted (← askDevice .name)))
          return .ended (.ok ()) loop.machine
      | .ok _ =>
          let loop ← loop.instruction
          if loop.displayClock.isDue (← askDevice .now) then return .running loop
          else burst owed loop

def refresh (loop : Loop G) : DeviceDialogue (Progress G) := do
  let (result, machine) ← loop.machine.frame
  match result with
  | .error fault => return .ended (.error fault) machine
  | .ok () => return .running { loop with machine, displayClock := loop.displayClock.advance }

/-- Rest until the next cycle is due, but not for long. -/
def rest (loop : Loop G) : DeviceDialogue (Progress G) := do
  let due := min loop.cpuClock.next loop.displayClock.next
  let wait := (due - (← askDevice .now)).toNat
  askDevice (.sleep (min wait longestRest))
  return .running loop

/-- What follows the instructions of a pass that began at `now`. -/
def afterBurst (now : Int) (idle : Bool) (loop : Loop G) : DeviceDialogue (Progress G) :=
  if loop.displayClock.isDue now then loop.refresh
  else if idle then loop.rest
  else return .running loop

def pass [Generator G] (loop : Loop G) : DeviceDialogue (Progress G) := do
  let now ← askDevice .now
  let clock := loop.cpuClock.limitBacklog now loop.displayClock.interval
  let owed := clock.owed now
  match ← burst owed { loop with cpuClock := clock } with
  | .ended result machine => return .ended result machine
  | .running loop => loop.afterBurst now (owed == 0)

/-- Pass after pass, but no more than a given number. -/
def passes [Generator G] : Nat -> Loop G -> DeviceDialogue (Progress G)
  | 0, loop => return .running loop
  | count + 1, loop => do
      match ← loop.pass with
      | .ended result machine => return .ended result machine
      | .running loop => passes count loop

end Loop

namespace Machine

variable {G : Type}

def startLoop (machine : Machine G) (cpuRate displayRate : Nat) : DeviceDialogue (Loop G) := do
  let start ← askDevice .now
  askDevice (.report (.started (← askDevice .name) cpuRate displayRate))
  return ⟨machine, .start cpuRate start, .start displayRate start⟩

/-- Drive the machine at two rates, for at most a number of passes; neither rate may be zero. -/
def drive [Generator G] (machine : Machine G) (cpuRate displayRate passes : Nat) :
    DeviceDialogue (Progress G) := do
  if cpuRate = 0 then return .ended (.error (.invalidRate .cpu)) machine
  else if displayRate = 0 then return .ended (.error (.invalidRate .display)) machine
  else (← machine.startLoop cpuRate displayRate).passes passes

def driveAsConfigured [Generator G] (machine : Machine G) (passes : Nat) :
    DeviceDialogue (Progress G) :=
  machine.drive machine.config.cpuRate machine.config.displayRate passes

end Machine
end ChipEight
