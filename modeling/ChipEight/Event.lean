import ChipEight.Instruction.Text

namespace ChipEight

/-!
What is worth telling about a run, and how it is told.

An event is data until somebody wants to read it: its text is made only for the severities that
are asked for.  Every wording of the log stands here.
-/

/-- How much attention an event deserves, the most urgent first. -/
inductive Severity where
  | error
  | warn
  | info
  | debug
  | trace
deriving DecidableEq, Repr

namespace Severity

/-- The place in the order of urgency; zero is the most urgent. -/
def rank : Severity -> Nat
  | error => 0
  | warn => 1
  | info => 2
  | debug => 3
  | trace => 4

/-- Whether a log that is kept down to one severity holds events of another. -/
def admits (threshold severity : Severity) : Bool :=
  severity.rank ≤ threshold.rank

def label : Severity -> String
  | error => "ERROR"
  | warn => "WARN"
  | info => "INFO"
  | debug => "DEBUG"
  | trace => "TRACE"

end Severity

/-- Something that happened in a run. -/
inductive Event where
  /-- A program was longer than the memory left for it. -/
  | truncated (size kept : Nat)
  | loaded (size : Nat)
  /-- An instruction is about to be executed; its address is below the size of memory. -/
  | executing (address word : UInt16) (instruction : Instruction)
  /-- A return found the stack empty. -/
  | underflow (address : UInt16)
  | overflow (address : UInt16)
  /-- A wait for a key has seen one go down. -/
  | keySeen (key : UInt8)
  | keyTaken (register key : UInt8)
  /-- The loop begins to drive a front end. -/
  | started (name : String) (cpuRate displayRate : Nat)
  /-- The front end has stopped the loop. -/
  | interrupted (name : String)
  /-- A front end without a speaker was asked to buzz. -/
  | buzzed (frame : Nat)
  /-- The program file has been read. -/
  | running (path : String)
  /-- A limit of frames was given to a front end that has none. -/
  | framesIgnored
  | failed (message : String)
deriving DecidableEq, Repr

namespace Event

def severity : Event -> Severity
  | truncated .. | underflow _ | overflow _ | framesIgnored => .warn
  | loaded _ | running _ => .info
  | keySeen _ | keyTaken .. | started .. | interrupted _ => .debug
  | executing .. | buzzed _ => .trace
  | failed _ => .error

def text : Event -> String
  | truncated size kept =>
      "program is " ++ toString size ++ " bytes, truncated to " ++ toString kept ++ " bytes"
  | loaded size => "loaded program of " ++ toString size ++ " bytes"
  | executing address word instruction =>
      Hex.word address ++ ": " ++ Hex.word word ++ "  " ++ instruction.text
  | underflow address => "call stack underflow at " ++ Hex.word address
  | overflow address => "call stack overflow at " ++ Hex.word address
  | keySeen key =>
      "key wait: k" ++ String.singleton (Hex.smallDigit key.toNat) ++ " pressed"
  | keyTaken register key =>
      "key wait complete: V" ++ Hex.padded 1 register.toNat ++ " = " ++ Hex.padded 1 key.toNat
  | started name cpuRate displayRate =>
      "starting " ++ name ++ " backend, cpu " ++ toString cpuRate ++ " Hz, display "
        ++ toString displayRate ++ " Hz"
  | interrupted name => name ++ " backend interrupted execution"
  | buzzed frame => "buzz at frame " ++ toString frame
  | running path => "running " ++ path
  | framesIgnored => "--frames only applies to the headless backend"
  | failed message => message

/-- The part of the program that an event comes from, as the log of the command names it. -/
def target : Event -> String
  | truncated .. | loaded _ | executing .. | started .. | interrupted _ => "chip8::vm"
  | underflow _ | overflow _ | keySeen _ | keyTaken .. => "chip8::interp"
  | buzzed _ => "chip8::headless"
  | running _ | framesIgnored | failed _ => "chip8"

def line (event : Event) : String :=
  event.severity.label ++ " " ++ event.text

/-- An event with its severity and where it comes from in front. -/
def fullLine (event : Event) : String :=
  event.severity.label ++ " [" ++ event.target ++ "] " ++ event.text

end Event

def logLines (threshold : Severity) (events : List Event) : List String :=
  (events.filter (fun event => threshold.admits event.severity)).map Event.line

end ChipEight
