import ChipEight.Config
import ChipEight.Cpu
import ChipEight.Event
import ChipEight.Screen

namespace ChipEight

/-!
The machine: processor and memory, screen, random numbers, and how it was configured.  It works
with any generator of random numbers.

Loading a program is a full reset of the processor and the screen.  It leaves the generator and
the configuration alone, so the random numbers of a machine go on from program to program.
-/

/-- The state of a machine with a generator. -/
structure Machine (G : Type) where
  cpu : Cpu
  screen : Screen
  random : G
  config : Config
deriving DecidableEq, Repr

/-- What loading a program did: how many bytes were kept, the machine, and what there is to tell. -/
structure Loading (G : Type) where
  size : Nat
  machine : Machine G
  events : List Event

namespace Machine

variable {G : Type}

/-- Reset the machine and load a program, cutting off what does not fit into memory. -/
def load (machine : Machine G) (program : List UInt8) : Loading G :=
  let (size, cpu) := machine.cpu.load program
  { size
    machine := { machine with cpu, screen := machine.screen.clear }
    events :=
      if size < program.length then [.truncated program.length size, .loaded size]
      else [.loaded size] }

def boot [Generator G] (config : Config) (unforeseen : G) (program : List UInt8) : Loading G :=
  load { cpu := .initial, screen := .blank, random := config.random unforeseen, config } program

def shouldBuzz (machine : Machine G) : Bool :=
  machine.cpu.soundTimer > 0

/-- Write a pixel from outside, as a holder of the screen may. -/
def setPixel (machine : Machine G) (x y : Nat) (on : Bool) : Machine G :=
  { machine with screen := machine.screen.set x y on }

end Machine
end ChipEight
