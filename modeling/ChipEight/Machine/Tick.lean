import ChipEight.Machine.Execute

namespace ChipEight

/-!
One step of the machine, and many.

A step reads the word at the program counter, moves past it, and executes the instruction that
the word encodes.  It is announced with the address in memory where the word was read.
-/

namespace Machine

variable {G K : Type} [Generator G] [KeySource K]

/-- Fetch, decode and execute one instruction. -/
def tick (machine : Machine G) (keys : K) : Step G :=
  let (word, cpu) := machine.cpu.fetch
  let instruction := Instruction.decode word
  let announced := Event.executing (cpu.current &&& 0xFFF) word instruction
  let step := { machine with cpu }.execute keys instruction
  { step with events := announced :: step.events }

/-- Go on for a number of steps, adding what they tell to what has been told. -/
def runFrom (keys : K) : Nat -> Machine G -> Flow -> Array Event -> Step G
  | 0, machine, flow, told => ⟨machine, flow, told.toList⟩
  | count + 1, machine, _, told =>
      let step := machine.tick keys
      runFrom keys count step.machine step.flow (told ++ step.events)

/-- Execute a number of instructions; the flow is that of the last one. -/
def run (machine : Machine G) (keys : K) (count : Nat) : Step G :=
  runFrom keys count machine .ok #[]

end Machine
end ChipEight
