import ChipEight.Dialogue
import ChipEight.Event

namespace ChipEight

/-!
The host that the command runs on: its files, its output, its clock and its log.
-/

namespace Host

/-- What the command asks of the host. -/
inductive Question where
  | bytesOf (path : String)
  /-- Why there is no terminal to play on. -/
  | missingTerminal
  /-- A key for random numbers that nobody can foresee. -/
  | entropy
  /-- Write a text to the standard output. -/
  | print (text : String)
  /-- The present time in nanoseconds. -/
  | now
  | sleep (nanoseconds : Nat)
  | report (event : Event)

/-- What the host answers; a file that cannot be read is answered with a message. -/
abbrev Answer : Question -> Type
  | .bytesOf _ => Except String (List UInt8)
  | .missingTerminal => String
  | .entropy => Vector UInt32 8
  | .print _ => Unit
  | .now => Int
  | .sleep _ => Unit
  | .report _ => Unit

end Host

abbrev HostDialogue (R : Type) : Type :=
  Dialogue Host.Answer R

def askHost (question : Host.Question) : HostDialogue (Host.Answer question) :=
  Dialogue.put question

end ChipEight
