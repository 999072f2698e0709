import ChipEight.Dialogue
import ChipEight.Event
import ChipEight.Flow
import ChipEight.Keypad
import ChipEight.Screen

namespace ChipEight

/-!
The devices that a running machine talks to: screen, buzzer, keys, clock and log.
-/

namespace Device

/-- What a machine and its loop ask of the devices. -/
inductive Question where
  | name
  | keys
  /-- Look after the events of the host; asked before every instruction. -/
  | update
  | render (screen : Screen)
  | buzz
  /-- The present time in nanoseconds. -/
  | now
  | sleep (nanoseconds : Nat)
  | report (event : Event)

/-- What the devices answer; those that can fail answer with a message then. -/
abbrev Answer : Question -> Type
  | .name => String
  | .keys => Keys
  | .update => Except String Flow
  | .render _ => Except String Unit
  | .buzz => Except String Unit
  | .now => Int
  | .sleep _ => Unit
  | .report _ => Unit

end Device

abbrev DeviceDialogue (R : Type) : Type :=
  Dialogue Device.Answer R

def askDevice (question : Device.Question) : DeviceDialogue (Device.Answer question) :=
  Dialogue.put question

def reportAll : List Event -> DeviceDialogue Unit
  | [] => pure ()
  | event :: events => do
      askDevice (.report event)
      reportAll events

end ChipEight
