import ChipEight.Machine.Frame
import ChipEight.Machine.Tick

namespace ChipEight

/-!
Histories of a machine.

A machine is stepped, shown, loaded with another program, or drawn upon by another holder of its
screen, in any order and any number of times.  The keys belong to the outside: they may change
between any two of these actions, so every step comes with the source of keys that it sees.  The
devices may fail whenever they are asked; a frame comes with the answers that they give in it.

What holds of a machine and is kept by every action holds after every history.  The same is true
of what holds between two machines that go through one history together.
-/

namespace Dialogue

variable {Question : Type} {Answer : Question -> Type} {R S : Type}

/-- Someone who answers a conversation and its continuation answers the two one after the other. -/
theorem hold_andThen {m : Type -> Type} [Monad m] [LawfulMonad m]
    (reply : (question : Question) -> m (Answer question)) (dialogue : Dialogue Answer R)
    (continuation : R -> Dialogue Answer S) :
    (dialogue.andThen continuation).hold reply =
      dialogue.hold reply >>= fun result => (continuation result).hold reply := by
  induction dialogue with
  | done result => simp only [andThen, hold, pure_bind]
  | ask question resume inductionHypothesis =>
      simp only [andThen, hold, bind_assoc, inductionHypothesis]

end Dialogue

/-- The answers that the devices of a front end have ready at some moment. -/
abbrev Device.Replies : Type :=
  (question : Device.Question) -> Device.Answer question

/-- Something that is done to a machine whose keys are read from sources of a kind. -/
inductive Action (K : Type) where
  /-- Execute one instruction, with the keys as they are then. -/
  | tick (keys : K)
  /-- Refresh the screen, on devices that work or fail. -/
  | frame (replies : Device.Replies)
  /-- Load a program. -/
  | load (program : List UInt8)
  /-- Write a pixel from outside. -/
  | setPixel (x y : Nat) (on : Bool)

namespace Machine

variable {G K : Type} [Generator G] [KeySource K]

/-- The machine after an action. -/
def after (machine : Machine G) : Action K -> Machine G
  | .tick keys => (machine.tick keys).machine
  | .frame replies => (Id.run (machine.frame.hold replies)).2
  | .load program => (machine.load program).machine
  | .setPixel x y on => machine.setPixel x y on

/-- The machine after a history of actions, the earliest first. -/
def afterAll (machine : Machine G) (history : List (Action K)) : Machine G :=
  history.foldl after machine

/-- The steps of the instructions that a history executes. -/
def steps (machine : Machine G) : List (Action K) -> List (Step G)
  | [] => []
  | .tick keys :: history => machine.tick keys :: (machine.tick keys).machine.steps history
  | action :: history => (machine.after action).steps history

/-- A frame counts the timers down, whatever the devices answer. -/
theorem after_frame (machine : Machine G) (replies : Device.Replies) :
    machine.after (.frame replies : Action K) = machine.countDown := by
  simp only [after, frame, Bind.bind, Pure.pure, Dialogue.hold_andThen, Id.run]
  split
  case h_1 => rfl
  case h_2 =>
    rw [Dialogue.hold_andThen]
    rfl

theorem afterAll_cons (machine : Machine G) (action : Action K) (history : List (Action K)) :
    machine.afterAll (action :: history) = (machine.after action).afterAll history :=
  rfl

/-- What every action keeps is kept by a history. -/
theorem afterAll_keeps (Holds : Machine G -> Prop)
    (kept : forall (machine : Machine G) (action : Action K),
      Holds machine -> Holds (machine.after action))
    {machine : Machine G} (holds : Holds machine) (history : List (Action K)) :
    Holds (machine.afterAll history) := by
  induction history generalizing machine with
  | nil => exact holds
  | cons action history inductionHypothesis =>
      exact inductionHypothesis (kept machine action holds)

end Machine
end ChipEight
