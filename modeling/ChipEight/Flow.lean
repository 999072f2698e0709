namespace ChipEight

/-!
What an instruction, or a front end, tells the loop that drives the machine.
-/

/-- The kind of thing that has just happened. -/
inductive Flow where
  | ok
  /-- The front end wants the machine to stop. -/
  | interrupt
  /-- The program counter was set to a new address. -/
  | jump
  /-- The screen was drawn or cleared. -/
  | draw
  | sound
  /-- The machine stalls until a key is pressed and let go. -/
  | keyWait
deriving DecidableEq, Repr

end ChipEight
