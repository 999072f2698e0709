import ChipEight.Device

namespace ChipEight

/-!
A front end without screen, speaker or keys, which can stop after a number of frames.
-/

/-- How many frames have been shown, and how many there are to be, if that is limited. -/
structure Headless where
  frames : Nat
  limit : Option Nat
deriving DecidableEq, Repr

namespace Headless

def start (limit : Option Nat) : Headless :=
  ⟨0, limit⟩

def name : String := "headless"

def render (headless : Headless) : Headless :=
  { headless with frames := headless.frames + 1 }

def buzz (headless : Headless) : Event :=
  .buzzed headless.frames

def update (headless : Headless) : Flow :=
  match headless.limit with
  | some limit => if limit ≤ headless.frames then .interrupt else .ok
  | none => .ok

end Headless
end ChipEight
