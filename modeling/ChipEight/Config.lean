import ChipEight.Random

namespace ChipEight

/-!
How a machine is set up: how fast it goes, and where its random numbers start.
-/

/-- The parameters of a machine. -/
structure Config where
  cpuRate : Nat := 600
  /-- Refreshes of the screen, and steps of the timers, in a second. -/
  displayRate : Nat := 60
  /-- Where the random numbers start; without it they start somewhere unknown. -/
  seed : Option UInt64 := none
deriving DecidableEq, Repr

namespace Config

/-- The parameters of a machine about which nothing is said. -/
def standard : Config := {}

/-- The generator a configuration asks for, when an unknown start would be `unforeseen`. -/
def random {G : Type} [Generator G] (config : Config) (unforeseen : G) : G :=
  match config.seed with
  | some seed => Generator.ofSeed seed
  | none => unforeseen

end Config
end ChipEight
