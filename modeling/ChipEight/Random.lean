namespace ChipEight

/-!
The random numbers of the machine.

A machine draws words from a generator that it is given, and knows nothing more of it than that
each word leaves a generator for the words to come, and that a seed says where to start.
-/

/-- Anything that gives words, one after another. -/
class Generator (G : Type) where
  /-- The next word, and the generator for those behind it. -/
  next : G -> UInt32 × G
  ofSeed : UInt64 -> G

end ChipEight
