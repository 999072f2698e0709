import ChipEight.Random

namespace ChipEight

/-!
The generator that a program is run with: the key stream of ChaCha with twelve rounds.

Its state is a key and the number of words drawn from it.  The word at a position depends on
the key and the position alone, so the whole stream is known from the seed.  The stream is cut
into blocks of sixteen words; the number of a block takes 64 bits and wraps.
-/

/-- A key and how many words have been drawn from its stream. -/
structure ChaCha where
  key : Vector UInt32 8
  drawn : Nat
deriving DecidableEq, Repr

namespace ChaCha

def rotateLeft (word amount : UInt32) : UInt32 :=
  word <<< amount ||| word >>> (32 - amount)

/-- Turn the bits of a word to the right; a turn by nothing leaves it. -/
def rotateRight (word amount : UInt32) : UInt32 :=
  word >>> amount ||| word <<< ((32 - amount) % 32)

abbrev Block := Vector UInt32 16

/-- Add one word to another, and mix the sum into a third that is then turned. -/
def mix (block : Block) (target addend turned : Fin 16) (amount : UInt32) : Block :=
  let sum := block[target] + block[addend]
  let block := block.set target.val sum target.isLt
  block.set turned.val (rotateLeft (block[turned] ^^^ sum) amount) turned.isLt

def quarterRound (block : Block) (a b c d : Fin 16) : Block :=
  let block := mix block a b d 16
  let block := mix block c d b 12
  let block := mix block a b d 8
  mix block c d b 7

/-- A round on the four columns, then one on the four diagonals. -/
def doubleRound (block : Block) : Block :=
  let block := quarterRound block 0 4 8 12
  let block := quarterRound block 1 5 9 13
  let block := quarterRound block 2 6 10 14
  let block := quarterRound block 3 7 11 15
  let block := quarterRound block 0 5 10 15
  let block := quarterRound block 1 6 11 12
  let block := quarterRound block 2 7 8 13
  quarterRound block 3 4 9 14

def rounds : Nat -> Block -> Block
  | 0, block => block
  | count + 1, block => rounds count (doubleRound block)

/-- The block before the rounds: constants, key, number of the block, and zeros. -/
def seedBlock (key : Vector UInt32 8) (number : UInt64) : Block :=
  #v[0x61707865, 0x3320646E, 0x79622D32, 0x6B206574,
    key[0], key[1], key[2], key[3], key[4], key[5], key[6], key[7],
    number.toUInt32, (number >>> 32).toUInt32, 0, 0]

def block (key : Vector UInt32 8) (number : UInt64) : Block :=
  let start := seedBlock key number
  (rounds 6 start).zipWith (fun mixed word => mixed + word) start

def wordAt (key : Vector UInt32 8) (position : Nat) : UInt32 :=
  have inside : position % 16 < 16 := Nat.mod_lt _ (by decide)
  (block key (UInt64.ofNat (position / 16)))[position % 16]

def next (generator : ChaCha) : UInt32 × ChaCha :=
  (wordAt generator.key generator.drawn, { generator with drawn := generator.drawn + 1 })

def stretch (state : UInt64) : UInt64 :=
  state * 6364136223846793005 + 11634580027462260723

/-- The word that a stretched state gives to the key: folded bits, turned by the highest five. -/
def keyWord (state : UInt64) : UInt32 :=
  rotateRight (((state >>> 18) ^^^ state) >>> 27).toUInt32 (state >>> 59).toUInt32

def stretched : Nat -> UInt64 -> UInt64
  | 0, state => state
  | count + 1, state => stretched count (stretch state)

/-- The key that is stretched from a seed. -/
def keyOfSeed (seed : UInt64) : Vector UInt32 8 :=
  Vector.ofFn (fun i => keyWord (stretched (i.val + 1) seed))

/-- The stream of a key, from its first word on. -/
def ofKey (key : Vector UInt32 8) : ChaCha :=
  ⟨key, 0⟩

/-- The stream of a key of zeros, for machines whose random numbers do not matter. -/
def unkeyed : ChaCha :=
  ofKey (.replicate 8 0)

instance : Generator ChaCha where
  next := next
  ofSeed := fun seed => ofKey (keyOfSeed seed)

end ChaCha
end ChipEight
