import Mathlib.Logic.Function.Iterate
import ChipEight.Proofs.Footprint
import ChipEight.Proofs.Independence
import ChipEight.Random.ChaCha

namespace ChipEight

/-!
The random numbers of a run.

A generator that starts from a seed gives the words of one fixed stream, one after the other.  In a
run, only `CXNN` draws from it, and each draws one word, whatever register it fills and whatever
mask it applies.  The bytes that these instructions deal are therefore known from the seed and the
masks alone: which other instructions come between them makes no difference, and neither do frames
or another program.  This holds with any generator; of one whose stream comes in blocks it says
which word of which block is drawn.
-/

namespace Instruction

/-- The mask of an instruction that draws a random word. -/
def mask? : Instruction -> Option UInt8
  | random _ mask => some mask
  | _ => none

theorem eq_random_of_form? {instruction : Instruction}
    (told : instruction.form? = some (.first 0xC)) :
    Exists fun x => Exists fun mask => instruction = random x mask := by
  cases instruction with
  | random x mask => exact ⟨x, mask, rfl⟩
  | _ => cases told

theorem eq_random_of_mask? {instruction : Instruction} {mask : UInt8}
    (told : instruction.mask? = some mask) : Exists fun x => instruction = random x mask := by
  cases instruction with
  | random x other =>
      cases told
      exact ⟨x, rfl⟩
  | _ => cases told

end Instruction

namespace Generator

variable {G : Type} [Generator G]

/-- The generator that is left when a number of words have been drawn. -/
def after (generator : G) (count : Nat) : G :=
  (fun generator : G => (next generator).2)^[count] generator

/-- The word that a generator gives after a number of others. -/
def word (generator : G) (position : Nat) : UInt32 :=
  (next (after generator position)).1

/-- The low byte of such a word, under a mask. -/
def byteAt (generator : G) (position : Nat) (mask : UInt8) : UInt8 :=
  (word generator position).toUInt8 &&& mask

theorem after_after (generator : G) (first second : Nat) :
    after (after generator first) second = after generator (first + second) := by
  rw [Nat.add_comm]
  exact (Function.iterate_add_apply _ second first generator).symm

theorem byteAt_after (generator : G) (drawn position : Nat) (mask : UInt8) :
    byteAt (after generator drawn) position mask = byteAt generator (drawn + position) mask := by
  rw [byteAt, word, after_after]
  rfl

theorem toNat_byteAt (generator : G) (position : Nat) (mask : UInt8) :
    (byteAt generator position mask).toNat =
      (word generator position).toNat % 256 &&& mask.toNat := by
  rw [byteAt, UInt8.toNat_and, UInt32.toNat_toUInt8]

/-- What is assumed of a generator that works block by block: the stream of a seed is cut into the
blocks of that seed, sixteen words each. -/
def GivesBlocks (G : Type) [Generator G] (blocks : UInt64 -> Nat -> Vector UInt32 16) : Prop :=
  forall seed position,
    (blocks seed (position / 16))[position % 16]? = some (word (ofSeed seed : G) position)

theorem GivesBlocks.word_eq {blocks : UInt64 -> Nat -> Vector UInt32 16}
    (stream : GivesBlocks G blocks) (seed : UInt64) (position : Nat) :
    word (ofSeed seed : G) position = (blocks seed (position / 16))[Fin.ofNat 16 position] := by
  have inside : position % 16 < 16 := Nat.mod_lt position (by decide)
  have found := stream seed position
  rw [Vector.getElem?_eq_getElem inside] at found
  exact (Option.some.inj found).symm

end Generator

namespace ChaCha

theorem after_eq (generator : ChaCha) (count : Nat) :
    Generator.after generator count = { generator with drawn := generator.drawn + count } := by
  induction count with
  | zero => rfl
  | succ count inductionHypothesis =>
      rw [Generator.after, Function.iterate_succ_apply', ← Generator.after, inductionHypothesis]
      rfl

/-- The blocks of a seed, by the key that is stretched from it. -/
def blocksOf (seed : UInt64) (number : Nat) : Block :=
  block (keyOfSeed seed) (UInt64.ofNat number)

theorem givesBlocks : Generator.GivesBlocks ChaCha blocksOf := by
  intro seed position
  have inside : position % 16 < 16 := Nat.mod_lt position (by decide)
  have word : Generator.word (Generator.ofSeed seed : ChaCha) position =
      wordAt (keyOfSeed seed) position := by
    rw [Generator.word, after_eq]
    change wordAt (keyOfSeed seed) (0 + position) = _
    rw [Nat.zero_add]
  rw [word, Vector.getElem?_eq_getElem inside]
  rfl

end ChaCha

namespace Machine

variable {G K : Type} [Generator G] [KeySource K] {machine : Machine G}

/-- The masks of the random bytes that a history draws. -/
def masks (machine : Machine G) (history : List (Action K)) : List UInt8 :=
  (machine.executed history).filterMap Instruction.mask?

/-- What a step leaves in the register that it fills at random, if its instruction does that. -/
def dealtByTick (machine : Machine G) (keys : K) : Option UInt8 :=
  match Instruction.decode machine.cpu.word with
  | .random x _ => some ((machine.tick keys).machine.cpu.register x)
  | _ => none

/-- The random bytes that a history draws, each as the register holds it after the instruction. -/
def dealt (machine : Machine G) : List (Action K) -> List UInt8
  | [] => []
  | .tick keys :: history =>
      (machine.dealtByTick keys).toList ++ (machine.tick keys).machine.dealt history
  | action :: history => (machine.after action).dealt history

theorem dealt_tick (machine : Machine G) (keys : K) :
    machine.dealt [.tick keys] = (machine.dealtByTick keys).toList :=
  List.append_nil _

theorem dealt_cons (machine : Machine G) (action : Action K) (history : List (Action K)) :
    machine.dealt (action :: history) =
      machine.dealt [action] ++ (machine.after action).dealt history := by
  cases action with
  | tick keys =>
      rw [dealt_tick]
      rfl
  | frame | load | setPixel => rfl

theorem masks_cons (machine : Machine G) (action : Action K) (history : List (Action K)) :
    machine.masks (action :: history) =
      machine.masks [action] ++ (machine.after action).masks history := by
  rw [masks, executed_cons, List.filterMap_append]
  rfl

/-- `CXNN` leaves the next byte of the stream in VX, and moves the stream on by one word. -/
theorem tick_random (keys : K) {x mask : UInt8}
    (decoded : Instruction.decode machine.cpu.word = .random x mask) :
    (machine.tick keys).machine.random = Generator.after machine.random 1 ∧
      (machine.tick keys).machine.cpu.register x = Generator.byteAt machine.random 0 mask := by
  rw [machine.tick_eq keys decoded]
  constructor
  · rfl
  · exact (Cpu.register_setRegister _ _ _ _).trans (if_pos rfl)

/-- Every other instruction leaves the stream alone. -/
theorem random_tick_of_other (keys : K)
    (other : (Instruction.decode machine.cpu.word).mask? = none) :
    (machine.tick keys).machine.random = machine.random := by
  have kept : Component.generator.Kept machine.passed
      (machine.passed.execute keys (Instruction.decode machine.cpu.word)).machine := by
    apply kept_execute
    intro form listed told
    cases List.mem_singleton.mp listed
    rcases Instruction.eq_random_of_form? told with ⟨x, mask, drawing⟩
    rw [drawing] at other
    cases other
  rw [machine.tick_eq keys rfl]
  exact kept

/-- A history moves the stream on by one word for every byte that it draws, and these bytes are the
next of the stream. -/
structure Deals (machine : Machine G) (history : List (Action K)) : Prop where
  random : (machine.afterAll history).random =
    Generator.after machine.random (machine.masks history).length
  dealt : machine.dealt history = (machine.masks history).mapIdx (Generator.byteAt machine.random)

theorem dealtByTick_of_other (keys : K)
    (other : (Instruction.decode machine.cpu.word).mask? = none) :
    machine.dealtByTick keys = none := by
  unfold dealtByTick
  split
  case h_1 decoded =>
    rw [decoded] at other
    cases other
  case h_2 => rfl

theorem deals_tick (machine : Machine G) (keys : K) : machine.Deals [.tick keys] := by
  cases drawing : (Instruction.decode machine.cpu.word).mask? with
  | none =>
      have masks : machine.masks [.tick keys] = [] := List.filterMap_cons_none drawing
      constructor
      · rw [masks]
        exact random_tick_of_other keys drawing
      · rw [masks, dealt_tick, dealtByTick_of_other keys drawing]
        rfl
  | some mask =>
      have masks : machine.masks [.tick keys] = [mask] := List.filterMap_cons_some drawing
      rcases Instruction.eq_random_of_mask? drawing with ⟨x, decoded⟩
      have step := tick_random keys decoded
      constructor
      · rw [masks]
        exact step.1
      · rw [masks, dealt_tick]
        simp only [dealtByTick, decoded, step.2]
        rfl

theorem deals_one (machine : Machine G) (action : Action K) : machine.Deals [action] := by
  cases action with
  | tick keys => exact machine.deals_tick keys
  | frame replies =>
      constructor
      · change (machine.after (.frame replies : Action K)).random = _
        rw [after_frame]
        rfl
      · rfl
  | load | setPixel => exact ⟨rfl, rfl⟩

theorem Deals.cons {action : Action K} {history : List (Action K)}
    (first : machine.Deals [action]) (rest : (machine.after action).Deals history) :
    machine.Deals (action :: history) := by
  have moved : (machine.after action).random =
      Generator.after machine.random (machine.masks [action]).length := first.random
  constructor
  · rw [afterAll_cons, rest.random, moved, Generator.after_after, masks_cons machine action history,
      List.length_append]
  · have shifted : Generator.byteAt (machine.after action).random =
        fun count => Generator.byteAt machine.random (count + (machine.masks [action]).length) := by
      funext count mask
      rw [moved, Generator.byteAt_after, Nat.add_comm]
    rw [dealt_cons, masks_cons machine action history, List.mapIdx_append, ← first.dealt,
      rest.dealt, shifted]

theorem deals (machine : Machine G) (history : List (Action K)) : machine.Deals history := by
  induction history generalizing machine with
  | nil => exact ⟨rfl, rfl⟩
  | cons action history inductionHypothesis =>
      exact (machine.deals_one action).cons (inductionHypothesis (machine.after action))

/-- In every history of a machine with a seed, the `j`th `CXNN` draws the `j`th word of the stream
of that seed, and nothing else draws any.  If the stream comes in blocks, this is the word at `j` in
the blocks of the seed. -/
theorem seeded_deals (config : Config) (seed : UInt64) (unforeseen : G) (program : List UInt8)
    (history : List (Action K)) {blocks : UInt64 -> Nat -> Vector UInt32 16}
    (stream : Generator.GivesBlocks G blocks) :
    let machine := (boot { config with seed := some seed } unforeseen program).machine
    (machine.afterAll history).random =
        Generator.after (Generator.ofSeed seed) (machine.masks history).length ∧
      (machine.dealt history).map UInt8.toNat =
        (machine.masks history).mapIdx (fun count mask =>
          (Generator.word (Generator.ofSeed seed : G) count).toNat % 256 &&& mask.toNat) ∧
      (machine.dealt history).map UInt8.toNat =
        (machine.masks history).mapIdx fun count mask =>
          (blocks seed (count / 16))[Fin.ofNat 16 count].toNat % 256 &&& mask.toNat := by
  intro machine
  have seeded : machine.random = Generator.ofSeed seed := rfl
  have deals := machine.deals history
  have words : (machine.dealt history).map UInt8.toNat =
      (machine.masks history).mapIdx (fun count mask =>
        (Generator.word (Generator.ofSeed seed : G) count).toNat % 256 &&& mask.toNat) := by
    rw [deals.dealt, seeded]
    apply List.ext_getElem?
    intro count
    rw [List.getElem?_map, List.getElem?_mapIdx, List.getElem?_mapIdx, Option.map_map]
    exact congrArg (fun low => Option.map low (machine.masks history)[count]?)
      (funext (Generator.toNat_byteAt (Generator.ofSeed seed) count))
  refine ⟨?_, words, ?_⟩
  · rw [deals.random, seeded]
  · simp only [words, stream.word_eq seed]

/-- A mask of zero draws a word like any other, and neither a frame nor a reload goes back to the
first. -/
theorem words_dealt_over_reload :
    let program : List UInt8 := [0xC3, 0x00, 0xC4, 0xFF]
    let config : Config := { Config.standard with seed := some 42 }
    let machine := (boot config ChaCha.unkeyed program).machine
    let history : List (Action Keys) :=
      [.tick .released, .frame brokenDevices, .tick .released, .load program, .tick .released,
        .tick .released]
    Generator.GivesBlocks ChaCha ChaCha.blocksOf ∧
      machine.masks history = [0x00, 0xFF, 0x00, 0xFF] ∧
      (machine.dealt history).map UInt8.toNat = [0, 0x63, 0, 0x13] ∧
      (machine.afterAll history).random.drawn = 4 := by
  intro program config machine history
  have masks : machine.masks history = [0x00, 0xFF, 0x00, 0xFF] := by decide +kernel
  obtain ⟨random, -, dealt⟩ :=
    seeded_deals .standard 42 ChaCha.unkeyed program history ChaCha.givesBlocks
  refine ⟨ChaCha.givesBlocks, masks, ?_, ?_⟩
  · calc
      (machine.dealt history).map UInt8.toNat = _ := dealt
      _ = _ := congrArg (List.mapIdx _) masks
      _ = [0, 0x63, 0, 0x13] := by decide +kernel
  · calc
      (machine.afterAll history).random.drawn = _ := congrArg ChaCha.drawn random
      _ = 0 + (machine.masks history).length := congrArg ChaCha.drawn (ChaCha.after_eq _ _)
      _ = 4 := by rw [masks]; rfl

end Machine
end ChipEight
