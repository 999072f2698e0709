import ChipEight.Proofs.Alike
import ChipEight.Proofs.Encoding
import ChipEight.Random.ChaCha

namespace ChipEight

/-!
Only the low twelve bits of an address count.

The program counter, the index register and the return addresses are sixteen bits wide, and a
program can drive them past the end of memory.  What it finds there is what the low twelve bits
lead to.  Two machines whose addresses differ by multiples of the size of memory therefore go
through the same steps, and cannot be told apart by anything but the addresses themselves.
-/

/-- The view in which addresses count by their low twelve bits, and all else has to be equal. -/
def View.lowBits : View where
  SameAddress left right := left.toNat % 4096 = right.toNat % 4096
  Compares part := part ≠ .unused
  refl _ := rfl
  shift same distance := by
    simp only [UInt16.toNat_add]
    omega
  cell same := by
    apply Fin.ext
    change (Word.nnn _).toNat = (Word.nnn _).toNat
    rw [Word.toNat_nnn, Word.toNat_nnn, same]

namespace Event

/-- Whether an event announces an instruction. -/
def announces : Event -> Bool
  | executing .. => true
  | _ => false

end Event

/-- The announcements of instructions among the events of a step. -/
def Step.announced {G : Type} (step : Step G) : List Event :=
  step.events.filter Event.announces

namespace Machine

variable {G K : Type} [Generator G] [KeySource K]

/-- No instruction announces another. -/
theorem announced_execute (machine : Machine G) (keys : K) (instruction : Instruction) :
    (machine.execute keys instruction).announced = [] := by
  apply List.filter_eq_nil_iff.mpr
  intro event member announces
  have told := machine.ofInstruction_execute keys instruction event member
  cases event with
  | executing => cases told
  | _ => cases announces

/-- A step announces its own instruction. -/
theorem announced_tick (machine : Machine G) (keys : K) :
    (machine.tick keys).announced = [machine.announcement] := by
  rw [machine.tick_eq keys rfl]
  exact congrArg (List.cons machine.announcement)
    (machine.passed.announced_execute keys (Instruction.decode machine.cpu.word))

/-- Machines that differ in the high bits of addresses alone take the same turns and announce the
same instructions, whatever is done to both of them, and differ in nothing else ever after. -/
theorem low_bits_suffice {left right : Machine G} (alike : Machine.Alike .lowBits left right)
    (history : List (Action K)) :
    Machine.Alike .lowBits (left.afterAll history) (right.afterAll history) ∧
      (left.steps history).map (fun step => (step.flow, step.announced)) =
        (right.steps history).map (fun step => (step.flow, step.announced)) := by
  induction history generalizing left right with
  | nil => exact ⟨alike, rfl⟩
  | cons action history inductionHypothesis =>
      have next := inductionHypothesis (alike.after (fun _ compared => compared) action)
      refine ⟨next.1, ?_⟩
      cases action with
      | tick keys =>
          have informed : View.lowBits.Informed keys keys (Instruction.decode left.cpu.word) :=
            ⟨fun _ => Part.noConfusion, fun _ => rfl, fun _ => Part.noConfusion⟩
          simp only [steps, List.map_cons, announced_tick, alike.announcement_eq,
            (alike.tick informed).flow]
          exact congrArg (List.cons _) next.2
      | frame | load | setPixel => exact next.2

/-- A program that stores a register behind the end of memory and one that stores it at the start
go through the same steps. -/
theorem store_past_end :
    let machine := (boot .standard ChaCha.unkeyed [0x60, 0x07, 0xF0, 0x55]).machine
    let moved := { machine with cpu := { machine.cpu with pc := 0x3200, index := 0xF000 } }
    let history : List (Action Keys) := [.tick .released, .tick .released]
    Machine.Alike .lowBits machine moved ∧
      (machine.afterAll history).cpu.memory = (moved.afterAll history).cpu.memory ∧
      (machine.steps history).map (fun step => (step.flow, step.announced)) =
        (moved.steps history).map (fun step => (step.flow, step.announced)) := by
  intro machine moved history
  have alike : Machine.Alike .lowBits machine moved := by
    refine ⟨{ Cpu.Alike.refl .lowBits machine.cpu with pc := ?_, index := ?_ }, rfl, fun _ => rfl⟩
    · change (0x200 : UInt16).toNat % 4096 = (0x3200 : UInt16).toNat % 4096
      decide
    · change (0 : UInt16).toNat % 4096 = (0xF000 : UInt16).toNat % 4096
      decide
  have together := low_bits_suffice alike history
  exact ⟨alike, together.1.cpu.memory, together.2⟩

end Machine
end ChipEight
