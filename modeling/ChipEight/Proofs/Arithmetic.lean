import ChipEight.Proofs.Footprint
import ChipEight.Random.ChaCha
import Mathlib.Logic.Function.Basic

namespace ChipEight

/-!
Arithmetic when operands, result and flag share registers.

The arithmetic instructions write a result and most of them a flag as well.  Where the two go to the
same register the later write wins, and an operand that is read between the writes is already a new
one.  Which write comes first differs from one instruction to the next, so this module says for each
what all registers hold in the end, as a function of what they held before.

Two of the entries are not what the order of the writes suggests.  `8XY7` compares VY with a VX that
was already written over, and yet its flag tells of the old values: with different registers the
wrapped difference does not exceed VY exactly if nothing was borrowed, and with the same register
both comparisons hold.  `8XY5` looks at the sign bit of the difference, which tells of a borrow only
if the difference fits a signed byte.
-/

/-- The registers after the arithmetic instruction with a low nibble, from those before it.  Of two
values for one register the later update stays. -/
def arithmetic (n : UInt8) (x y : Fin 16) (file : Fin 16 -> Nat) : Fin 16 -> Nat :=
  let a := file x
  let b := file y
  match n with
  | 0x0 => Function.update file x b
  | 0x1 => Function.update file x (a ||| b)
  | 0x2 => Function.update file x (a &&& b)
  | 0x3 => Function.update file x (a ^^^ b)
  | 0x4 =>
      let carried := Function.update file (Cpu.place 0xF) (if 256 ≤ a + b then 1 else 0)
      Function.update carried x ((a + b) % 256)
  | 0x5 =>
      let difference := (256 + a - b) % 256
      Function.update (Function.update file x difference) (Cpu.place 0xF)
        (if difference < 128 then 1 else 0)
  | 0x6 =>
      let flag := a % 2
      let shifted := if y = Cpu.place 0xF then flag else b
      Function.update (Function.update file (Cpu.place 0xF) flag) x (shifted / 2)
  | 0x7 =>
      let difference := (256 + b - a) % 256
      Function.update (Function.update file x difference) (Cpu.place 0xF)
        (if a ≤ b then 1 else 0)
  | 0xE =>
      let flag := a / 128
      let shifted := if y = Cpu.place 0xF then flag else b
      Function.update (Function.update file (Cpu.place 0xF) flag) x (2 * shifted % 256)
  | _ => file

namespace Cpu

/-- What the registers hold, as numbers. -/
def file (cpu : Cpu) (number : Fin 16) : Nat :=
  (cpu.registers.get number).toNat

theorem file_lt (cpu : Cpu) (number : Fin 16) : cpu.file number < 256 :=
  (cpu.registers.get number).toNat_lt

theorem file_setRegister (cpu : Cpu) (target : UInt8) {value : UInt8} {held : Nat}
    (same : value.toNat = held) :
    (cpu.setRegister target value).file = Function.update cpu.file (place target) held := by
  funext number
  rw [Function.update_apply, ← same]
  by_cases here : number = place target
  · subst here
    rw [if_pos rfl]
    exact congrArg UInt8.toNat (Vector.getElem_set_self _)
  · have kept : (cpu.setRegister target value).registers.get number = cpu.registers.get number :=
      Vector.getElem_set_ne (place target).isLt number.isLt fun same => here (Fin.ext same.symm)
    rw [if_neg here, file, kept, file]

theorem file_setFlag (cpu : Cpu) {raised : Prop} [Decidable raised] {held : Nat}
    (same : (if raised then 1 else 0) = held) :
    (cpu.setFlag (decide raised)).file = Function.update cpu.file (place 0xF) held := by
  apply file_setRegister
  rw [← same]
  by_cases up : raised
  · rw [if_pos up, if_pos (decide_eq_true up)]
    rfl
  · rw [if_neg up, if_neg (fun told => up (of_decide_eq_true told))]
    rfl

variable (cpu : Cpu) (x y : UInt8)

theorem file_addRegisters :
    (cpu.addRegisters x y).file = arithmetic 0x4 (place x) (place y) cpu.file := by
  let carried := cpu.setFlag (256 ≤ (cpu.register x).toNat + (cpu.register y).toNat)
  have flag : carried.file = Function.update cpu.file (place 0xF)
      (if 256 ≤ cpu.file (place x) + cpu.file (place y) then 1 else 0) :=
    cpu.file_setFlag rfl
  have sum := carried.file_setRegister x (UInt8.toNat_add (cpu.register x) (cpu.register y))
  rw [flag] at sum
  exact sum

theorem toNat_difference (a b : UInt8) : (a - b).toNat = (256 + a.toNat - b.toNat) % 256 := by
  have small := b.toNat_lt
  rw [UInt8.toNat_sub]
  omega

theorem file_subRegisters :
    (cpu.subRegisters x y).file = arithmetic 0x5 (place x) (place y) cpu.file := by
  let reduced := cpu.setRegister x (cpu.register x - cpu.register y)
  have difference := toNat_difference (cpu.register x) (cpu.register y)
  have result : reduced.file = Function.update cpu.file (place x)
      ((256 + cpu.file (place x) - cpu.file (place y)) % 256) :=
    cpu.file_setRegister x difference
  have positive : cpu.register x - cpu.register y < 0x80 ↔
      (256 + cpu.file (place x) - cpu.file (place y)) % 256 < 128 := by
    rw [UInt8.lt_iff_toNat_lt, difference]
    rfl
  have flag := reduced.file_setFlag (if_congr positive rfl rfl)
  rw [result] at flag
  exact flag

theorem file_subFromRegisters :
    (cpu.subFromRegisters x y).file = arithmetic 0x7 (place x) (place y) cpu.file := by
  let reduced := cpu.setRegister x (cpu.register y - cpu.register x)
  have difference := toNat_difference (cpu.register y) (cpu.register x)
  have result : reduced.file = Function.update cpu.file (place x)
      ((256 + cpu.file (place y) - cpu.file (place x)) % 256) :=
    cpu.file_setRegister x difference
  have unborrowed : reduced.register x ≤ reduced.register y ↔
      cpu.file (place x) ≤ cpu.file (place y) := by
    have left := cpu.file_lt (place x)
    have right := cpu.file_lt (place y)
    change reduced.register x ≤ reduced.register y ↔ _
    rw [UInt8.le_iff_toNat_le]
    change reduced.file (place x) ≤ reduced.file (place y) ↔ _
    rw [result, Function.update_self, Function.update_apply]
    by_cases same : place y = place x
    · rw [if_pos same, same]
      exact iff_of_true le_rfl le_rfl
    · rw [if_neg same]
      omega
  have flag := reduced.file_setFlag (if_congr unborrowed rfl rfl)
  rw [result] at flag
  exact flag

/-- A shift reads its operand after the flag was written, so it shifts the flag if that is in the
same register. -/
theorem file_shift (shift : UInt8 -> UInt8) (shifted : Nat -> Nat) {raised : Prop}
    [Decidable raised] {flag : Nat} (bit : (if raised then 1 else 0) = flag)
    (shifts : forall value, (shift value).toNat = shifted value.toNat) :
    let flagged := cpu.setFlag raised
    (flagged.setRegister x (shift (flagged.register y))).file =
      Function.update (Function.update cpu.file (place 0xF) flag) (place x)
        (shifted (if place y = place 0xF then flag else cpu.file (place y))) := by
  intro flagged
  have written : flagged.file = Function.update cpu.file (place 0xF) flag := cpu.file_setFlag bit
  have operand : (flagged.register y).toNat =
      if place y = place 0xF then flag else cpu.file (place y) := by
    change flagged.file (place y) = _
    rw [written, Function.update_apply]
  have result := flagged.file_setRegister x (shifts (flagged.register y))
  rw [written, operand] at result
  exact result

theorem low_bit (value : UInt8) :
    (if value &&& 0x01 = 0x01 then 1 else 0) = value.toNat % 2 := by
  have bit : value &&& 0x01 = 0x01 ↔ value.toNat % 2 = 1 := by
    rw [← UInt8.toNat_inj, UInt8.toNat_and]
    exact Eq.congr_left (Nat.and_one_is_mod value.toNat)
  rw [if_congr bit rfl rfl]
  split <;> omega

theorem high_bit (value : UInt8) :
    (if value &&& 0x80 = 0x80 then 1 else 0) = value.toNat / 128 := by
  have small := value.toNat_lt
  have bit : value &&& 0x80 = 0x80 ↔ value.toNat / 128 = 1 := by
    have mask : (0x80 : UInt8).toNat = 2 ^ 7 := rfl
    rw [← UInt8.toNat_inj, UInt8.toNat_and, mask, Nat.and_two_pow,
      Nat.testBit_eq_decide_div_mod_eq]
    by_cases set : value.toNat / 2 ^ 7 % 2 = 1
    · simp only [set, decide_true, Bool.toNat_true]
      omega
    · simp only [set, decide_false, Bool.toNat_false]
      omega
  rw [if_congr bit rfl rfl]
  split <;> omega

theorem file_shiftRightRegisters :
    (cpu.shiftRightRegisters x y).file = arithmetic 0x6 (place x) (place y) cpu.file := by
  have halves : forall value : UInt8, (value >>> 1).toNat = value.toNat / 2 := by
    intro value
    exact Nat.shiftRight_eq_div_pow value.toNat 1
  exact cpu.file_shift x y (· >>> 1) (· / 2) (low_bit (cpu.register x)) halves

theorem file_shiftLeftRegisters :
    (cpu.shiftLeftRegisters x y).file = arithmetic 0xE (place x) (place y) cpu.file := by
  have doubles : forall value : UInt8, (value <<< 1).toNat = 2 * value.toNat % 256 := by
    intro value
    have shifted : (value <<< 1).toNat = value.toNat <<< 1 % 256 := UInt8.toNat_shiftLeft value 1
    rw [shifted, Nat.shiftLeft_eq, Nat.pow_one, Nat.mul_comm]
  exact cpu.file_shift x y (· <<< 1) (2 * · % 256) (high_bit (cpu.register x)) doubles

end Cpu

namespace Instruction

theorem decode_of_arithmetic {word : UInt16} (family : Word.family word = 0x8) :
    decode word =
      (arithmetic? (Word.x word) (Word.y word) (Word.n word)).getD (.undefined word) := by
  simp only [decode, family]

end Instruction

namespace Machine

variable {G K : Type} [Generator G] [KeySource K] (machine : Machine G) (keys : K)

/-- Nothing but the registers takes part in arithmetic. -/
theorem execute_arithmetic (word : UInt16) (x y n : UInt8) :
    let step := machine.execute keys ((Instruction.arithmetic? x y n).getD (.undefined word))
    step = machine.quietly fun cpu => { cpu with registers := step.machine.cpu.registers } := by
  unfold Instruction.arithmetic?
  split <;> rfl

theorem file_arithmetic (word : UInt16) (x y n : UInt8) :
    let step := machine.execute keys ((Instruction.arithmetic? x y n).getD (.undefined word))
    step.machine.cpu.file = arithmetic n (Cpu.place x) (Cpu.place y) machine.cpu.file := by
  unfold Instruction.arithmetic?
  split
  case h_1 => exact machine.cpu.file_setRegister x rfl
  case h_2 => exact machine.cpu.file_setRegister x (UInt8.toNat_or _ _)
  case h_3 => exact machine.cpu.file_setRegister x (UInt8.toNat_and _ _)
  case h_4 => exact machine.cpu.file_setRegister x (UInt8.toNat_xor _ _)
  case h_5 => exact machine.cpu.file_addRegisters x y
  case h_6 => exact machine.cpu.file_subRegisters x y
  case h_7 => exact machine.cpu.file_shiftRightRegisters x y
  case h_8 => exact machine.cpu.file_subFromRegisters x y
  case h_9 => exact machine.cpu.file_shiftLeftRegisters x y
  case h_10 =>
    unfold arithmetic
    split <;> first | contradiction | rfl

/-- The sign bit of a wrapped difference tells of a borrow exactly if the difference fits a signed
byte. -/
theorem sign_tells_borrow_iff {a b : Nat} (left : a < 256) (right : b < 256) :
    ((256 + a - b) % 256 < 128 ↔ b ≤ a) ↔ -128 ≤ (a : Int) - b ∧ (a : Int) - b ≤ 127 := by
  omega

/-- An arithmetic instruction leaves in all registers what its entry makes of the old ones, however
operands, result and flag share them, and changes nothing else.  The flag of a subtraction `8XY5`
tells whether nothing was borrowed exactly if the difference fits a signed byte. -/
theorem arithmetic_under_aliasing {word : UInt16} (family : Word.family word = 0x8) :
    let step := machine.execute keys (Instruction.decode word)
    let x := Cpu.place (Word.x word)
    let y := Cpu.place (Word.y word)
    let a := machine.cpu.file x
    let b := machine.cpu.file y
    step.machine.cpu.file = arithmetic (Word.n word) x y machine.cpu.file ∧
    (Word.n word = 0x5 -> ((step.machine.cpu.file (Cpu.place 0xF) = 1 ↔ b ≤ a) ↔
      -128 ≤ (a : Int) - b ∧ (a : Int) - b ≤ 127)) ∧
    step = machine.quietly fun cpu => { cpu with registers := step.machine.cpu.registers } := by
  intro step x y a b
  have file : step.machine.cpu.file = arithmetic (Word.n word) x y machine.cpu.file := by
    have outcome := machine.file_arithmetic keys word (Word.x word) (Word.y word) (Word.n word)
    rwa [← Instruction.decode_of_arithmetic family] at outcome
  have quiet := machine.execute_arithmetic keys word (Word.x word) (Word.y word) (Word.n word)
  rw [← Instruction.decode_of_arithmetic family] at quiet
  refine ⟨file, ?_, quiet⟩
  intro subtracts
  have flag : step.machine.cpu.file (Cpu.place 0xF) =
      if (256 + a - b) % 256 < 128 then 1 else 0 := by
    rw [file, subtracts]
    let reduced := Function.update machine.cpu.file x ((256 + a - b) % 256)
    exact Function.update_self (Cpu.place 0xF) (if (256 + a - b) % 256 < 128 then 1 else 0) reduced
  have raised : step.machine.cpu.file (Cpu.place 0xF) = 1 ↔ (256 + a - b) % 256 < 128 := by
    rw [flag]
    split
    case isTrue small => exact iff_of_true rfl small
    case isFalse large => exact iff_of_false Nat.zero_ne_one large
  rw [raised]
  exact sign_tells_borrow_iff (machine.cpu.file_lt x) (machine.cpu.file_lt y)

/-- A difference in the register of the flag that is too wide for a signed byte: the flag replaces
it, and does not tell that nothing was borrowed.  A shift of the flag to itself, by contrast, shifts
the bit that it was about to become. -/
theorem wide_difference_in_flag :
    let booted := (boot .standard ChaCha.unkeyed []).machine
    let machine := { booted with cpu := (booted.cpu.setRegister 0xF 201).setRegister 1 50 }
    let reduced := machine.execute Keys.released (Instruction.decode 0x8F15)
    let shifted := machine.execute Keys.released (Instruction.decode 0x8FFE)
    let flag := Cpu.place 0xF
    Word.family 0x8F15 = 0x8 ∧ Word.family 0x8FFE = 0x8 ∧ Word.n 0x8F15 = 0x5 ∧
    (List.finRange 16).map reduced.machine.cpu.file =
      [0, 50, 0, 0, 0, 0, 0, 0, 0, 0, 0, 0, 0, 0, 0, 0] ∧
    ¬ (reduced.machine.cpu.file flag = 1 ↔ machine.cpu.file 1 ≤ machine.cpu.file flag) ∧
    shifted.machine.cpu.file flag = 2 ∧
    shifted.flow = .ok := by
  intro booted machine reduced shifted flag
  have family : Word.family 0x8F15 = 0x8 := by decide
  have shifts : Word.family 0x8FFE = 0x8 := by decide
  have subtracts : Word.n 0x8F15 = 0x5 := by decide
  obtain ⟨file, agrees, -⟩ := machine.arithmetic_under_aliasing Keys.released family
  obtain ⟨shiftedFile, -, quiet⟩ := machine.arithmetic_under_aliasing Keys.released shifts
  have wide : ¬ (-128 ≤ (machine.cpu.file flag : Int) - machine.cpu.file 1 ∧
      (machine.cpu.file flag : Int) - machine.cpu.file 1 ≤ 127) := by
    decide
  refine ⟨family, shifts, subtracts, ?_, fun told => wide ((agrees subtracts).mp told), ?_,
    congrArg Step.flow quiet⟩
  · exact (congrArg (fun file => (List.finRange 16).map file) file).trans (by decide)
  · exact (congrFun shiftedFile flag).trans (by decide)

end Machine
end ChipEight
