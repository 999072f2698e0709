import ChipEight.Instruction
import ChipEight.Memory
import Mathlib.Data.Nat.Bitwise

namespace ChipEight

/-!
Words as numbers.

The parts of a word are cut out of it by masks and shifts.  Read as numbers they are groups of its
hexadecimal digits, and it is as a number that a word can be put together again from what decoding
found in it.  Two instructions are recognised here by their words: the wait for a key, and the
return from a subroutine.  Each has a single encoding.
-/

namespace Word

theorem toNat_family (word : UInt16) : (family word).toNat = word.toNat / 4096 := by
  have small := word.toNat_lt
  simp only [family, UInt16.toNat_toUInt8, UInt16.toNat_shiftRight, Nat.shiftRight_eq_div_pow]
  change word.toNat / 4096 % 256 = word.toNat / 4096
  omega

theorem toNat_x (word : UInt16) : (x word).toNat = word.toNat / 256 % 16 := by
  simp only [x, UInt16.toNat_toUInt8, UInt16.toNat_shiftRight, UInt16.toNat_and,
    Nat.shiftRight_and_distrib]
  change (word.toNat >>> 8 &&& 2 ^ 4 - 1) % 256 = word.toNat / 256 % 16
  rw [Nat.and_two_pow_sub_one_eq_mod, Nat.shiftRight_eq_div_pow]
  omega

theorem toNat_y (word : UInt16) : (y word).toNat = word.toNat / 16 % 16 := by
  simp only [y, UInt16.toNat_toUInt8, UInt16.toNat_shiftRight, UInt16.toNat_and,
    Nat.shiftRight_and_distrib]
  change (word.toNat >>> 4 &&& 2 ^ 4 - 1) % 256 = word.toNat / 16 % 16
  rw [Nat.and_two_pow_sub_one_eq_mod, Nat.shiftRight_eq_div_pow]
  omega

theorem toNat_nn (word : UInt16) : (nn word).toNat = word.toNat % 256 := by
  simp only [nn, UInt16.toNat_toUInt8, UInt16.toNat_and]
  change (word.toNat &&& 2 ^ 8 - 1) % 256 = word.toNat % 256
  rw [Nat.and_two_pow_sub_one_eq_mod]
  omega

theorem toNat_nnn (word : UInt16) : (nnn word).toNat = word.toNat % 4096 := by
  simp only [nnn, UInt16.toNat_and]
  exact Nat.and_two_pow_sub_one_eq_mod word.toNat 12

theorem toNat_n (word : UInt16) : (n word).toNat = word.toNat % 16 := by
  simp only [n, UInt16.toNat_toUInt8, UInt16.toNat_and]
  change (word.toNat &&& 2 ^ 4 - 1) % 256 = word.toNat % 16
  rw [Nat.and_two_pow_sub_one_eq_mod]
  omega

/-- The top nibble is a nibble. -/
theorem family_lt (word : UInt16) : (family word).toNat < 16 := by
  have small := word.toNat_lt
  rw [toNat_family]
  omega

end Word

/-- An address reaches the cell that its low twelve bits count. -/
theorem Memory.val_cell (address : UInt16) : (Memory.cell address).val = address.toNat % 4096 :=
  Word.toNat_nnn address

namespace Instruction

/-- Every word of its family draws a sprite. -/
theorem decode_of_draw {word : UInt16} (draws : Word.family word = 0xD) :
    decode word = .draw (Word.x word) (Word.y word) (Word.n word) := by
  simp only [decode, draws]

/-- Only the last family, under the low byte `0A`, waits for a key. -/
private theorem parts_of_decode_waitKey {word : UInt16} {x : UInt8}
    (decoded : decode word = .waitKey x) :
    (Word.family word).toNat = 15 ∧ Word.nn word = 0x0A ∧ Word.x word = x := by
  simp only [decode] at decoded
  split at decoded
  case h_1 =>
    simp only [system] at decoded
    split at decoded <;> cases decoded
  case h_9 =>
    simp only [arithmetic?] at decoded
    split at decoded <;> cases decoded
  case h_15 =>
    simp only [keyboard?] at decoded
    split at decoded <;> cases decoded
  case h_16 =>
    simp only [transfer?] at decoded
    split at decoded
    case h_2 lowByte =>
      refine ⟨?_, lowByte, by cases decoded; rfl⟩
      -- The word got past the fifteen other families.
      have nibble := Word.family_lt word
      simp only [← UInt8.toNat_inj, UInt8.reduceToNat, imp_false] at *
      omega
    all_goals cases decoded
  all_goals cases decoded

/-- A wait for a key is encoded in one way: `F`, its register, and `0A`. -/
theorem decode_eq_waitKey_iff {word : UInt16} {x : UInt8} :
    decode word = .waitKey x ↔ x ≤ 0xF ∧ word = 0xF00A + 256 * x.toUInt16 := by
  have value (small : x.toNat ≤ 15) :
      (0xF00A + 256 * x.toUInt16).toNat = 61450 + 256 * x.toNat := by
    simp only [UInt16.toNat_add, UInt16.toNat_mul, UInt8.toNat_toUInt16, UInt16.reduceToNat]
    omega
  constructor
  · intro decoded
    obtain ⟨family, lowByte, register⟩ := parts_of_decode_waitKey decoded
    have lowByteValue : (Word.nn word).toNat = 10 := congrArg UInt8.toNat lowByte
    have registerValue : (Word.x word).toNat = x.toNat := congrArg UInt8.toNat register
    rw [Word.toNat_family] at family
    rw [Word.toNat_nn] at lowByteValue
    rw [Word.toNat_x] at registerValue
    have small : x.toNat ≤ 15 := by omega
    refine ⟨UInt8.le_iff_toNat_le.mpr small, UInt16.toNat_inj.mp ?_⟩
    rw [value small]
    omega
  · rintro ⟨register, rfl⟩
    have small : x.toNat ≤ 15 := UInt8.le_iff_toNat_le.mp register
    have family : Word.family (0xF00A + 256 * x.toUInt16) = 0xF := by
      rw [← UInt8.toNat_inj, Word.toNat_family, value small]
      change (61450 + 256 * x.toNat) / 4096 = 15
      omega
    have lowByte : Word.nn (0xF00A + 256 * x.toUInt16) = 0x0A := by
      rw [← UInt8.toNat_inj, Word.toNat_nn, value small]
      change (61450 + 256 * x.toNat) % 256 = 10
      omega
    have second : Word.x (0xF00A + 256 * x.toUInt16) = x := by
      rw [← UInt8.toNat_inj, Word.toNat_x, value small]
      omega
    simp only [decode, family, lowByte, second]
    rfl

/-- A return from a subroutine is encoded in one way. -/
theorem decode_eq_leave_iff {word : UInt16} : decode word = .leave ↔ word = 0x00EE := by
  constructor
  · intro decoded
    simp only [decode] at decoded
    split at decoded
    case h_1 family =>
      have high : (Word.family word).toNat = 0 := congrArg UInt8.toNat family
      rw [Word.toNat_family] at high
      simp only [system] at decoded
      split at decoded
      case h_2 address =>
        have low : (Word.nnn word).toNat = 238 := congrArg UInt16.toNat address
        rw [Word.toNat_nnn] at low
        apply UInt16.toNat_inj.mp
        change word.toNat = 238
        omega
      all_goals cases decoded
    case h_9 =>
      simp only [arithmetic?] at decoded
      split at decoded <;> cases decoded
    case h_15 =>
      simp only [keyboard?] at decoded
      split at decoded <;> cases decoded
    case h_16 =>
      simp only [transfer?] at decoded
      split at decoded <;> cases decoded
    all_goals cases decoded
  · rintro rfl
    rfl

end Instruction
end ChipEight
