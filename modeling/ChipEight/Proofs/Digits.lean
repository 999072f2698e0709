import ChipEight.Hex
import Mathlib.Algebra.Group.Nat.Defs

namespace ChipEight
namespace Hex

/-!
Hexadecimal text read back.

A text of digits stands for a number, whatever zeros are in front.  The text of a number stands for
that number, at any least width, so texts of one width are apart as soon as their numbers are.  A
number that fits into the width is shown in exactly that many digits.

Inside a longer text a number ends where no digit follows, so it can be cut off again without
knowing how many digits it has.
-/

/-- The number that a text of digits stands for, the most significant digit first. -/
def number (digits : List Char) : Nat :=
  digits.foldl (fun high c => 16 * high + (value? c).getD 0) 0

def isDigit (c : Char) : Bool :=
  (value? c).isSome

theorem value?_digit {value : Nat} (small : value < 16) : value? (digit value) = some value := by
  have all : forall value, value < 16 -> value? (digit value) = some value := by decide
  exact all value small

theorem value?_smallDigit {value : Nat} (small : value < 16) :
    value? (smallDigit value) = some value := by
  have all : forall value, value < 16 -> value? (smallDigit value) = some value := by decide
  exact all value small

theorem eq_digit_of_value? {c : Char} {value : Nat} (read : value? c = some value) :
    value < 16 ∧ (c = digit value ∨ c = smallDigit value) := by
  unfold value? at read
  split at read
  case isTrue decimal =>
    obtain rfl := Option.some.inj read
    have low : 48 ≤ c.toNat := decimal.1
    have high : c.toNat ≤ 57 := decimal.2
    refine ⟨by omega, Or.inl ?_⟩
    rw [digit, if_pos (by omega), Nat.add_sub_cancel' low, Char.ofNat_toNat]
  case isFalse =>
    split at read
    case isTrue small =>
      obtain rfl := Option.some.inj read
      have low : 97 ≤ c.toNat := small.1
      have high : c.toNat ≤ 102 := small.2
      refine ⟨by omega, Or.inr ?_⟩
      rw [smallDigit, if_neg (by omega), Nat.add_sub_cancel' (by omega), Char.ofNat_toNat]
    case isFalse =>
      split at read
      case isTrue capital =>
        obtain rfl := Option.some.inj read
        have low : 65 ≤ c.toNat := capital.1
        have high : c.toNat ≤ 70 := capital.2
        refine ⟨by omega, Or.inl ?_⟩
        rw [digit, if_neg (by omega), Nat.add_sub_cancel' (by omega), Char.ofNat_toNat]
      case isFalse => cases read

/-- The digits that have a value are those in which it is written, capital or small. -/
theorem value?_eq_some_iff {c : Char} {value : Nat} :
    value? c = some value ↔ value < 16 ∧ (c = digit value ∨ c = smallDigit value) := by
  refine ⟨eq_digit_of_value?, ?_⟩
  rintro ⟨small, rfl | rfl⟩
  · exact value?_digit small
  · exact value?_smallDigit small

/-- Digits that are cut off on the left are lost, and no others. -/
theorem number_lowest (width value : Nat) : number (lowest width value) = value % 16 ^ width := by
  induction width generalizing value with
  | zero =>
      rw [Nat.pow_zero, Nat.mod_one]
      rfl
  | succ width inductionHypothesis =>
      have last : value % 16 < 16 := Nat.mod_lt value (by decide)
      rw [lowest, number, List.foldl_append]
      change 16 * number (lowest width (value / 16)) + (value? (digit (value % 16))).getD 0 = _
      rw [inductionHypothesis, value?_digit last, Option.getD_some, Nat.pow_succ', Nat.mod_mul,
        Nat.add_comm]

theorem isDigit_of_mem_lowest {width value : Nat} {c : Char} (member : c ∈ lowest width value) :
    isDigit c = true := by
  induction width generalizing value with
  | zero => cases member
  | succ width inductionHypothesis =>
      rcases List.mem_append.mp member with high | last
      · exact inductionHypothesis high
      · rw [List.mem_singleton.mp last, isDigit, value?_digit (Nat.mod_lt value (by decide))]
        rfl

theorem lt_pow_places (value : Nat) : value < 16 ^ places value := by
  have bits : value.log2 + 1 ≤ 4 * places value := by
    unfold places
    omega
  calc
    value < 2 ^ (value.log2 + 1) := Nat.lt_log2_self
    _ ≤ 2 ^ (4 * places value) := Nat.pow_le_pow_right (by decide) bits
    _ = 16 ^ places value := Nat.pow_mul 2 4 (places value)

/-- The text of a number stands for the number. -/
theorem number_padded (width value : Nat) : number (padded width value).toList = value := by
  have fits : value < 16 ^ max width (places value) :=
    Nat.lt_of_lt_of_le (lt_pow_places value)
      (Nat.pow_le_pow_right (by decide) (Nat.le_max_right width (places value)))
  rw [padded, String.toList_ofList, number_lowest, Nat.mod_eq_of_lt fits]

theorem isDigit_of_mem {width value : Nat} {c : Char} (member : c ∈ (padded width value).toList) :
    isDigit c = true := by
  rw [padded, String.toList_ofList] at member
  exact isDigit_of_mem_lowest member

theorem places_le {width value : Nat} (wide : 0 < width) (fits : value < 16 ^ width) :
    places value ≤ width := by
  by_cases zero : value = 0
  · rw [zero]
    exact wide
  · have bits : value.log2 < 4 * width := by
      rw [Nat.log2_lt zero, Nat.pow_mul]
      exact fits
    unfold places
    omega

/-- A number that fits is shown in the given number of digits. -/
theorem length_padded {width value : Nat} (wide : 0 < width) (fits : value < 16 ^ width) :
    (padded width value).toList.length = width := by
  rw [padded, String.toList_ofList, length_lowest, Nat.max_eq_left (places_le wide fits)]

/-- A text that follows a number and does not go on with a digit. -/
def Ends (rest : List Char) : Prop :=
  forall c, rest.head? = some c -> isDigit c = false

theorem ends_cons {c : Char} (other : isDigit c = false) (rest : List Char) : Ends (c :: rest) := by
  intro first here
  cases here
  exact other

/-- The digits of a number end where something else begins. -/
theorem takeWhile_padded {width value : Nat} {rest : List Char} (ends : Ends rest) :
    ((padded width value).toList ++ rest).takeWhile isDigit = (padded width value).toList := by
  rw [List.takeWhile_append_of_pos (fun c member => isDigit_of_mem member)]
  cases rest with
  | nil => exact List.append_nil _
  | cons c rest =>
      have other : ¬ isDigit c = true := by
        rw [ends c rfl]
        exact Bool.false_ne_true
      rw [List.takeWhile_cons_of_neg other, List.append_nil]

/-- Where texts begin with numbers and agree, the digits agree, and so does all that follows. -/
theorem padded_append_inj {width other value more : Nat} {left right : List Char}
    (ends : Ends left) (otherEnds : Ends right)
    (same : (padded width value).toList ++ left = (padded other more).toList ++ right) :
    (padded width value).toList = (padded other more).toList ∧ left = right := by
  have digits : (padded width value).toList = (padded other more).toList := by
    rw [← takeWhile_padded ends, same, takeWhile_padded otherEnds]
  rw [digits] at same
  exact ⟨digits, List.append_cancel_left same⟩

/-- Numbers that are shown alike are equal, whatever their least widths. -/
theorem eq_of_toList_padded {width other value more : Nat}
    (same : (padded width value).toList = (padded other more).toList) : value = more := by
  rw [← number_padded width value, same, number_padded]

end Hex
end ChipEight
