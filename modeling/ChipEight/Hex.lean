namespace ChipEight
namespace Hex

/-!
Hexadecimal text.

Addresses, words and bytes are shown in capital digits, filled with zeros on the left to a
width that depends on what is shown.  The width is a least width: a number that needs more
places gets them, so no two numbers of one width share a text.
-/

def digit (value : Nat) : Char :=
  if value < 10 then Char.ofNat (48 + value) else Char.ofNat (55 + value)

def smallDigit (value : Nat) : Char :=
  if value < 10 then Char.ofNat (48 + value) else Char.ofNat (87 + value)

/-- How many digits a number needs when no zero stands in front; zero needs one. -/
def places (value : Nat) : Nat :=
  value.log2 / 4 + 1

/-- The lowest `width` digits of a number, the most significant first. -/
def lowest : Nat -> Nat -> List Char
  | 0, _ => []
  | width + 1, value => lowest width (value / 16) ++ [digit (value % 16)]

theorem length_lowest (width value : Nat) : (lowest width value).length = width := by
  induction width generalizing value with
  | zero => rfl
  | succ width ih => simp only [lowest, List.length_append, ih, List.length_singleton]

/-- All digits of a number, with zeros in front up to at least `width` places. -/
def padded (width value : Nat) : String :=
  String.ofList (lowest (max width (places value)) value)

def byte (value : UInt8) : String :=
  padded 2 value.toNat

def word (value : UInt16) : String :=
  padded 4 value.toNat

/-- The value of a hexadecimal digit, in either case; only the 22 ASCII digits have one. -/
def value? (c : Char) : Option Nat :=
  if '0' ≤ c ∧ c ≤ '9' then some (c.toNat - 48)
  else if 'a' ≤ c ∧ c ≤ 'f' then some (c.toNat - 87)
  else if 'A' ≤ c ∧ c ≤ 'F' then some (c.toNat - 55)
  else none

end Hex
end ChipEight
