import ChipEight.Hex

namespace ChipEight

/-!
The sixteen keys of the hexadecimal keypad.
-/

/-- A key of the keypad. -/
structure KeyCode where
  value : Fin 16
deriving DecidableEq, Repr

namespace KeyCode

def all : List KeyCode :=
  (List.finRange 16).map KeyCode.mk

def ofNat? (number : Nat) : Option KeyCode :=
  if small : number < 16 then some ⟨⟨number, small⟩⟩ else none

def ofByte? (number : UInt8) : Option KeyCode :=
  ofNat? number.toNat

/-- The key that a hexadecimal digit names, in either case. -/
def ofDigit? (c : Char) : Option KeyCode :=
  (Hex.value? c).bind fun digit => ofByte? (UInt8.ofNat digit)

def toByte (key : KeyCode) : UInt8 :=
  UInt8.ofNat key.value.val

/-- A key as it is written: `k` and its digit. -/
def text (key : KeyCode) : String :=
  "k" ++ String.singleton (Hex.smallDigit key.value.val)

def rangeText : String :=
  "keycode must be in range 0 <= keycode < 16"

end KeyCode
end ChipEight
