import ChipEight.KeyCode

namespace ChipEight

/-!
The state of the keypad and the ways a machine looks at it.

A front end presses and releases keys on a `Keypad`; a machine reads them through any source of
keys.  A source gives the state of all sixteen keys at once, and answers for a single key from
that snapshot unless it knows a shorter way.
-/

/-- A snapshot of the sixteen keys: whether each is down. -/
abbrev Keys := Vector Bool 16

namespace Keys

def released : Keys :=
  Vector.replicate 16 false

/-- Whether the key with a number is down; a number that no key has is never down. -/
def down (keys : Keys) (number : UInt8) : Bool :=
  keys[number.toNat]?.getD false

def highest? (keys : Keys) : Option UInt8 :=
  ((List.range 16).reverse.map UInt8.ofNat).find? keys.down

end Keys

/-- Anything that shows the state of the keypad. -/
class KeySource (K : Type) where
  keys : K -> Keys
  isPressed : K -> UInt8 -> Bool := fun source number => (keys source).down number

/-- A fixed snapshot shows itself. -/
instance : KeySource Keys where
  keys := id

/-- The keypad, bit by bit: a key that is down is a one. -/
structure Keypad where
  bits : UInt16
deriving DecidableEq, Repr

namespace Keypad

def released : Keypad :=
  ⟨0⟩

def bit (number : Nat) : UInt16 :=
  1 <<< UInt16.ofNat number

def set (keypad : Keypad) (key : KeyCode) (pressed : Bool) : Keypad :=
  if pressed then ⟨keypad.bits ||| bit key.value.val⟩
  else ⟨keypad.bits &&& ~~~ bit key.value.val⟩

def press (keypad : Keypad) (key : KeyCode) : Keypad :=
  keypad.set key true

def release (keypad : Keypad) (key : KeyCode) : Keypad :=
  keypad.set key false

def releaseAll (_ : Keypad) : Keypad :=
  released

def anyKey (keypad : Keypad) : Bool :=
  keypad.bits > 0

def test (keypad : Keypad) (number : Nat) : Bool :=
  keypad.bits &&& bit number != 0

def keys (keypad : Keypad) : Keys :=
  Vector.ofFn (fun key => keypad.test key.val)

/-- Whether one key is down, read from its bit alone. -/
def isPressed (keypad : Keypad) (number : UInt8) : Bool :=
  number < 16 && keypad.test number.toNat

/-- The bit of a key and the snapshot of all keys give the same answer. -/
theorem isPressed_eq_down (keypad : Keypad) (number : UInt8) :
    keypad.isPressed number = keypad.keys.down number := by
  by_cases small : number < 16
  · have inside : number.toNat < 16 := UInt8.lt_iff_toNat_lt.mp small
    simp only [isPressed, small, decide_true, Bool.true_and, Keys.down, keys,
      Vector.getElem?_ofFn, inside, dite_true, Option.getD_some]
  · have outside : ¬ number.toNat < 16 := fun inside => small (UInt8.lt_iff_toNat_lt.mpr inside)
    simp only [isPressed, small, decide_false, Bool.false_and, Keys.down, keys,
      Vector.getElem?_ofFn, outside, dite_false, Option.getD_none]

end Keypad

/-- The keypad answers for one key without a snapshot. -/
instance : KeySource Keypad where
  keys := Keypad.keys
  isPressed := Keypad.isPressed

/-- A source that is reached through a handle and only asked for snapshots. -/
structure Handle (K : Type) where
  target : K

/-- A handle shows what its target shows. -/
instance {K : Type} [KeySource K] : KeySource (Handle K) where
  keys := fun handle => KeySource.keys handle.target

end ChipEight
