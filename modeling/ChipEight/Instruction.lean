namespace ChipEight

/-!
Instructions of the CHIP-8 machine and how a word of the program encodes them.

Every instruction is one big-endian word.  Its top nibble names a family; inside a family the
low nibble, the low byte or the low twelve bits tell the members apart.  The operands are named
after the places they take in the word:

* `x`, the second nibble, a register;
* `y`, the third nibble, a register;
* `n`, the fourth nibble, a height;
* `nn`, the low byte, a constant;
* `nnn`, the low twelve bits, an address.

Decoding is total.  A word that encodes nothing decodes to `Instruction.undefined`, which keeps
the word so that it can still be shown.
-/

namespace Word

/-- The word whose high and low bytes are given, in the order they stand in memory. -/
def ofBytes (high low : UInt8) : UInt16 :=
  high.toUInt16 <<< 8 ||| low.toUInt16

def family (word : UInt16) : UInt8 :=
  (word >>> 12).toUInt8

def x (word : UInt16) : UInt8 :=
  ((word &&& 0x0F00) >>> 8).toUInt8

def y (word : UInt16) : UInt8 :=
  ((word &&& 0x00F0) >>> 4).toUInt8

def n (word : UInt16) : UInt8 :=
  (word &&& 0x000F).toUInt8

def nn (word : UInt16) : UInt8 :=
  (word &&& 0x00FF).toUInt8

def nnn (word : UInt16) : UInt16 :=
  word &&& 0x0FFF

end Word

/-- A decoded instruction with the operands it uses and no others. -/
inductive Instruction where
  /-- `0NNN`: a routine in the host's machine code, which does nothing here. -/
  | hostRoutine (nnn : UInt16)
  /-- `00E0`: switch every pixel off. -/
  | clearScreen
  /-- `00EE`: return from a subroutine. -/
  | leave
  /-- `1NNN`: go on at an address. -/
  | jump (nnn : UInt16)
  /-- `2NNN`: enter a subroutine. -/
  | call (nnn : UInt16)
  /-- `3XNN`: skip when a register holds a constant. -/
  | skipIfByte (x nn : UInt8)
  /-- `4XNN`: skip unless a register holds a constant. -/
  | skipUnlessByte (x nn : UInt8)
  /-- `5XY_`: skip when two registers agree; the low nibble is free. -/
  | skipIfSame (x y : UInt8)
  /-- `6XNN`: put a constant into a register. -/
  | loadByte (x nn : UInt8)
  /-- `7XNN`: add a constant to a register, with no flag. -/
  | addByte (x nn : UInt8)
  /-- `8XY0`: copy a register. -/
  | move (x y : UInt8)
  /-- `8XY1`: bitwise or. -/
  | or (x y : UInt8)
  /-- `8XY2`: bitwise and. -/
  | and (x y : UInt8)
  /-- `8XY3`: bitwise exclusive or. -/
  | xor (x y : UInt8)
  /-- `8XY4`: add two registers, with a carry flag. -/
  | add (x y : UInt8)
  /-- `8XY5`: subtract the second register from the first, with a sign flag. -/
  | sub (x y : UInt8)
  /-- `8XY6`: put the second register, shifted right, into the first. -/
  | shiftRight (x y : UInt8)
  /-- `8XY7`: subtract the first register from the second, with a borrow flag. -/
  | subFrom (x y : UInt8)
  /-- `8XYE`: put the second register, shifted left, into the first. -/
  | shiftLeft (x y : UInt8)
  /-- `9XY_`: skip when two registers differ; the low nibble is free. -/
  | skipUnlessSame (x y : UInt8)
  /-- `ANNN`: point the index register at an address. -/
  | loadIndex (nnn : UInt16)
  /-- `BNNN`: jump to an address plus V0. -/
  | jumpOffset (nnn : UInt16)
  /-- `CXNN`: put a random byte, masked by a constant, into a register. -/
  | random (x nn : UInt8)
  /-- `DXYN`: draw a sprite of `n` rows. -/
  | draw (x y n : UInt8)
  /-- `EX9E`: skip when the key in a register is down. -/
  | skipIfKey (x : UInt8)
  /-- `EXA1`: skip unless the key in a register is down. -/
  | skipUnlessKey (x : UInt8)
  /-- `FX07`: read the delay timer. -/
  | readDelay (x : UInt8)
  /-- `FX0A`: wait until a key was pressed and let go. -/
  | waitKey (x : UInt8)
  /-- `FX15`: set the delay timer. -/
  | setDelay (x : UInt8)
  /-- `FX18`: set the sound timer. -/
  | setSound (x : UInt8)
  /-- `FX1E`: move the index register on by a register. -/
  | addIndex (x : UInt8)
  /-- `FX29`: point the index register at the glyph of a digit. -/
  | loadGlyph (x : UInt8)
  /-- `FX33`: store the three decimal digits of a register. -/
  | storeDecimal (x : UInt8)
  /-- `FX55`: store V0 up to a register. -/
  | storeRegisters (x : UInt8)
  /-- `FX65`: load V0 up to a register. -/
  | loadRegisters (x : UInt8)
  /-- A word that encodes no instruction; it does nothing. -/
  | undefined (word : UInt16)
deriving DecidableEq, Repr

namespace Instruction

/-- The arithmetic instruction selected by the low nibble, if there is one. -/
def arithmetic? (x y n : UInt8) : Option Instruction :=
  match n with
  | 0x0 => some (.move x y)
  | 0x1 => some (.or x y)
  | 0x2 => some (.and x y)
  | 0x3 => some (.xor x y)
  | 0x4 => some (.add x y)
  | 0x5 => some (.sub x y)
  | 0x6 => some (.shiftRight x y)
  | 0x7 => some (.subFrom x y)
  | 0xE => some (.shiftLeft x y)
  | _ => none

/-- The keyboard instruction selected by the low byte, if there is one. -/
def keyboard? (x nn : UInt8) : Option Instruction :=
  match nn with
  | 0x9E => some (.skipIfKey x)
  | 0xA1 => some (.skipUnlessKey x)
  | _ => none

/-- The timer, index and memory instruction selected by the low byte, if there is one. -/
def transfer? (x nn : UInt8) : Option Instruction :=
  match nn with
  | 0x07 => some (.readDelay x)
  | 0x0A => some (.waitKey x)
  | 0x15 => some (.setDelay x)
  | 0x18 => some (.setSound x)
  | 0x1E => some (.addIndex x)
  | 0x29 => some (.loadGlyph x)
  | 0x33 => some (.storeDecimal x)
  | 0x55 => some (.storeRegisters x)
  | 0x65 => some (.loadRegisters x)
  | _ => none

/-- The instruction of the machine family, whose two members are told by the whole address. -/
def system (nnn : UInt16) : Instruction :=
  match nnn with
  | 0x0E0 => .clearScreen
  | 0x0EE => .leave
  | _ => .hostRoutine nnn

def decode (word : UInt16) : Instruction :=
  let x := Word.x word
  let y := Word.y word
  let nn := Word.nn word
  let nnn := Word.nnn word
  match Word.family word with
  | 0x0 => system nnn
  | 0x1 => .jump nnn
  | 0x2 => .call nnn
  | 0x3 => .skipIfByte x nn
  | 0x4 => .skipUnlessByte x nn
  | 0x5 => .skipIfSame x y
  | 0x6 => .loadByte x nn
  | 0x7 => .addByte x nn
  | 0x8 => (arithmetic? x y (Word.n word)).getD (.undefined word)
  | 0x9 => .skipUnlessSame x y
  | 0xA => .loadIndex nnn
  | 0xB => .jumpOffset nnn
  | 0xC => .random x nn
  | 0xD => .draw x y (Word.n word)
  | 0xE => (keyboard? x nn).getD (.undefined word)
  | _ => (transfer? x nn).getD (.undefined word)

end Instruction
end ChipEight
